import Mathlib.Algebra.Ring.Nat
import WalletWatch.Machine

/-!
# Runs of a machine

Runs can be joined (`Runs.trans`) and split (`Runs.split`), `replay?` computes runs, and `Runs.invariant` is
the induction over a run. `effects` recovers what `next?` forgets of a step. The last part is about machines
that consist of parts of one kind, of which a step changes one.
-/

namespace WalletWatch

namespace Machine

theorem Runs.trans {σ ε : Type} {step? : σ → ε → Option σ} {s t u : σ} {h₁ h₂ : List (Moment σ ε)}
    (first : Runs step? s h₁ t) (second : Runs step? t h₂ u) : Runs step? s (h₁ ++ h₂) u := by
  induction second with
  | nil => simpa using first
  | snoc e _ hs ih =>
      rw [← List.append_assoc]
      exact ih.snoc e hs

theorem Runs.cons {σ ε : Type} {step? : σ → ε → Option σ} {s t u : σ} {e : ε}
    {h : List (Moment σ ε)} (hs : step? s e = some t) (rest : Runs step? t h u) :
    Runs step? s (⟨s, e, t⟩ :: h) u :=
  (Runs.nil.snoc e hs).trans rest

theorem Runs.split {σ ε : Type} {step? : σ → ε → Option σ} {s u : σ} {h h₁ h₂ : List (Moment σ ε)}
    {m : Moment σ ε} (run : Runs step? s h u) (hh : h = h₁ ++ m :: h₂) :
    Runs step? s h₁ m.before ∧ step? m.before m.event = some m.after ∧
      Runs step? m.after h₂ u := by
  induction run generalizing h₂ with
  | nil => simp at hh
  | snoc e run hs ih =>
      rcases List.eq_nil_or_concat h₂ with rfl | ⟨h₂', last, rfl⟩
      · obtain ⟨rfl, hm⟩ := List.append_inj' hh rfl
        cases hm
        exact ⟨run, hs, .nil⟩
      · rw [List.concat_eq_append] at hh ⊢
        rw [← List.cons_append, ← List.append_assoc] at hh
        obtain ⟨hh', hm⟩ := List.append_inj' hh rfl
        cases hm
        obtain ⟨before, now, behind⟩ := ih hh'
        exact ⟨before, now, behind.snoc e hs⟩

theorem runs_of_replay? {σ ε : Type} {step? : σ → ε → Option σ} {s u : σ} {es : List ε}
    {h : List (Moment σ ε)} (hr : replay? step? s es = some (h, u)) : Runs step? s h u := by
  induction es generalizing s h with
  | nil =>
      cases hr
      exact .nil
  | cons e es ih =>
      simp only [replay?] at hr
      split at hr
      · cases hr
      · next s' hs =>
          obtain ⟨⟨h', u'⟩, hr', heq⟩ := Option.map_eq_some_iff.1 hr
          cases heq
          exact (ih hr').cons hs

theorem map_event_of_replay? {σ ε : Type} {step? : σ → ε → Option σ} {s u : σ} {es : List ε}
    {h : List (Moment σ ε)} (hr : replay? step? s es = some (h, u)) : h.map (·.event) = es := by
  induction es generalizing s h with
  | nil =>
      cases hr
      rfl
  | cons e es ih =>
      simp only [replay?] at hr
      split at hr
      · cases hr
      · obtain ⟨⟨h', u'⟩, hr', heq⟩ := Option.map_eq_some_iff.1 hr
        cases heq
        rw [List.map_cons, ih hr']

/-- A property that every possible event keeps holds after a run. -/
theorem Runs.invariant {σ ε : Type} {step? : σ → ε → Option σ} {s u : σ} {h : List (Moment σ ε)}
    (run : Runs step? s h u) (P : σ → Prop) (first : P s)
    (keeps : ∀ m ∈ h, step? m.before m.event = some m.after → P m.before → P m.after) : P u := by
  induction run with
  | nil => exact first
  | snoc e _ hs ih =>
      have before := ih fun m hm => keeps m (List.mem_append_left _ hm)
      exact keeps _ (List.mem_append_right _ (.head _)) hs before

/-! ### Effects -/

theorem next?_eq_some {σ ε ω : Type} {step? : σ → ε → Option (σ × List ω)} {s t : σ} {e : ε}
    {done : List ω} (h : step? s e = some (t, done)) : next? step? s e = some t := by
  rw [next?, h, Option.map_some]

theorem step?_of_next? {σ ε ω : Type} {step? : σ → ε → Option (σ × List ω)} {s t : σ} {e : ε}
    (h : next? step? s e = some t) : step? s e = some (t, effects step? ⟨s, e, t⟩) := by
  obtain ⟨⟨_, done⟩, hs, rfl⟩ := Option.map_eq_some_iff.1 h
  rw [effects, hs, Option.elim_some]

theorem effects_eq {σ ε ω : Type} {step? : σ → ε → Option (σ × List ω)} {s t u : σ} {e : ε}
    {done : List ω} (h : step? s e = some (t, done)) : effects step? ⟨s, e, u⟩ = done := by
  rw [effects, h, Option.elim_some]

theorem Runs.split_step? {σ ε ω : Type} {step? : σ → ε → Option (σ × List ω)} {s u : σ}
    {h h₁ h₂ : List (Moment σ ε)} {m : Moment σ ε} (run : Runs (next? step?) s h u)
    (hh : h = h₁ ++ m :: h₂) :
    Runs (next? step?) s h₁ m.before ∧ step? m.before m.event = some (m.after, effects step? m) ∧
      Runs (next? step?) m.after h₂ u := by
  obtain ⟨before, now, behind⟩ := run.split hh
  exact ⟨before, step?_of_next? now, behind⟩

/-! ### Machines within machines -/

/-- If every step is one of the part or leaves the part as it is, the `history` of a run is a run of the
part. -/
theorem Runs.history {σ τ ε ε' : Type} {step? : σ → ε → Option σ} {step'? : τ → ε' → Option τ}
    {part : σ → τ} {happens? : σ → ε → Option ε'} {s u : σ} {h : List (Moment σ ε)}
    (run : Runs step? s h u)
    (steps : ∀ v e v', step? v e = some v' → happens? v e = none ∧ part v' = part v ∨
      ∃ e', happens? v e = some e' ∧ step'? (part v) e' = some (part v')) :
    Runs step'? (part s) (Machine.history part happens? h) (part u) := by
  induction run with
  | nil => exact .nil
  | @snoc h v v' e _ hs ih =>
      rw [Machine.history, List.filterMap_append, ← Machine.history, List.filterMap_cons, List.filterMap_nil]
      rcases steps v e v' hs with ⟨none, same⟩ | ⟨e', some, now⟩
      · rw [none, same]
        simpa using ih
      · rw [some]
        exact ih.snoc e' now

theorem mem_history {σ τ ε ε' : Type} {part : σ → τ} {happens? : σ → ε → Option ε'}
    {h : List (Moment σ ε)} {m' : Moment τ ε'} :
    m' ∈ history part happens? h ↔ ∃ m ∈ h, ∃ e, happens? m.before m.event = some e ∧
      ⟨part m.before, e, part m.after⟩ = m' := by
  simp only [history, List.mem_filterMap, Option.map_eq_some_iff]

/-! ### Parts -/

theorem map_set_of_eq {α β : Type} (f : α → β) {parts : List α} {i : Nat} {x y : α}
    (hi : parts[i]? = some x) (same : f y = f x) : (parts.set i y).map f = parts.map f := by
  obtain ⟨inside, rfl⟩ := List.getElem?_eq_some_iff.1 hi
  rw [List.map_set, same, ← List.map_set, List.set_getElem_self]

/-- If every part of a machine has a number of steps left, a step of one part lowers their sum. -/
theorem sum_map_set_lt {α : Type} (steps : α → Nat) {parts : List α} {i : Nat} {x y : α}
    (hi : parts[i]? = some x) (fewer : steps y < steps x) :
    ((parts.set i y).map steps).sum < (parts.map steps).sum := by
  induction parts generalizing i with
  | nil => simp at hi
  | cons first rest ih =>
      cases i with
      | zero =>
          cases hi
          simpa using fewer
      | succ i =>
          have later := ih (i := i) hi
          simpa using later

end Machine

end WalletWatch
