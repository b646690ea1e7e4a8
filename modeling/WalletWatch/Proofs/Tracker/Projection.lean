import WalletWatch.Proofs.Listener.Progress
import WalletWatch.Proofs.Tracker.Registration

/-!
# The trace of a listener in a run

`own i h` are the moments of the `i`-th listener in a run of its tracker. They are a trace, since operations
and the steps of other listeners leave it alone or cancel it. Conversely, what a listener can do alone is a
run of the tracker.
-/

namespace WalletWatch

namespace Tracker

def own (i : Nat) (h : List Moment) : List Listener.Moment :=
  h.flatMap fun m => match m.event, m.before.listeners[i]?, m.after.listeners[i]? with
    | .listener j e, some l, some l' =>
      if j = i then [⟨l, m.before.subscribersOf l.address, e, m.effects, l'⟩] else []
    | _, _, _ => []

theorem own_append (i : Nat) (h₁ h₂ : List Moment) : own i (h₁ ++ h₂) = own i h₁ ++ own i h₂ :=
  List.flatMap_append

theorem own_eq_nil_of_other {i : Nat} {m : Moment} (other : ∀ e, m.event ≠ .listener i e) :
    own i [m] = [] := by
  simp only [own, List.flatMap_cons, List.flatMap_nil, List.append_nil]
  split
  · next j e l l' he _ _ =>
      have hne : j ≠ i := by
        rintro rfl
        exact other e he
      rw [if_neg hne]
  · rfl

/-- An event is a step of the `i`-th listener, or leaves it, cancels it or starts it. -/
theorem step?_listener {t t' : Tracker} {e : Event} {effects : List Effect} (i : Nat)
    (h : t.step? e = some (t', effects)) :
    (∃ l e' l', t.listeners[i]? = some l ∧ t'.listeners[i]? = some l' ∧
      Listener.Step t.capacity (t.subscribersOf l.address) l e' l' effects ∧ e = .listener i e' ∧
      own i [⟨t, e, t'⟩] = [⟨l, t.subscribersOf l.address, e', effects, l'⟩]) ∨
    own i [⟨t, e, t'⟩] = [] ∧ (∀ e', e ≠ .listener i e') ∧
      (t'.listeners[i]? = t.listeners[i]? ∨
        t'.listeners[i]? = (t.listeners[i]?).map Listener.cancel ∨
        t.listeners[i]? = none ∧ ∃ a, t'.listeners[i]? = some (Listener.start a t.closed)) := by
  rcases step?_cases h with ⟨j, e', l, l', rfl, hl, step, rfl⟩ | ⟨other, change⟩
  · by_cases hij : j = i
    · subst hij
      have hl' : (t.listeners.set j l')[j]? = some l' :=
        List.getElem?_set_self (List.getElem?_eq_some_iff.1 hl).1
      exact .inl ⟨l, e', l', hl, hl', step, rfl, by simp [own, hl, hl', Machine.effects_eq h]⟩
    · have other : ∀ e, Event.listener j e' ≠ .listener i e := by
        rintro e he
        cases he
        exact hij rfl
      exact .inr ⟨own_eq_nil_of_other other, other, .inl (List.getElem?_set_ne hij)⟩
  · exact .inr ⟨own_eq_nil_of_other (other i), other i, change.listener i⟩

theorem own_eq_singleton {i : Nat} {m : Moment} {m' : Listener.Moment} (h : own i [m] = [m']) :
    m.event = .listener i m'.event ∧ m.before.listeners[i]? = some m'.before ∧
      m'.subscribers = m.before.subscribersOf m'.before.address ∧ m'.effects = m.effects := by
  simp only [own, List.flatMap_cons, List.flatMap_nil, List.append_nil] at h
  split at h
  · next j e l l' he hl _ =>
      split at h
      · next hij =>
          cases h
          exact ⟨hij ▸ he, hl, rfl, rfl⟩
      · cases h
  · cases h

theorem own_cons (i : Nat) (m : Moment) (h : List Moment) :
    own i (m :: h) = own i [m] ++ own i h :=
  own_append i [m] h

theorem own_singleton (i : Nat) (m : Moment) : own i [m] = [] ∨ ∃ m', own i [m] = [m'] := by
  simp only [own, List.flatMap_cons, List.flatMap_nil, List.append_nil]
  split
  · split
    · exact .inr ⟨_, rfl⟩
    · exact .inl rfl
  · exact .inl rfl

theorem own_split {i : Nat} {h : List Moment} {h₁ h₂ : List Listener.Moment} {m' : Listener.Moment}
    (hh : own i h = h₁ ++ m' :: h₂) :
    ∃ g₁ m g₂, h = g₁ ++ m :: g₂ ∧ own i g₁ = h₁ ∧ own i [m] = [m'] ∧ own i g₂ = h₂ := by
  induction h generalizing h₁ with
  | nil => simp [own] at hh
  | cons m h ih =>
      rw [own_cons] at hh
      rcases own_singleton i m with silent | ⟨first, hm⟩
      · rw [silent, List.nil_append] at hh
        obtain ⟨g₁, m₁, g₂, rfl, rfl, hm₁, rfl⟩ := ih hh
        exact ⟨m :: g₁, m₁, g₂, rfl, by rw [own_cons, silent, List.nil_append], hm₁, rfl⟩
      · rw [hm, List.singleton_append] at hh
        cases h₁ with
        | nil =>
            obtain ⟨rfl, rfl⟩ := List.cons.inj hh
            exact ⟨[], m, h, rfl, rfl, hm, rfl⟩
        | cons first' h₁ =>
            rw [List.cons_append] at hh
            obtain ⟨rfl, rest⟩ := List.cons.inj hh
            obtain ⟨g₁, m₁, g₂, rfl, rfl, hm₁, rfl⟩ := ih rest
            exact ⟨m :: g₁, m₁, g₂, rfl, by rw [own_cons, hm, List.singleton_append], hm₁, rfl⟩

theorem Change.capacity {t t' : Tracker} (h : Change t t') : t'.capacity = t.capacity := by
  cases h with
  | same | watch | relist | close => rfl
  | forget => simp
  | stopAll => rw [stopAll_eq]

theorem Runs.capacity {t u : Tracker} {h : List Moment} (run : Runs t h u) :
    u.capacity = t.capacity := by
  induction run with
  | nil => rfl
  | snoc e _ hs ih =>
      rcases step?_cases (Machine.step?_of_next? hs) with ⟨_, _, _, _, -, -, -, rfl⟩ | ⟨-, change⟩
      · exact ih
      · rw [change.capacity, ih]

theorem Runs.unborn {t u : Tracker} {h : List Moment} {i : Nat} (run : Runs t h u)
    (hn : u.listeners[i]? = none) : t.listeners[i]? = none ∧ own i h = [] := by
  induction run with
  | nil => exact ⟨hn, rfl⟩
  | snoc e _ hs ih =>
      rw [own_append]
      rcases step?_listener i (Machine.step?_of_next? hs) with
        ⟨_, _, _, _, hl', _⟩ | ⟨silent, -, same | cancelled | ⟨_, _, hl'⟩⟩
      · rw [hl'] at hn
        cases hn
      · obtain ⟨first, none⟩ := ih (same ▸ hn)
        exact ⟨first, by rw [none, silent, List.append_nil]⟩
      · rw [cancelled, Option.map_eq_none_iff] at hn
        obtain ⟨first, none⟩ := ih hn
        exact ⟨first, by rw [none, silent, List.append_nil]⟩
      · rw [hl'] at hn
        cases hn

theorem Runs.trace {t u : Tracker} {h : List Moment} {i : Nat} {l : Listener} (run : Runs t h u)
    (hl : u.listeners[i]? = some l) :
    ∃ l₀, (t.listeners[i]? = some l₀ ∨
        t.listeners[i]? = none ∧ ∃ a closed, l₀ = Listener.start a closed) ∧
      Listener.Trace t.capacity l₀ (own i h) l := by
  induction run generalizing l with
  | nil => exact ⟨l, .inl hl, .nil⟩
  | snoc e run hs ih =>
      rw [own_append]
      rcases step?_listener i (Machine.step?_of_next? hs) with
        ⟨l₁, e', l', hl₁, hl', step, -, hm⟩ | ⟨silent, -, same | cancelled | ⟨unborn, a, hl'⟩⟩
      · rw [hl', Option.some.injEq] at hl
        subst hl
        obtain ⟨l₀, first, trace⟩ := ih hl₁
        rw [hm]
        exact ⟨l₀, first, trace.snoc (Runs.capacity run ▸ step)⟩
      · rw [silent, List.append_nil]
        exact ih (same ▸ hl)
      · rw [cancelled, Option.map_eq_some_iff] at hl
        obtain ⟨l₁, hl₁, rfl⟩ := hl
        obtain ⟨l₀, first, trace⟩ := ih hl₁
        rw [silent, List.append_nil]
        exact ⟨l₀, first, trace.cancel⟩
      · rw [hl', Option.some.injEq] at hl
        subst hl
        obtain ⟨first, none⟩ := Runs.unborn run unborn
        rw [none, silent]
        exact ⟨_, .inr ⟨first, a, _, rfl⟩, .nil⟩

theorem Runs.trace_start {capacity : Nat} {h : List Moment} {t : Tracker} {i : Nat} {l : Listener}
    (run : Runs (start capacity) h t) (hl : t.listeners[i]? = some l) :
    ∃ a closed, Listener.Trace (max capacity 1) (Listener.start a closed) (own i h) l := by
  obtain ⟨l₀, hl₀ | ⟨-, a, closed, rfl⟩, trace⟩ := run.trace hl
  · cases hl₀
  · exact ⟨a, closed, trace⟩

/-- A listener that is not cancelled finds subscribers at every look. -/
theorem Runs.addressed {t u : Tracker} {h : List Moment} {i : Nat} {l : Listener} (run : Runs t h u)
    (fit : Consistent t) (hl : u.listeners[i]? = some l) (live : l.cancelled = false) :
    Listener.Addressed (own i h) := by
  induction run generalizing l with
  | nil => simp [Listener.Addressed, own]
  | snoc e run hs ih =>
      rw [own_append]
      rcases step?_listener i (Machine.step?_of_next? hs) with
        ⟨l₁, e', l', hl₁, hl', step, -, hm⟩ | ⟨silent, -, same | cancelled | ⟨unborn, a, hl'⟩⟩
      · rw [hl', Option.some.injEq] at hl
        subst hl
        rw [step.cancelled] at live
        intro m mem now _
        rw [hm] at mem
        rcases List.mem_append.1 mem with mem | mem
        · exact ih hl₁ live m mem now ‹_›
        · rw [List.mem_singleton.1 mem]
          exact (fit.runs run).subscribersOf_ne_nil hl₁ live
      · rw [silent, List.append_nil]
        exact ih (same ▸ hl) live
      · rw [cancelled, Option.map_eq_some_iff] at hl
        obtain ⟨l₁, -, rfl⟩ := hl
        cases live
      · rw [silent, (Runs.unborn run unborn).2]
        simp [Listener.Addressed]

theorem runs_of_trace {t : Tracker} {i : Nat} {l l' : Listener} {h : List Listener.Moment}
    (hl : t.listeners[i]? = some l) (trace : Listener.Trace t.capacity l h l')
    (live : l'.cancelled = false) (seen : ∀ m ∈ h, m.subscribers = t.subscribersOf l.address) :
    ∃ h', Runs t h' { t with listeners := t.listeners.set i l' } ∧ own i h' = h := by
  have inside : i < t.listeners.length := (List.getElem?_eq_some_iff.1 hl).1
  induction trace with
  | nil =>
      refine ⟨[], ?_, rfl⟩
      rw [← (List.getElem?_eq_some_iff.1 hl).2, List.set_getElem_self]
      exact .nil
  | cancel => cases live
  | @snoc h l₁ l₂ subscribers e effects trace step ih =>
      rw [step.cancelled] at live
      obtain ⟨h', run, hh⟩ := ih live fun m hm => seen m (List.mem_append_left _ hm)
      have sees : subscribers = t.subscribersOf l₁.address := by
        rw [trace.address]
        exact seen _ (List.mem_append_right _ (.head _))
      subst sees
      have hl₁ : (t.listeners.set i l₁)[i]? = some l₁ := List.getElem?_set_self inside
      have hs : step? { t with listeners := t.listeners.set i l₁ } (.listener i e) =
          some ({ t with listeners := t.listeners.set i l₂ }, effects) := by
        have taken := Listener.step?_eq_some_iff.2 step
        simp only [step?, hl₁]
        rw [subscribersOf] at taken ⊢
        simp only [taken, List.set_set]
      refine ⟨_, run.snoc _ (Machine.next?_eq_some hs), ?_⟩
      rw [own_append, hh]
      simp [own, hl₁, Machine.effects_eq hs, List.getElem?_set_self inside, subscribersOf]

/-- What a listener can reach by itself it can reach in a run of the tracker, with the same publications,
answers and scans. -/
theorem exists_runs_of_reaches {t : Tracker} {i : Nat} {l l' : Listener} {published : List Activity}
    {replies : List (Except ChannelError Unit)}
    {scanned : List (Header × Except Failure (List Activity))} (hl : t.listeners[i]? = some l)
    (reaches : Listener.Reaches t.capacity (t.subscribersOf l.address) l published replies scanned l')
    (live : l'.cancelled = false) :
    ∃ h u, Runs t h u ∧ u.listeners[i]? = some l' ∧
      (Listener.attempts (own i h)).map Notification.activity = published ∧
      Listener.answers (own i h) = replies ∧ Listener.scans (own i h) = scanned := by
  obtain ⟨h, trace, seen, hp, hr, hs⟩ := reaches
  obtain ⟨h', run, rfl⟩ := runs_of_trace hl trace live seen
  have inside : i < t.listeners.length := (List.getElem?_eq_some_iff.1 hl).1
  exact ⟨h', _, run, List.getElem?_set_self inside, hp, hr, hs⟩

end Tracker

end WalletWatch
