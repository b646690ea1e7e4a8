import Mathlib.Data.List.Perm.Basic
import WalletWatch.Proofs.Tracker.Share
import WalletWatch.Tracker.Inbox

/-!
# Subscriptions as a replay of commands

In whatever order the handlers run, every command that was read is handled once, and the subscribers of an
address are the fold of the edits of this address. Commands about other addresses have no part in it.
-/

namespace WalletWatch

namespace Inbox

open Tracker (Edit Consistent)

inductive Step (s : Inbox) : Event → Inbox → Prop
  | read {text : String} {c : Command} : Command.decode text = .ok c →
      Step s (.payload text)
        { s with waiting := s.waiting ++ [c], effects := s.effects ++ [.log c.received] }
  | drop {text : String} {r : Refusal} : Command.decode text = .error r →
      Step s (.payload text) { s with effects := s.effects ++ [.log (Command.dropped text r)] }
  | handle {i : Nat} {c : Command} : s.waiting[i]? = some c →
      Step s (.handle i)
        ({ s with waiting := s.waiting.eraseIdx i }.apply (s.tracker.handle c))
  | tracker {e : Tracker.Event} {r : Tracker × List Effect} : s.tracker.step? e = some r →
      Step s (.tracker e) (s.apply r)

theorem step?_eq_some_iff {s s' : Inbox} {e : Event} : s.step? e = some s' ↔ Step s e s' := by
  constructor
  · intro h
    cases e with
    | payload text =>
        simp only [step?] at h
        split at h
        · next c readable =>
            cases h
            exact .read readable
        · next r unreadable =>
            cases h
            exact .drop unreadable
    | handle i =>
        simp only [step?] at h
        split at h
        · next c waits =>
            cases h
            exact .handle waits
        · cases h
    | tracker e =>
        obtain ⟨r, hr, rfl⟩ := Option.map_eq_some_iff.1 h
        exact .tracker hr
  · intro h
    cases h with
    | read readable => simp [step?, readable]
    | drop unreadable => simp [step?, unreadable]
    | handle waits => simp [step?, waits]
    | tracker hr => simp [step?, hr]

theorem Step.happens {s s' : Inbox} {e : Event} (step : Step s e s') :
    s.happens? e = none ∧ s'.tracker = s.tracker ∨
      ∃ e' effects, s.happens? e = some e' ∧ s.tracker.step? e' = some (s'.tracker, effects) := by
  cases step with
  | read | drop => exact .inl ⟨rfl, rfl⟩
  | @handle i c waits =>
      refine .inr ⟨.command c, (s.tracker.handle c).2, ?_, rfl⟩
      rw [happens?, waits]
      rfl
  | @tracker e r hr => exact .inr ⟨e, r.2, rfl, hr⟩

/-- The `history` of a run is a run of the tracker. -/
theorem Runs.tracker {s u : Inbox} {h : List Moment} (run : Runs s h u) :
    Tracker.Runs s.tracker (history h) u.tracker :=
  Machine.Runs.history run fun v e v' hs => by
    rcases (step?_eq_some_iff.1 hs).happens with none | ⟨e', effects, some, now⟩
    · exact .inl none
    · exact .inr ⟨e', some, Machine.next?_eq_some now⟩

theorem Runs.consistent {s u : Inbox} {h : List Moment} (run : Runs s h u) (fit : Consistent s.tracker) :
    Consistent u.tracker :=
  fit.runs (Runs.tracker run)

/-- What a moment does to the subscribers of `w`. -/
def edit? (w : Address) (m : Moment) : Option Edit :=
  (m.before.happens? m.event).bind (Tracker.Event.edit? w)

def edits (w : Address) (h : List Moment) : List Edit :=
  h.filterMap (edit? w)

def isFirst (w : Address) (m : Moment) : Bool :=
  (edit? w m).any Edit.isAdd && (m.before.tracker.subscribersOf w).isEmpty

theorem Step.subscribersOf {s s' : Inbox} {e : Event} (step : Step s e s') (fit : Consistent s.tracker)
    (w : Address) :
    s'.tracker.subscribersOf w =
      (edit? w ⟨s, e, s'⟩).elim (s.tracker.subscribersOf w) (Edit.apply (s.tracker.subscribersOf w)) := by
  rcases step.happens with ⟨none, same⟩ | ⟨e', effects, some, hs⟩
  · rw [edit?, none, same]
    rfl
  · rw [edit?, some, Tracker.step?_subscribersOf fit hs w]
    rfl

theorem Step.length_listeners {s s' : Inbox} {e : Event} (step : Step s e s') (fit : Consistent s.tracker)
    (w : Address) :
    (s'.tracker.share w).listeners.length =
      (s.tracker.share w).listeners.length + if isFirst w ⟨s, e, s'⟩ then 1 else 0 := by
  rcases step.happens with ⟨none, same⟩ | ⟨e', effects, some, hs⟩
  · rw [isFirst, edit?, none, same]
    rfl
  · rw [isFirst, edit?, some, Tracker.step?_length_listeners fit hs w]
    rfl

theorem Runs.subscribersOf_eq {s u : Inbox} {h : List Moment} (run : Runs s h u)
    (fit : Consistent s.tracker) (w : Address) :
    u.tracker.subscribersOf w = (edits w h).foldl Edit.apply (s.tracker.subscribersOf w) := by
  induction run with
  | nil => rfl
  | @snoc h v v' e run hs ih =>
      have step := step?_eq_some_iff.1 hs
      rw [step.subscribersOf (Runs.consistent run fit) w, edits, List.filterMap_append,
        List.foldl_append, ← edits, ← ih, List.filterMap_cons]
      cases edit? w ⟨v, e, v'⟩ <;> rfl

theorem Runs.length_listeners {s u : Inbox} {h : List Moment} (run : Runs s h u)
    (fit : Consistent s.tracker) (w : Address) :
    (u.tracker.share w).listeners.length =
      (s.tracker.share w).listeners.length + h.countP (isFirst w) := by
  induction run with
  | nil => rfl
  | snoc e run hs ih =>
      have step := step?_eq_some_iff.1 hs
      rw [step.length_listeners (Runs.consistent run fit) w, ih, List.countP_append,
        List.countP_singleton, Nat.add_assoc]

/-- Every command that was read was handled once or still waits. -/
theorem Runs.perm_arrived {s u : Inbox} {h : List Moment} (run : Runs s h u) :
    (handled h ++ u.waiting).Perm (s.waiting ++ arrived h) := by
  induction run with
  | nil => simp [handled, arrived]
  | @snoc h v v' e run hs ih =>
      have step := step?_eq_some_iff.1 hs
      simp only [handled, arrived, List.filterMap_append, List.filterMap_cons, List.filterMap_nil] at ih ⊢
      cases step with
      | @read text c readable =>
          simp only [readable, Except.toOption, List.append_nil, ← List.append_assoc]
          exact ih.append_right [c]
      | @drop text r unreadable =>
          simp only [unreadable, Except.toOption, List.append_nil]
          exact ih
      | @handle i c waits =>
          obtain ⟨inside, here⟩ := List.getElem?_eq_some_iff.1 waits
          have one := List.getElem_cons_eraseIdx_perm inside
          rw [here] at one
          simp only [waits, apply, List.append_nil, List.append_assoc, List.singleton_append]
          exact (one.append_left _).trans ih
      | @tracker e r hr =>
          simp only [apply, List.append_nil]
          exact ih

theorem isSome_step?_handle (s : Inbox) (i : Nat) :
    (s.step? (.handle i)).isSome ↔ i < s.waiting.length := by
  rw [step?]
  split
  · next c waits => simpa using (List.getElem?_eq_some_iff.1 waits).1
  · next none => simpa using none

/-- `Tracker.dispatch` is a payload whose handler runs at once. -/
theorem runs_dispatch (s : Inbox) (text : String) :
    ∃ h, Runs s h (s.apply (s.tracker.dispatch text)) := by
  unfold Tracker.dispatch
  split
  · next c readable =>
      have last : (s.waiting ++ [c])[s.waiting.length]? = some c := by simp
      refine ⟨_, (Machine.Runs.nil.snoc _ (step?_eq_some_iff.2 (.read readable))).snoc
        (.handle s.waiting.length) ((step?_eq_some_iff.2 (.handle last)).trans (congrArg some ?_))⟩
      simp [apply, List.eraseIdx_append_of_length_le]
  · next r unreadable =>
      exact ⟨_, Machine.Runs.nil.snoc _ (step?_eq_some_iff.2 (.drop unreadable))⟩

/-- A payload arrives that cannot be read, or a command of an unknown kind is handled. -/
inductive Moment.Idle : Moment → Prop
  | unreadable {s s' : Inbox} {text : String} {r : Refusal} : Command.decode text = .error r →
      Moment.Idle ⟨s, .payload text, s'⟩
  | unknown {s s' : Inbox} {i : Nat} {c : Command} {name : String} : s.waiting[i]? = some c →
      c.kind = .other name → Moment.Idle ⟨s, .handle i, s'⟩

theorem Step.tracker_of_idle {s s' : Inbox} {e : Event} (step : Step s e s')
    (idle : Moment.Idle ⟨s, e, s'⟩) : s'.tracker = s.tracker := by
  cases idle with
  | unreadable unreadable =>
      cases step with
      | read readable => exact absurd (unreadable.symm.trans readable) nofun
      | drop _ => rfl
  | unknown waits unknown =>
      cases step with
      | handle waits' =>
          obtain rfl := Option.some.inj (waits.symm.trans waits')
          simp only [apply, Tracker.handle, unknown]

def tally (user : UserId) (n : Nat) : Option Edit → Nat
  | some (.add user') => n + if user' = user then 1 else 0
  | some (.remove user') => n - if user' = user then 1 else 0
  | some .clear => 0
  | none => n

theorem Step.count {s s' : Inbox} {e : Event} (step : Step s e s') (fit : Consistent s.tracker)
    (w : Address) (user : UserId) :
    (s'.tracker.subscribersOf w).count user =
      tally user ((s.tracker.subscribersOf w).count user) (edit? w ⟨s, e, s'⟩) := by
  rw [step.subscribersOf fit w]
  cases edit? w ⟨s, e, s'⟩ with
  | none => rfl
  | some e =>
      cases e with
      | add user' => simp [tally, Edit.apply, List.count_append, List.count_singleton]
      | remove user' => simp [tally, Edit.apply, List.count_erase]
      | clear => rfl

/-- After any payloads, with their handlers in any order and any other events between them, every command
that was read was handled once or waits, and can be handled at once. Payloads that cannot be read and
unknown commands change nothing (`Moment.Idle`).

`subscribersOf` is the fold of the `edits` of the address alone. An address is watched exactly if it has
a subscriber, and every first subscriber started one listener. An addition counts a user up by one and a
removal down by one (`tally`), and commands about different addresses commute. -/
theorem subscribersOf_eq_foldl_edits {u : Inbox} {h : List Moment} {capacity : Nat}
    (run : Runs (start capacity) h u) :
    (handled h ++ u.waiting).Perm (arrived h) ∧
    (∀ i, (u.step? (.handle i)).isSome ↔ i < u.waiting.length) ∧
    (∀ m ∈ h, Moment.Idle m → m.after.tracker = m.before.tracker) ∧
    (∀ w, u.tracker.subscribersOf w = (edits w h).foldl Edit.apply [] ∧
      (u.tracker.isWatching w = true ↔ u.tracker.subscribersOf w ≠ []) ∧
      (u.tracker.share w).listeners.length = h.countP (isFirst w)) ∧
    (∀ m ∈ h, ∀ w user, (m.after.tracker.subscribersOf w).count user =
      tally user ((m.before.tracker.subscribersOf w).count user) (edit? w m)) ∧
    (∀ c c' : Command, c.address ≠ c'.address → ∀ w,
      ((u.tracker.handle c).1.handle c').1.share w =
        ((u.tracker.handle c').1.handle c).1.share w) := by
  have first : Consistent (start capacity).tracker := Tracker.consistent_start capacity
  have fit : Consistent u.tracker := Runs.consistent run first
  have moment {m : Moment} (hm : m ∈ h) :
      Consistent m.before.tracker ∧ Step m.before m.event m.after := by
    obtain ⟨h₁, h₂, rfl⟩ := List.append_of_mem hm
    obtain ⟨before, now, -⟩ := Machine.Runs.split run rfl
    exact ⟨Runs.consistent before first, step?_eq_some_iff.1 now⟩
  refine ⟨Runs.perm_arrived run, u.isSome_step?_handle, fun m hm => (moment hm).2.tracker_of_idle,
    fun w => ⟨Runs.subscribersOf_eq run first w, fit.isWatching_iff, ?_⟩,
    fun m hm w user => (moment hm).2.count (moment hm).1 w user,
    fun c c' apart w => Tracker.share_handle_comm fit apart w⟩
  have listeners := Runs.length_listeners run first w
  rw [listeners]
  exact Nat.zero_add _

/-- A removal is handled before the addition that arrived first, and removes no one. `stopAll` comes
between this addition and another one of the same user. -/
theorem subscribersOf_eq_foldl_edits_removal_first :
    ∃ h u w, Runs (start 4) h u ∧ u.waiting = [] ∧ (arrived h).length = 4 ∧
      u.tracker.subscribersOf w = [7] ∧ u.tracker.isWatching w = true ∧
      (u.tracker.share w).listeners.length = 2 := by
  let w : Address := .ofNat 170
  let command (kind : CommandKind) : Command := ⟨kind, w, 7, none⟩
  let text (kind : String) : String := "\x7b\"type\":\"" ++ kind ++
    "\",\"wallet_address\":\"0x00000000000000000000000000000000000000aa\",\"user_id\":7\x7d"
  have add : Command.decode (text "add_wallet") = .ok (command .add) := by decide +kernel
  have remove : Command.decode (text "remove_wallet") = .ok (command .remove) := by decide +kernel
  have pause : Command.decode (text "pause_wallet") = .ok (command (.other "pause_wallet")) := by
    decide +kernel
  have noise : Command.decode "subscribe" = .error .shape := by decide +kernel
  have begin : Runs (start 4) [] (start 4) := .nil
  have run := begin
    |>.snoc _ (step?_eq_some_iff.2 (.read add))
    |>.snoc _ (step?_eq_some_iff.2 (.drop noise))
    |>.snoc _ (step?_eq_some_iff.2 (.read remove))
    |>.snoc _ (step?_eq_some_iff.2 (.read pause))
    |>.snoc _ (step?_eq_some_iff.2 (.handle (i := 1) rfl))
    |>.snoc _ (step?_eq_some_iff.2 (.handle (i := 0) rfl))
    |>.snoc _ (step?_eq_some_iff.2 (.tracker (e := .stopAll) rfl))
    |>.snoc _ (step?_eq_some_iff.2 (.read add))
    |>.snoc _ (step?_eq_some_iff.2 (.handle (i := 1) rfl))
    |>.snoc _ (step?_eq_some_iff.2 (.handle (i := 0) rfl))
  obtain ⟨once, -, -, shares, -⟩ := subscribersOf_eq_foldl_edits run
  obtain ⟨subscribers, watching, listeners⟩ := shares w
  have one : _ = [(7 : UserId)] := subscribers.trans rfl
  exact ⟨_, _, w, run, rfl, once.length_eq.symm.trans rfl, one, watching.2 (by rw [one]; nofun),
    listeners.trans rfl⟩

end Inbox

end WalletWatch
