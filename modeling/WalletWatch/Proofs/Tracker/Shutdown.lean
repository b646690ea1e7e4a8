import WalletWatch.Proofs.Tracker.Inbox
import WalletWatch.Proofs.Tracker.Publication

/-!
# Shutdown

`close` closes the tracker: from then on every listener is cancelled, also those that are started later.
`stopAll` forgets all addresses. A closed tracker still takes additions, so a handler that runs late adds
its address again, with a registered listener that was cancelled before it began. Only while the tracker is
open it is `Live`.
-/

namespace WalletWatch

namespace Tracker

def Event.closes : Event → Bool
  | .close => true
  | _ => false

theorem closed_add (t : Tracker) (a : Address) (user : UserId) : (t.add a user).1.closed = t.closed :=
  closed_handle t ⟨.add, a, user, none⟩

theorem closed_remove (t : Tracker) (a : Address) (user : UserId) :
    (t.remove a user).1.closed = t.closed :=
  closed_handle t ⟨.remove, a, user, none⟩

theorem step?_closed {t t' : Tracker} {e : Event} {effects : List Effect}
    (h : t.step? e = some (t', effects)) : t'.closed = (t.closed || e.closes) := by
  cases e with
  | add a user =>
      obtain rfl : (t.add a user).1 = t' := congrArg Prod.fst (Option.some.inj h)
      exact (closed_add t a user).trans (Bool.or_false _).symm
  | remove a user =>
      obtain rfl : (t.remove a user).1 = t' := congrArg Prod.fst (Option.some.inj h)
      exact (closed_remove t a user).trans (Bool.or_false _).symm
  | command c =>
      obtain rfl : (t.handle c).1 = t' := congrArg Prod.fst (Option.some.inj h)
      exact (closed_handle t c).trans (Bool.or_false _).symm
  | stopAll =>
      obtain rfl : t.stopAll.1 = t' := congrArg Prod.fst (Option.some.inj h)
      rw [stopAll_eq]
      exact (Bool.or_false _).symm
  | close =>
      cases h
      exact (Bool.or_true _).symm
  | listener i e =>
      rcases step?_cases h with ⟨i', e', l, l', -, -, -, rfl⟩ | ⟨other, -⟩
      · exact (Bool.or_false _).symm
      · exact absurd rfl (other i e)

/-- The tracker is open, and no registered listener is cancelled. -/
structure Live (t : Tracker) : Prop where
  opened : t.closed = false
  registered : ∀ a i l, t.registered.get? a = some i → t.listeners[i]? = some l → l.cancelled = false

theorem live_start (capacity : Nat) : Live (start capacity) where
  opened := rfl
  registered _ _ _ h := by simp [start] at h

/-- Without a `close`, only listeners that are no longer registered are cancelled. -/
theorem Live.step {t t' : Tracker} {e : Event} {effects : List Effect} (live : Live t) (fit : Consistent t)
    (h : t.step? e = some (t', effects)) (other : e.closes = false) : Live t' := by
  have opened : t'.closed = false := by rw [step?_closed h, live.opened, other]; rfl
  refine ⟨opened, fun b j m hb hm => ?_⟩
  rcases step?_cases h with ⟨i, e', l, l', -, hl, step, rfl⟩ | ⟨-, change⟩
  · by_cases hij : i = j
    · subst hij
      rw [List.getElem?_set_self (List.getElem?_eq_some_iff.1 hl).1] at hm
      cases hm
      exact step.cancelled.trans (live.registered b i l hb hl)
    · exact live.registered b j m hb ((List.getElem?_set_ne hij).symm.trans hm)
  · cases change with
    | same => exact live.registered b j m hb hm
    | @watch a user none =>
        rw [AddressMap.get?_insert] at hb
        split at hb
        · cases hb
          rw [List.getElem?_concat_length] at hm
          cases hm
          exact live.opened
        · obtain ⟨l, hl, -⟩ := fit.place b j hb
          rw [List.getElem?_append_left (List.getElem?_eq_some_iff.1 hl).1] at hm
          exact live.registered b j m hb hm
    | relist => exact live.registered b j m hb hm
    | @forget a =>
        rw [forget_registered, AddressMap.get?_erase] at hb
        split at hb
        · cases hb
        · next apart =>
            obtain ⟨l, hl, hlb⟩ := fit.place b j hb
            -- The listener that is cancelled is the one of `a`, and the `j`-th one is of `b`.
            have elsewhere : t.registered.get? a ≠ some j := by
              intro ha
              obtain ⟨l', hl', hla⟩ := fit.place a j ha
              rw [hl, Option.some.injEq] at hl'
              exact apart (hlb.symm.trans ((congrArg Listener.address hl').trans hla))
            rw [getElem?_forget, hl] at hm
            simp only [if_neg elsewhere, Option.map_some, Option.some.injEq] at hm
            exact hm ▸ live.registered b j l hb hl
    | stopAll =>
        rw [stopAll_eq] at hb
        cases hb
    | close => cases opened

theorem Runs.live {capacity : Nat} {t : Tracker} {h : List Moment} (run : Runs (start capacity) h t)
    (opened : ∀ m ∈ h, m.event.closes = false) : Live t := by
  have both := Machine.Runs.invariant run (fun t => Consistent t ∧ Live t)
    ⟨consistent_start capacity, live_start capacity⟩ fun m hm hs before =>
      ⟨before.1.step (Machine.step?_of_next? hs),
        before.2.step before.1 (Machine.step?_of_next? hs) (opened m hm)⟩
  exact both.2

end Tracker

namespace Listener

/-- A property of listeners that are started cancelled, which every event keeps. -/
structure Lasting (P : Listener → Prop) : Prop where
  born : ∀ a, P (start a true)
  cancel : ∀ l, P l → P l.cancel
  step : ∀ {capacity subscribers l e l' effects}, Step capacity subscribers l e l' effects → P l → P l'

theorem lasting_cancelled : Lasting fun l => l.cancelled = true where
  born _ := rfl
  cancel _ _ := rfl
  step step cancelled := step.cancelled.trans cancelled

theorem lasting_barred : Lasting Barred where
  born _ := ⟨rfl, fun _ _ _ => nofun⟩
  cancel _ barred := ⟨rfl, barred.2⟩
  step step barred := (step.barred barred).2

end Listener

namespace Tracker

/-- The tracker is closed, and the `i`-th listener has the property `P` if it was started. -/
structure Shut (P : Listener → Prop) (i : Nat) (t : Tracker) : Prop where
  closed : t.closed = true
  holds : ∀ l, t.listeners[i]? = some l → P l

theorem shut_close {t : Tracker} (P : Listener → Prop) (i : Nat)
    (holds : ∀ l, t.listeners[i]? = some l → P l.cancel) : Shut P i t.close where
  closed := rfl
  holds l hl := by
    rw [getElem?_close, Option.map_eq_some_iff] at hl
    obtain ⟨l', hl', rfl⟩ := hl
    exact holds l' hl'

/-- A closed tracker starts its listeners cancelled. -/
theorem Shut.step {t t' : Tracker} {e : Event} {effects : List Effect} {P : Listener → Prop} {i : Nat}
    (shut : Shut P i t) (lasting : Listener.Lasting P) (h : t.step? e = some (t', effects)) :
    Shut P i t' := by
  refine ⟨by rw [step?_closed h, shut.closed, Bool.true_or], fun m hm => ?_⟩
  rcases step?_listener i h with
    ⟨l, _, l', hl, hl', step, -, -⟩ | ⟨-, -, same | cancelled | ⟨-, a, born⟩⟩
  · rw [hl', Option.some.injEq] at hm
    exact hm ▸ lasting.step step (shut.holds l hl)
  · exact shut.holds m (same ▸ hm)
  · rw [cancelled, Option.map_eq_some_iff] at hm
    obtain ⟨l, hl, rfl⟩ := hm
    exact lasting.cancel l (shut.holds l hl)
  · rw [born, shut.closed, Option.some.injEq] at hm
    exact hm ▸ lasting.born a

theorem Runs.shut {t u : Tracker} {h : List Moment} {P : Listener → Prop} {i : Nat} (run : Runs t h u)
    (lasting : Listener.Lasting P) (shut : Shut P i t) : Shut P i u :=
  Machine.Runs.invariant run (Shut P i) shut fun _ _ hs before =>
    before.step lasting (Machine.step?_of_next? hs)

theorem Shut.silent {t t' : Tracker} {e : Event} {effects : List Effect} {i : Nat}
    (shut : Shut Listener.Barred i t) (h : t.step? e = some (t', effects)) : e ≠ .listener i .publish := by
  rintro rfl
  rcases step?_listener i h with ⟨l, e', l', hl, -, step, same, -⟩ | ⟨-, other, -⟩
  · cases same
    exact (step.barred (shut.holds l hl)).1 rfl
  · exact other .publish rfl

theorem watched_eq_nil {t : Tracker} (none : ∀ w, t.isWatching w = false) :
    t.watched = [] ∧ t.listenerCount = 0 := by
  have empty : t.registered.entries = [] := by
    refine List.eq_nil_iff_forall_not_mem.2 fun p hp => ?_
    have absent := none p.1
    rw [isWatching, AddressMap.contains, AddressMap.mem_entries_iff.1 hp] at absent
    cases absent
  rw [watched, listenerCount, AddressMap.keys, AddressMap.size, empty]
  exact ⟨List.mergeSort_nil, rfl⟩

end Tracker

namespace Inbox

open Tracker (Consistent Edit Live Shut)

theorem closes_eq_false {m : Moment} {e : Tracker.Event} (other : m.event ≠ .tracker .close)
    (happens : m.before.happens? m.event = some e) : e.closes = false := by
  obtain ⟨before, event, after⟩ := m
  cases event with
  | payload text => cases happens
  | handle i =>
      obtain ⟨c, -, rfl⟩ := Option.map_eq_some_iff.1 happens
      rfl
  | tracker e' =>
      cases happens
      cases e with
      | close => exact absurd rfl other
      | _ => rfl

theorem Runs.live {u : Inbox} {h : List Moment} {capacity : Nat} (run : Runs (start capacity) h u)
    (opened : ∀ m ∈ h, m.event ≠ .tracker .close) : Live u.tracker := by
  have watched : Tracker.Runs (.start capacity) (history h) u.tracker := Runs.tracker run
  refine watched.live fun m' hm' => ?_
  obtain ⟨m, hm, e, happens, rfl⟩ := Machine.mem_history.1 hm'
  exact closes_eq_false (opened m hm) happens

theorem step?_tracker {m : Moment} {e : Tracker.Event} (now : m.before.step? m.event = some m.after)
    (he : m.event = .tracker e) :
    ∃ effects, m.before.tracker.step? e = some (m.after.tracker, effects) := by
  rw [he] at now
  obtain ⟨r, hr, same⟩ := Option.map_eq_some_iff.1 now
  exact ⟨r.2, by rw [hr, ← same]; rfl⟩

theorem tracker_of_close {m : Moment} (now : m.before.step? m.event = some m.after)
    (closes : m.event = .tracker .close) : m.after.tracker = m.before.tracker.close := by
  obtain ⟨effects, closed⟩ := step?_tracker now closes
  exact (congrArg Prod.fst (Option.some.inj closed)).symm

theorem cancelled_of_close {u : Inbox} {m : Moment} {h : List Moment}
    (now : m.before.step? m.event = some m.after) (closes : m.event = .tracker .close)
    (later : Runs m.after h u) :
    ∀ l ∈ u.tracker.listeners, l.cancelled = true := by
  intro l hl
  obtain ⟨i, hi⟩ := List.getElem?_of_mem hl
  have shut : Shut (fun l => l.cancelled = true) i m.after.tracker :=
    tracker_of_close now closes ▸ Tracker.shut_close _ i fun _ _ => rfl
  exact ((Runs.tracker later).shut Listener.lasting_cancelled shut).holds l hi

theorem silent_of_close {u : Inbox} {m : Moment} {h : List Moment} {i : Nat}
    (now : m.before.step? m.event = some m.after) (closes : m.event = .tracker .close)
    (later : Runs m.after h u)
    (unpassed : ∀ l, m.before.tracker.listeners[i]? = some l →
      ∀ scan n queue, l.phase ≠ .running scan (.cleared n) queue) :
    ∀ m' ∈ h, m'.event ≠ .tracker (.listener i .publish) := by
  have shut : Shut Listener.Barred i m.after.tracker :=
    tracker_of_close now closes ▸ Tracker.shut_close _ i fun l hl => ⟨rfl, unpassed l hl⟩
  intro m' hm' publishes
  obtain ⟨h₁, h₂, rfl⟩ := List.append_of_mem hm'
  obtain ⟨between, then', -⟩ := Machine.Runs.split later rfl
  obtain ⟨effects', publishing⟩ := step?_tracker then' publishes
  exact ((Runs.tracker between).shut Listener.lasting_barred shut).silent publishing rfl

theorem subscribersOf_of_stopAll {u : Inbox} {m : Moment} {h : List Moment}
    (now : m.before.step? m.event = some m.after) (stops : m.event = .tracker .stopAll)
    (fit : Consistent m.after.tracker) (later : Runs m.after h u) (w : Address) :
    u.tracker.subscribersOf w = (edits w h).foldl Edit.apply [] := by
  obtain ⟨effects, stopped⟩ := step?_tracker now stops
  have after : m.after.tracker = m.before.tracker.stopAll.1 :=
    (congrArg Prod.fst (Option.some.inj stopped)).symm
  rw [Runs.subscribersOf_eq later fit w, after, Tracker.stopAll_eq]
  rfl

theorem foldl_apply_nil {es : List Edit} (none : ∀ e ∈ es, e.isAdd = false) :
    es.foldl Edit.apply [] = [] := by
  induction es with
  | nil => rfl
  | cons e es ih =>
      obtain ⟨first, others⟩ := List.forall_mem_cons.1 none
      cases e with
      | add user => cases first
      | remove | clear => exact ih others

/-- Before `close`, every watched address has a registered listener that is not cancelled.

After `close` every listener is cancelled, also those that are started later, and none publishes that had
not passed its last look for a cancellation. After `stopAll` the subscribers of an address are the fold
of the later `edits`, so without a later addition nothing is watched. -/
theorem isWatching_after_close_stopAll {u : Inbox} {h : List Moment} {capacity : Nat}
    (run : Runs (start capacity) h u) :
    ((∀ m ∈ h, m.event ≠ .tracker .close) → ∀ w, u.tracker.isWatching w = true →
      ∃ i l, u.tracker.registered.get? w = some i ∧ u.tracker.listeners[i]? = some l ∧
        l.address = w ∧ l.cancelled = false) ∧
    ∀ h₁ m h₂, h = h₁ ++ m :: h₂ → m.event = .tracker .close →
      (∀ l ∈ u.tracker.listeners, l.cancelled = true) ∧
      (∀ i, (∀ l, m.before.tracker.listeners[i]? = some l →
          ∀ scan n queue, l.phase ≠ .running scan (.cleared n) queue) →
        ∀ m' ∈ h₂, m'.event ≠ .tracker (.listener i .publish)) ∧
      ∀ h₃ m' h₄, h₂ = h₃ ++ m' :: h₄ → m'.event = .tracker .stopAll →
        (∀ w, u.tracker.subscribersOf w = (edits w h₄).foldl Edit.apply [] ∧
          (u.tracker.isWatching w = true ↔ u.tracker.subscribersOf w ≠ [])) ∧
        ((∀ w, ∀ e ∈ edits w h₄, e.isAdd = false) →
          u.tracker.watched = [] ∧ u.tracker.listenerCount = 0 ∧
            ∀ w, u.tracker.subscribersOf w = [] ∧ u.tracker.isWatching w = false) := by
  have first : Consistent (start capacity).tracker := Tracker.consistent_start capacity
  have fit : Consistent u.tracker := Runs.consistent run first
  refine ⟨fun opened w watching => ?_, fun h₁ m h₂ hh closes => ?_⟩
  · obtain ⟨i, hi⟩ := Option.isSome_iff_exists.1 watching
    obtain ⟨l, hl, address⟩ := fit.place w i hi
    exact ⟨i, l, hi, hl, address, (Runs.live run opened).registered w i l hi hl⟩
  obtain ⟨before, now, later⟩ := Machine.Runs.split run hh
  refine ⟨cancelled_of_close now closes later, fun i => silent_of_close now closes later,
    fun h₃ m' h₄ hh₂ stops => ?_⟩
  obtain ⟨between, now', later'⟩ := Machine.Runs.split later hh₂
  have fit' : Consistent m'.after.tracker :=
    Runs.consistent ((before.snoc _ now).trans (between.snoc _ now')) first
  have subscribers := subscribersOf_of_stopAll now' stops fit' later'
  refine ⟨fun w => ⟨subscribers w, fit.isWatching_iff⟩, fun none => ?_⟩
  have unsubscribed (w : Address) : u.tracker.subscribersOf w = [] :=
    (subscribers w).trans (foldl_apply_nil (none w))
  have unwatched (w : Address) : u.tracker.isWatching w = false :=
    Bool.eq_false_iff.2 fun watching => fit.isWatching_iff.1 watching (unsubscribed w)
  obtain ⟨watched, count⟩ := Tracker.watched_eq_nil unwatched
  exact ⟨watched, count, fun w => ⟨unsubscribed w, unwatched w⟩⟩

def addition : String :=
  "\x7b\"type\":\"add_wallet\",\"wallet_address\":\"0x00000000000000000000000000000000000000aa\",\"user_id\":7\x7d"

theorem decode_addition : Command.decode addition = .ok ⟨.add, .ofNat 170, 7, none⟩ := by
  decide +kernel

/-- One addition is handled before the shutdown and another one after it. Its listener is registered and
not cancelled before, nothing is watched in between, and in the end the address is watched by a cancelled
listener. -/
theorem isWatching_after_close_stopAll_two_additions :
    ∃ h₁ h₂ h₃ w s t u, Runs (start 4) h₁ s ∧ Runs (start 4) (h₁ ++ h₂) t ∧
      Runs (start 4) (h₁ ++ h₂ ++ h₃) u ∧
      (∃ l, s.tracker.listeners[0]? = some l ∧ l.cancelled = false) ∧
      t.tracker.watched = [] ∧ t.tracker.listenerCount = 0 ∧ t.waiting.length = 1 ∧
      u.tracker.subscribersOf w = [7] ∧ u.tracker.isWatching w = true ∧
      ∀ l ∈ u.tracker.listeners, l.cancelled = true := by
  let w : Address := .ofNat 170
  have begin : Runs (start 4) [] (start 4) := .nil
  have run₁ := begin
    |>.snoc _ (step?_eq_some_iff.2 (.read decode_addition))
    |>.snoc _ (step?_eq_some_iff.2 (.handle (i := 0) rfl))
    |>.snoc _ (step?_eq_some_iff.2 (.read decode_addition))
  have run₂ := run₁
    |>.snoc _ (step?_eq_some_iff.2 (.tracker (e := .close) rfl))
    |>.snoc _ (step?_eq_some_iff.2 (.tracker (e := .stopAll) rfl))
  have run₃ := run₂.snoc _ (step?_eq_some_iff.2 (.handle (i := 0) rfl))
  change Runs _ ([_, _, _] ++ [_, _]) _ at run₂
  change Runs _ ([_, _, _] ++ [_, _] ++ [_]) _ at run₃
  have opened := (isWatching_after_close_stopAll run₁).1 (by simp) w rfl
  have quiet := ((isWatching_after_close_stopAll run₂).2 [_, _, _] _ [_] rfl rfl).2.2 [] _ [] rfl rfl
  have late := (isWatching_after_close_stopAll run₃).2 [_, _, _] _ [_, _] rfl rfl
  obtain ⟨watched, count, -⟩ := quiet.2 fun _ _ => nofun
  obtain ⟨subscribers, watching⟩ := (late.2.2 [] _ [_] rfl rfl).1 w
  have one : _ = [(7 : UserId)] := subscribers.trans rfl
  obtain ⟨i, l, hi, hl, -, live⟩ := opened
  cases hi
  exact ⟨_, _, _, w, _, _, _, run₁, run₂, run₃, ⟨l, hl, live⟩, watched, count, rfl, one,
    watching.2 (by rw [one]; nofun), late.1⟩

/-- An addition arrives, the tracker is shut down, and only then the addition is handled. The address is
watched, and its listener is counted and logged as started, but was cancelled before it began. -/
theorem exists_isWatching_after_stopAll :
    ∃ h u w l, Runs (start 4) h u ∧
      (∃ m₁ m₂ m₃ m₄, h = [m₁, m₂, m₃, m₄] ∧ m₁.event = .payload addition ∧
        m₂.event = .tracker .close ∧ m₃.event = .tracker .stopAll ∧ m₄.event = .handle 0) ∧
      u.tracker.isWatching w = true ∧ u.tracker.subscribersOf w = [7] ∧ u.tracker.listenerCount = 1 ∧
      u.tracker.registered.get? w = some 0 ∧ u.tracker.listeners[0]? = some l ∧ l.cancelled = true ∧
      .log ((Tracker.context "add_wallet" w 7).info "Started listener for wallet") ∈ u.effects := by
  let w : Address := .ofNat 170
  have begin : Runs (start 4) [] (start 4) := .nil
  have run := begin
    |>.snoc _ (step?_eq_some_iff.2 (.read decode_addition))
    |>.snoc _ (step?_eq_some_iff.2 (.tracker (e := .close) rfl))
    |>.snoc _ (step?_eq_some_iff.2 (.tracker (e := .stopAll) rfl))
    |>.snoc _ (step?_eq_some_iff.2 (.handle (i := 0) rfl))
  exact ⟨_, _, w, _, run, ⟨_, _, _, _, rfl, rfl, rfl, rfl, rfl⟩, rfl, rfl, rfl, rfl, rfl, rfl,
    .tail _ (.tail _ (.head _))⟩

end Inbox

end WalletWatch
