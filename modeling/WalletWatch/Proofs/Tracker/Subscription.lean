import WalletWatch.Proofs.Listener.Subscription
import WalletWatch.Proofs.Machine
import WalletWatch.Proofs.Tracker.Projection

/-!
# The balance of header subscriptions

In every state there are as many open header subscriptions as listeners whose scanning half reads. In a
`Quiet` state, where no listener has a step of its own, these are the listeners that were granted a
subscription, are not cancelled and whose headers did not break off, with one subscription each. From every
state a quiet one is reached without any answer from outside.
-/

namespace WalletWatch

namespace Tracker

def Event.grants : Event → Bool
  | .listener _ e => e.grants
  | _ => false

def Event.own : Event → Bool
  | .listener _ e => e.own
  | _ => false

def granted (h : List Moment) : Nat :=
  h.countP fun m => m.event.grants

def released (h : List Moment) : Nat :=
  (h.flatMap (·.effects)).countP Effect.isUnsubscribe

/-- No listener can take a step of its own. -/
def Quiet (t : Tracker) : Prop :=
  ∀ e, e.own = true → t.step? e = none

theorem released_of_operation {t t' : Tracker} {e : Event} {effects : List Effect}
    (hs : t.step? e = some (t', effects)) (other : ∀ i e', e ≠ .listener i e') :
    effects.countP Effect.isUnsubscribe = 0 := by
  have add : ∀ a user, (t.add a user).2.countP Effect.isUnsubscribe = 0 := by
    intro a user
    simp only [Tracker.add]
    split <;> rfl
  have remove : ∀ a user, (t.remove a user).2.countP Effect.isUnsubscribe = 0 := by
    intro a user
    simp only [Tracker.remove]
    repeat' split
    all_goals rfl
  cases e with
  | add a user =>
      obtain rfl : (t.add a user).2 = effects := congrArg Prod.snd (Option.some.inj hs)
      exact add a user
  | remove a user =>
      obtain rfl : (t.remove a user).2 = effects := congrArg Prod.snd (Option.some.inj hs)
      exact remove a user
  | command c =>
      obtain rfl : (t.handle c).2 = effects := congrArg Prod.snd (Option.some.inj hs)
      unfold handle
      split
      · exact add c.address c.user
      · exact remove c.address c.user
      · rfl
  | stopAll | close =>
      cases hs
      rfl
  | listener i e => exact absurd rfl (other i e)

theorem countP_eq_zero_of_getElem? {α : Type} {p : α → Bool} {xs : List α}
    (none : ∀ j : Nat, (xs[j]?).any p = false) : xs.countP p = 0 := by
  refine List.countP_eq_zero.2 fun x hx counted => ?_
  obtain ⟨j, inside, rfl⟩ := List.getElem_of_mem hx
  have absent := none j
  rw [List.getElem?_eq_getElem inside, Option.any_some, counted] at absent
  cases absent

theorem countP_eq_of_getElem? {α : Type} {p : α → Bool} {xs ys : List α}
    (agree : ∀ j : Nat, (xs[j]?).any p = (ys[j]?).any p) : xs.countP p = ys.countP p := by
  induction xs generalizing ys with
  | nil => exact (countP_eq_zero_of_getElem? fun j => (agree j).symm).symm
  | cons x xs ih =>
      cases ys with
      | nil => exact countP_eq_zero_of_getElem? agree
      | cons y ys =>
          have first : p x = p y := agree 0
          have others := ih fun j => agree (j + 1)
          rw [List.countP_cons, List.countP_cons, first, others]

theorem countP_middle {α : Type} (p : α → Bool) (front : List α) (x : α) (back : List α) :
    (front ++ x :: back).countP p = front.countP p + ((p x).toNat + back.countP p) := by
  cases hx : p x <;> simp [hx, Nat.add_comm]

theorem countP_set_add {α : Type} {p : α → Bool} {xs : List α} {i : Nat} {x : α} (hx : xs[i]? = some x)
    (y : α) : (xs.set i y).countP p + (p x).toNat = xs.countP p + (p y).toNat := by
  obtain ⟨inside, rfl⟩ := List.getElem?_eq_some_iff.1 hx
  obtain ⟨front, back, listed, -, updated⟩ := @List.exists_of_set _ i y xs inside
  have before := (congrArg (List.countP p) listed).trans (countP_middle ..)
  have after := (congrArg (List.countP p) updated).trans (countP_middle ..)
  omega

/-- A cancelled listener holds its subscription until it looks for the cancellation, and a new one holds
none. -/
theorem Change.countP_subscribed {t t' : Tracker} (change : Change t t') :
    t'.listeners.countP Listener.subscribed = t.listeners.countP Listener.subscribed := by
  refine countP_eq_of_getElem? fun j => ?_
  rcases change.listener j with same | cancelled | ⟨unborn, a, fresh⟩
  · rw [same]
  · rw [cancelled]
    cases t.listeners[j]? <;> rfl
  · rw [unborn, fresh]
    rfl

/-- Every granted subscription is released or held by a listener. -/
theorem Runs.granted_eq {t : Tracker} {h : List Moment} {capacity : Nat} (run : Runs (start capacity) h t) :
    granted h = released h + t.listeners.countP Listener.subscribed := by
  induction run with
  | nil => rfl
  | @snoc h u u' e run hs ih =>
      have hs := Machine.step?_of_next? hs
      have more : granted (h ++ [⟨u, e, u'⟩]) = granted h + e.grants.toNat := by
        cases grants : e.grants <;> simp [granted, grants]
      have less : released (h ++ [⟨u, e, u'⟩]) = released h +
          (Machine.effects step? ⟨u, e, u'⟩).countP Effect.isUnsubscribe := by simp [released]
      rw [more, less, ih]
      rcases step?_cases hs with ⟨i, e', l, l', rfl, hl, step, rfl⟩ | ⟨other, change⟩
      · have account := step.subscribed_add_grants
        have counted := countP_set_add (p := Listener.subscribed) hl l'
        dsimp only [Event.grants]
        omega
      · have none : e.grants = false := by
          cases e with
          | listener i e' => exact absurd rfl (other i e')
          | _ => rfl
        rw [none, released_of_operation hs other, change.countP_subscribed]
        rfl

theorem Quiet.listener {t : Tracker} (quiet : Quiet t) {i : Nat} {l : Listener}
    (hl : t.listeners[i]? = some l) :
    ∀ e, e.own = true → l.step? t.capacity (t.subscribersOf l.address) e = none := by
  intro e own
  have none := quiet (.listener i e) own
  simp only [step?, hl] at none
  split at none
  · assumption
  · cases none

/-- From every state a quiet one is reached by steps of the listeners alone. -/
theorem exists_quiet (t : Tracker) :
    ∃ h u, Runs t h u ∧ (∀ m ∈ h, m.event.own = true) ∧ Quiet u := by
  induction left : (t.listeners.map Listener.left).sum using Nat.strong_induction_on generalizing t with
  | h n ih =>
    by_cases quiet : Quiet t
    · exact ⟨[], t, .nil, by simp, quiet⟩
    · simp only [Quiet, not_forall] at quiet
      obtain ⟨e, own, enabled⟩ := quiet
      obtain ⟨⟨t', effects⟩, hs⟩ := Option.ne_none_iff_exists'.1 enabled
      rcases step?_cases hs with ⟨i, e', l, l', rfl, hl, step, rfl⟩ | ⟨other, -⟩
      · have fewer := Machine.sum_map_set_lt Listener.left hl (step.left_lt own)
        obtain ⟨h, u, run, alone, quiet⟩ := ih _ (left ▸ fewer) { t with listeners := t.listeners.set i l' } rfl
        exact ⟨_, u, .cons (Machine.next?_eq_some hs) run, List.forall_mem_cons.2 ⟨own, alone⟩, quiet⟩
      · cases e with
        | listener i e' => exact absurd rfl (other i e')
        | _ => cases own

def books (i : Nat) (h : List Moment) : Listener.Books :=
  Listener.books (own i h)

/-- Whether the `i`-th listener was granted a subscription, is not cancelled, and its headers did not
break off. -/
def keeps (h : List Moment) (l : Listener) (i : Nat) : Bool :=
  !l.cancelled && (books i h).good

theorem Runs.tally {t : Tracker} {h : List Moment} {capacity : Nat} (run : Runs (start capacity) h t)
    {i : Nat} {l : Listener} (hl : t.listeners[i]? = some l) :
    Listener.Tally l.cancelled (books i h) l.phase := by
  obtain ⟨a, closed, trace⟩ := run.trace_start hl
  exact trace.tally

theorem keeps_iff {h : List Moment} {l : Listener} {i : Nat} : keeps h l i = true ↔
    l.cancelled = false ∧ (books i h).granted ≠ 0 ∧ (books i h).broken = false := by
  simp [keeps, Listener.Books.good]

theorem Runs.held_eq {t : Tracker} {h : List Moment} {capacity : Nat} (run : Runs (start capacity) h t)
    (quiet : Quiet t) {i : Nat} {l : Listener} (hl : t.listeners[i]? = some l) :
    (books i h).held = (keeps h l i).toNat ∧ l.subscribed = keeps h l i := by
  obtain ⟨held, subscribed⟩ := (run.tally hl).quiet (quiet.listener hl)
  exact ⟨held.trans (congrArg Bool.toNat subscribed), subscribed⟩

theorem Runs.granted_eq_keeps {t : Tracker} {h : List Moment} {capacity : Nat}
    (run : Runs (start capacity) h t) (quiet : Quiet t) :
    granted h = released h + t.listeners.zipIdx.countP fun (l, i) => keeps h l i := by
  have same : t.listeners.countP Listener.subscribed =
      t.listeners.zipIdx.countP fun (l, i) => keeps h l i := by
    rw [← List.zipIdx_map_fst 0 t.listeners, List.countP_map, List.zipIdx_map_fst]
    refine List.countP_congr fun (l, i) listed => ?_
    rw [Function.comp_apply, (run.held_eq quiet (List.mem_zipIdx_iff_getElem?.1 listed)).2]
  rw [run.granted_eq, same]

/-- A listener asks for headers at most once, and never is granted more than it asked for or releases
more than it was granted. In a `Quiet` state it holds one subscription if it was granted one, is not
cancelled and its headers did not break off, and none otherwise. Then the granted subscriptions are those
released and those that a listener `keeps`, and no two listeners of one address hold one. -/
theorem books_held_of_quiet {t : Tracker} {h : List Moment} {capacity : Nat}
    (run : Runs (start capacity) h t) :
    (∀ i l, t.listeners[i]? = some l → (books i h).calls ≤ 1 ∧ (books i h).granted ≤ (books i h).calls ∧
      (books i h).released ≤ (books i h).granted) ∧
    (Quiet t →
      (∀ i l, t.listeners[i]? = some l → (books i h).held =
        if l.cancelled = false ∧ (books i h).granted ≠ 0 ∧ (books i h).broken = false then 1 else 0) ∧
      granted h = released h + t.listeners.zipIdx.countP (fun (l, i) => keeps h l i) ∧
      ∀ (i j : Nat) (l m : Listener), t.listeners[i]? = some l → t.listeners[j]? = some m →
        l.address = m.address → (books i h).held ≠ 0 → (books j h).held ≠ 0 → i = j) := by
  have fit : Consistent t := (consistent_start capacity).runs run
  refine ⟨fun i l hl => (run.tally hl).bounds, fun quiet => ⟨fun i l hl => ?_,
    run.granted_eq_keeps quiet, fun i j l m hl hm same holds holds' => ?_⟩⟩
  · rw [(run.held_eq quiet hl).1]
    split
    · next should =>
        rw [keeps_iff.2 should]
        rfl
    · next should =>
        rw [Bool.eq_false_iff.2 (keeps_iff.not.2 should)]
        rfl
  · have live : ∀ {k : Nat} {n : Listener}, t.listeners[k]? = some n → (books k h).held ≠ 0 →
        n.cancelled = false := by
      intro k n hn holds
      rw [(run.held_eq quiet hn).1, ne_eq, Bool.toNat_eq_zero, Bool.not_eq_false] at holds
      exact (keeps_iff.1 holds).1
    exact fit.eq_of_live hl hm same (live hl holds) (live hm holds')

/-- An address is removed and added again, and the headers of another one end. -/
def threeListeners : List Event :=
  [.add .zero 5, .listener 0 (.subscribed (.ok ())), .remove .zero 5, .listener 0 .stopScan,
    .listener 0 .stopPublish, .add .zero 7, .listener 1 (.subscribed (.ok ())), .add (.ofNat 1) 5,
    .listener 2 (.subscribed (.ok ())), .listener 2 (.receive none), .listener 2 .drained]

/-- In the end the first listener has stopped, the second waits for a header, and the third has ended. -/
theorem replay?_threeListeners : ∃ h t, Machine.replay? next? (start 1) threeListeners = some (h, t) ∧ Quiet t ∧
    granted h = 3 ∧ released h = 2 ∧ ∃ l m n, t.listeners = [l, m, n] ∧ l.cancelled = true ∧
      (m.cancelled = false ∧ (books 1 h).granted ≠ 0 ∧ (books 1 h).broken = false) ∧
      (books 2 h).broken = true := by
  refine ⟨_, _, rfl, fun e own => ?_, rfl, rfl, _, _, _, rfl, rfl, ⟨rfl, Nat.one_ne_zero, rfl⟩, rfl⟩
  cases e with
  | listener i e =>
      match i with
      | 0 | 1 | 2 => cases e <;> first | rfl | cases own
      | i + 3 => rfl
  | add | remove | command | stopAll | close => cases own

/-- Of three listeners only the second one holds its subscription. -/
theorem books_held_of_quiet_three_listeners :
    ∃ h t, Runs (start 1) h t ∧ Quiet t ∧ granted h = 3 ∧ released h = 2 ∧ (books 0 h).held = 0 ∧
      (books 1 h).held = 1 ∧ (books 2 h).held = 0 ∧
      t.listeners.zipIdx.countP (fun (l, i) => keeps h l i) = 1 := by
  obtain ⟨h, t, replay, quiet, three, two, l, m, n, listed, left, kept, broken⟩ := replay?_threeListeners
  have run := Machine.runs_of_replay? replay
  obtain ⟨-, quietly⟩ := books_held_of_quiet run
  obtain ⟨held, total, -⟩ := quietly quiet
  rw [three, two] at total
  refine ⟨h, t, run, quiet, three, two, ?_, ?_, ?_, Nat.add_left_cancel total.symm⟩
  · exact (held 0 l (listed ▸ rfl)).trans (if_neg fun ⟨live, _⟩ => nomatch left.symm.trans live)
  · exact (held 1 m (listed ▸ rfl)).trans (if_pos kept)
  · exact (held 2 n (listed ▸ rfl)).trans (if_neg fun ⟨_, _, whole⟩ => nomatch broken.symm.trans whole)

end Tracker

end WalletWatch
