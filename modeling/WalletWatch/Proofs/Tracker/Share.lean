import WalletWatch.Proofs.Machine
import WalletWatch.Proofs.Tracker.Registration

/-!
# The share of one address

A `Share` is the subscribers of an address and the listeners that were ever started for it. Commands about
other addresses do not change it, and commands about the address and `stopAll` act as `Share.apply`, which
refers to no other address.
-/

namespace WalletWatch

namespace Tracker

/-- A change of the subscribers of one address. -/
inductive Edit where
  | add (user : UserId)
  | remove (user : UserId)
  | clear
  deriving DecidableEq

def Edit.apply (users : List UserId) : Edit → List UserId
  | .add user => users ++ [user]
  | .remove user => users.erase user
  | .clear => []

def Edit.isAdd : Edit → Bool
  | .add _ => true
  | .remove _ | .clear => false

def editOfCommand? (w : Address) (c : Command) : Option Edit :=
  if c.address = w then
    match c.kind with
    | .add => some (.add c.user)
    | .remove => some (.remove c.user)
    | .other _ => none
  else none

def Event.edit? (w : Address) : Event → Option Edit
  | .add a user => if a = w then some (.add user) else none
  | .remove a user => if a = w then some (.remove user) else none
  | .command c => editOfCommand? w c
  | .stopAll => some .clear
  | .close | .listener _ _ => none

/-- The subscribers and the listeners of one address. -/
structure Share where
  subscribers : List UserId
  watching : Bool
  listeners : List Listener

def share (t : Tracker) (w : Address) : Share :=
  ⟨t.subscribersOf w, t.isWatching w, t.listeners.filter fun l => l.address = w⟩

/-- The first subscriber starts a listener, and without the last one all listeners of the address are
cancelled. -/
def Share.apply (closed : Bool) (w : Address) (p : Share) : Edit → Share
  | .add user =>
    if p.subscribers = [] then ⟨[user], true, p.listeners ++ [Listener.start w closed]⟩
    else { p with subscribers := p.subscribers ++ [user] }
  | .remove user =>
    if user ∉ p.subscribers then p
    else if p.subscribers.erase user = [] then ⟨[], false, p.listeners.map Listener.cancel⟩
    else { p with subscribers := p.subscribers.erase user }
  | .clear => ⟨[], false, p.listeners.map Listener.cancel⟩

theorem Share.apply_subscribers (closed : Bool) (w : Address) (p : Share) (e : Edit) :
    (p.apply closed w e).subscribers = e.apply p.subscribers := by
  cases e with
  | add user =>
      unfold Share.apply Edit.apply
      dsimp only
      split
      · next none => rw [none, List.nil_append]
      · rfl
  | remove user =>
      unfold Share.apply Edit.apply
      dsimp only
      split
      · next absent => rw [List.erase_of_not_mem absent]
      · split
        · next last => exact last.symm
        · rfl
  | clear => rfl

theorem Share.length_listeners_apply (closed : Bool) (w : Address) (p : Share) (e : Edit) :
    (p.apply closed w e).listeners.length =
      p.listeners.length + if e.isAdd && p.subscribers.isEmpty then 1 else 0 := by
  cases e with
  | add user =>
      unfold Share.apply
      dsimp only
      split
      · next none => simp [Edit.isAdd, none]
      · next some => simp [Edit.isAdd, some]
  | remove user =>
      unfold Share.apply
      dsimp only
      split
      · rfl
      · split
        · exact List.length_map _
        · rfl
  | clear => exact List.length_map _

def Share.edit (closed : Bool) (w : Address) (p : Share) (e? : Option Edit) : Share :=
  e?.elim p (p.apply closed w)

theorem Share.edit_subscribers (closed : Bool) (w : Address) (p : Share) (e? : Option Edit) :
    (p.edit closed w e?).subscribers = e?.elim p.subscribers (Edit.apply p.subscribers) := by
  cases e? with
  | none => rfl
  | some e => exact p.apply_subscribers closed w e

theorem Share.length_listeners_edit (closed : Bool) (w : Address) (p : Share) (e? : Option Edit) :
    (p.edit closed w e?).listeners.length =
      p.listeners.length + if e?.any Edit.isAdd && p.subscribers.isEmpty then 1 else 0 := by
  cases e? with
  | none => rfl
  | some e => exact p.length_listeners_apply closed w e

theorem filter_cancel (ls : List Listener) (a w : Address) :
    ((ls.map fun l => if l.address = a then l.cancel else l).filter fun l => l.address = w) =
      if w = a then (ls.filter fun l => l.address = w).map Listener.cancel
      else ls.filter fun l => l.address = w := by
  have same (l : Listener) : (if l.address = a then l.cancel else l).address = l.address := by
    split <;> rfl
  rw [List.filter_map]
  simp only [Function.comp_def, same]
  split
  · next here =>
      refine List.map_congr_left fun l hl => if_pos ?_
      rw [← here]
      exact of_decide_eq_true (List.mem_filter.1 hl).2
  · next there =>
      refine (List.map_congr_left fun l hl => if_neg ?_).trans (List.map_id _)
      rw [of_decide_eq_true (List.mem_filter.1 hl).2]
      exact there

theorem filter_map_cancel (ls : List Listener) (w : Address) :
    ((ls.map Listener.cancel).filter fun l => l.address = w) =
      (ls.filter fun l => l.address = w).map Listener.cancel := by
  rw [List.filter_map]
  rfl

theorem cancel_of_cancelled {l : Listener} (h : l.cancelled = true) : l.cancel = l := by
  rw [Listener.cancel, ← h]

/-- All listeners of a forgotten address are cancelled, since those that are not registered were
cancelled before. -/
theorem Consistent.listeners_forget {t : Tracker} (fit : Consistent t) (a : Address) :
    (t.forget a).listeners = t.listeners.map fun l => if l.address = a then l.cancel else l := by
  refine List.ext_getElem? fun i => ?_
  rw [getElem?_forget, List.getElem?_map]
  cases hl : t.listeners[i]? with
  | none => rfl
  | some l =>
      refine congrArg some ?_
      dsimp only
      by_cases registered : t.registered.get? a = some i
      · obtain ⟨l', hl', here⟩ := fit.place a i registered
        rw [hl] at hl'
        cases hl'
        rw [if_pos registered, if_pos here]
      · rw [if_neg registered]
        split
        · next here =>
            cases live : l.cancelled with
            | true => exact (cancel_of_cancelled live).symm
            | false => exact absurd (here ▸ fit.live i l hl live) registered
        · rfl

theorem Consistent.listeners_stopAll {t : Tracker} (fit : Consistent t) :
    t.stopAll.1.listeners = t.listeners.map Listener.cancel := by
  refine List.ext_getElem? fun i => ?_
  rw [getElem?_stopAll, List.getElem?_map]
  cases hl : t.listeners[i]? with
  | none => rfl
  | some l =>
      refine congrArg some ?_
      split
      · rfl
      · next unregistered =>
          cases live : l.cancelled with
          | true => exact (cancel_of_cancelled live).symm
          | false =>
              have entry := AddressMap.mem_entries_iff.2 (fit.live i l hl live)
              exact absurd (List.mem_map.2 ⟨_, entry, rfl⟩) unregistered

theorem Consistent.isWatching_iff {t : Tracker} {w : Address} (fit : Consistent t) :
    t.isWatching w = true ↔ t.subscribersOf w ≠ [] := by
  constructor
  · intro watching none
    rw [isWatching, AddressMap.contains, (fit.get?_eq_none none).2] at watching
    cases watching
  · exact fit.registered

theorem share_add (t : Tracker) (a w : Address) (user : UserId) :
    (t.add a user).1.share w =
      (t.share w).edit t.closed w (if a = w then some (.add user) else none) := by
  by_cases none : t.subscribersOf a = []
  · rw [add_of_unwatched user none]
    split
    · next here =>
        subst here
        rw [Share.edit, Option.elim_some, Share.apply, if_pos (show (t.share a).subscribers = [] from none)]
        simp [share, subscribersOf, isWatching, AddressMap.contains, Listener.start]
    · next there =>
        simp [share, Share.edit, subscribersOf, isWatching, AddressMap.contains, Listener.start, there,
          AddressMap.get?_insert, Ne.symm there]
  · rw [add_of_watched user none]
    split
    · next here =>
        subst here
        rw [Share.edit, Option.elim_some, Share.apply, if_neg (show ¬(t.share a).subscribers = [] from none)]
        simp [share, subscribersOf, isWatching]
    · next there =>
        simp [share, Share.edit, subscribersOf, isWatching, AddressMap.get?_insert, Ne.symm there]

theorem share_forget {t : Tracker} (fit : Consistent t) (a w : Address) :
    (t.forget a).share w =
      if a = w then ⟨[], false, (t.share w).listeners.map Listener.cancel⟩ else t.share w := by
  split
  · next here =>
      subst here
      simp [share, subscribersOf, isWatching, AddressMap.contains, fit.listeners_forget, filter_cancel]
  · next there =>
      simp [share, subscribersOf, isWatching, AddressMap.contains, fit.listeners_forget, filter_cancel,
        AddressMap.get?_erase, Ne.symm there]

theorem share_remove {t : Tracker} (fit : Consistent t) (a w : Address) (user : UserId) :
    (t.remove a user).1.share w =
      (t.share w).edit t.closed w (if a = w then some (.remove user) else none) := by
  by_cases member : user ∈ t.subscribersOf a
  · have member' : ¬user ∉ (t.share a).subscribers := fun absent => absent member
    by_cases last : (t.subscribersOf a).erase user = []
    · rw [remove_of_last member last, share_forget fit]
      split
      · next here =>
          subst here
          rw [Share.edit, Option.elim_some, Share.apply, if_neg member',
            if_pos (show (t.share a).subscribers.erase user = [] from last)]
      · rfl
    · rw [remove_of_others member last]
      split
      · next here =>
          subst here
          rw [Share.edit, Option.elim_some, Share.apply, if_neg member',
            if_neg (show ¬(t.share a).subscribers.erase user = [] from last)]
          simp [share, subscribersOf, isWatching]
      · next there =>
          simp [share, Share.edit, subscribersOf, isWatching, AddressMap.get?_insert, Ne.symm there]
  · rw [remove_of_not_mem member]
    split
    · next here =>
        subst here
        rw [Share.edit, Option.elim_some, Share.apply, if_pos (show user ∉ (t.share a).subscribers from member)]
    · rfl

theorem share_stopAll {t : Tracker} (fit : Consistent t) (w : Address) :
    t.stopAll.1.share w = (t.share w).apply t.closed w .clear := by
  rw [share, fit.listeners_stopAll, filter_map_cancel, stopAll_eq]
  rfl

theorem share_handle {t : Tracker} (fit : Consistent t) (c : Command) (w : Address) :
    (t.handle c).1.share w = (t.share w).edit t.closed w (editOfCommand? w c) := by
  obtain ⟨kind, a, user, time⟩ := c
  cases kind with
  | add => exact share_add t a w user
  | remove => exact share_remove fit a w user
  | other name =>
      unfold editOfCommand?
      split <;> rfl

theorem closed_forget (t : Tracker) (a : Address) : (t.forget a).closed = t.closed := by
  unfold forget
  split <;> rfl

theorem closed_handle (t : Tracker) (c : Command) : (t.handle c).1.closed = t.closed := by
  unfold handle
  split
  · by_cases none : t.subscribersOf c.address = []
    · rw [add_of_unwatched c.user none]
    · rw [add_of_watched c.user none]
  · by_cases member : c.user ∈ t.subscribersOf c.address
    · by_cases last : (t.subscribersOf c.address).erase c.user = []
      · rw [remove_of_last member last, closed_forget]
      · rw [remove_of_others member last]
    · rw [remove_of_not_mem member]
  · rfl

/-- Commands about different addresses commute. -/
theorem share_handle_comm {t : Tracker} (fit : Consistent t) {c c' : Command}
    (apart : c.address ≠ c'.address) (w : Address) :
    ((t.handle c).1.handle c').1.share w = ((t.handle c').1.handle c).1.share w := by
  have fit₁ : Consistent (t.handle c).1 := fit.change (change_handle t c)
  have fit₂ : Consistent (t.handle c').1 := fit.change (change_handle t c')
  rw [share_handle fit₁, share_handle fit₂, share_handle fit, share_handle fit, closed_handle,
    closed_handle]
  by_cases here : c.address = w
  · have aside : editOfCommand? w c' = none := if_neg (here ▸ apart.symm)
    rw [aside]
    rfl
  · have aside : editOfCommand? w c = none := if_neg here
    rw [aside]
    rfl

theorem length_share_listeners (t : Tracker) (w : Address) :
    (t.share w).listeners.length = (t.listeners.map (·.address)).countP fun a => a = w := by
  rw [List.countP_map, List.countP_eq_length_filter]
  rfl

/-- An event edits the share of an address, or it is a step of listeners that keeps its subscribers and
the number of its listeners. -/
theorem step?_share {t : Tracker} {t' : Tracker} {e : Event} {effects : List Effect} (fit : Consistent t)
    (h : t.step? e = some (t', effects)) (w : Address) :
    t'.share w = (t.share w).edit t.closed w (e.edit? w) ∨
      e.edit? w = none ∧ t'.subscribersOf w = t.subscribersOf w ∧
        (t'.share w).listeners.length = (t.share w).listeners.length := by
  cases e with
  | add a user =>
      obtain rfl : (t.add a user).1 = t' := congrArg Prod.fst (Option.some.inj h)
      exact .inl (share_add t a w user)
  | remove a user =>
      obtain rfl : (t.remove a user).1 = t' := congrArg Prod.fst (Option.some.inj h)
      exact .inl (share_remove fit a w user)
  | command c =>
      obtain rfl : (t.handle c).1 = t' := congrArg Prod.fst (Option.some.inj h)
      exact .inl (share_handle fit c w)
  | stopAll =>
      obtain rfl : t.stopAll.1 = t' := congrArg Prod.fst (Option.some.inj h)
      exact .inl (share_stopAll fit w)
  | close =>
      cases h
      refine .inr ⟨rfl, rfl, ?_⟩
      rw [share, close, filter_map_cancel]
      exact List.length_map _
  | listener i e =>
      rcases step?_cases h with ⟨i', e', l, l', -, hl, step, rfl⟩ | ⟨other, -⟩
      · refine .inr ⟨rfl, rfl, ?_⟩
        rw [length_share_listeners, length_share_listeners]
        exact congrArg _ (Machine.map_set_of_eq _ hl step.address)
      · exact absurd rfl (other i e)

theorem step?_subscribersOf {t : Tracker} {t' : Tracker} {e : Event} {effects : List Effect}
    (fit : Consistent t) (h : t.step? e = some (t', effects)) (w : Address) :
    t'.subscribersOf w = (e.edit? w).elim (t.subscribersOf w) (Edit.apply (t.subscribersOf w)) := by
  rcases step?_share fit h w with edited | ⟨none, same, -⟩
  · exact (congrArg Share.subscribers edited).trans (Share.edit_subscribers ..)
  · rw [none, same]
    rfl

theorem step?_length_listeners {t : Tracker} {t' : Tracker} {e : Event} {effects : List Effect}
    (fit : Consistent t) (h : t.step? e = some (t', effects)) (w : Address) :
    (t'.share w).listeners.length = (t.share w).listeners.length +
      if (e.edit? w).any Edit.isAdd && (t.subscribersOf w).isEmpty then 1 else 0 := by
  rcases step?_share fit h w with edited | ⟨none, -, same⟩
  · exact (congrArg (fun p => p.listeners.length) edited).trans (Share.length_listeners_edit ..)
  · rw [none, same]
    rfl

end Tracker

end WalletWatch
