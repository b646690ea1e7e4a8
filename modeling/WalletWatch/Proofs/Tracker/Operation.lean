import WalletWatch.Proofs.Listener.Step
import WalletWatch.Tracker.Run

/-!
# The operations of a tracker

`Change t t'` lists what an operation can do: an address gets its first subscriber and a listener, the list
of a watched address changes, an address is forgotten, or all are. By `step?_cases` an event is a step of
one listener or such a change, and `Change.listener` says what a change does to one listener.
-/

namespace WalletWatch

namespace Tracker

@[simp] theorem subscribersOf_eq_nil_of_get? {t : Tracker} {a : Address}
    (h : t.subscribers.get? a = none) : t.subscribersOf a = [] := by
  simp [subscribersOf, h]

theorem add_of_unwatched {t : Tracker} {a : Address} (user : UserId) (h : t.subscribersOf a = []) :
    (t.add a user).1 = { t with
      subscribers := t.subscribers.insert a [user]
      registered := t.registered.insert a t.listeners.length
      listeners := t.listeners ++ [Listener.start a t.closed] } := by
  simp [add, h]

theorem add_of_watched {t : Tracker} {a : Address} (user : UserId) (h : t.subscribersOf a ≠ []) :
    (t.add a user).1 = { t with
      subscribers := t.subscribers.insert a (t.subscribersOf a ++ [user]) } := by
  simp [add, h]

theorem remove_of_not_mem {t : Tracker} {a : Address} {user : UserId}
    (h : user ∉ t.subscribersOf a) : (t.remove a user).1 = t := by
  unfold remove
  split
  · rfl
  · next users hu =>
      have absent : user ∉ users := by simpa [subscribersOf, hu] using h
      simp [absent]

theorem remove_of_others {t : Tracker} {a : Address} {user : UserId}
    (h : user ∈ t.subscribersOf a) (more : (t.subscribersOf a).erase user ≠ []) :
    (t.remove a user).1 = { t with
      subscribers := t.subscribers.insert a ((t.subscribersOf a).erase user) } := by
  unfold remove
  split
  · next hu => simp [hu] at h
  · next users hu =>
      have same : t.subscribersOf a = users := by simp [subscribersOf, hu]
      rw [same] at h more
      simp [same, h, more]

theorem remove_of_last {t : Tracker} {a : Address} {user : UserId}
    (h : user ∈ t.subscribersOf a) (last : (t.subscribersOf a).erase user = []) :
    (t.remove a user).1 = t.forget a := by
  unfold remove
  split
  · next hu => simp [hu] at h
  · next users hu =>
      have same : t.subscribersOf a = users := by simp [subscribersOf, hu]
      rw [same] at h last
      simp [h, last]

@[simp] theorem forget_subscribers (t : Tracker) (a : Address) :
    (t.forget a).subscribers = t.subscribers.erase a := by
  unfold forget
  split <;> rfl

@[simp] theorem forget_registered (t : Tracker) (a : Address) :
    (t.forget a).registered = t.registered.erase a := by
  unfold forget
  split <;> rfl

@[simp] theorem forget_capacity (t : Tracker) (a : Address) : (t.forget a).capacity = t.capacity := by
  unfold forget
  split <;> rfl

theorem getElem?_cancel (t : Tracker) (i j : Nat) :
    (t.cancel i).listeners[j]? = (t.listeners[j]?).map fun l => if i = j then l.cancel else l := by
  simp [cancel, List.getElem?_modify]

theorem getElem?_forget (t : Tracker) (a : Address) (j : Nat) :
    (t.forget a).listeners[j]? = (t.listeners[j]?).map fun l =>
      if t.registered.get? a = some j then l.cancel else l := by
  unfold forget
  split
  · next i hi => simp [getElem?_cancel, hi]
  · next hn => simp [hn]

theorem getElem?_foldl_cancel (places : List Nat) (t : Tracker) (j : Nat) :
    (places.foldl cancel t).listeners[j]? =
      (t.listeners[j]?).map fun l => if j ∈ places then l.cancel else l := by
  induction places generalizing t with
  | nil => simp
  | cons i is ih =>
      rw [List.foldl_cons, ih, getElem?_cancel, Option.map_map]
      congr 1
      funext l
      by_cases hi : i = j
      · subst hi
        simp [Listener.cancel]
      · simp [hi, Ne.symm hi]

theorem foldl_cancel_eq (places : List Nat) (t : Tracker) :
    places.foldl cancel t = { t with listeners := (places.foldl cancel t).listeners } := by
  induction places generalizing t with
  | nil => rfl
  | cons i is ih =>
      rw [List.foldl_cons, ih]
      rfl

theorem stopAll_eq (t : Tracker) :
    t.stopAll.1 = { t with
      subscribers := .empty
      registered := .empty
      listeners := t.stopAll.1.listeners } := by
  rw [stopAll]
  exact foldl_cancel_eq _ _

theorem getElem?_stopAll (t : Tracker) (j : Nat) :
    t.stopAll.1.listeners[j]? = (t.listeners[j]?).map fun l =>
      if j ∈ t.registered.entries.map (·.2) then l.cancel else l := by
  rw [stopAll]
  exact getElem?_foldl_cancel _ _ _

theorem getElem?_close (t : Tracker) (j : Nat) :
    t.close.listeners[j]? = (t.listeners[j]?).map Listener.cancel := by
  simp [close]

inductive Change (t : Tracker) : Tracker → Prop
  | same : Change t t
  | watch {a : Address} {user : UserId} : t.subscribersOf a = [] →
      Change t { t with
        subscribers := t.subscribers.insert a [user]
        registered := t.registered.insert a t.listeners.length
        listeners := t.listeners ++ [Listener.start a t.closed] }
  | relist {a : Address} {users : List UserId} : t.subscribersOf a ≠ [] → users ≠ [] →
      Change t { t with subscribers := t.subscribers.insert a users }
  | forget {a : Address} : t.subscribersOf a ≠ [] → Change t (t.forget a)
  | stopAll : Change t t.stopAll.1
  | close : Change t t.close

theorem change_add (t : Tracker) (a : Address) (user : UserId) : Change t (t.add a user).1 := by
  by_cases h : t.subscribersOf a = []
  · rw [add_of_unwatched user h]
    exact .watch h
  · rw [add_of_watched user h]
    exact .relist h (by simp)

theorem change_remove (t : Tracker) (a : Address) (user : UserId) :
    Change t (t.remove a user).1 := by
  by_cases h : user ∈ t.subscribersOf a
  · have watched : t.subscribersOf a ≠ [] := List.ne_nil_of_mem h
    by_cases last : (t.subscribersOf a).erase user = []
    · rw [remove_of_last h last]
      exact .forget watched
    · rw [remove_of_others h last]
      exact .relist watched last
  · rw [remove_of_not_mem h]
    exact .same

theorem change_handle (t : Tracker) (c : Command) : Change t (t.handle c).1 := by
  unfold handle
  split
  · exact change_add t c.address c.user
  · exact change_remove t c.address c.user
  · exact .same

theorem step?_cases {t t' : Tracker} {e : Event} {effects : List Effect}
    (h : t.step? e = some (t', effects)) :
    (∃ i e' l l', e = .listener i e' ∧ t.listeners[i]? = some l ∧
      Listener.Step t.capacity (t.subscribersOf l.address) l e' l' effects ∧
      t' = { t with listeners := t.listeners.set i l' }) ∨
    ((∀ i e', e ≠ .listener i e') ∧ Change t t') := by
  cases e with
  | add a user =>
      obtain rfl : (t.add a user).1 = t' := congrArg Prod.fst (Option.some.inj h)
      exact .inr ⟨by simp, change_add t a user⟩
  | remove a user =>
      obtain rfl : (t.remove a user).1 = t' := congrArg Prod.fst (Option.some.inj h)
      exact .inr ⟨by simp, change_remove t a user⟩
  | command c =>
      obtain rfl : (t.handle c).1 = t' := congrArg Prod.fst (Option.some.inj h)
      exact .inr ⟨by simp, change_handle t c⟩
  | stopAll =>
      obtain rfl : (t.stopAll).1 = t' := congrArg Prod.fst (Option.some.inj h)
      exact .inr ⟨by simp, .stopAll⟩
  | close =>
      cases h
      exact .inr ⟨by simp, .close⟩
  | listener i e' =>
      simp only [step?] at h
      split at h
      · cases h
      · next l hl =>
          split at h
          · cases h
          · next l' effects' hs =>
              cases h
              exact .inl ⟨i, e', l, l', rfl, hl, Listener.step?_eq_some_iff.1 hs, rfl⟩

theorem Change.listener {t t' : Tracker} (h : Change t t') (i : Nat) :
    t'.listeners[i]? = t.listeners[i]? ∨
      t'.listeners[i]? = (t.listeners[i]?).map Listener.cancel ∨
      t.listeners[i]? = none ∧ ∃ a, t'.listeners[i]? = some (Listener.start a t.closed) := by
  cases h with
  | same => exact .inl rfl
  | @watch a =>
      by_cases older : i < t.listeners.length
      · exact .inl (List.getElem?_append_left older)
      · rw [Nat.not_lt] at older
        have unborn : t.listeners[i]? = none := List.getElem?_eq_none older
        rw [List.getElem?_append_right older, unborn, List.getElem?_singleton]
        split
        · exact .inr (.inr ⟨rfl, a, rfl⟩)
        · exact .inl rfl
  | relist => exact .inl rfl
  | @forget a =>
      by_cases hr : t.registered.get? a = some i
      · exact .inr (.inl (by simp [getElem?_forget, hr]))
      · exact .inl (by simp [getElem?_forget, hr])
  | stopAll =>
      by_cases hr : i ∈ t.registered.entries.map (·.2)
      · exact .inr (.inl (by simp only [getElem?_stopAll, if_pos hr]))
      · exact .inl (by simp [getElem?_stopAll, hr])
  | close => exact .inr (.inl (getElem?_close t i))

end Tracker

end WalletWatch
