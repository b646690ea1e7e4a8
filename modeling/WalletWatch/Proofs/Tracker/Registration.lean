import WalletWatch.Proofs.Machine
import WalletWatch.Proofs.Tracker.Operation

/-!
# Registration of listeners

`Consistent` is the invariant of a tracker: the addresses with subscribers are those with a registered
listener, which is a listener of this address, and every other listener is cancelled. Without the part about
addresses, a new listener could be taken for an old one of another address.
-/

namespace WalletWatch

namespace Tracker

/-- The subscribers, the registered listeners and all listeners fit together. -/
structure Consistent (t : Tracker) : Prop where
  keys : ∀ a, (t.subscribers.get? a).isSome = (t.registered.get? a).isSome
  nonempty : ∀ a users, t.subscribers.get? a = some users → users ≠ []
  place : ∀ a i, t.registered.get? a = some i → ∃ l, t.listeners[i]? = some l ∧ l.address = a
  live : ∀ i l, t.listeners[i]? = some l → l.cancelled = false →
    t.registered.get? l.address = some i

theorem consistent_start (capacity : Nat) : Consistent (start capacity) where
  keys _ := rfl
  nonempty _ _ h := by simp [start] at h
  place _ _ h := by simp [start] at h
  live _ _ h := by simp [start] at h

theorem Consistent.get?_eq_none {t : Tracker} {a : Address} (h : Consistent t)
    (ha : t.subscribersOf a = []) : t.subscribers.get? a = none ∧ t.registered.get? a = none := by
  have absent : t.subscribers.get? a = none := by
    cases hu : t.subscribers.get? a with
    | none => rfl
    | some users => exact absurd (by simpa [subscribersOf, hu] using ha) (h.nonempty a users hu)
  have keys := h.keys a
  rw [absent] at keys
  exact ⟨absent, by simpa using keys.symm⟩

theorem Consistent.registered {t : Tracker} {a : Address} (h : Consistent t)
    (ha : t.subscribersOf a ≠ []) : (t.registered.get? a).isSome = true := by
  rw [← h.keys a]
  cases hu : t.subscribers.get? a with
  | none => simp [hu] at ha
  | some users => rfl

theorem Consistent.subscribersOf_ne_nil {t : Tracker} {i : Nat} {l : Listener} (h : Consistent t)
    (hl : t.listeners[i]? = some l) (hc : l.cancelled = false) : t.subscribersOf l.address ≠ [] := by
  intro ha
  have live := h.live i l hl hc
  rw [(h.get?_eq_none ha).2] at live
  cases live

theorem Consistent.watch {t : Tracker} {a : Address} {user : UserId} (h : Consistent t)
    (ha : t.subscribersOf a = []) :
    Consistent { t with
      subscribers := t.subscribers.insert a [user]
      registered := t.registered.insert a t.listeners.length
      listeners := t.listeners ++ [Listener.start a t.closed] } := by
  obtain ⟨-, fresh⟩ := h.get?_eq_none ha
  constructor
  case keys =>
    intro b
    by_cases hb : b = a
    · simp [hb]
    · simp [AddressMap.get?_insert, hb, h.keys b]
  case nonempty =>
    intro b users hu
    rw [AddressMap.get?_insert] at hu
    split at hu
    · cases hu
      simp
    · exact h.nonempty b users hu
  case place =>
    intro b i hi
    rw [AddressMap.get?_insert] at hi
    split at hi
    · next hb =>
        cases hi
        exact ⟨Listener.start a t.closed, by simp, hb.symm⟩
    · obtain ⟨l, hl, hla⟩ := h.place b i hi
      exact ⟨l, List.getElem?_append_left (List.getElem?_eq_some_iff.1 hl).1 ▸ hl, hla⟩
  case live =>
    intro i l hl hc
    rw [AddressMap.get?_insert]
    by_cases hi : i < t.listeners.length
    · -- An older listener of `a` would be registered for it, but nothing was.
      rw [List.getElem?_append_left hi] at hl
      have live := h.live i l hl hc
      have hne : l.address ≠ a := by
        rintro rfl
        rw [fresh] at live
        cases live
      rw [if_neg hne, live]
    · rw [List.getElem?_append_right (by omega)] at hl
      obtain ⟨hi', hl⟩ := List.getElem?_eq_some_iff.1 hl
      simp only [List.length_singleton] at hi'
      rw [List.getElem_singleton] at hl
      subst hl
      simp only [Listener.start, if_true, Option.some.injEq]
      omega

theorem Consistent.relist {t : Tracker} {a : Address} {users : List UserId} (h : Consistent t)
    (ha : t.subscribersOf a ≠ []) (hu : users ≠ []) :
    Consistent { t with subscribers := t.subscribers.insert a users } where
  keys b := by
    by_cases hb : b = a
    · simp [hb, h.registered ha]
    · simp [AddressMap.get?_insert, hb, h.keys b]
  nonempty b users' hu' := by
    rw [AddressMap.get?_insert] at hu'
    split at hu'
    · cases hu'
      exact hu
    · exact h.nonempty b users' hu'
  place := h.place
  live := h.live

theorem Consistent.forget {t : Tracker} (h : Consistent t) (a : Address) :
    Consistent (t.forget a) := by
  constructor
  case keys =>
    intro b
    by_cases hb : b = a
    · simp [hb]
    · simp [AddressMap.get?_erase, hb, h.keys b]
  case nonempty =>
    intro b users hu
    rw [forget_subscribers, AddressMap.get?_erase] at hu
    split at hu
    · cases hu
    · exact h.nonempty b users hu
  case place =>
    intro b i hi
    rw [forget_registered, AddressMap.get?_erase] at hi
    split at hi
    · cases hi
    · obtain ⟨l, hl, hla⟩ := h.place b i hi
      rw [getElem?_forget, hl]
      split
      · exact ⟨l.cancel, rfl, hla⟩
      · exact ⟨l, rfl, hla⟩
  case live =>
    intro i l' hl' hc
    rw [getElem?_forget, Option.map_eq_some_iff] at hl'
    obtain ⟨l, hl, rfl⟩ := hl'
    split at hc
    · cases hc
    · next other =>
        rw [if_neg other, forget_registered, AddressMap.get?_erase]
        have live := h.live i l hl hc
        have hne : l.address ≠ a := by
          rintro rfl
          exact other live
        rw [if_neg hne, live]

theorem Consistent.stopAll {t : Tracker} (h : Consistent t) : Consistent t.stopAll.1 := by
  constructor
  case keys =>
    intro b
    rw [stopAll_eq]
    rfl
  case nonempty =>
    intro b users hu
    rw [stopAll_eq] at hu
    cases hu
  case place =>
    intro b i hi
    rw [stopAll_eq] at hi
    cases hi
  case live =>
    intro i l' hl' hc
    rw [getElem?_stopAll, Option.map_eq_some_iff] at hl'
    obtain ⟨l, hl, rfl⟩ := hl'
    split at hc
    · cases hc
    · next unregistered =>
        have entry := AddressMap.mem_entries_iff.2 (h.live i l hl hc)
        exact absurd (List.mem_map.2 ⟨_, entry, rfl⟩) unregistered

theorem Consistent.close {t : Tracker} (h : Consistent t) : Consistent t.close where
  keys := h.keys
  nonempty := h.nonempty
  place b i hi := by
    obtain ⟨l, hl, hla⟩ := h.place b i hi
    exact ⟨l.cancel, by simp [getElem?_close, hl], hla⟩
  live i l' hl' hc := by
    rw [getElem?_close, Option.map_eq_some_iff] at hl'
    obtain ⟨l, -, rfl⟩ := hl'
    cases hc

theorem Consistent.change {t t' : Tracker} (h : Consistent t) (hc : Change t t') :
    Consistent t' := by
  cases hc with
  | same => exact h
  | watch ha => exact h.watch ha
  | relist ha hu => exact h.relist ha hu
  | forget => exact h.forget _
  | stopAll => exact h.stopAll
  | close => exact h.close

/-- A step of a listener keeps its address and whether it is cancelled, so it keeps the consistency. -/
theorem Consistent.set {t : Tracker} {i : Nat} {l l' : Listener} (h : Consistent t)
    (hl : t.listeners[i]? = some l) (ha : l'.address = l.address) (hc : l'.cancelled = l.cancelled) :
    Consistent { t with listeners := t.listeners.set i l' } where
  keys := h.keys
  nonempty := h.nonempty
  place b j hj := by
    obtain ⟨m, hm, hma⟩ := h.place b j hj
    by_cases hij : i = j
    · subst hij
      rw [hl] at hm
      cases hm
      exact ⟨l', List.getElem?_set_self (List.getElem?_eq_some_iff.1 hl).1, ha.trans hma⟩
    · exact ⟨m, (List.getElem?_set_ne hij).trans hm, hma⟩
  live j m hm hcm := by
    by_cases hij : i = j
    · subst hij
      rw [List.getElem?_set_self (List.getElem?_eq_some_iff.1 hl).1] at hm
      cases hm
      rw [ha]
      exact h.live i l hl (hc ▸ hcm)
    · exact h.live j m ((List.getElem?_set_ne hij).symm.trans hm) hcm

theorem Consistent.step {t t' : Tracker} {e : Event} {effects : List Effect} (h : Consistent t)
    (hs : t.step? e = some (t', effects)) : Consistent t' := by
  rcases step?_cases hs with ⟨i, e', l, l', -, hl, step, rfl⟩ | ⟨-, hc⟩
  · exact h.set hl step.address step.cancelled
  · exact h.change hc

theorem Consistent.runs {t u : Tracker} {h : List Moment} (ht : Consistent t) (run : Runs t h u) :
    Consistent u := by
  induction run with
  | nil => exact ht
  | snoc e _ hs ih => exact ih.step (Machine.step?_of_next? hs)

theorem Consistent.registered_add {t : Tracker} {a b : Address} {user : UserId} {i : Nat}
    (h : Consistent t) (hi : t.registered.get? b = some i) :
    (t.add a user).1.registered.get? b = some i := by
  by_cases ha : t.subscribersOf a = []
  · rw [add_of_unwatched user ha]
    have hne : b ≠ a := by
      rintro rfl
      rw [(h.get?_eq_none ha).2] at hi
      cases hi
    rw [AddressMap.get?_insert_of_ne _ hne, hi]
  · rw [add_of_watched user ha, hi]

theorem Consistent.eq_of_live {t : Tracker} {i j : Nat} {l m : Listener} (h : Consistent t)
    (hl : t.listeners[i]? = some l) (hm : t.listeners[j]? = some m) (ha : l.address = m.address)
    (hcl : l.cancelled = false) (hcm : m.cancelled = false) : i = j := by
  have hi := h.live i l hl hcl
  rw [ha, h.live j m hm hcm] at hi
  exact (Option.some.inj hi).symm

/-- After every run, `t.subscribers` and `t.registered` have the same keys, no list of subscribers is
empty, and `add` replaces no registered listener. What is registered for an address is a listener of it,
and a listener that is not registered for its address is cancelled. So two uncancelled listeners have
different addresses. -/
theorem subscribers_registered_of_runs {capacity : Nat} {h : List Moment} {t : Tracker}
    (run : Runs (start capacity) h t) :
    (∀ a, a ∈ t.subscribers.keys ↔ a ∈ t.registered.keys) ∧
    (∀ a users, t.subscribers.get? a = some users → users ≠ []) ∧
    (∀ a user b i, t.registered.get? b = some i →
      (t.add a user).1.registered.get? b = some i) ∧
    (∀ a i, t.registered.get? a = some i → ∃ l, t.listeners[i]? = some l ∧ l.address = a) ∧
    (∀ i l, t.listeners[i]? = some l →
      t.registered.get? l.address = some i ∨ l.cancelled = true) ∧
    (∀ (i j : Nat) (l m : Listener), t.listeners[i]? = some l → t.listeners[j]? = some m →
      l.address = m.address → l.cancelled = false → m.cancelled = false → i = j) := by
  have fit : Consistent t := (consistent_start capacity).runs run
  refine ⟨fun a => ?_, fit.nonempty, fun a user b i hi => fit.registered_add hi, fit.place,
    fun i l hl => ?_, fun i j l m hl hm => fit.eq_of_live hl hm⟩
  · rw [AddressMap.mem_keys_iff, AddressMap.mem_keys_iff, ← Option.isSome_iff_exists,
      ← Option.isSome_iff_exists, fit.keys a]
  · cases hc : l.cancelled with
    | true => exact .inr rfl
    | false => exact .inl (fit.live i l hl hc)

/-- An address is removed and added again. Its first listener is cancelled, and the second one is
registered. -/
theorem subscribers_registered_of_runs_resubscribed :
    ∃ h t, Runs (start 1) h t ∧ t.listeners.map (·.cancelled) = [true, false] ∧
      t.registered.get? .zero = some 1 ∧
      ∀ i l, t.listeners[i]? = some l →
        t.registered.get? l.address = some i ∨ l.cancelled = true := by
  have subscribed : Runs (start 1) _ ((start 1).add .zero 5).1 := .snoc (.add .zero 5) .nil rfl
  have left := subscribed.snoc (.remove .zero 5) rfl
  have again := left.snoc (.add .zero 7) rfl
  exact ⟨_, _, again, rfl, rfl, (subscribers_registered_of_runs again).2.2.2.2.1⟩

end Tracker

end WalletWatch
