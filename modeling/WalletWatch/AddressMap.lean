import WalletWatch.Address

/-!
# Maps from addresses

A finite map with addresses as keys. Its one view is `get?`; every operation says what it does to it. No
address stands twice among the entries, so their number is the number of addresses.
-/

namespace WalletWatch

structure AddressMap (α : Type) where
  entries : List (Address × α)
  nodup : (entries.map (·.1)).Nodup
  deriving DecidableEq

namespace AddressMap

def empty {α : Type} : AddressMap α :=
  ⟨[], List.nodup_nil⟩

def get? {α : Type} (m : AddressMap α) (a : Address) : Option α :=
  (m.entries.find? fun e => e.1 = a).map (·.2)

def erase {α : Type} (m : AddressMap α) (a : Address) : AddressMap α :=
  ⟨m.entries.filter fun e => e.1 ≠ a, m.nodup.sublist (List.filter_sublist.map _)⟩

def insert {α : Type} (m : AddressMap α) (a : Address) (x : α) : AddressMap α :=
  ⟨(a, x) :: (m.erase a).entries, List.nodup_cons.2 ⟨by simp [erase], (m.erase a).nodup⟩⟩

def contains {α : Type} (m : AddressMap α) (a : Address) : Bool :=
  (m.get? a).isSome

def size {α : Type} (m : AddressMap α) : Nat :=
  m.entries.length

def keys {α : Type} (m : AddressMap α) : List Address :=
  (m.entries.map (·.1)).mergeSort Address.ble

@[simp] theorem get?_empty {α : Type} (a : Address) : (empty : AddressMap α).get? a = none := rfl

@[simp] theorem get?_erase_self {α : Type} (m : AddressMap α) (a : Address) :
    (m.erase a).get? a = none := by
  simp [get?, erase]

theorem get?_erase_of_ne {α : Type} (m : AddressMap α) {a b : Address} (h : b ≠ a) :
    (m.erase a).get? b = m.get? b := by
  have same (e : Address × α) : (e.1 ≠ a ∧ e.1 = b) ↔ e.1 = b :=
    ⟨And.right, fun he => ⟨he ▸ h, he⟩⟩
  simp only [get?, erase, List.find?_filter, decide_eq_true_eq, same]

@[simp] theorem get?_insert_self {α : Type} (m : AddressMap α) (a : Address) (x : α) :
    (m.insert a x).get? a = some x := by
  simp [get?, insert]

theorem get?_insert_of_ne {α : Type} (m : AddressMap α) {a b : Address} (h : b ≠ a) (x : α) :
    (m.insert a x).get? b = m.get? b := by
  rw [← get?_erase_of_ne m h]
  simp only [get?, insert, List.find?_cons, Ne.symm h, decide_false]

theorem get?_erase {α : Type} (m : AddressMap α) (a b : Address) :
    (m.erase a).get? b = if b = a then none else m.get? b := by
  by_cases h : b = a
  · rw [if_pos h, h, get?_erase_self]
  · rw [if_neg h, get?_erase_of_ne m h]

theorem get?_insert {α : Type} (m : AddressMap α) (a b : Address) (x : α) :
    (m.insert a x).get? b = if b = a then some x else m.get? b := by
  by_cases h : b = a
  · rw [if_pos h, h, get?_insert_self]
  · rw [if_neg h, get?_insert_of_ne m h]

theorem mem_entries_iff {α : Type} {m : AddressMap α} {a : Address} {x : α} :
    (a, x) ∈ m.entries ↔ m.get? a = some x := by
  obtain ⟨entries, nodup⟩ := m
  simp only [get?]
  induction entries with
  | nil => simp
  | cons e es ih =>
      obtain ⟨b, y⟩ := e
      rw [List.map_cons, List.nodup_cons] at nodup
      by_cases hb : b = a
      · subst hb
        have absent : (b, x) ∉ es := fun hx => nodup.1 (List.mem_map.2 ⟨_, hx, rfl⟩)
        simp [absent, eq_comm]
      · simp [hb, Ne.symm hb, ih nodup.2]

theorem mem_keys_iff {α : Type} {m : AddressMap α} {a : Address} : a ∈ m.keys ↔ ∃ x, m.get? a = some x := by
  simp only [keys, List.mem_mergeSort, List.mem_map, Prod.exists, mem_entries_iff]
  constructor
  · rintro ⟨b, x, hx, rfl⟩
    exact ⟨x, hx⟩
  · rintro ⟨x, hx⟩
    exact ⟨a, x, hx, rfl⟩

end AddressMap

end WalletWatch
