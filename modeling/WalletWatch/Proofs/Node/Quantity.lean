import WalletWatch.Node.Record
import WalletWatch.Proofs.Address
import WalletWatch.Proofs.Hex.Bytes

/-!
# Spelled numbers and identifiers

`SpelledBy` describes the texts in which a node may write a number or an identifier: digits in either case
after an optional marker, with leading zeros for a number. Each of them is read as what it spells.
-/

namespace WalletWatch

structure Hex.Marked (s : String) (ds : List Char) : Prop where
  marked : ∃ marker ∈ Hex.markers, s.toList = marker ++ ds
  digits : ∀ c ∈ ds, Hex.isDigit c = true

namespace Hex

theorem Marked.dropMarker {s : String} {ds : List Char} (h : Marked s ds) :
    Hex.dropMarker s.toList = ds := by
  obtain ⟨marker, known, spelled⟩ := h.marked
  rw [spelled, dropMarker_append known h.digits]

theorem exists_marked_iff {s : String} {P : List Char → Prop} :
    (∃ ds, Marked s ds ∧ P ds) ↔
      (Hex.dropMarker s.toList).all isDigit = true ∧ P (Hex.dropMarker s.toList) := by
  constructor
  · rintro ⟨ds, marked, holds⟩
    rw [marked.dropMarker]
    exact ⟨List.all_eq_true.2 marked.digits, holds⟩
  · rintro ⟨digits, holds⟩
    exact ⟨_, ⟨exists_marker _, List.all_eq_true.1 digits⟩, holds⟩

theorem Marked.identifierDigits {s : String} {ds : List Char} (h : Marked s ds) :
    identifierDigits s = ds := by
  have plain : Text.trim s.toList = s.toList :=
    Text.trim_of_not_blank (not_isBlank_of_dropMarker (h.dropMarker ▸ h.digits))
  rw [WalletWatch.identifierDigits, plain, h.dropMarker]

theorem Marked.value? {s : String} {ds : List Char} (h : Marked s ds) : Hex.value? ds = some (value ds) :=
  if_pos (List.all_eq_true.2 h.digits)

theorem value_cons (c : Char) (cs : List Char) :
    value (c :: cs) = (digitValue? c).getD 0 * 16 ^ cs.length + value cs := by
  have front : value [c] = (digitValue? c).getD 0 := by simp [value]
  rw [← List.singleton_append, value_append, front]

end Hex

/-! ## Identifiers -/

def Address.SpelledBy (a : Address) (s : String) : Prop :=
  ∃ ds, Hex.Marked s ds ∧ ds.length = 40 ∧ Hex.value ds = a.toNat

def TxHash.SpelledBy (h : TxHash) (s : String) : Prop :=
  ∃ ds, Hex.Marked s ds ∧ ds.length = 64 ∧ Hex.value ds = h.word.toNat

instance (a : Address) (s : String) : Decidable (a.SpelledBy s) :=
  decidable_of_iff _
    (Hex.exists_marked_iff (P := fun ds => ds.length = 40 ∧ Hex.value ds = a.toNat)).symm

instance (h : TxHash) (s : String) : Decidable (h.SpelledBy s) :=
  decidable_of_iff _
    (Hex.exists_marked_iff (P := fun ds => ds.length = 64 ∧ Hex.value ds = h.word.toNat)).symm

theorem Address.SpelledBy.parse {a : Address} {s : String} (h : a.SpelledBy s) :
    Address.parse s = .ok a := by
  obtain ⟨ds, marked, length, value⟩ := h
  simp only [Address.parse, marked.identifierDigits, Hex.utf8Length_of_isDigit marked.digits, length,
    marked.value?, value, Address.ofNat_toNat]
  rfl

theorem TxHash.SpelledBy.parse {h : TxHash} {s : String} (spelled : h.SpelledBy s) :
    TxHash.parse s = .ok h := by
  obtain ⟨ds, marked, length, value⟩ := spelled
  simp only [TxHash.parse, Word.parse?, marked.identifierDigits, length, marked.value?, value,
    Option.map_some, Word.ofNat_toNat, if_true]

/-! ## Numbers -/

namespace Quantity

theorem readFrom_eq_ok_iff {n m : Nat} {ds : List Char} (fits : Width.fits64 n = true) :
    readFrom n ds = .ok m ↔ (∀ c ∈ ds, Hex.isDigit c = true) ∧
      n * 16 ^ ds.length + Hex.value ds = m ∧ Width.fits64 m = true := by
  induction ds generalizing n with
  | nil =>
      rw [readFrom, Except.ok.injEq]
      constructor
      · rintro rfl
        exact ⟨List.forall_mem_nil _, by simp [Hex.value], fits⟩
      · rintro ⟨-, sum, -⟩
        simpa [Hex.value] using sum
  | cons c ds ih =>
      rw [readFrom, List.forall_mem_cons, Hex.value_cons]
      cases digit : Hex.digitValue? c with
      | none => simp [Hex.isDigit, digit]
      | some d =>
          have shift : n * 16 ^ (ds.length + 1) + (d * 16 ^ ds.length + Hex.value ds) =
              (n * 16 + d) * 16 ^ ds.length + Hex.value ds := by
            rw [Nat.pow_succ', Nat.add_mul, Nat.mul_assoc, Nat.add_assoc]
          dsimp only
          rw [Option.getD_some, List.length_cons, shift]
          split
          · next small =>
              rw [ih small]
              simp [Hex.isDigit, digit]
          · next large =>
              -- The number only grows, so what is too large already cannot fit in the end.
              refine iff_of_false (by simp) ?_
              rintro ⟨-, rfl, small⟩
              have grows : n * 16 + d ≤ (n * 16 + d) * 16 ^ ds.length :=
                Nat.le_mul_of_pos_right _ (Nat.pow_pos (by decide))
              refine large (decide_eq_true ?_)
              have bound := of_decide_eq_true small
              omega

/-- A text that spells a number: at least one digit, with leading zeros allowed. -/
def SpelledBy (n : Nat) (s : String) : Prop :=
  ∃ ds, Hex.Marked s ds ∧ ds ≠ [] ∧ Hex.value ds = n

instance (n : Nat) (s : String) : Decidable (SpelledBy n s) :=
  decidable_of_iff _ (Hex.exists_marked_iff (P := fun ds => ds ≠ [] ∧ Hex.value ds = n)).symm

def SpelledBy64 (n : Nat) (s : String) : Prop :=
  Width.fits64 n = true ∧ SpelledBy n s

instance (n : Nat) (s : String) : Decidable (SpelledBy64 n s) :=
  inferInstanceAs (Decidable (_ ∧ _))

theorem readDigits_of_digits {ds : List Char} (some : ds ≠ []) (digits : ∀ c ∈ ds, Hex.isDigit c = true) :
    readDigits ds = readFrom 0 ds := by
  unfold readDigits
  split
  · exact absurd rfl some
  · exact absurd (digits '+' (.head _)) (by decide)
  · exact absurd (digits '+' (.head _)) (by decide)
  · rfl

theorem dropPlus_of_digits {ds : List Char} (digits : ∀ c ∈ ds, Hex.isDigit c = true) :
    dropPlus ds = ds := by
  unfold dropPlus
  split
  · exact absurd (digits '+' (.head _)) (by decide)
  · exact absurd (digits '+' (.head _)) (by decide)
  · rfl

theorem readAmount?_of_digits {ds : List Char} (some : ds ≠ []) (digits : ∀ c ∈ ds, Hex.isDigit c = true) :
    readAmount? ds = .some (Hex.value ds) := by
  have kept : ds.filter (· ≠ '_') = ds := by
    refine List.filter_eq_self.2 fun c hc => decide_eq_true ?_
    rintro rfl
    exact absurd (digits '_' hc) (by decide)
  rw [readAmount?, dropPlus_of_digits digits]
  split
  · exact absurd rfl some
  · exact absurd (digits '_' (.head _)) (by decide)
  · rw [kept]
    exact if_pos (List.all_eq_true.2 digits)

theorem SpelledBy64.parse64 {n : Nat} {s : String} (h : SpelledBy64 n s) : Quantity.parse64 s = .ok n := by
  obtain ⟨fits, ds, marked, some, rfl⟩ := h
  have read : readFrom 0 ds = .ok (Hex.value ds) :=
    (readFrom_eq_ok_iff rfl).2 ⟨marked.digits, by rw [Nat.zero_mul, Nat.zero_add], fits⟩
  rw [Quantity.parse64, marked.dropMarker, readDigits_of_digits some marked.digits, read]

theorem SpelledBy.parse {n : Nat} {s : String} (h : SpelledBy n s) : Quantity.parse s = .ok n := by
  obtain ⟨ds, marked, some, rfl⟩ := h
  simp only [Quantity.parse, marked.dropMarker, List.isEmpty_eq_false_iff.2 some, Bool.false_eq_true,
    if_false, readAmount?_of_digits some marked.digits]

end Quantity

end WalletWatch
