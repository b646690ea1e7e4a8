import Mathlib.Data.List.Basic
import WalletWatch.Proofs.Number.Decimal

/-!
# Numbers with a sign

`Decimal.Signed` describes the texts of a number: at least one digit after a sign that the reader knows,
with leading zeros allowed. The readers of numbers read exactly these, and a reader of words keeps the
numbers that fit.
-/

namespace WalletWatch

/-! ## Words -/

theorem bind_fits_eq_some_iff {α β : Type} (read : Option β) (fits : β → Bool) (make : β → α) (back : α → β)
    (fits_back : ∀ a, fits (back a) = true) (make_back : ∀ a, make (back a) = a)
    (back_make : ∀ b, fits b = true → back (make b) = b) (a : α) :
    (read.bind fun b => if fits b then some (make b) else none) = some a ↔ read = some (back a) := by
  constructor
  · intro h
    obtain ⟨b, rfl, made⟩ := Option.bind_eq_some_iff.1 h
    split at made
    · next fit =>
        rw [← Option.some.inj made, back_make b fit]
    · cases made
  · rintro rfl
    rw [Option.bind_some, if_pos (fits_back a), make_back]

theorem Width.fitsSigned64_toInt (n : Int64) : fitsSigned64 n.toInt = true := by
  have low := n.le_toInt
  have high := n.toInt_lt
  simp only [fitsSigned64, Bool.and_eq_true, decide_eq_true_eq]
  omega

theorem Width.toInt_ofInt {n : Int} (fits : fitsSigned64 n = true) : (Int64.ofInt n).toInt = n := by
  simp only [fitsSigned64, Bool.and_eq_true, decide_eq_true_eq] at fits
  exact Int64.toInt_ofInt_of_le (by omega) (by omega)

/-! ## Readers -/

/-- The digits of a number after one of some signs. Leading zeros are allowed. -/
def Decimal.Signed (signs : List (List Char)) (s : String) (n : Nat) : Prop :=
  ∃ sign ∈ signs, ∃ ds, s.toList = sign ++ ds ∧ ds ≠ [] ∧ (∀ c ∈ ds, c.isDigit = true) ∧ Decimal.value ds = n

namespace Decimal

theorem natural?_of_digits {ds : List Char} (digits : ∀ c ∈ ds, c.isDigit = true) :
    natural? ds = digits? ds := by
  unfold natural?
  split
  · cases digits '+' (.head _)
  · rfl

theorem natural?_eq_some_iff {s : String} {n : Nat} :
    natural? s.toList = some n ↔ Signed [[], ['+']] s n := by
  constructor
  · intro h
    unfold natural? at h
    split at h
    · next ds spelled => exact ⟨['+'], by decide, ds, spelled, digits?_eq_some_iff.1 h⟩
    · exact ⟨[], by decide, s.toList, rfl, digits?_eq_some_iff.1 h⟩
  · rintro ⟨sign, known, ds, spelled, number⟩
    rw [spelled, ← digits?_eq_some_iff.2 number]
    rcases List.mem_pair.1 known with rfl | rfl
    · exact natural?_of_digits number.2.1
    · rfl

theorem integer?_eq_some_iff {s : String} {z : Int} : integer? s.toList = some z ↔
    (∃ n : Nat, Signed [[], ['+']] s n ∧ z = n) ∨ ∃ n : Nat, Signed [['-']] s n ∧ z = -n := by
  constructor
  · intro h
    unfold integer? at h
    split at h
    · next ds spelled =>
        obtain ⟨_, read, rfl⟩ := Option.map_eq_some_iff.1 h
        obtain ⟨n, number, ⟨⟩⟩ := Option.bind_eq_some_iff.1 read
        exact .inr ⟨n, ⟨['-'], by decide, ds, spelled, digits?_eq_some_iff.1 number⟩, rfl⟩
    · obtain ⟨_, read, rfl⟩ := Option.map_eq_some_iff.1 h
      obtain ⟨n, number, ⟨⟩⟩ := Option.bind_eq_some_iff.1 read
      exact .inl ⟨n, natural?_eq_some_iff.1 number, rfl⟩
  · rintro (⟨n, number, rfl⟩ | ⟨n, ⟨sign, known, ds, spelled, number⟩, rfl⟩)
    · unfold integer?
      split
      · next minus =>
          obtain ⟨sign, known, digits, spelled, -, digit, -⟩ := number
          rw [minus] at spelled
          rcases List.mem_pair.1 known with rfl | rfl
          · rw [List.nil_append] at spelled
            cases digit '-' (spelled ▸ List.mem_cons_self)
          · cases spelled
      · rw [natural?_eq_some_iff.2 number]
        rfl
    · rw [spelled, List.mem_singleton.1 known, List.singleton_append, integer?, digits?_eq_some_iff.2 number]
      rfl

theorem word?_map_eq_some_iff {s : String} {w : Int64} : (word? s.toList).map Int64.ofInt = some w ↔
    (∃ n : Nat, Signed [[], ['+']] s n ∧ w.toInt = n) ∨ ∃ n : Nat, Signed [['-']] s n ∧ w.toInt = -n := by
  have made : (word? s.toList).map Int64.ofInt =
      (integer? s.toList).bind fun n => if Width.fitsSigned64 n then some (Int64.ofInt n) else none := by
    rw [word?]
    cases integer? s.toList with
    | none => rfl
    | some n => exact apply_ite (Option.map Int64.ofInt) ..
  rw [made, bind_fits_eq_some_iff _ _ _ Int64.toInt Width.fitsSigned64_toInt (fun _ => Int64.ofInt_toInt _)
    fun _ => Width.toInt_ofInt]
  exact integer?_eq_some_iff

end Decimal

end WalletWatch
