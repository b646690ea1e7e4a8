import WalletWatch.Address
import WalletWatch.Proofs.Hex

/-!
# Identifiers are read back from their texts

The text of an address, a word or a transaction hash has a marker and as many digits as `Hex.decodeSized`
asks for, so each identifier is read back from its own text.
-/

namespace WalletWatch

theorem identifierDigits_marked {ds : List Char} (h : ∀ c ∈ ds, Hex.isDigit c = true) :
    identifierDigits (String.ofList ('0' :: 'x' :: ds)) = ds := by
  have plain : Text.trim ('0' :: 'x' :: ds) = '0' :: 'x' :: ds :=
    Text.trim_of_not_blank (Hex.not_isBlank_of_dropMarker (by simpa [Hex.dropMarker] using h))
  rw [identifierDigits, String.toList_ofList, plain, Hex.dropMarker]

theorem Hex.value?_digits (width n : Nat) : value? (digits width n) = some (n % 16 ^ width) := by
  rw [value?, if_pos (List.all_eq_true.2 fun _ => isDigit_of_mem_digits), value_digits]

namespace Address

theorem ofNat_toNat (a : Address) : ofNat a.toNat = a := by
  cases a with
  | mk n lt =>
      rw [ofNat, Address.mk.injEq]
      exact Nat.mod_eq_of_lt lt

theorem parse_text (a : Address) : parse a.text = .ok a := by
  have digits : ∀ c ∈ Hex.digits 40 a.toNat, Hex.isDigit c = true := fun _ =>
    Hex.isDigit_of_mem_digits
  have small : a.toNat % 16 ^ 40 = a.toNat := Nat.mod_eq_of_lt a.toNat_lt
  simp only [parse, text, identifierDigits_marked digits, Hex.utf8Length_of_isDigit digits,
    Hex.length_digits, Hex.value?_digits, small, ofNat_toNat]
  rfl

end Address

namespace Word

theorem ofNat_toNat (w : Word) : ofNat w.toNat = w := by
  cases w with
  | mk n lt =>
      rw [ofNat, Word.mk.injEq]
      exact Nat.mod_eq_of_lt lt

theorem parse?_text (w : Word) : parse? w.text = some w := by
  have digits : ∀ c ∈ Hex.digits 64 w.toNat, Hex.isDigit c = true := fun _ =>
    Hex.isDigit_of_mem_digits
  have small : w.toNat % 16 ^ 64 = w.toNat := Nat.mod_eq_of_lt w.toNat_lt
  simp only [parse?, text, identifierDigits_marked digits, Hex.length_digits, Hex.value?_digits,
    small, Option.map_some, ofNat_toNat, if_true]

end Word

theorem TxHash.parse_text (h : TxHash) : parse h.text = .ok h := by
  rw [parse, text, Word.parse?_text]

end WalletWatch
