import WalletWatch.Number.Decimal

/-!
# Decimal digits

Decimal numbers are read back. `Nat.toDigits` writes no leading zero, and digits without a leading zero are
those of their value, so a number has one such form.
-/

namespace WalletWatch

namespace Decimal

theorem value_eq_ofDigitChars (ds : List Char) : value ds = Nat.ofDigitChars 10 ds 0 := by
  rw [value, Nat.ofDigitChars_eq_foldl]
  simp only [Nat.mul_comm]

@[simp] theorem value_toDigits (n : Nat) : value (Nat.toDigits 10 n) = n := by
  rw [value_eq_ofDigitChars, Nat.ofDigitChars_ten_toDigits]

theorem isDigit_of_mem_toDigits {c : Char} {n : Nat} (h : c ∈ Nat.toDigits 10 n) : c.isDigit = true :=
  Nat.isDigit_of_mem_toDigits (by decide) (by decide) h

theorem range_of_isDigit {c : Char} (h : c.isDigit = true) : 48 ≤ c.toNat ∧ c.toNat ≤ 57 := by
  simp only [Char.isDigit, Bool.and_eq_true, decide_eq_true_eq, ge_iff_le,
    UInt32.le_iff_toNat_le] at h
  exact h

theorem digitChar_of_isDigit {c : Char} (h : c.isDigit = true) :
    Nat.digitChar (c.toNat - '0'.toNat) = c := by
  obtain ⟨low, high⟩ := range_of_isDigit h
  have small : c.toNat - 48 < 10 := by omega
  apply Char.toNat_inj.1
  rw [show '0'.toNat = 48 from rfl, Nat.toNat_digitChar_of_lt_ten small]
  omega

theorem digits?_eq_some_iff {cs : List Char} {n : Nat} :
    digits? cs = some n ↔ cs ≠ [] ∧ (∀ c ∈ cs, c.isDigit = true) ∧ value cs = n := by
  unfold digits?
  split
  · next h =>
      rw [Bool.and_eq_true, Bool.not_eq_true', List.isEmpty_eq_false_iff, List.all_eq_true] at h
      exact ⟨fun hn => ⟨h.1, h.2, Option.some.inj hn⟩, fun hn => congrArg some hn.2.2⟩
  · next h =>
      rw [Bool.and_eq_true, Bool.not_eq_true', List.isEmpty_eq_false_iff, List.all_eq_true] at h
      exact ⟨nofun, fun hn => absurd ⟨hn.1, hn.2.1⟩ h⟩

theorem digits?_eq_none_of_not_isDigit {c : Char} {cs : List Char} (hc : c ∈ cs) (h : c.isDigit = false) :
    digits? cs = none := by
  rw [Option.eq_none_iff_forall_ne_some]
  intro n hn
  rw [(digits?_eq_some_iff.1 hn).2.1 c hc] at h
  cases h

@[simp] theorem digits?_toDigits (n : Nat) : digits? (Nat.toDigits 10 n) = some n :=
  digits?_eq_some_iff.2 ⟨Nat.toDigits_ne_nil, fun _ => isDigit_of_mem_toDigits, value_toDigits n⟩

theorem toDigits_append {ds : List Char} {n : Nat} (hn : 0 < n) (h : ∀ c ∈ ds, c.isDigit = true) :
    Nat.toDigits 10 n ++ ds =
      Nat.toDigits 10 (ds.foldl (fun n c => n * 10 + (c.toNat - '0'.toNat)) n) := by
  induction ds generalizing n with
  | nil => simp
  | cons c ds ih =>
      have digit := h c (.head _)
      obtain ⟨low, high⟩ := range_of_isDigit digit
      have small : c.toNat - '0'.toNat < 10 := by
        rw [show '0'.toNat = 48 from rfl]
        omega
      have next := Nat.toDigits_append_toDigits (b := 10) (by decide) hn small
      rw [Nat.toDigits_of_lt_base small, digitChar_of_isDigit digit, Nat.mul_comm 10] at next
      rw [List.foldl_cons, ← ih (by omega) fun d hd => h d (.tail _ hd), ← next]
      simp

theorem toDigits_value {c : Char} {cs : List Char} (h : ∀ d ∈ c :: cs, d.isDigit = true) (hc : c ≠ '0') :
    Nat.toDigits 10 (value (c :: cs)) = c :: cs := by
  have digit := h c (.head _)
  obtain ⟨low, high⟩ := range_of_isDigit digit
  have zero : '0'.toNat = 48 := rfl
  have positive : 0 < c.toNat - '0'.toNat := by
    have other : c.toNat ≠ '0'.toNat := fun he => hc (Char.toNat_inj.1 he)
    omega
  have small : c.toNat - '0'.toNat < 10 := by omega
  have rest := toDigits_append positive fun d hd => h d (.tail _ hd)
  rw [Nat.toDigits_of_lt_base small, digitChar_of_isDigit digit] at rest
  rw [value, List.foldl_cons, Nat.zero_mul, Nat.zero_add, ← rest, List.singleton_append]

theorem toDigits_eq_cons {n : Nat} (hn : 0 < n) : ∃ c cs, Nat.toDigits 10 n = c :: cs ∧ c ≠ '0' := by
  induction n using Nat.strongRecOn with
  | ind n ih =>
      by_cases small : n < 10
      · refine ⟨n.digitChar, [], Nat.toDigits_of_lt_base small, ?_⟩
        rw [ne_eq, Nat.digitChar_eq_zero]
        omega
      · obtain ⟨c, cs, hc, other⟩ := ih (n / 10) (by omega) (by omega)
        refine ⟨c, cs ++ [(n % 10).digitChar], ?_, other⟩
        rw [Nat.toDigits_of_base_le (by decide) (by omega), hc, List.cons_append]

end Decimal

end WalletWatch
