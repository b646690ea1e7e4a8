import Mathlib.Algebra.Ring.Nat
import Mathlib.Data.List.TakeWhile
import WalletWatch.Hex

/-!
# Hexadecimal digits

A digit is an ASCII character and not blank, so digits take one byte each, and `Text.trim` leaves digits as
they are, with or without a marker.
-/

namespace WalletWatch

namespace Text

theorem trimStart_of_not_blank {cs : List Char} (h : ∀ c ∈ cs, isBlank c = false) :
    trimStart cs = cs := by
  cases cs with
  | nil => rfl
  | cons c cs => rw [trimStart, List.dropWhile_cons_of_neg (by simp [h c])]

theorem trim_of_not_blank {cs : List Char} (h : ∀ c ∈ cs, isBlank c = false) : trim cs = cs := by
  have back : ∀ c ∈ cs.reverse, isBlank c = false := fun c hc => h c (List.mem_reverse.1 hc)
  rw [trim, trimStart_of_not_blank h, trimStart_of_not_blank back, List.reverse_reverse]

end Text

namespace Hex

theorem range_of_isDigit {c : Char} (h : isDigit c = true) : '0' ≤ c ∧ c ≤ 'f' := by
  simp only [isDigit, digitValue?] at h
  split at h
  · next hc =>
      simp only [Bool.and_eq_true, decide_eq_true_eq] at hc
      exact ⟨hc.1, Char.le_trans hc.2 (by decide)⟩
  · split at h
    · next hc =>
        simp only [Bool.and_eq_true, decide_eq_true_eq] at hc
        exact ⟨Char.le_trans (by decide) hc.1, hc.2⟩
    · split at h
      · next hc =>
          simp only [Bool.and_eq_true, decide_eq_true_eq] at hc
          exact ⟨Char.le_trans (by decide) hc.1, Char.le_trans hc.2 (by decide)⟩
      · cases h

theorem not_isBlank_of_range {c : Char} (low : '0' ≤ c) (high : c ≤ 'x') :
    Text.isBlank c = false := by
  rw [Char.le_def, UInt32.le_iff_toNat_le] at low high
  simp [Text.isBlank, Char.le_def, UInt32.le_iff_toNat_le, Char.ext_iff, ← UInt32.toNat_inj] at *
  omega

theorem utf8Size_of_isDigit {c : Char} (h : isDigit c = true) : c.utf8Size = 1 := by
  have high := (range_of_isDigit h).2
  have ascii : c.val ≤ 0x7f := UInt32.le_trans (Char.le_def.1 high) (by decide)
  simp [Char.utf8Size, ascii]

theorem utf8Length_of_isDigit {cs : List Char} (h : ∀ c ∈ cs, isDigit c = true) :
    Text.utf8Length cs = cs.length := by
  induction cs with
  | nil => rfl
  | cons c cs ih =>
      rw [Text.utf8Length, utf8Size_of_isDigit (h c (.head _)),
        ih fun d hd => h d (.tail _ hd), List.length_cons, Nat.add_comm]

theorem badDigit?_eq_none_iff {cs : List Char} :
    badDigit? cs = none ↔ ∀ c ∈ cs, isDigit c = true := by
  unfold badDigit?
  split
  · next hd => simpa [List.dropWhile_eq_nil_iff] using hd
  · next c rest hd =>
      constructor
      · intro h
        cases h
      · intro all
        rw [List.dropWhile_eq_nil_iff.2 (by simpa using all)] at hd
        cases hd

theorem not_isBlank_of_dropMarker {cs : List Char} (h : ∀ c ∈ dropMarker cs, isDigit c = true) :
    ∀ c ∈ cs, Text.isBlank c = false := by
  have plain : ∀ c, isDigit c = true → Text.isBlank c = false := fun c hc =>
    not_isBlank_of_range (range_of_isDigit hc).1 (Char.le_trans (range_of_isDigit hc).2 (by decide))
  unfold dropMarker at h
  split at h
  · rintro c (_ | ⟨_, _ | ⟨_, hc⟩⟩)
    · decide
    · decide
    · exact plain c (h c hc)
  · rintro c (_ | ⟨_, _ | ⟨_, hc⟩⟩)
    · decide
    · decide
    · exact plain c (h c hc)
  · exact fun c hc => plain c (h c hc)

theorem decodeSized_eq_ok_iff {size n : Nat} {cs : List Char} :
    decodeSized size cs = .ok n ↔
      (∀ c ∈ cs, isDigit c = true) ∧ cs.length = 2 * size ∧ n = value cs := by
  unfold decodeSized
  constructor
  · intro h
    split at h
    · cases h
    · split at h
      · cases h
      · next wide =>
          split at h
          · cases h
          · next good =>
              have all := badDigit?_eq_none_iff.1 good
              rw [utf8Length_of_isDigit all, ne_eq, Classical.not_not] at wide
              exact ⟨all, wide, (Except.ok.inj h).symm⟩
  · rintro ⟨all, wide, rfl⟩
    rw [utf8Length_of_isDigit all, wide, badDigit?_eq_none_iff.2 all]
    simp

theorem digitValue?_digit {n : Nat} (h : n < 16) : digitValue? (digit n) = some n := by
  have all : ∀ n < 16, digitValue? (digit n) = some n := by decide
  exact all n h

theorem isDigit_of_mem_digits {width n : Nat} {c : Char} (h : c ∈ digits width n) :
    isDigit c = true := by
  induction width generalizing n with
  | zero => cases h
  | succ width ih =>
      rcases List.mem_append.1 h with front | last
      · exact ih front
      · rw [List.mem_singleton.1 last, isDigit, digitValue?_digit (Nat.mod_lt _ (by decide))]
        rfl

@[simp] theorem length_digits (width n : Nat) : (digits width n).length = width := by
  induction width generalizing n with
  | zero => rfl
  | succ width ih => simp [digits, ih]

theorem value_digits (width n : Nat) : value (digits width n) = n % 16 ^ width := by
  induction width generalizing n with
  | zero => simp [digits, value, Nat.mod_one]
  | succ width ih =>
      have last := digitValue?_digit (Nat.mod_lt n (show 0 < 16 by decide))
      have front := ih (n / 16)
      rw [value] at front
      rw [value, digits, List.foldl_append, front, List.foldl_cons, List.foldl_nil, last,
        Option.getD_some, Nat.pow_succ, Nat.mul_comm (16 ^ width), Nat.mod_mul]
      omega

end Hex

end WalletWatch
