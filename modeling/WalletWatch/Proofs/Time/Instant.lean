import Mathlib.Algebra.Ring.Nat
import WalletWatch.Proofs.Number.Decimal
import WalletWatch.Proofs.Time.Calendar
import WalletWatch.Time.Reader

/-!
# Instants are read back

Every instant of the calendar is read back from its text, with leap seconds and signed years. Each part of
the text has a lemma about its reader, with any text after it that may follow.
-/

namespace WalletWatch

namespace Text

theorem trimStart_cons {c : Char} (h : isBlank c = false) (cs : List Char) :
    trimStart (c :: cs) = c :: cs :=
  List.dropWhile_cons_of_neg (by simp [h])

theorem isBlank_of_isDigit {c : Char} (h : c.isDigit = true) : isBlank c = false := by
  obtain ⟨low, high⟩ := Decimal.range_of_isDigit h
  simp [isBlank, Char.le_def, UInt32.le_iff_toNat_le, Char.ext_iff, ← UInt32.toNat_inj, ← Char.toNat_val] at *
  omega

end Text

namespace Instant

theorem isDigit_of_mem_pad {w n : Nat} {c : Char} (h : c ∈ pad w n) : c.isDigit = true := by
  rcases List.mem_append.1 h with h | h
  · rw [List.eq_of_mem_replicate h]
    rfl
  · exact Decimal.isDigit_of_mem_toDigits h

@[simp] theorem value_pad (w n : Nat) : Decimal.value (pad w n) = n := by
  rw [Decimal.value_eq_ofDigitChars, pad, Nat.ofDigitChars_append, Nat.ofDigitChars_replicate_zero,
    Nat.mul_zero, Nat.ofDigitChars_ten_toDigits]

theorem pad_ne_nil (w n : Nat) : pad w n ≠ [] := by
  simp [pad, Nat.toDigits_ne_nil]

theorem length_pad {w n : Nat} (hw : 0 < w) (hn : n < 10 ^ w) : (pad w n).length = w := by
  have short := (Nat.length_toDigits_le_iff (b := 10) (by decide) hw).2 hn
  rw [pad, List.length_append, List.length_replicate, Nat.sub_add_cancel short]

theorem spanDigits_append {ds rest : List Char} {limit : Nat} (digits : ∀ c ∈ ds, c.isDigit = true)
    (fits : ds.length ≤ limit) (stop : ds.length = limit ∨ ∀ c ∈ rest.head?, c.isDigit = false) :
    spanDigits limit (ds ++ rest) = (ds, rest) := by
  induction ds generalizing limit with
  | nil =>
      cases limit with
      | zero => rfl
      | succ limit =>
          cases rest with
          | nil => rfl
          | cons c rest =>
              have other := stop.resolve_left (by simp) c rfl
              simp [spanDigits, other]
  | cons d ds ih =>
      cases limit with
      | zero => simp at fits
      | succ limit =>
          have more := ih (fun c hc => digits c (.tail _ hc)) (Nat.le_of_succ_le_succ fits)
            (stop.imp_left Nat.succ.inj)
          simp [spanDigits, digits d (.head _), more]

theorem trimStart_digits {ds rest : List Char} (digits : ∀ c ∈ ds, c.isDigit = true) (some : ds ≠ []) :
    Text.trimStart (ds ++ rest) = ds ++ rest := by
  obtain ⟨d, ds, rfl⟩ := List.exists_cons_of_ne_nil some
  exact Text.trimStart_cons (Text.isBlank_of_isDigit (digits d (.head _))) _

theorem readField_pad {w n : Nat} (hw : 0 < w) (hn : n < 10 ^ w) (rest : List Char) :
    readField w (pad w n ++ rest) = some (n, rest) := by
  have digits : ∀ c ∈ pad w n, c.isDigit = true := fun _ => isDigit_of_mem_pad
  have length := length_pad hw hn
  rw [readField, trimStart_digits digits (pad_ne_nil w n),
    spanDigits_append digits (Nat.le_of_eq length) (.inl length)]
  simp [pad_ne_nil]

theorem readLong_append {ds rest : List Char} (digits : ∀ c ∈ ds, c.isDigit = true) (some : ds ≠ [])
    (stop : ∀ c ∈ rest.head?, c.isDigit = false) :
    readLong (ds ++ rest) = .some (Decimal.value ds, rest) := by
  rw [readLong, spanDigits_append digits (by simp) (.inr stop)]
  simp [some]

theorem readYear_writeYear {rest : List Char} (y : Int) (stop : ∀ c ∈ rest.head?, c.isDigit = false) :
    readYear (writeYear y ++ rest) = some (y, rest) := by
  have digits : ∀ n, ∀ c ∈ pad 4 n, c.isDigit = true := fun _ _ => isDigit_of_mem_pad
  unfold writeYear
  split
  · next short =>
      obtain ⟨d, ds, hd⟩ := List.exists_cons_of_ne_nil (pad_ne_nil 4 y.toNat)
      have digit : d.isDigit = true := digits y.toNat d (hd ▸ .head _)
      rw [readYear, trimStart_digits (digits _) (pad_ne_nil _ _)]
      split
      · next minus =>
          rw [hd] at minus
          cases minus
          cases digit
      · next plus =>
          rw [hd] at plus
          cases plus
          cases digit
      · rw [readField_pad (by decide) (by omega)]
        simp only [Option.map_some, Option.some.injEq, Prod.mk.injEq, and_true]
        omega
  · split
    · next negative =>
        rw [List.cons_append, readYear, Text.trimStart_cons (by decide)]
        simp only [readLong_append (digits _) (pad_ne_nil _ _) stop, value_pad, Option.map_some]
        congr 2
        omega
    · next far =>
        rw [List.cons_append, readYear, Text.trimStart_cons (by decide)]
        simp only [readLong_append (digits _) (pad_ne_nil _ _) stop, value_pad, Option.map_some]
        congr 2
        omega

theorem readMark_cons {c : Char} (h : Text.isBlank c = false) (rest : List Char) :
    readMark c (c :: rest) = some rest := by
  simp [readMark, Text.trimStart_cons h]

theorem readFraction_pad {w n : Nat} {rest : List Char} (hw : 0 < w) (hn : n < 10 ^ w) (nine : w ≤ 9)
    (stop : ∀ c ∈ rest.head?, c.isDigit = false) :
    readFraction ('.' :: (pad w n ++ rest)) = some (n * 10 ^ (9 - w), rest) := by
  have digits : ∀ c ∈ pad w n, c.isDigit = true := fun _ => isDigit_of_mem_pad
  have length := length_pad hw hn
  have behind : rest.dropWhile Char.isDigit = rest := by
    cases rest with
    | nil => rfl
    | cons c rest => exact List.dropWhile_cons_of_neg (by simp [stop c rfl])
  rw [readFraction, spanDigits_append digits (by omega) (.inr stop)]
  simp [pad_ne_nil, length, behind]

theorem readFraction_writeFraction {n : Nat} {rest : List Char} (hn : n < 1000000000)
    (stop : ∀ c ∈ rest.head?, c.isDigit = false) (mark : rest.head? ≠ some '.') :
    readFraction (writeFraction n ++ rest) = some (n, rest) := by
  unfold writeFraction
  split
  · next none =>
      rw [List.nil_append, none, readFraction]
      rintro cs rfl
      exact mark rfl
  · split
    · rw [List.cons_append, readFraction_pad (by decide) (by omega) (by decide) stop]
      congr 2
      omega
    · split
      · rw [List.cons_append, readFraction_pad (by decide) (by omega) (by decide) stop]
        congr 2
        omega
      · rw [List.cons_append, readFraction_pad (by decide) (by omega) (by decide) stop]
        congr 2
        omega

theorem of?_self (t : Instant) : of? t.day t.second t.nano = some t := by
  rw [of?, dif_pos ⟨t.day_ge, t.day_le, t.second_lt, t.nano_lt, t.leap⟩]

theorem ofLocal?_eq (t : Instant) :
    ofLocal? (CivilDate.ofDays t.day) (t.second / 3600) (t.second / 60 % 60)
      (t.second % 60 + t.nano / 1000000000) (t.nano % 1000000000) 0 = some t := by
  have second := t.second_lt
  have nano := t.nano_lt
  have leap := t.leap
  have good : ((CivilDate.ofDays t.day).isValid && decide (t.second / 3600 ≤ 23) &&
      decide (t.second / 60 % 60 ≤ 59) && decide (t.second % 60 + t.nano / 1000000000 ≤ 60) &&
      decide ((0 : Int).natAbs < 86400)) = true := by
    simp [CivilDate.isValid_ofDays]
    omega
  rw [ofLocal?, if_pos good]
  have shown : (if t.second % 60 + t.nano / 1000000000 = 60
      then (59, t.nano % 1000000000 + 1000000000)
      else (t.second % 60 + t.nano / 1000000000, t.nano % 1000000000)) = (t.second % 60, t.nano) := by
    split <;> ext <;> dsimp only <;> omega
  have inDay : t.second / 3600 * 3600 + t.second / 60 % 60 * 60 + t.second % 60 = t.second := by
    omega
  have day : t.day + (t.second : Int) / 86400 = t.day := by omega
  have rest : ((t.second : Int) % 86400).toNat = t.second := by omega
  simp only [shown, inDay, CivilDate.toDays_ofDays, of?_self, Int.sub_zero, day, rest]

theorem parse?_text (t : Instant) : parse? t.text = some t := by
  obtain ⟨⟨⟨month_pos, month⟩, day_pos⟩, day⟩ : ((1 ≤ (CivilDate.ofDays t.day).month ∧
      (CivilDate.ofDays t.day).month ≤ 12) ∧ 1 ≤ (CivilDate.ofDays t.day).day) ∧
      (CivilDate.ofDays t.day).day ≤
        CivilDate.monthLength (CivilDate.ofDays t.day).year (CivilDate.ofDays t.day).month := by
    simpa [CivilDate.isValid] using CivilDate.isValid_ofDays t.day
  have days := CivilDate.monthLength_le (CivilDate.ofDays t.day).year (CivilDate.ofDays t.day).month
  have second := t.second_lt
  have nano := t.nano_lt
  rw [parse?, text, writeLocal, String.toList_ofList]
  simp only [List.append_assoc, List.cons_append, Option.bind_eq_bind]
  rw [readYear_writeYear _ (by simp), Option.bind_some, readMark_cons (by decide), Option.bind_some,
    readField_pad (by decide) (by omega), Option.bind_some, readMark_cons (by decide),
    Option.bind_some, readField_pad (by decide) (by omega), Option.bind_some]
  simp only [decide_true, Bool.true_or, if_true, Option.bind_some]
  rw [readField_pad (by decide) (by omega), Option.bind_some, readMark_cons (by decide),
    Option.bind_some, readField_pad (by decide) (by omega), Option.bind_some,
    readMark_cons (by decide), Option.bind_some, readField_pad (by decide) (by omega),
    Option.bind_some, readFraction_writeFraction (by omega) (by simp) (by simp), Option.bind_some]
  exact ofLocal?_eq t

end Instant

end WalletWatch
