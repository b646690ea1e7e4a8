import WalletWatch.Proofs.Identifier
import WalletWatch.Proofs.Node.Quantity

/-!
# The texts of quantities

`parse` and `parse64` read digits in either case after an optional marker. An amount may also have no digits
at all, and `parse64` takes numbers of 64 bits with at least one digit. Both take a plus sign in front, and
`parse` takes underscores anywhere but in front (`Spaced`). Nothing else is read, so a text without these
signs is read exactly if it consists of digits.
-/

namespace WalletWatch

namespace Hex

/-! ## The digits of a number -/

theorem digitValue?_digitChar {n : Nat} (h : n < 16) : digitValue? n.digitChar = some n := by
  have all : ∀ n < 16, digitValue? n.digitChar = some n := by decide
  exact all n h

theorem value?_toDigits (n : Nat) : value? (Nat.toDigits 16 n) = some n := by
  rw [value?_eq_some_iff]
  induction n using Nat.strongRecOn with
  | ind n ih =>
      have last : ∀ {k}, k < 16 → isDigit k.digitChar = true ∧ value [k.digitChar] = k := fun small => by
        simp [isDigit, value, digitValue?_digitChar small]
      by_cases small : n < 16
      · rw [Nat.toDigits_of_lt_base small]
        exact ⟨List.forall_mem_singleton.2 (last small).1, (last small).2⟩
      · obtain ⟨digits, number⟩ := ih (n / 16) (by omega)
        obtain ⟨digit, rest⟩ := last (Nat.mod_lt n (by decide))
        rw [Nat.toDigits_of_base_le (by decide) (by omega), value_append, number, rest]
        exact ⟨List.forall_mem_append.2 ⟨digits, List.forall_mem_singleton.2 digit⟩, Nat.div_add_mod' n 16⟩

end Hex

namespace Quantity

theorem spelledBy_text (n : Nat) : SpelledBy n (text n) := by
  obtain ⟨digits, number⟩ := Hex.value?_eq_some_iff.1 (Hex.value?_toDigits n)
  exact ⟨Nat.toDigits 16 n, ⟨⟨['0', 'x'], by decide, String.toList_ofList⟩, digits⟩, Nat.toDigits_ne_nil, number⟩

/-! ## Marks -/

def unmarked (s : String) : List Char :=
  Hex.dropMarker s.toList

/-- `Signed cs ds`: `cs` is `ds` with or without a plus sign in front. -/
def Signed (cs ds : List Char) : Prop :=
  cs = ds ∨ cs = '+' :: ds

theorem Signed.eq_of_head {cs ds : List Char} (signed : Signed cs ds) (unsigned : cs.head? ≠ some '+') :
    cs = ds :=
  signed.resolve_right fun plus => unsigned (by rw [plus, List.head?_cons])

theorem Signed.mem_underscore {cs ds : List Char} (signed : Signed cs ds) : '_' ∈ cs ↔ '_' ∈ ds := by
  rcases signed with rfl | rfl
  · exact Iff.rfl
  · exact List.mem_cons.trans (or_iff_right (by decide))

/-- Digits with underscores anywhere but in front. -/
structure Spaced (ds : List Char) : Prop where
  given : ds ≠ []
  front : ds.head? ≠ some '_'
  known : ∀ c ∈ ds, Hex.isDigit c = true ∨ c = '_'

def spacedValue (ds : List Char) : Nat :=
  Hex.value (ds.filter (· ≠ '_'))

theorem Spaced.head?_ne_plus {ds : List Char} (spaced : Spaced ds) : ds.head? ≠ some '+' := by
  intro front
  rcases spaced.known '+' (List.mem_of_head? front) with digit | line
  · exact absurd digit (by decide)
  · exact absurd line (by decide)

/-- Without an underscore in front, `Spaced` is about the other characters only. -/
theorem spaced_iff_filter {ds : List Char} (given : ds ≠ []) (front : ds.head? ≠ some '_') :
    Spaced ds ↔ ∀ c ∈ ds.filter (· ≠ '_'), Hex.isDigit c = true := by
  constructor
  · intro spaced c hc
    obtain ⟨member, plain⟩ := List.mem_filter.1 hc
    exact (spaced.known c member).resolve_right (of_decide_eq_true plain)
  · refine fun digits => ⟨given, front, fun c hc => ?_⟩
    by_cases line : c = '_'
    · exact .inr line
    · exact .inl (digits c (List.mem_filter.2 ⟨hc, decide_eq_true line⟩))

theorem underscore_not_mem_of_digits {ds : List Char} (digits : ∀ c ∈ ds, Hex.isDigit c = true) : '_' ∉ ds :=
  fun line => absurd (digits '_' line) (by decide)

theorem spaced_iff_of_plain {ds : List Char} {n : Nat} (plain : '_' ∉ ds) : Spaced ds ∧ spacedValue ds = n ↔
    ds ≠ [] ∧ (∀ c ∈ ds, Hex.isDigit c = true) ∧ Hex.value ds = n := by
  have kept : ds.filter (· ≠ '_') = ds :=
    List.filter_eq_self.2 fun c hc => decide_eq_true fun line => plain (line ▸ hc)
  constructor
  · rintro ⟨spaced, number⟩
    have digits := (spaced_iff_filter spaced.given spaced.front).1 spaced
    rw [spacedValue, kept] at number
    rw [kept] at digits
    exact ⟨spaced.given, digits, number⟩
  · rintro ⟨given, digits, number⟩
    have front : ds.head? ≠ some '_' := fun line => plain (List.mem_of_head? line)
    rw [spaced_iff_filter given front, spacedValue, kept]
    exact ⟨digits, number⟩

/-! ## What the readers take -/

theorem readFrom_zero_eq_ok_iff {ds : List Char} {n : Nat} : readFrom 0 ds = .ok n ↔
    (∀ c ∈ ds, Hex.isDigit c = true) ∧ Hex.value ds = n ∧ n < 2 ^ 64 := by
  rw [readFrom_eq_ok_iff rfl, Nat.zero_mul, Nat.zero_add, Width.fits64, decide_eq_true_eq]
  exact Iff.rfl

theorem readDigits_eq_ok_iff {cs : List Char} {n : Nat} :
    readDigits cs = .ok n ↔ ∃ ds, Signed cs ds ∧ ds ≠ [] ∧
    (∀ c ∈ ds, Hex.isDigit c = true) ∧ Hex.value ds = n ∧ n < 2 ^ 64 := by
  constructor
  · intro h
    unfold readDigits at h
    split at h
    · cases h
    · cases h
    · next ds given => exact ⟨ds, .inr rfl, fun empty => given (empty ▸ rfl), readFrom_zero_eq_ok_iff.1 h⟩
    · next given _ _ => exact ⟨cs, .inl rfl, given, readFrom_zero_eq_ok_iff.1 h⟩
  · rintro ⟨ds, rfl | rfl, given, number⟩
    · rw [readDigits_of_digits given number.1, readFrom_zero_eq_ok_iff]
      exact number
    · rw [readDigits, readFrom_zero_eq_ok_iff]
      · exact number
      · exact given

theorem signed_dropPlus (cs : List Char) : Signed cs (dropPlus cs) := by
  unfold dropPlus
  split
  · exact .inl rfl
  · exact .inr rfl
  · exact .inl rfl

theorem dropPlus_of_signed {cs ds : List Char} (signed : Signed cs ds) (unsigned : ds.head? ≠ some '+') :
    dropPlus cs = ds := by
  rcases signed with rfl | rfl
  · unfold dropPlus
    split
    · rfl
    · exact absurd rfl unsigned
    · rfl
  · unfold dropPlus
    split
    · next plus => exact absurd (by rw [(List.cons.inj plus).2, List.head?_cons]) unsigned
    · next same => exact (List.cons.inj same).2.symm
    · next none => exact absurd rfl (none ds)

theorem readAmount?_eq_some_iff {cs : List Char} {n : Nat} : readAmount? cs = some n ↔
    ∃ ds, Signed cs ds ∧ Spaced ds ∧ spacedValue ds = n := by
  have unsigned : readAmount? cs = some n ↔ Spaced (dropPlus cs) ∧ spacedValue (dropPlus cs) = n := by
    rw [readAmount?]
    split
    · next empty => exact iff_of_false (Option.some_ne_none n).symm fun h => h.1.given empty
    · next line =>
        refine iff_of_false (Option.some_ne_none n).symm fun h => h.1.front ?_
        rw [line, List.head?_cons]
    · next given front =>
        have digit : (dropPlus cs).head? ≠ some '_' := by
          intro line
          obtain ⟨tail, whole⟩ := List.head?_eq_some_iff.1 line
          exact front tail whole
        rw [Hex.value?_eq_some_iff, spaced_iff_filter given digit]
        rfl
  rw [unsigned]
  constructor
  · exact fun h => ⟨_, signed_dropPlus cs, h⟩
  · rintro ⟨ds, signed, spaced, number⟩
    rw [dropPlus_of_signed signed spaced.head?_ne_plus]
    exact ⟨spaced, number⟩

theorem parse64_eq_ok_iff {s : String} {n : Nat} :
    parse64 s = .ok n ↔ ∃ ds, Signed (unmarked s) ds ∧ ds ≠ [] ∧
    (∀ c ∈ ds, Hex.isDigit c = true) ∧ Hex.value ds = n ∧ n < 2 ^ 64 := by
  rw [← readDigits_eq_ok_iff, parse64, unmarked]
  cases readDigits (Hex.dropMarker s.toList) with
  | ok m => rw [Except.ok.injEq, Except.ok.injEq]
  | error fault => simp only [reduceCtorEq]

theorem parse_eq_ok_iff {s : String} {n : Nat} : parse s = .ok n ↔ unmarked s = [] ∧ n = 0 ∨
    ∃ ds, Signed (unmarked s) ds ∧ Spaced ds ∧ spacedValue ds = n := by
  rw [← readAmount?_eq_some_iff, parse, unmarked]
  generalize Hex.dropMarker s.toList = cs
  cases cs with
  | nil =>
      have nothing : readAmount? [] = none := rfl
      simp [nothing, eq_comm]
  | cons c cs =>
      dsimp only [List.isEmpty_cons]
      cases readAmount? (c :: cs) <;> simp

/-! ## Texts without marks -/

theorem parse64_iff_of_unsigned {s : String} {n : Nat} (unsigned : (unmarked s).head? ≠ some '+') :
    parse64 s = .ok n ↔ unmarked s ≠ [] ∧ (∀ c ∈ unmarked s, Hex.isDigit c = true) ∧
      Hex.value (unmarked s) = n ∧ n < 2 ^ 64 := by
  rw [parse64_eq_ok_iff]
  constructor
  · rintro ⟨ds, signed, number⟩
    rwa [signed.eq_of_head unsigned]
  · exact fun number => ⟨_, .inl rfl, number⟩

theorem parse_iff_of_unmarked {s : String} {n : Nat} (unsigned : (unmarked s).head? ≠ some '+')
    (plain : '_' ∉ unmarked s) : parse s = .ok n ↔
      (∀ c ∈ unmarked s, Hex.isDigit c = true) ∧ Hex.value (unmarked s) = n := by
  rw [parse_eq_ok_iff]
  constructor
  · rintro (⟨empty, rfl⟩ | ⟨ds, signed, amount⟩)
    · rw [empty]
      exact ⟨List.forall_mem_nil _, rfl⟩
    · obtain rfl := signed.eq_of_head unsigned
      exact ((spaced_iff_of_plain plain).1 amount).2
  · intro number
    by_cases empty : unmarked s = []
    · rw [empty] at number
      exact .inl ⟨empty, number.2.symm⟩
    · exact .inr ⟨_, .inl rfl, (spaced_iff_of_plain plain).2 ⟨empty, number⟩⟩

/-- `parse64` reads what `parse` reads, except for an empty text, underscores and more than 64 bits. -/
theorem parse64_iff_parse {s : String} {n : Nat} : parse64 s = .ok n ↔ parse s = .ok n ∧ unmarked s ≠ [] ∧
    '_' ∉ unmarked s ∧ n < 2 ^ 64 := by
  rw [parse64_eq_ok_iff, parse_eq_ok_iff]
  constructor
  · rintro ⟨ds, signed, given, digits, number, small⟩
    have plain := underscore_not_mem_of_digits digits
    refine ⟨.inr ⟨ds, signed, (spaced_iff_of_plain plain).2 ⟨given, digits, number⟩⟩, ?_, ?_, small⟩
    · rcases signed with same | plus
      · rwa [same]
      · rw [plus]
        exact List.cons_ne_nil _ _
    · rwa [signed.mem_underscore]
  · rintro ⟨⟨empty, -⟩ | ⟨ds, signed, amount⟩, given, plain, small⟩
    · exact absurd empty given
    · rw [signed.mem_underscore] at plain
      obtain ⟨nonempty, digits, number⟩ := (spaced_iff_of_plain plain).1 amount
      exact ⟨ds, signed, nonempty, digits, number, small⟩

/-- After an optional marker and plus sign, `parse64` takes one or more digits, and `parse` takes digits
with underscores anywhere but in front, or nothing. Without a plus sign and without underscores they take
exactly digits. Where both give a number it is the same, and they differ only on an empty text,
underscores and more than 64 bits. `text` is read back by both. -/
theorem parse64_parse_eq_ok_iff (s : String) (n : Nat) :
    (parse64 s = .ok n ↔ ∃ ds, Signed (unmarked s) ds ∧ ds ≠ [] ∧
      (∀ c ∈ ds, Hex.isDigit c = true) ∧ Hex.value ds = n ∧ n < 2 ^ 64) ∧
    (parse s = .ok n ↔ unmarked s = [] ∧ n = 0 ∨
      ∃ ds, Signed (unmarked s) ds ∧ Spaced ds ∧ spacedValue ds = n) ∧
    ((unmarked s).head? ≠ some '+' →
      (parse64 s = .ok n ↔ unmarked s ≠ [] ∧ (∀ c ∈ unmarked s, Hex.isDigit c = true) ∧
        Hex.value (unmarked s) = n ∧ n < 2 ^ 64) ∧
      ('_' ∉ unmarked s →
        (parse s = .ok n ↔ (∀ c ∈ unmarked s, Hex.isDigit c = true) ∧ Hex.value (unmarked s) = n))) ∧
    (parse64 s = .ok n ↔ parse s = .ok n ∧ unmarked s ≠ [] ∧ '_' ∉ unmarked s ∧ n < 2 ^ 64) ∧
    parse (text n) = .ok n ∧ (n < 2 ^ 64 → parse64 (text n) = .ok n) :=
  ⟨parse64_eq_ok_iff, parse_eq_ok_iff,
    fun unsigned => ⟨parse64_iff_of_unsigned unsigned, parse_iff_of_unmarked unsigned⟩, parse64_iff_parse,
    (spelledBy_text n).parse, fun small => SpelledBy64.parse64 ⟨decide_eq_true small, spelledBy_text n⟩⟩

/-- Leading zeros and digits of both cases after a capital marker, no digits at all, one more than fits,
and the largest number that fits. -/
theorem parse64_parse_eq_ok_iff_four_texts :
    (parse64 "0X00000000000000000000fF" = .ok 255 ∧ parse "0X00000000000000000000fF" = .ok 255) ∧
      (parse "0x" = .ok 0 ∧ parse64 "0x" ≠ .ok 0) ∧
      (parse "0x10000000000000000" = .ok (2 ^ 64) ∧ parse64 "0x10000000000000000" ≠ .ok (2 ^ 64)) ∧
      parse64 (text (2 ^ 64 - 1)) = .ok (2 ^ 64 - 1) := by
  have zeros := (parse64_parse_eq_ok_iff "0X00000000000000000000fF" 255).2.2.1 (by decide)
  have none := (parse64_parse_eq_ok_iff "0x" 0).2.2.1 (by decide)
  have wide := (parse64_parse_eq_ok_iff "0x10000000000000000" (2 ^ 64)).2.2.1 (by decide)
  have last := (parse64_parse_eq_ok_iff "" (2 ^ 64 - 1)).2.2.2.2.2 (by decide)
  have digits : ∀ c ∈ unmarked "0X00000000000000000000fF", Hex.isDigit c = true :=
    List.all_eq_true.1 (by decide +kernel)
  have number : Hex.value (unmarked "0X00000000000000000000fF") = 255 := by decide +kernel
  have more : ∀ c ∈ unmarked "0x10000000000000000", Hex.isDigit c = true := List.all_eq_true.1 (by decide +kernel)
  refine ⟨⟨zeros.1.2 ⟨by decide, digits, number, by decide⟩, (zeros.2 (by decide)).2 ⟨digits, number⟩⟩,
    ⟨(none.2 (by decide)).2 ⟨List.forall_mem_nil _, rfl⟩, fun read => (none.1.1 read).1 rfl⟩,
    ⟨(wide.2 (by decide)).2 ⟨more, by decide +kernel⟩, fun read => ?_⟩, last⟩
  exact absurd (wide.1.1 read).2.2.2 (Nat.lt_irrefl _)

/-- A plus sign is no digit, but both readers take it, and `parse` also takes an underscore. -/
theorem parse_plus_underscore :
    (parse64 "0x+10" = .ok 16 ∧ parse "0x+10" = .ok 16 ∧
      ¬ ∀ c ∈ unmarked "0x+10", Hex.isDigit c = true) ∧
    parse "0x1_0" = .ok 16 ∧ (∀ n, parse64 "0x1_0" ≠ .ok n) ∧
      ¬ ∀ c ∈ unmarked "0x1_0", Hex.isDigit c = true := by
  refine ⟨⟨rfl, rfl, fun digits => ?_⟩, rfl, fun n read => ?_, fun digits => ?_⟩
  · exact absurd (digits '+' (by decide)) (by decide)
  · cases read
  · exact underscore_not_mem_of_digits digits (by decide)

end Quantity

end WalletWatch
