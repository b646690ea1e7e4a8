import WalletWatch.Json.Parser
import WalletWatch.Proofs.Number.Decimal

/-!
# The grammar of numbers

A `Numeral` is a number of the JSON grammar: a sign, a whole part without a leading zero, a fraction and an
exponent. A numeral is read in front of every text that cannot continue it, and nothing else is read as a
number. It is kept with its exponent in one form, and it is an unsigned integer exactly if its text has
digits only, which are then the decimal digits of its value.
-/

namespace WalletWatch

namespace Json

structure Digits where
  text : List Char
  ne_nil : text ≠ []
  isDigit : ∀ c ∈ text, c.isDigit = true

structure Exponent where
  capital : Bool
  /-- The sign, if there is one; a minus is `true`. -/
  sign : Option Bool
  digits : Digits

/-- A number as the grammar of JSON spells it. -/
structure Numeral where
  negative : Bool
  whole : Digits
  fraction : Option Digits
  exponent : Option Exponent
  leading : ∀ cs, whole.text = '0' :: cs → cs = []

namespace Exponent

def text (e : Exponent) : List Char :=
  (if e.capital then 'E' else 'e') :: match e.sign with
    | none => e.digits.text
    | some minus => (if minus then '-' else '+') :: e.digits.text

def kept (e : Exponent) : List Char :=
  'e' :: (if e.sign = some true then '-' else '+') :: e.digits.text

end Exponent

namespace Numeral

def signText (l : Numeral) : List Char :=
  if l.negative then ['-'] else []

def fractionText (l : Numeral) : List Char :=
  match l.fraction with
  | none => []
  | some ds => '.' :: ds.text

def exponentText (l : Numeral) : List Char :=
  match l.exponent with
  | none => []
  | some e => e.text

def text (l : Numeral) : List Char :=
  l.signText ++ l.whole.text ++ l.fractionText ++ l.exponentText

def exponentKept (l : Numeral) : List Char :=
  match l.exponent with
  | none => []
  | some e => e.kept

def kept (l : Numeral) : List Char :=
  l.signText ++ l.whole.text ++ l.fractionText ++ l.exponentKept

def isPlain (l : Numeral) : Bool :=
  !l.negative && l.fraction.isNone && l.exponent.isNone

end Numeral

/-- A text that cannot continue a number in front of it. -/
def Ends (rest : List Char) : Prop :=
  ∀ c ∈ rest.head?, c.isDigit = false ∧ c ≠ '.' ∧ c ≠ 'e' ∧ c ≠ 'E'

theorem ends_nil : Ends [] :=
  nofun

theorem ends_cons {c : Char} (rest : List Char)
    (h : c.isDigit = false ∧ c ≠ '.' ∧ c ≠ 'e' ∧ c ≠ 'E') : Ends (c :: rest) := by
  rintro _ ⟨⟩
  exact h

theorem spanDigits_append (ds : Digits) {rest : List Char}
    (stop : ∀ c ∈ rest.head?, c.isDigit = false) : spanDigits (ds.text ++ rest) = (ds.text, rest) := by
  have none : rest.takeWhile Char.isDigit = [] ∧ rest.dropWhile Char.isDigit = rest := by
    cases rest with
    | nil => exact ⟨rfl, rfl⟩
    | cons c rest => simp [stop c rfl]
  rw [spanDigits, List.takeWhile_append_of_pos ds.isDigit, List.dropWhile_append_of_pos ds.isDigit,
    none.1, none.2, List.append_nil]

theorem readExponent_of_ends {front rest : List Char} (ends : Ends rest) :
    readExponent front rest = some (front, rest) := by
  cases rest with
  | nil => rfl
  | cons c rest =>
      obtain ⟨-, -, small, capital⟩ := ends c rfl
      simp [readExponent, small, capital]

theorem Digits.exists_cons (ds : Digits) : ∃ d tail, ds.text = d :: tail ∧ d.isDigit = true := by
  obtain ⟨d, tail, hd⟩ := List.exists_cons_of_ne_nil ds.ne_nil
  exact ⟨d, tail, hd, ds.isDigit d (hd ▸ .head _)⟩

theorem readExponent_text (front : List Char) (e : Exponent) {rest : List Char} (ends : Ends rest) :
    readExponent front (e.text ++ rest) = some (front ++ e.kept, rest) := by
  have span := spanDigits_append e.digits fun c hc => (ends c hc).1
  obtain ⟨d, tail, hd, digit⟩ := e.digits.exists_cons
  obtain ⟨capital, sign, ds⟩ := e
  rw [Exponent.text, Exponent.kept, List.cons_append]
  cases sign with
  | none =>
      -- The first digit is no sign.
      have plus : ∀ cs, d :: (tail ++ rest) = '+' :: cs → False := by
        rintro _ ⟨⟩
        cases digit
      have minus : ∀ cs, d :: (tail ++ rest) = '-' :: cs → False := by
        rintro _ ⟨⟩
        cases digit
      dsimp only at hd span ⊢
      rw [hd, List.cons_append] at span ⊢
      rw [readExponent]
      · simp [span]
      · exact plus
      · exact minus
  | some minus =>
      cases minus <;> simp [readExponent, span, ds.ne_nil]

theorem Numeral.exponentText_stops (l : Numeral) {rest : List Char} (ends : Ends rest) :
    ∀ c ∈ (l.exponentText ++ rest).head?, c.isDigit = false ∧ c ≠ '.' := by
  rw [exponentText]
  cases l.exponent with
  | none => exact fun c hc => ⟨(ends c hc).1, (ends c hc).2.1⟩
  | some e =>
      obtain ⟨capital, sign, ds⟩ := e
      rintro c hc
      cases capital <;> cases hc <;> exact ⟨rfl, by simp⟩

theorem Numeral.fractionText_stops (l : Numeral) {rest : List Char} (ends : Ends rest) :
    ∀ c ∈ (l.fractionText ++ (l.exponentText ++ rest)).head?, c.isDigit = false := by
  rw [fractionText]
  cases l.fraction with
  | none => exact fun c hc => (l.exponentText_stops ends c hc).1
  | some ds =>
      rintro c ⟨⟩
      rfl

theorem readFraction_text (front : List Char) (l : Numeral) {rest : List Char} (ends : Ends rest) :
    readFraction front (l.fractionText ++ (l.exponentText ++ rest)) =
      some (front ++ (l.fractionText ++ l.exponentKept), rest) := by
  have exponent : ∀ front, readExponent front (l.exponentText ++ rest) =
      some (front ++ l.exponentKept, rest) := by
    intro front
    rw [Numeral.exponentText, Numeral.exponentKept]
    cases l.exponent with
    | none => simpa using readExponent_of_ends ends
    | some e => exact readExponent_text front e ends
  have stop := l.exponentText_stops ends
  rw [Numeral.fractionText]
  cases l.fraction with
  | none =>
      rw [List.nil_append, readFraction, exponent, List.nil_append]
      intro cs dot
      rw [dot] at stop
      exact (stop '.' rfl).2 rfl
  | some ds =>
      have span := spanDigits_append ds fun c hc => (stop c hc).1
      simp [readFraction, span, ds.ne_nil, exponent]

/-- A numeral is read in front of every text that cannot continue it. -/
theorem readNumber_text (l : Numeral) {rest : List Char} (ends : Ends rest) :
    readNumber (l.text ++ rest) = some (l.kept, rest) := by
  have span := spanDigits_append l.whole (l.fractionText_stops ends)
  have fraction := fun front => readFraction_text front l ends
  have leading := l.leading
  obtain ⟨d, tail, hd, digit⟩ := l.whole.exists_cons
  rw [Numeral.text, Numeral.kept, Numeral.signText]
  simp only [List.append_assoc]
  rw [hd] at span leading ⊢
  rw [List.cons_append] at span
  cases l.negative with
  | true =>
      simp only [if_true, List.cons_append, List.nil_append, readNumber, span]
      split
      · next none => cases none
      · next zero => cases leading _ zero
      · rw [fraction]
        rfl
  | false =>
      simp only [Bool.false_eq_true, if_false, List.cons_append, List.nil_append]
      rw [readNumber]
      · simp only [span]
        split
        · next none => cases none
        · next zero => cases leading _ zero
        · rw [fraction]
          rfl
      · rintro _ ⟨⟩
        cases digit

theorem exists_of_spanDigits_eq {cs ds rest : List Char} (h : spanDigits cs = (ds, rest))
    (some_ : ds ≠ []) : ∃ digits : Digits, digits.text = ds ∧ cs = digits.text ++ rest := by
  obtain ⟨rfl, rfl⟩ := Prod.mk.inj h
  exact ⟨⟨_, some_, fun c hc => List.all_eq_true.1 List.all_takeWhile c hc⟩, rfl, List.takeWhile_append_dropWhile.symm⟩

theorem exists_of_readExponent_eq_some {front cs literal rest : List Char}
    (h : readExponent front cs = some (literal, rest)) : ∃ e : Option Exponent,
      cs = e.elim [] Exponent.text ++ rest ∧ literal = front ++ e.elim [] Exponent.kept := by
  unfold readExponent at h
  split at h
  · next c cs =>
      split at h
      · next mark =>
          obtain ⟨capital, rfl⟩ : ∃ capital : Bool, c = if capital then 'E' else 'e' := by
            rcases Bool.or_eq_true_iff.1 mark with small | large
            · exact ⟨false, of_decide_eq_true small⟩
            · exact ⟨true, of_decide_eq_true large⟩
          split at h
          next sign behind signs =>
          cases span : spanDigits behind with
          | mk ds after =>
              simp only [span, List.isEmpty_iff] at h
              split at h
              · cases h
              · next some_ =>
                  obtain ⟨digits, rfl, rfl⟩ := exists_of_spanDigits_eq span some_
                  cases h
                  split at signs
                  · cases signs
                    exact ⟨some ⟨capital, some false, digits⟩, rfl, rfl⟩
                  · cases signs
                    exact ⟨some ⟨capital, some true, digits⟩, rfl, rfl⟩
                  · cases signs
                    exact ⟨some ⟨capital, none, digits⟩, rfl, rfl⟩
      · cases h
        exact ⟨none, rfl, (List.append_nil _).symm⟩
  · cases h
    exact ⟨none, rfl, (List.append_nil _).symm⟩

theorem exists_of_readFraction_eq_some {front cs literal rest : List Char}
    (h : readFraction front cs = some (literal, rest)) : ∃ (f : Option Digits) (e : Option Exponent),
      cs = f.elim [] (fun ds => '.' :: ds.text) ++ (e.elim [] Exponent.text ++ rest) ∧
      literal = front ++ (f.elim [] (fun ds => '.' :: ds.text) ++ e.elim [] Exponent.kept) := by
  unfold readFraction at h
  split at h
  · next cs =>
      cases span : spanDigits cs with
      | mk ds behind =>
          simp only [span, List.isEmpty_iff] at h
          split at h
          · cases h
          · next some_ =>
              obtain ⟨digits, rfl, rfl⟩ := exists_of_spanDigits_eq span some_
              obtain ⟨e, rfl, rfl⟩ := exists_of_readExponent_eq_some h
              exact ⟨some digits, e, rfl, by simp⟩
  · obtain ⟨e, rfl, rfl⟩ := exists_of_readExponent_eq_some h
    exact ⟨none, e, rfl, rfl⟩

theorem exists_of_readNumber_eq_some {cs literal rest : List Char}
    (h : readNumber cs = some (literal, rest)) :
    ∃ l : Numeral, cs = l.text ++ rest ∧ literal = l.kept := by
  unfold readNumber at h
  split at h
  next sign behind signs =>
  obtain ⟨negative, rfl, rfl⟩ : ∃ negative : Bool, sign = (if negative then ['-'] else []) ∧
      cs = sign ++ behind := by
    split at signs
    · cases signs
      exact ⟨true, rfl, rfl⟩
    · cases signs
      exact ⟨false, rfl, rfl⟩
  cases span : spanDigits behind with
  | mk ds after =>
      rw [span] at h
      dsimp only at h
      split at h
      · cases h
      · cases h
      · next some_ leading =>
          obtain ⟨digits, rfl, rfl⟩ := exists_of_spanDigits_eq span some_
          obtain ⟨f, e, rfl, rfl⟩ := exists_of_readFraction_eq_some h
          refine ⟨⟨negative, digits, f, e, fun tail zero => ?_⟩, ?_, ?_⟩
          · cases tail with
            | nil => rfl
            | cons c tail => cases leading c tail zero
          · cases f <;> cases e <;>
              simp [Numeral.text, Numeral.signText, Numeral.fractionText, Numeral.exponentText]
          · cases f <;> cases e <;>
              simp [Numeral.kept, Numeral.signText, Numeral.fractionText, Numeral.exponentKept]

theorem isSome_literal?_iff {s : String} :
    (literal? s).isSome = true ↔ ∃ l : Numeral, String.ofList l.text = s := by
  constructor
  · intro h
    unfold literal? at h
    split at h
    · next literal read =>
        obtain ⟨l, spelled, -⟩ := exists_of_readNumber_eq_some read
        exact ⟨l, by rw [← String.ofList_toList (s := s), spelled, List.append_nil]⟩
    · cases h
  · rintro ⟨l, rfl⟩
    have read := readNumber_text l ends_nil
    rw [List.append_nil] at read
    rw [literal?, String.toList_ofList, read]
    rfl

namespace Numeral

theorem text_eq_cons (l : Numeral) : ∃ c cs, l.text = c :: cs ∧ (c = '-' ∨ c.isDigit = true) := by
  obtain ⟨d, tail, hd, digit⟩ := l.whole.exists_cons
  rw [text, signText, hd]
  cases l.negative with
  | true => exact ⟨_, _, rfl, .inl rfl⟩
  | false => exact ⟨_, _, rfl, .inr digit⟩

theorem text_of_isPlain {l : Numeral} (h : l.isPlain = true) : l.text = l.whole.text := by
  simp only [isPlain, Bool.and_eq_true, Bool.not_eq_true', Option.isNone_iff_eq_none] at h
  simp [text, signText, fractionText, exponentText, h]

theorem kept_of_isPlain {l : Numeral} (h : l.isPlain = true) : l.kept = l.whole.text := by
  simp only [isPlain, Bool.and_eq_true, Bool.not_eq_true', Option.isNone_iff_eq_none] at h
  simp [kept, signText, fractionText, exponentKept, h]

theorem exists_not_isDigit {l : Numeral} (h : l.isPlain = false) :
    (∃ c ∈ l.text, c.isDigit = false) ∧ ∃ c ∈ l.kept, c.isDigit = false := by
  by_cases sign : l.negative = true
  · exact ⟨⟨'-', by simp [text, signText, sign], rfl⟩, '-', by simp [kept, signText, sign], rfl⟩
  · cases fraction : l.fraction with
    | some ds =>
        exact ⟨⟨'.', by simp [text, fractionText, fraction], rfl⟩, '.',
          by simp [kept, fractionText, fraction], rfl⟩
    | none =>
        cases exponent : l.exponent with
        | none => simp [isPlain, sign, fraction, exponent] at h
        | some e =>
            refine ⟨⟨if e.capital then 'E' else 'e', ?_, by cases e.capital <;> rfl⟩, 'e', ?_, rfl⟩
            · simp [text, exponentText, exponent, Exponent.text]
            · simp [kept, exponentKept, exponent, Exponent.kept]

theorem isPlain_iff {l : Numeral} : l.isPlain = true ↔ ∀ c ∈ l.text, c.isDigit = true := by
  constructor
  · intro h
    rw [text_of_isPlain h]
    exact l.whole.isDigit
  · intro h
    cases other : l.isPlain with
    | true => rfl
    | false =>
        obtain ⟨⟨c, hc, hd⟩, -⟩ := exists_not_isDigit other
        rw [h c hc] at hd
        cases hd

/-- A number is an unsigned integer exactly if it is spelled with digits only. -/
theorem natOfLiteral?_kept (l : Numeral) :
    natOfLiteral? (String.ofList l.kept) =
      if l.isPlain then some (Decimal.value l.whole.text) else none := by
  rw [natOfLiteral?, String.toList_ofList]
  split
  · next h =>
      rw [kept_of_isPlain h]
      exact Decimal.digits?_eq_some_iff.2 ⟨l.whole.ne_nil, l.whole.isDigit, rfl⟩
  · next h =>
      obtain ⟨-, c, hc, hd⟩ := exists_not_isDigit (Bool.not_eq_true _ ▸ h)
      exact Decimal.digits?_eq_none_of_not_isDigit hc hd

theorem toDigits_value_whole (l : Numeral) :
    Nat.toDigits 10 (Decimal.value l.whole.text) = l.whole.text := by
  obtain ⟨d, tail, hd, -⟩ := l.whole.exists_cons
  by_cases zero : d = '0'
  · have none := l.leading tail (zero ▸ hd)
    rw [hd, zero, none]
    rfl
  · rw [hd]
    exact Decimal.toDigits_value (hd ▸ l.whole.isDigit) zero

def ofNat (n : Nat) : Numeral where
  negative := false
  whole := ⟨Nat.toDigits 10 n, Nat.toDigits_ne_nil, fun _ => Decimal.isDigit_of_mem_toDigits⟩
  fraction := none
  exponent := none
  leading cs h := by
    rcases Nat.eq_zero_or_pos n with rfl | positive
    · exact (List.cons.inj h).2.symm
    · obtain ⟨c, tail, hc, other⟩ := Decimal.toDigits_eq_cons positive
      exact absurd (List.cons.inj (hc.symm.trans h)).1 other

def ofInt (n : Int) : Numeral :=
  { ofNat n.natAbs with negative := decide (n < 0) }

theorem value_ofNat (n : Nat) : Decimal.value (ofNat n).whole.text = n :=
  Decimal.value_toDigits n

theorem toString_nat (n : Nat) : toString n = String.ofList (ofNat n).text := by
  rw [text_of_isPlain rfl]
  exact Nat.toString_eq_ofList_toDigits

theorem toString_value {l : Numeral} (plain : l.isPlain = true) :
    toString (Decimal.value l.whole.text) = String.ofList l.text := by
  rw [toString_nat, text_of_isPlain rfl, text_of_isPlain plain]
  exact congrArg String.ofList l.toDigits_value_whole

theorem exists_digit_ofNat (n : Nat) : ∃ c cs, (ofNat n).text = c :: cs ∧ c.isDigit = true := by
  obtain ⟨c, cs, hc, -⟩ := (ofNat n).text_eq_cons
  exact ⟨c, cs, hc, isPlain_iff.1 rfl c (hc ▸ List.mem_cons_self)⟩

theorem kept_ofNat (n : Nat) : (ofNat n).kept = (ofNat n).text :=
  rfl

theorem text_ofInt (n : Int) :
    (ofInt n).text = if n < 0 then '-' :: (ofNat n.natAbs).text else (ofNat n.natAbs).text := by
  by_cases negative : n < 0 <;>
    simp [text, signText, fractionText, exponentText, ofInt, ofNat, negative]

theorem toString_int (n : Int) : toString n = String.ofList (ofInt n).text := by
  rw [Int.toString_eq_repr, Int.repr_eq_if, text_ofInt, text_of_isPlain rfl]
  by_cases negative : n < 0
  · have magnitude : (-n).toNat = n.natAbs := by omega
    rw [if_neg (by omega), if_pos negative, Nat.repr_eq_ofList_toDigits, magnitude]
    simp [ofNat]
  · have magnitude : n.toNat = n.natAbs := by omega
    rw [if_pos (by omega), if_neg negative, Nat.repr_eq_ofList_toDigits, magnitude]
    rfl

theorem kept_ofInt (n : Int) : (ofInt n).kept = (ofInt n).text :=
  rfl

end Numeral

end Json

end WalletWatch
