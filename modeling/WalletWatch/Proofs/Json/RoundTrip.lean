import WalletWatch.Json.Printer
import WalletWatch.Json.Record
import WalletWatch.Proofs.Json.Numeral
import Mathlib.Data.List.Forall2

/-!
# Documents are read back

`Rereads v w` says that the text of `v` is read as `w` in front of every text that cannot continue a number.
A leaf is read as itself, except for numbers, which are read in their kept form, and a container is if its
items are. The fuel is linear in the text, so a whole document is read.
-/

namespace WalletWatch

namespace Json

theorem skipSpace_cons {c : Char} (solid : isSpace c = false) (cs : List Char) :
    skipSpace (c :: cs) = c :: cs := by
  simp [skipSpace, solid]

theorem digitValue?_escapeDigit {n : Nat} (h : n < 16) : Hex.digitValue? (escapeDigit n) = some n := by
  have every : ∀ n : Fin 16, Hex.digitValue? (escapeDigit n) = some n.val := by decide
  exact every ⟨n, h⟩

theorem readString_control {c : Char} (low : c.toNat < 0x20) (cs : List Char) :
    readString .plain ('\\' :: 'u' :: '0' :: '0' :: escapeDigit (c.toNat / 16) ::
      escapeDigit (c.toNat % 16) :: cs) = (readString .plain cs).push c := by
  have high := digitValue?_escapeDigit (n := c.toNat / 16) (by omega)
  have units := digitValue?_escapeDigit (n := c.toNat % 16) (by omega)
  have zero : Hex.digitValue? '0' = some 0 := rfl
  have code : c.toNat / 16 * 16 + c.toNat % 16 = c.toNat := Nat.div_add_mod' ..
  have first : isHigh c.toNat = false := by simp [isHigh]; omega
  have second : isLow c.toNat = false := by simp [isLow]; omega
  simp [readString, high, units, zero, code, first, second]

theorem readString_escapeChar (c : Char) (cs : List Char) :
    readString .plain (escapeChar c ++ cs) = (readString .plain cs).push c := by
  rw [escapeChar]
  repeat' split
  case _ quote => subst quote; rfl
  case _ backslash => subst backslash; rfl
  case _ backspace => subst backspace; rfl
  case _ feed => subst feed; rfl
  case _ line => subst line; rfl
  case _ carriage => subst carriage; rfl
  case _ tab => subst tab; rfl
  case _ low => exact readString_control low cs
  case _ quote backslash _ _ _ _ _ low => simp [readString, quote, backslash, low]

theorem readString_flatMap (cs rest : List Char) :
    readString .plain (cs.flatMap escapeChar ++ '"' :: rest) = .text cs rest := by
  induction cs with
  | nil => rfl
  | cons c cs ih => rw [List.flatMap_cons, List.append_assoc, readString_escapeChar, ih, Literal.push]

/-- `Rereads v w`: the text of `v` is read as `w`, in front of any text. -/
structure Rereads (v w : Json) : Prop where
  starts : ∃ c cs, v.print = c :: cs ∧ isSpace c = false ∧ c ≠ ']'
  read : ∀ rest fuel, Ends rest → 3 * v.print.length ≤ fuel →
    readValue fuel (v.print ++ rest) = (w, rest)

namespace Rereads

theorem null : Rereads null null where
  starts := ⟨'n', _, rfl, rfl, by decide⟩
  read _ fuel _ enough := by
    obtain ⟨fuel, rfl⟩ : ∃ n, fuel = n + 1 := ⟨fuel - 1, by simp [print] at enough; omega⟩
    rfl

theorem str (s : String) : Rereads (str s) (str s) where
  starts := ⟨'"', _, rfl, rfl, by decide⟩
  read rest fuel _ enough := by
    obtain ⟨fuel, rfl⟩ : ∃ n, fuel = n + 1 :=
      ⟨fuel - 1, by simp [Json.str, print, printString] at enough; omega⟩
    have text := readString_flatMap s.toList rest
    simp [Json.str, print, printString, readValue, skipSpace_cons, isSpace, text]

theorem number (l : Numeral) :
    Rereads (number (String.ofList l.text)) (number (String.ofList l.kept)) := by
  obtain ⟨c, cs, hc, first⟩ := l.text_eq_cons
  have other : ∀ d : Char, d.isDigit = false → d ≠ '-' → c ≠ d := by
    rintro d no minus rfl
    rcases first with rfl | digit
    · exact minus rfl
    · rw [no] at digit
      cases digit
  have solid : isSpace c = false := by
    simp [isSpace, other ' ' rfl (by decide), other '\n' rfl (by decide), other '\t' rfl (by decide),
      other '\r' rfl (by decide)]
  have spelled : print (.number (String.ofList l.text)) = c :: cs := by
    rw [print, String.toList_ofList, hc]
  refine ⟨⟨c, cs, spelled, solid, other ']' rfl (by decide)⟩, fun rest fuel ends enough => ?_⟩
  rw [spelled] at enough ⊢
  obtain ⟨fuel, rfl⟩ : ∃ n, fuel = n + 1 := ⟨fuel - 1, by simp at enough; omega⟩
  have read := readNumber_text l ends
  rw [hc] at read
  rw [List.cons_append] at read ⊢
  simp [readValue, skipSpace_cons solid, read, other '"' rfl (by decide), other '[' rfl (by decide),
    other '\x7b' rfl (by decide), other 'n' rfl (by decide), other 't' rfl (by decide),
    other 'f' rfl (by decide)]

theorem nat (n : Nat) : Rereads (nat n) (nat n) := by
  have h := number (.ofNat n)
  rwa [Numeral.kept_ofNat, ← Numeral.toString_nat] at h

theorem int (n : Int) : Rereads (int n) (int n) := by
  have h := number (.ofInt n)
  rwa [Numeral.kept_ofInt, ← Numeral.toString_int] at h

end Rereads

theorem readValue_bracket {c : Char} (solid : isSpace c = false) (item : c ≠ ']') (fuel : Nat)
    (cs : List Char) : readValue (fuel + 1) ('[' :: c :: cs) =
      (array (readItems fuel (c :: cs)).1, (readItems fuel (c :: cs)).2) := by
  simp only [readValue, skipSpace_cons (c := '[') rfl, skipSpace_cons solid]
  simp [item]

theorem readValue_brace (fuel : Nat) (cs : List Char) : readValue (fuel + 1) ('\x7b' :: '"' :: cs) =
    (object (readMembers fuel ('"' :: cs)).1, (readMembers fuel ('"' :: cs)).2) := by
  simp [readValue, skipSpace_cons, isSpace]

theorem printItems_cons_cons (v item : Json) (items : List Json) :
    printItems (v :: item :: items) = v.print ++ ',' :: printItems (item :: items) :=
  rfl

theorem printItems_eq_cons {v w : Json} (h : Rereads v w) (items : List Json) :
    ∃ c cs, printItems (v :: items) = c :: cs ∧ isSpace c = false ∧ c ≠ ']' := by
  obtain ⟨c, cs, hc, first⟩ := h.starts
  cases items with
  | nil => exact ⟨c, cs, by rw [printItems, hc], first⟩
  | cons item items => exact ⟨c, cs ++ ',' :: printItems (item :: items), by simp [printItems, hc], first⟩

theorem readItems_printItems {v w : Json} {items read : List Json}
    (h : List.Forall₂ Rereads (v :: items) (w :: read)) (rest : List Char) (fuel : Nat)
    (enough : 3 * (printItems (v :: items)).length < fuel) :
    readItems fuel (printItems (v :: items) ++ ']' :: rest) = (w :: read, rest) := by
  obtain ⟨fuel, rfl⟩ : ∃ n, fuel = n + 1 := ⟨fuel - 1, by omega⟩
  induction items generalizing v w read fuel with
  | nil =>
      obtain ⟨first, none⟩ := List.forall₂_cons.1 h
      cases none
      rw [printItems] at enough ⊢
      have value := first.read _ _ (ends_cons (c := ']') rest (by decide)) (Nat.le_of_lt_succ enough)
      simp [readItems, value, skipSpace_cons, isSpace]
  | cons item items ih =>
      obtain ⟨first, others⟩ := List.forall₂_cons.1 h
      cases read with
      | nil => cases others
      | cons other read =>
          rw [printItems_cons_cons] at enough ⊢
          simp only [List.length_append, List.length_cons] at enough
          obtain ⟨fuel, rfl⟩ : ∃ n, fuel = n + 1 := ⟨fuel - 1, by omega⟩
          have value := first.read _ (fuel + 1)
            (ends_cons (c := ',') (printItems (item :: items) ++ ']' :: rest) (by decide)) (by omega)
          have tail := ih others fuel (by omega)
          rw [readItems]
          simp only [List.append_assoc, List.cons_append, value, skipSpace_cons (c := ',') rfl, tail]

namespace Rereads

theorem array {items read : List Json} (h : List.Forall₂ Rereads items read) :
    Rereads (array items) (array read) := by
  refine ⟨⟨'[', _, rfl, rfl, by decide⟩, fun rest fuel _ enough => ?_⟩
  rw [print] at enough ⊢
  obtain ⟨fuel, rfl⟩ : ∃ n, fuel = n + 1 := ⟨fuel - 1, by simp at enough; omega⟩
  cases h with
  | nil => rfl
  | @cons v w items read first others =>
      obtain ⟨c, cs, hc, solid, item⟩ := printItems_eq_cons first items
      have tail := readItems_printItems (.cons first others) rest fuel
        (by simp at enough; omega)
      rw [hc] at tail
      simp only [List.cons_append] at tail
      simp [hc, readValue_bracket solid item, tail]

end Rereads

def RereadsMember (m n : Option String × Json) : Prop :=
  ∃ key v w, m = (some key, v) ∧ n = (some key, w) ∧ Rereads v w

abbrev Members := List (Option String × Json)

def printFurther : Members → List Char
  | [] => []
  | m :: members => ',' :: printMembers (m :: members)

theorem printMembers_cons (key : String) (v : Json) (members : Members) :
    printMembers ((some key, v) :: members) =
      '"' :: (key.toList.flatMap escapeChar ++ '"' :: ':' :: (v.print ++ printFurther members)) := by
  cases members <;> simp [printMembers, printString, printFurther]

theorem readMembers_last {v w : Json} (first : Rereads v w) (key : String) (fuel : Nat) (rest : List Char)
    (enough : 3 * v.print.length ≤ fuel) :
    readMembers (fuel + 2)
      ('"' :: (key.toList.flatMap escapeChar ++ '"' :: ':' :: (v.print ++ '\x7d' :: rest))) =
        ([(some key, w)], rest) := by
  have text := readString_flatMap key.toList (':' :: (v.print ++ '\x7d' :: rest))
  have value := first.read _ fuel (ends_cons (c := '\x7d') rest (by decide)) enough
  simp [readMembers, readMember, skipSpace_cons, isSpace, text, value]

theorem readMembers_further {v w : Json} (first : Rereads v w) (key : String) (fuel : Nat)
    (rest : List Char) (enough : 3 * v.print.length ≤ fuel) :
    readMembers (fuel + 2)
      ('"' :: (key.toList.flatMap escapeChar ++ '"' :: ':' :: (v.print ++ ',' :: rest))) =
        ((some key, w) :: (readMembers fuel rest).1, (readMembers fuel rest).2) := by
  have text := readString_flatMap key.toList (':' :: (v.print ++ ',' :: rest))
  have value := first.read _ fuel (ends_cons (c := ',') rest (by decide)) enough
  simp [readMembers, readMember, skipSpace_cons, isSpace, text, value]

theorem readMembers_printMembers {m n : Option String × Json} {members read : Members}
    (h : List.Forall₂ RereadsMember (m :: members) (n :: read)) (rest : List Char) (fuel : Nat)
    (enough : 3 * (printMembers (m :: members)).length < fuel) :
    readMembers fuel (printMembers (m :: members) ++ '\x7d' :: rest) = (n :: read, rest) := by
  induction members generalizing m n read fuel with
  | nil =>
      obtain ⟨⟨key, v, w, rfl, rfl, first⟩, none⟩ := List.forall₂_cons.1 h
      cases none
      rw [printMembers_cons, printFurther] at enough ⊢
      simp only [List.length_append, List.length_cons] at enough
      obtain ⟨fuel, rfl⟩ : ∃ n, fuel = n + 2 := ⟨fuel - 2, by omega⟩
      have last := readMembers_last first key fuel rest (by omega)
      simpa using last
  | cons member members ih =>
      obtain ⟨⟨key, v, w, rfl, rfl, first⟩, others⟩ := List.forall₂_cons.1 h
      cases read with
      | nil => cases others
      | cons other read =>
          rw [printMembers_cons, printFurther] at enough ⊢
          simp only [List.length_append, List.length_cons] at enough
          obtain ⟨fuel, rfl⟩ : ∃ n, fuel = n + 2 := ⟨fuel - 2, by omega⟩
          have further := readMembers_further first key fuel
            (printMembers (member :: members) ++ '\x7d' :: rest) (by omega)
          rw [ih others fuel (by omega)] at further
          simpa using further

namespace Rereads

theorem object {members read : Members} (h : List.Forall₂ RereadsMember members read) :
    Rereads (object members) (object read) := by
  refine ⟨⟨'\x7b', _, rfl, rfl, by decide⟩, fun rest fuel _ enough => ?_⟩
  rw [print] at enough ⊢
  obtain ⟨fuel, rfl⟩ : ∃ n, fuel = n + 1 := ⟨fuel - 1, by simp at enough; omega⟩
  cases h with
  | nil => rfl
  | @cons m n members read first others =>
      have tail := readMembers_printMembers (.cons first others) rest fuel
        (by simp at enough; omega)
      obtain ⟨key, v, w, rfl, rfl, -⟩ := first
      rw [printMembers_cons, List.cons_append] at tail ⊢
      simp only [List.cons_append, List.append_assoc, List.nil_append] at tail ⊢
      rw [readValue_brace, tail]

theorem obj {members read : List (String × Json)}
    (h : List.Forall₂ (fun m n => m.1 = n.1 ∧ Rereads m.2 n.2) members read) :
    Rereads (obj members) (obj read) := by
  refine object (List.forall₂_map_left_iff.2 (List.forall₂_map_right_iff.2 (h.imp ?_)))
  rintro ⟨key, v⟩ ⟨_, w⟩ ⟨rfl, value⟩
  exact ⟨key, v, w, rfl, rfl, value⟩

end Rereads

theorem Document.read_compact {v w : Json} (h : Rereads v w) : Document.read v.compact = ⟨w, true⟩ := by
  have read := h.read [] (3 * v.print.length + 3) ends_nil (by omega)
  rw [List.append_nil] at read
  simp [Document.read, compact, read, skipSpace]

theorem readDocument_compact {α : Type} {v w : Json} (h : Rereads v w)
    (read : Json → Except Refusal α) : readDocument read v.compact = read w := by
  rw [readDocument, Document.read_compact h]
  cases read w <;> rfl

end Json

end WalletWatch
