import WalletWatch.Proofs.Hex.Bytes
import WalletWatch.Proofs.Text.Utf8
import WalletWatch.Token.Symbol

/-!
# Symbols in answers

`Shows data cs` says, without reference to the reader, that the data of an answer hold the text `cs`: one
word holds its text up to the first zero byte, and other data hold a text at an offset and with a length
that they name, both of which have to lie within the data. `decodeSymbol` accepts exactly these answers, if
the text is not blank.
-/

namespace WalletWatch

namespace Token

/-! ## Places and lengths -/

def wordAt (data : List UInt8) (place : Nat) : Nat :=
  Hex.ofBytes ((data.drop place).take 32)

theorem all_zero_iff {word : List UInt8} (size : word.length = 32) :
    (word.take 24).all (· = 0) = true ↔ Hex.ofBytes word < 2 ^ 64 := by
  have low : (word.drop 24).length = 8 := by simp [size]
  have bound := Hex.ofBytes_lt (word.drop 24)
  have parts : Hex.ofBytes word = Hex.ofBytes (word.take 24) * 256 ^ 8 + Hex.ofBytes (word.drop 24) := by
    rw [← low, ← Hex.ofBytes_append, List.take_append_drop]
  rw [low] at bound
  simp only [List.all_eq_true, decide_eq_true_eq, ← Hex.ofBytes_eq_zero_iff]
  omega

theorem readOffset_eq_ok_iff {bytes : List UInt8} {n : Nat} :
    readOffset bytes = .ok n ↔ 32 ≤ bytes.length ∧ n = wordAt bytes 0 ∧ n < 2 ^ 64 := by
  have size : (bytes.take 32).length < 32 ↔ bytes.length < 32 := by
    rw [List.length_take]
    omega
  simp only [readOffset, size, wordAt, List.drop_zero]
  split
  · next short => simp [Nat.not_le.2 short]
  · next long =>
      have word : (bytes.take 32).length = 32 := by
        rw [List.length_take]
        omega
      split
      · next fits =>
          have small := (all_zero_iff word).1 fits
          constructor
          · rintro ⟨⟩
            exact ⟨by omega, rfl, small⟩
          · rintro ⟨-, rfl, -⟩
            rfl
      · next large =>
          have large := mt (all_zero_iff word).2 large
          constructor
          · intro h
            cases h
          · rintro ⟨-, rfl, small⟩
            exact absurd small large

/-- `data` holds the text at the offset in its first word, with the length in the word there. -/
structure Holds (data content : List UInt8) : Prop where
  word_inside : wordAt data 0 + 32 ≤ data.length
  text_inside : wordAt data 0 + 32 + wordAt data (wordAt data 0) ≤ data.length
  content_eq : content = (data.drop (wordAt data 0 + 32)).take (wordAt data (wordAt data 0))

theorem wordAt_drop (data : List UInt8) (place : Nat) : wordAt (data.drop place) 0 = wordAt data place := by
  rw [wordAt, wordAt, List.drop_zero]

theorem readString_eq_ok_iff {data content : List UInt8} :
    readString data = .ok content ↔
      Holds data content ∧ wordAt data 0 < 2 ^ 64 ∧ wordAt data (wordAt data 0) < 2 ^ 64 := by
  constructor
  · intro h
    cases first : readOffset data with
    | error fault =>
        rw [readString, first] at h
        cases h
    | ok place =>
        obtain ⟨-, rfl, small⟩ := readOffset_eq_ok_iff.1 first
        simp only [readString, first, bind, Except.bind] at h
        split at h
        · cases h
        · cases second : readOffset (data.drop (wordAt data 0)) with
          | error fault =>
              rw [second] at h
              cases h
          | ok length =>
              obtain ⟨word, rfl, small'⟩ := readOffset_eq_ok_iff.1 second
              simp only [second, wordAt_drop, List.drop_drop, List.length_take, List.length_drop] at *
              split at h
              · cases h
              · cases h
                refine ⟨⟨?_, ?_, rfl⟩, small, small'⟩ <;> omega
  · rintro ⟨⟨word, text, rfl⟩, small, small'⟩
    have first : readOffset data = .ok (wordAt data 0) :=
      readOffset_eq_ok_iff.2 ⟨by omega, rfl, small⟩
    have second : readOffset (data.drop (wordAt data 0)) = .ok (wordAt data (wordAt data 0)) :=
      readOffset_eq_ok_iff.2 ⟨by rw [List.length_drop]; omega, (wordAt_drop _ _).symm, small'⟩
    simp only [readString, first, second, bind, Except.bind, List.drop_drop, List.length_take,
      List.length_drop]
    rw [if_neg (by omega), if_neg (by omega)]

theorem ofBytes_wordOf {n : Nat} (h : n < 2 ^ 256) : Hex.ofBytes (wordOf n) = n := by
  have paired : Hex.Paired (Hex.digits 64 n) := by
    rw [Hex.paired_iff, Hex.length_digits]
  rw [wordOf, paired.ofBytes_pairs, Hex.value_digits]
  exact Nat.mod_eq_of_lt h

theorem length_wordOf (n : Nat) : (wordOf n).length = 32 := by
  have paired : Hex.Paired (Hex.digits 64 n) := by
    rw [Hex.paired_iff, Hex.length_digits]
  rw [wordOf, paired.length_pairs, Hex.length_digits]

theorem wordAt_append (before rest : List UInt8) {n : Nat} (h : n < 2 ^ 256) :
    wordAt (before ++ wordOf n ++ rest) before.length = n := by
  rw [wordAt, List.append_assoc, List.drop_left, ← length_wordOf n, List.take_left, ofBytes_wordOf h]

theorem holds_encodeText {cs : List Char} (small : (Utf8.encode cs).length < 2 ^ 64)
    (rest : List UInt8) :
    wordAt (encodeText cs ++ rest) 0 = 32 ∧
      wordAt (encodeText cs ++ rest) 32 = (Utf8.encode cs).length ∧
      Holds (encodeText cs ++ rest) (Utf8.encode cs) := by
  generalize hbytes : Utf8.encode cs = bytes at small
  obtain ⟨behind, layout⟩ : ∃ behind,
      encodeText cs ++ rest = wordOf 32 ++ wordOf bytes.length ++ (bytes ++ behind) := by
    refine ⟨List.replicate ((32 - bytes.length % 32) % 32) 0 ++ rest, ?_⟩
    simp only [encodeText, padRight, hbytes, List.append_assoc]
  have head : (wordOf 32 ++ wordOf bytes.length).length = 64 := by
    rw [List.length_append, length_wordOf, length_wordOf]
  have place : wordAt (encodeText cs ++ rest) 0 = 32 := by
    have found := wordAt_append [] (wordOf bytes.length ++ (bytes ++ behind))
      (show 32 < 2 ^ 256 by decide)
    rwa [List.nil_append, ← List.append_assoc, ← layout] at found
  have length : wordAt (encodeText cs ++ rest) 32 = bytes.length := by
    have found := wordAt_append (wordOf 32) (bytes ++ behind) (Nat.lt_trans small (by decide))
    rwa [length_wordOf, ← layout] at found
  have total : (encodeText cs ++ rest).length = 64 + (bytes.length + behind.length) := by
    rw [layout, List.length_append, head, List.length_append]
  refine ⟨place, length, ?_, ?_, ?_⟩
  · omega
  · rw [place, length]
    omega
  · rw [place, length, layout, show 32 + 32 = (wordOf 32 ++ wordOf bytes.length).length from head.symm,
      List.drop_left, List.take_left]

/-! ## Answers -/

/-- The text in the data of an answer, in either form. -/
inductive Shows (data : List UInt8) (cs : List Char) : Prop
  /-- One word, of which everything up to its first zero byte is text. -/
  | word : data.length = 32 → Utf8.decode (data.takeWhile (· ≠ 0)) = .ok cs → Shows data cs
  /-- A string somewhere in the data. What is no text in it is replaced. -/
  | string {content : List UInt8} :
      data.length ≠ 32 → Holds data content → cs = Utf8.decodeLossy content → Shows data cs

theorem shows_of_readText {data : List UInt8} {cs : List Char} (h : readText data = .ok cs) :
    Shows data cs := by
  simp only [readText] at h
  split at h
  · cases h
  · split at h
    · next word =>
        split at h
        · next text =>
            cases h
            exact .word word text
        · cases h
    · next string =>
        cases content : readString data with
        | error fault =>
            rw [content] at h
            cases h
        | ok bytes =>
            rw [content] at h
            cases h
            exact .string string (readString_eq_ok_iff.1 content).1 rfl

theorem readText_of_word {data : List UInt8} {cs : List Char} (word : data.length = 32)
    (text : Utf8.decode (data.takeWhile (· ≠ 0)) = .ok cs) : readText data = .ok cs := by
  have some : data.isEmpty = false := by
    rw [← Bool.not_eq_true, List.isEmpty_iff_length_eq_zero, word]
    decide
  simp only [readText, some, word, text]
  rfl

theorem readText_of_holds {data content : List UInt8} (string : data.length ≠ 32)
    (holds : Holds data content) (place : wordAt data 0 < 2 ^ 64)
    (length : wordAt data (wordAt data 0) < 2 ^ 64) :
    readText data = .ok (Utf8.decodeLossy content) := by
  have some : data.isEmpty = false := by
    have := holds.word_inside
    rw [← Bool.not_eq_true, List.isEmpty_iff_length_eq_zero]
    omega
  rw [readText, some, if_neg string, readString_eq_ok_iff.2 ⟨holds, place, length⟩]
  rfl

/-- The bound on the data makes every offset and length fit into 64 bits. -/
theorem Shows.readText {data : List UInt8} {cs : List Char} (h : Shows data cs)
    (small : data.length < 2 ^ 64) : readText data = .ok cs := by
  cases h with
  | word word text => exact readText_of_word word text
  | string string holds shown =>
      have word := holds.word_inside
      have text := holds.text_inside
      rw [shown]
      exact readText_of_holds string holds (by omega) (by omega)

theorem decodeSymbol_eq_ok_iff {s symbol : String} :
    decodeSymbol s = .ok symbol ↔
      ∃ data, Hex.Spells (Hex.dropMarker s.toList) data ∧ readText data = .ok symbol.toList ∧
        Text.allBlank symbol.toList = false := by
  simp only [← Hex.decode_eq_ok_iff]
  constructor
  · intro h
    cases bytes : Hex.decode (Hex.dropMarker s.toList) with
    | error fault =>
        rw [decodeSymbol, bytes] at h
        cases h
    | ok data =>
        simp only [decodeSymbol, bytes, bind, Except.bind] at h
        split at h
        · cases h
        · next cs text =>
            split at h
            · cases h
            · next marks =>
                cases h
                rw [String.toList_ofList]
                exact ⟨data, rfl, text, Bool.not_eq_true _ ▸ marks⟩
  · rintro ⟨data, bytes, text, marks⟩
    simp only [decodeSymbol, bytes, text, bind, Except.bind, marks, Bool.false_eq_true, if_false,
      String.ofList_toList]

theorem decodeSymbol_of_shows {marker ds : List Char} {data : List UInt8} {symbol : String}
    (marked : marker ∈ Hex.markers) (spelled : Hex.Spells ds data)
    (text : readText data = .ok symbol.toList) (marks : Text.allBlank symbol.toList = false) :
    decodeSymbol (String.ofList (marker ++ ds)) = .ok symbol := by
  have digits := (Hex.spells_iff.1 spelled).1
  refine decodeSymbol_eq_ok_iff.2 ⟨data, ?_, text, marks⟩
  rwa [String.toList_ofList, Hex.dropMarker_append marked digits]

theorem readText_encodeText {cs : List Char} (small : (Utf8.encode cs).length < 2 ^ 64)
    (rest : List UInt8) : readText (encodeText cs ++ rest) = .ok cs := by
  obtain ⟨place, length, holds⟩ := holds_encodeText small rest
  have inside := holds.word_inside
  have far : wordAt (encodeText cs ++ rest) 0 < 2 ^ 64 := by
    rw [place]
    decide
  have long : wordAt (encodeText cs ++ rest) (wordAt (encodeText cs ++ rest) 0) < 2 ^ 64 := by
    rwa [place, length]
  rw [readText_of_holds (by omega) holds far long, Utf8.decodeLossy_encode]

theorem readText_encodeWord {cs : List Char} (some : cs ≠ []) (small : (Utf8.encode cs).length ≤ 32)
    (nonzero : '\u0000' ∉ cs) : readText (encodeWord cs) = .ok cs := by
  have bytes : Utf8.encode cs ≠ [] := by
    intro none
    have empty := Utf8.pieces_encode cs
    rw [none] at empty
    exact some (List.map_eq_nil_iff.1 empty.symm)
  have positive : 0 < (Utf8.encode cs).length := List.length_pos_iff.2 bytes
  have word : (encodeWord cs).length = 32 := by
    rw [encodeWord, padRight, List.length_append, List.length_replicate]
    omega
  refine readText_of_word word ?_
  have kept : ∀ b ∈ Utf8.encode cs, decide (b ≠ 0) = true := fun b hb =>
    decide_eq_true (Utf8.ne_zero_of_mem_encode nonzero hb)
  have text : (encodeWord cs).takeWhile (fun b => decide (b ≠ 0)) = Utf8.encode cs := by
    rw [encodeWord, padRight, List.takeWhile_append_of_pos kept, List.takeWhile_replicate]
    simp
  rw [text, Utf8.decode_encode]

/-- `decodeSymbol` reads a symbol back from `encodeText`, with any bytes after it, and from `encodeWord`,
each with any marker and with digits of either case. What it reads is never blank and is what the data
`Shows`, and every such text is read. All other answers fail as `abiDecoding`. The bounds by `2 ^ 64`
exclude only texts and data that no machine can hold. -/
theorem decodeSymbol_encodeText_encodeWord :
    (∀ (symbol : String) (rest : List UInt8) (marker ds : List Char),
      Text.allBlank symbol.toList = false → (Utf8.encode symbol.toList).length < 2 ^ 64 →
      marker ∈ Hex.markers → Hex.Spells ds (encodeText symbol.toList ++ rest) →
      decodeSymbol (String.ofList (marker ++ ds)) = .ok symbol) ∧
    (∀ (symbol : String) (marker ds : List Char),
      Text.allBlank symbol.toList = false → (Utf8.encode symbol.toList).length ≤ 32 →
      '\u0000' ∉ symbol.toList → marker ∈ Hex.markers → Hex.Spells ds (encodeWord symbol.toList) →
      decodeSymbol (String.ofList (marker ++ ds)) = .ok symbol) ∧
    (∀ answer symbol : String, decodeSymbol answer = .ok symbol →
      Text.allBlank symbol.toList = false ∧
        ∃ data, Hex.Spells (Hex.dropMarker answer.toList) data ∧ Shows data symbol.toList) ∧
    (∀ (answer symbol : String) (data : List UInt8),
      Hex.Spells (Hex.dropMarker answer.toList) data → data.length < 2 ^ 64 →
      Shows data symbol.toList → Text.allBlank symbol.toList = false →
      decodeSymbol answer = .ok symbol) ∧
    ∀ answer : String, (∃ symbol, decodeSymbol answer = .ok symbol) ∨
      ∃ fault text, decodeSymbol answer = .error fault ∧ fault.toError = .abiDecoding text := by
  refine ⟨?string, ?word, ?shown, ?read, ?refused⟩
  case string =>
    intro symbol rest marker ds marks small marked spelled
    exact decodeSymbol_of_shows marked spelled (readText_encodeText small rest) marks
  case word =>
    intro symbol marker ds marks small nonzero marked spelled
    have some : symbol.toList ≠ [] := by
      intro none
      rw [none] at marks
      cases marks
    exact decodeSymbol_of_shows marked spelled (readText_encodeWord some small nonzero) marks
  case shown =>
    intro answer symbol read
    obtain ⟨data, spelled, text, marks⟩ := decodeSymbol_eq_ok_iff.1 read
    exact ⟨marks, data, spelled, shows_of_readText text⟩
  case read =>
    intro answer symbol data spelled small shows marks
    exact decodeSymbol_eq_ok_iff.2 ⟨data, spelled, shows.readText small, marks⟩
  case refused =>
    intro answer
    cases read : decodeSymbol answer with
    | ok symbol => exact .inl ⟨symbol, rfl⟩
    | error fault => exact .inr ⟨fault, fault.detail, rfl, rfl⟩

/-- A string of three bytes with a byte after it, in capital digits, a word that is full to its last
byte, and a text after some other words. -/
theorem decodeSymbol_encodeText_encodeWord_three_answers :
    let string := Hex.encode (encodeText ['₮'] ++ [0xff])
    let full := "THIRTY-TWO BYTES FILL THE WORD.."
    let moved := wordOf 64 ++ wordOf 7 ++ wordOf 3 ++ Utf8.encode ['D', 'A', 'I']
    decodeSymbol (String.ofList (['0', 'X'] ++ string.map Char.toUpper)) = .ok "₮" ∧
      decodeSymbol (String.ofList ([] ++ Hex.encode (encodeWord full.toList))) = .ok full ∧
      decodeSymbol (String.ofList ('0' :: 'x' :: Hex.encode moved)) = .ok "DAI" ∧
      Shows moved ['D', 'A', 'I'] := by
  intro string full moved
  obtain ⟨strings, words, -, read, -⟩ := decodeSymbol_encodeText_encodeWord
  have holds : Holds moved (Utf8.encode ['D', 'A', 'I']) :=
    ⟨by decide +kernel, by decide +kernel, by decide +kernel⟩
  have shows : Shows moved ['D', 'A', 'I'] :=
    .string (by decide +kernel) holds (by decide +kernel)
  refine ⟨strings "₮" [0xff] _ _ (by decide +kernel) (by decide +kernel) (by decide)
      (by decide +kernel),
    words full [] _ (by decide +kernel) (by decide +kernel) (by decide +kernel) (by decide)
      (by decide +kernel),
    read _ "DAI" moved (by decide +kernel) (by decide +kernel) shows (by decide +kernel), shows⟩

end Token

end WalletWatch
