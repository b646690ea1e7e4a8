import Mathlib.Data.List.Induction
import WalletWatch.Proofs.Hex.Bytes
import WalletWatch.Proofs.Json.Record
import WalletWatch.Proofs.Text.Blank

/-!
# Identifiers have one canonical text

`Denotes s bytes` says that `s` is the hexadecimal digits of `bytes` in either case, up to one marker and
blanks around them. The readers of addresses and transaction hashes accept exactly the texts that denote the
right number of bytes, and what they read has the canonical text of these bytes: a small marker and
lower-case digits. `Hex.Identifies` collects this for one kind of identifier.
-/

namespace WalletWatch

namespace Hex

/-! ## Texts of bytes -/

/-- `Padded s ds`: the text `s` consists of the digits `ds`, up to blanks around them and one marker in
front. -/
def Padded (s : String) (ds : List Char) : Prop :=
  ∃ front marker back, s.toList = front ++ (marker ++ ds) ++ back ∧
    (∀ c ∈ front ++ back, Text.isBlank c = true) ∧ marker ∈ markers ∧ ∀ c ∈ ds, isDigit c = true

theorem padded_iff {s : String} {ds : List Char} :
    Padded s ds ↔ identifierDigits s = ds ∧ ∀ c ∈ ds, isDigit c = true := by
  constructor
  · rintro ⟨front, marker, back, spelled, blank, known, digits⟩
    have bare : dropMarker (marker ++ ds) = ds := dropMarker_append known digits
    have plain : ∀ c ∈ marker ++ ds, Text.isBlank c = false := by
      refine not_isBlank_of_dropMarker ?_
      rwa [bare]
    exact ⟨by rw [identifierDigits, spelled, Text.trim_append blank plain, bare], digits⟩
  · rintro ⟨rfl, digits⟩
    obtain ⟨front, back, whole, blank⟩ := Text.exists_trim s.toList
    obtain ⟨marker, known, marked⟩ := exists_marker (Text.trim s.toList)
    rw [marked] at whole
    exact ⟨front, marker, back, whole, blank, known, digits⟩

/-- `Denotes s bytes`: the digits of `s` are those of `bytes`, in either case. -/
def Denotes (s : String) (bytes : List UInt8) : Prop :=
  ∃ ds, Padded s ds ∧ Spells ds bytes

theorem denotes_iff {s : String} {bytes : List UInt8} :
    Denotes s bytes ↔ Spells (identifierDigits s) bytes := by
  constructor
  · rintro ⟨ds, padded, spells⟩
    rwa [(padded_iff.1 padded).1]
  · intro spells
    exact ⟨_, padded_iff.2 ⟨rfl, (spells_iff.1 spells).1⟩, spells⟩

instance (s : String) (bytes : List UInt8) : Decidable (Denotes s bytes) :=
  decidable_of_iff _ denotes_iff.symm

theorem spells_encode (bytes : List UInt8) : Spells (encode bytes) bytes := by
  refine spells_iff.2 ⟨fun c hc => ?_, ?_, (pairs_encode bytes).symm⟩
  · obtain ⟨b, -, hb⟩ := List.mem_flatMap.1 hc
    exact isDigit_of_mem_digits hb
  · rw [paired_iff, length_encode]
    exact Nat.mul_mod_right 2 _

theorem Spells.length_eq {cs : List Char} {bytes : List UInt8} (h : Spells cs bytes) :
    cs.length = 2 * bytes.length := by
  rw [← length_encode, ← show cs.map Char.toLower = encode bytes from h, List.length_map]

theorem Spells.value_eq {cs : List Char} {bytes : List UInt8} (h : Spells cs bytes) :
    value cs = ofBytes bytes := by
  obtain ⟨-, paired, rfl⟩ := spells_iff.1 h
  exact paired.ofBytes_pairs.symm

theorem digits_value {cs : List Char} (digits : ∀ c ∈ cs, isDigit c = true) :
    Hex.digits cs.length (value cs) = cs.map Char.toLower := by
  induction cs using List.reverseRecOn with
  | nil => rfl
  | append_singleton cs c ih =>
      obtain ⟨front, last⟩ := List.forall_mem_append.1 digits
      have small := digitValue?_lt c
      have one : value [c] = (digitValue? c).getD 0 := by simp [value]
      have whole : value (cs ++ [c]) = value cs * 16 + (digitValue? c).getD 0 := by
        rw [value_append, one]
        rfl
      have above : value (cs ++ [c]) / 16 = value cs := by omega
      have below : value (cs ++ [c]) % 16 = (digitValue? c).getD 0 := by omega
      rw [List.length_append, List.length_singleton, Hex.digits, above, below, ih front,
        digit_of_isDigit (last c List.mem_cons_self), List.map_append]
      rfl

theorem digits_ofBytes (bytes : List UInt8) : digits (2 * bytes.length) (ofBytes bytes) = encode bytes := by
  have h := spells_encode bytes
  rw [← h.length_eq, ← h.value_eq, digits_value (spells_iff.1 h).1]
  exact h

def canonical (bytes : List UInt8) : String :=
  String.ofList ('0' :: 'x' :: encode bytes)

/-- A small marker and `2 * size` lower-case digits. -/
def IsCanonical (length : Nat) (t : String) : Prop :=
  ∃ ds, t.toList = '0' :: 'x' :: ds ∧ ds.length = length ∧ ∀ c ∈ ds, c ∈ "0123456789abcdef".toList

theorem mem_lower_iff {c : Char} : c ∈ "0123456789abcdef".toList ↔ isDigit c = true ∧ c.toLower = c := by
  constructor
  · have all : "0123456789abcdef".toList.all (fun c => isDigit c && c.toLower = c) = true := by decide
    simpa only [Bool.and_eq_true, decide_eq_true_eq] using List.all_eq_true.1 all c
  · rintro ⟨digit, lower⟩
    exact forall_isDigit (P := fun c => c.toLower = c → c ∈ "0123456789abcdef".toList) (by decide +kernel)
      digit lower

theorem isCanonical_iff {size : Nat} {t : String} :
    IsCanonical (2 * size) t ↔ ∃ bytes : List UInt8, bytes.length = size ∧ t = canonical bytes := by
  constructor
  · rintro ⟨ds, spelled, length, lower⟩
    have digits : ∀ c ∈ ds, isDigit c = true := fun c hc => (mem_lower_iff.1 (lower c hc)).1
    have same : ds.map Char.toLower = ds :=
      (List.map_congr_left fun c hc => (mem_lower_iff.1 (lower c hc)).2).trans (List.map_id ds)
    have paired : Paired ds := by
      rw [paired_iff, length]
      exact Nat.mul_mod_right 2 _
    have written : encode (pairs ds) = ds := (paired.encode_pairs digits).trans same
    refine ⟨pairs ds, ?_, ?_⟩
    · rw [paired.length_pairs, length]
      exact Nat.mul_div_cancel_left size (by decide)
    · rw [canonical, written, ← spelled, String.ofList_toList]
  · rintro ⟨bytes, rfl, rfl⟩
    have h := spells_encode bytes
    have lower := List.map_inj_left.1 (h.trans (List.map_id _).symm)
    refine ⟨encode bytes, String.toList_ofList, length_encode bytes, fun c hc => ?_⟩
    exact mem_lower_iff.2 ⟨(spells_iff.1 h).1 c hc, lower c hc⟩

theorem canonical_inj {bytes more : List UInt8} : canonical bytes = canonical more ↔ bytes = more := by
  constructor
  · intro same
    have digits := (List.cons.inj (List.cons.inj (String.ofList_injective same)).2).2
    rw [← pairs_encode bytes, digits, pairs_encode]
  · rintro rfl
    rfl

theorem denotes_encode {marker : List Char} (known : marker ∈ markers) (bytes : List UInt8) :
    Denotes (String.ofList (marker ++ encode bytes)) bytes := by
  have spells := spells_encode bytes
  refine ⟨encode bytes, ⟨[], marker, [], ?_, List.forall_mem_nil _, known, (spells_iff.1 spells).1⟩, spells⟩
  rw [String.toList_ofList, List.nil_append, List.append_nil]

theorem Denotes.bytes_eq {s : String} {bytes more : List UInt8} (h : Denotes s bytes) (h' : Denotes s more) :
    bytes = more :=
  (spells_iff.1 (denotes_iff.1 h)).2.2.trans (spells_iff.1 (denotes_iff.1 h')).2.2.symm

theorem exists_denotes_iff (s : String) (size : Nat) (P : Nat → Prop) :
    (∃ bytes : List UInt8, bytes.length = size ∧ Denotes s bytes ∧ P (ofBytes bytes)) ↔
      ∃ ds, Padded s ds ∧ ds.length = 2 * size ∧ P (value ds) := by
  constructor
  · rintro ⟨bytes, rfl, ⟨ds, padded, spells⟩, holds⟩
    exact ⟨ds, padded, spells.length_eq, spells.value_eq ▸ holds⟩
  · rintro ⟨ds, padded, length, holds⟩
    have paired : Paired ds := by
      rw [paired_iff, length]
      exact Nat.mul_mod_right 2 _
    have spells : Spells ds (pairs ds) := spells_iff.2 ⟨(padded_iff.1 padded).2, paired, rfl⟩
    have half : (pairs ds).length = size := by
      rw [paired.length_pairs, length]
      exact Nat.mul_div_cancel_left size (by decide)
    exact ⟨_, half, ⟨ds, padded, spells⟩, spells.value_eq ▸ holds⟩

/-! ## Readers of identifiers -/

/-- `read`, `text` and `ofBytes` make identifiers of `size` bytes. -/
structure Identifies {α : Type} (size : Nat) (read : String → Except IdentifierFault α) (text : α → String)
    (ofBytes : List UInt8 → α) : Prop where
  /-- Every identifier has a canonical text. -/
  canonical : ∀ a, IsCanonical (2 * size) (text a)
  /-- What is made of bytes has their canonical text. -/
  text_ofBytes : ∀ bytes : List UInt8, bytes.length = size → text (ofBytes bytes) = Hex.canonical bytes
  /-- The texts of so many digits are read, and no others. -/
  accepts : ∀ s, (∃ a, read s = .ok a) ↔ ∃ ds, Padded s ds ∧ ds.length = 2 * size
  /-- What is read is made of the bytes that the text denotes. -/
  reads : ∀ s a, read s = .ok a ↔
    ∃ bytes : List UInt8, bytes.length = size ∧ Denotes s bytes ∧ a = ofBytes bytes
  /-- The digits of bytes are read as what is made of the bytes. -/
  read_encode : ∀ bytes : List UInt8, bytes.length = size → ∀ marker ∈ markers,
    read (String.ofList (marker ++ encode bytes)) = .ok (ofBytes bytes)
  unchanged : ∀ t, IsCanonical (2 * size) t → ∃ a, read t = .ok a ∧ text a = t
  distinct : ∀ a b, a = b ↔ text a = text b
  /-- Two texts are read alike exactly if they denote the same bytes. -/
  same : ∀ s t a b, read s = .ok a → read t = .ok b →
    (a = b ↔ ∃ bytes : List UInt8, Denotes s bytes ∧ Denotes t bytes)

theorem Identifies.of {α : Type} {size : Nat} {read : String → Except IdentifierFault α} {text : α → String}
    {ofBytes : List UInt8 → α} (back : ∀ a, read (text a) = .ok a)
    (texts : ∀ bytes : List UInt8, bytes.length = size → text (ofBytes bytes) = Hex.canonical bytes)
    (reads : ∀ s a, read s = .ok a ↔
      ∃ bytes : List UInt8, bytes.length = size ∧ Denotes s bytes ∧ a = ofBytes bytes) :
    Identifies size read text ofBytes where
  canonical a := by
    obtain ⟨bytes, length, -, rfl⟩ := (reads _ a).1 (back a)
    exact isCanonical_iff.2 ⟨bytes, length, texts bytes length⟩
  text_ofBytes := texts
  accepts s := by
    have digits := exists_denotes_iff s size (fun _ => True)
    simp only [and_true] at digits
    rw [← digits]
    constructor
    · rintro ⟨a, ha⟩
      obtain ⟨bytes, length, denotes, -⟩ := (reads s a).1 ha
      exact ⟨bytes, length, denotes⟩
    · rintro ⟨bytes, length, denotes⟩
      exact ⟨_, (reads s _).2 ⟨bytes, length, denotes, rfl⟩⟩
  reads := reads
  read_encode bytes length marker known := (reads _ _).2 ⟨bytes, length, denotes_encode known bytes, rfl⟩
  unchanged t canon := by
    obtain ⟨bytes, length, rfl⟩ := isCanonical_iff.1 canon
    refine ⟨ofBytes bytes, ?_, texts bytes length⟩
    rw [← texts bytes length, back]
  distinct a b := by
    refine ⟨congrArg text, fun h => ?_⟩
    have read := back a
    rw [h, back b] at read
    exact (Except.ok.inj read).symm
  same s t a b hs ht := by
    obtain ⟨bytes, length, first, rfl⟩ := (reads s a).1 hs
    obtain ⟨more, length', second, rfl⟩ := (reads t b).1 ht
    constructor
    · intro same
      have spelled := congrArg text same
      rw [texts bytes length, texts more length'] at spelled
      obtain rfl := canonical_inj.1 spelled
      exact ⟨bytes, first, second⟩
    · rintro ⟨common, one, two⟩
      rw [first.bytes_eq one, second.bytes_eq two]

theorem value?_eq_some_iff {cs : List Char} {n : Nat} :
    value? cs = some n ↔ (∀ c ∈ cs, isDigit c = true) ∧ value cs = n := by
  rw [value?, ← List.all_eq_true, Option.ite_none_right_eq_some, Option.some.injEq]

end Hex

theorem Json.readText_eq_ok_iff {v : Json} {s : String} : readText v = .ok s ↔ v = .str s := by
  constructor
  · intro h
    unfold readText at h
    split at h
    · rw [Except.ok.inj h]
      rfl
    · cases h
  · rintro rfl
    rfl

/-! ## Addresses -/

namespace Address

theorem text_ofBytes {bytes : List UInt8} (length : bytes.length = 20) :
    (ofBytes bytes).text = Hex.canonical bytes := by
  have fits := Hex.ofBytes_lt bytes
  have digits := Hex.digits_ofBytes bytes
  rw [length] at fits digits
  have small : Hex.ofBytes bytes % bound = Hex.ofBytes bytes := Nat.mod_eq_of_lt fits
  simp only [text, ofBytes, ofNat, small, digits, Hex.canonical]

theorem parse_eq_ok_iff {s : String} {a : Address} :
    parse s = .ok a ↔ ∃ ds, Hex.Padded s ds ∧ ds.length = 40 ∧ a = ofNat (Hex.value ds) := by
  constructor
  · intro h
    rw [parse] at h
    split at h
    · cases h
    · next length =>
        split at h
        · next n number =>
            obtain ⟨digits, rfl⟩ := Hex.value?_eq_some_iff.1 number
            rw [Hex.utf8Length_of_isDigit digits] at length
            exact ⟨_, Hex.padded_iff.2 ⟨rfl, digits⟩, Decidable.not_not.1 length, (Except.ok.inj h).symm⟩
        · cases h
  · rintro ⟨ds, padded, length, rfl⟩
    obtain ⟨rfl, digits⟩ := Hex.padded_iff.1 padded
    simp only [parse, Hex.utf8Length_of_isDigit digits, length, Hex.value?_eq_some_iff.2 ⟨digits, rfl⟩]
    rfl

theorem identifies : Hex.Identifies 20 parse text ofBytes :=
  .of parse_text (fun _ => text_ofBytes) fun s a =>
    parse_eq_ok_iff.trans (Hex.exists_denotes_iff s 20 (fun n => a = ofNat n)).symm

end Address

namespace Word

theorem parse?_eq_some_iff {s : String} {w : Word} :
    parse? s = some w ↔ ∃ ds, Hex.Padded s ds ∧ ds.length = 64 ∧ w = ofNat (Hex.value ds) := by
  constructor
  · intro h
    rw [parse?] at h
    split at h
    · next length =>
        obtain ⟨n, number, rfl⟩ := Option.map_eq_some_iff.1 h
        obtain ⟨digits, rfl⟩ := Hex.value?_eq_some_iff.1 number
        exact ⟨_, Hex.padded_iff.2 ⟨rfl, digits⟩, length, rfl⟩
    · cases h
  · rintro ⟨ds, padded, length, rfl⟩
    obtain ⟨rfl, digits⟩ := Hex.padded_iff.1 padded
    simp only [parse?, length, Hex.value?_eq_some_iff.2 ⟨digits, rfl⟩, if_true, Option.map_some]

end Word

/-! ## Hashes and topics -/

namespace TxHash

def ofBytes (bytes : List UInt8) : TxHash :=
  ⟨.ofNat (Hex.ofBytes bytes)⟩

theorem text_ofBytes {bytes : List UInt8} (length : bytes.length = 32) :
    (ofBytes bytes).text = Hex.canonical bytes := by
  have fits := Hex.ofBytes_lt bytes
  have digits := Hex.digits_ofBytes bytes
  rw [length] at fits digits
  have small : Hex.ofBytes bytes % Word.bound = Hex.ofBytes bytes := Nat.mod_eq_of_lt fits
  simp only [text, Word.text, ofBytes, Word.ofNat, small, digits, Hex.canonical]

theorem parse_eq_ok_iff {s : String} {h : TxHash} :
    parse s = .ok h ↔ ∃ ds, Hex.Padded s ds ∧ ds.length = 64 ∧ h = ⟨.ofNat (Hex.value ds)⟩ := by
  constructor
  · intro read
    rw [parse] at read
    split at read
    · next w found =>
        obtain ⟨ds, padded, length, rfl⟩ := Word.parse?_eq_some_iff.1 found
        exact ⟨ds, padded, length, (Except.ok.inj read).symm⟩
    · cases read
  · rintro ⟨ds, padded, length, rfl⟩
    rw [parse, Word.parse?_eq_some_iff.2 ⟨ds, padded, length, rfl⟩]

theorem identifies : Hex.Identifies 32 parse text ofBytes :=
  .of parse_text (fun _ => text_ofBytes) fun s h =>
    parse_eq_ok_iff.trans (Hex.exists_denotes_iff s 32 (fun n => h = ⟨.ofNat n⟩)).symm

theorem ofJson_eq_ok_iff {v : Json} {h : TxHash} :
    ofJson v = .ok h ↔ ∃ s, v = .str s ∧ parse s = .ok h := by
  rw [ofJson, bind_eq_ok_iff]
  refine exists_congr fun s => and_congr Json.readText_eq_ok_iff ?_
  cases parse s <;> simp

end TxHash

namespace Address

theorem ofWord_ofBytes {bytes : List UInt8} (length : bytes.length = 32) :
    ofWord (.ofNat (Hex.ofBytes bytes)) = ofBytes (bytes.drop 12) := by
  have low : (bytes.drop 12).length = 20 := by rw [List.length_drop, length]
  have parts := Hex.ofBytes_append (bytes.take 12) (bytes.drop 12)
  rw [List.take_append_drop, low] at parts
  have fits := Hex.ofBytes_lt (bytes.drop 12)
  have whole := Hex.ofBytes_lt bytes
  rw [low] at fits
  rw [length] at whole
  have word : Hex.ofBytes bytes % Word.bound = Hex.ofBytes bytes := Nat.mod_eq_of_lt whole
  have last : Hex.ofBytes bytes % bound = Hex.ofBytes (bytes.drop 12) % bound := by
    rw [parts]
    exact Nat.mul_add_mod_self_right ..
  simp only [ofWord, ofBytes, ofNat, Word.ofNat, word, last]

theorem parseTopic_eq_ok_iff_padded {s : String} {a : Address} :
    parseTopic s = .ok a ↔ ∃ ds, Hex.Padded s ds ∧ ds.length = 64 ∧ a = ofWord (.ofNat (Hex.value ds)) := by
  constructor
  · intro h
    rw [parseTopic] at h
    split at h
    · next w found =>
        obtain ⟨ds, padded, length, rfl⟩ := Word.parse?_eq_some_iff.1 found
        exact ⟨ds, padded, length, (Except.ok.inj h).symm⟩
    · cases h
  · rintro ⟨ds, padded, length, rfl⟩
    rw [parseTopic, Word.parse?_eq_some_iff.2 ⟨ds, padded, length, rfl⟩]

theorem parseTopic_eq_ok_iff {s : String} {a : Address} :
    parseTopic s = .ok a ↔
      ∃ bytes : List UInt8, bytes.length = 32 ∧ Hex.Denotes s bytes ∧ a = ofBytes (bytes.drop 12) := by
  have words := Hex.exists_denotes_iff s 32 (fun n => a = ofWord (.ofNat n))
  refine (parseTopic_eq_ok_iff_padded.trans words.symm).trans
    (exists_congr fun bytes => and_congr_right fun length => ?_)
  rw [ofWord_ofBytes length]

theorem ofJson_eq_ok_iff {v : Json} {a : Address} :
    ofJson v = .ok a ↔ ∃ s, v = .str s ∧ parse s = .ok a := by
  rw [ofJson, bind_eq_ok_iff]
  refine exists_congr fun s => and_congr Json.readText_eq_ok_iff ?_
  cases parse s <;> simp

theorem ofJson?_eq_ok_iff {v : Json} {a? : Option Address} :
    ofJson? v = .ok a? ↔ (a? = none ∧ (v = .null ∨ v = .str "")) ∨
      ∃ s a, v = .str s ∧ parse s = .ok a ∧ a? = some a := by
  have refused : ∀ a, parse "" ≠ .ok a := by
    rintro a h
    cases h
  rw [ofJson?, bind_eq_ok_iff]
  constructor
  · rintro ⟨_ | s, read, h⟩
    · rw [Json.readNullable_eq_ok_none read]
      exact .inl ⟨(Except.ok.inj h).symm, .inl rfl⟩
    · obtain rfl := Json.readText_eq_ok_iff.1 (Json.readNullable_eq_ok_some read)
      dsimp only at h
      split at h
      · next empty =>
          obtain rfl := String.isEmpty_iff.1 empty
          exact .inl ⟨(Except.ok.inj h).symm, .inr rfl⟩
      · split at h
        · next a parsed => exact .inr ⟨s, a, rfl, parsed, (Except.ok.inj h).symm⟩
        · cases h
  · rintro (⟨rfl, rfl | rfl⟩ | ⟨s, a, rfl, parsed, rfl⟩)
    · exact ⟨none, rfl, rfl⟩
    · exact ⟨some "", rfl, rfl⟩
    · refine ⟨some s, rfl, ?_⟩
      have given : s.isEmpty = false := by
        rw [← Bool.not_eq_true, String.isEmpty_iff]
        rintro rfl
        exact refused a parsed
      simp [given, parsed]

end Address

/-- Addresses and transaction hashes are identifiers of twenty and thirty-two bytes (`Hex.Identifies`),
with the canonical text of their bytes in whatever way they are made: by `parse`, `parseTopic`,
`ofBytes`, or from a document, where a recipient may be missing. -/
theorem identifies_address_txHash :
    Hex.Identifies 20 Address.parse Address.text Address.ofBytes ∧
    Hex.Identifies 32 TxHash.parse TxHash.text TxHash.ofBytes ∧
    (∀ s a, Address.parseTopic s = .ok a ↔
      ∃ bytes : List UInt8, bytes.length = 32 ∧ Hex.Denotes s bytes ∧ a = .ofBytes (bytes.drop 12)) ∧
    Address.zero = .ofBytes (List.replicate 20 0) ∧
    (∀ v a, Address.ofJson v = .ok a ↔ ∃ s, v = .str s ∧ Address.parse s = .ok a) ∧
    (∀ v h, TxHash.ofJson v = .ok h ↔ ∃ s, v = .str s ∧ TxHash.parse s = .ok h) ∧
    ∀ v a?, Address.ofJson? v = .ok a? ↔ (a? = none ∧ (v = .null ∨ v = .str "")) ∨
      ∃ s a, v = .str s ∧ Address.parse s = .ok a ∧ a? = some a :=
  ⟨Address.identifies, TxHash.identifies, fun _ _ => Address.parseTopic_eq_ok_iff, by decide,
    fun _ _ => Address.ofJson_eq_ok_iff, fun _ _ => TxHash.ofJson_eq_ok_iff, fun _ _ => Address.ofJson?_eq_ok_iff⟩

/-- Capital digits with a capital marker and wide blanks are read as the bare digits. -/
theorem identifies_address_txHash_capitals :
    ∃ a, Address.parse "\u3000 0XF977814E90DA44BFA03B6295A0616A897441ACEC\n" = .ok a ∧
      Address.parse "f977814e90da44bfa03b6295a0616a897441acec" = .ok a ∧
      a.text = "0xf977814e90da44bfa03b6295a0616a897441acec" := by
  let bytes := Hex.pairs "f977814e90da44bfa03b6295a0616a897441acec".toList
  have length : bytes.length = 20 := by decide
  have padded : Hex.Denotes "\u3000 0XF977814E90DA44BFA03B6295A0616A897441ACEC\n" bytes := by decide +kernel
  have bare : Hex.Denotes "f977814e90da44bfa03b6295a0616a897441acec" bytes := by decide +kernel
  have spelled : Hex.canonical bytes = "0xf977814e90da44bfa03b6295a0616a897441acec" := by decide +kernel
  have address := identifies_address_txHash.1
  exact ⟨.ofBytes bytes, (address.reads _ _).2 ⟨_, length, padded, rfl⟩,
    (address.reads _ _).2 ⟨_, length, bare, rfl⟩, (address.text_ofBytes _ length).trans spelled⟩

end WalletWatch
