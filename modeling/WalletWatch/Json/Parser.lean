import WalletWatch.Hex
import WalletWatch.Json.Basic

/-!
# Reading JSON

A reader for the standard grammar that always returns a document: where the text stops being JSON it
leaves `Json.broken` and gives up the rest. Blanks are the four of the grammar. `Document.read` is the
entry; it also says whether anything but blanks follows the value.
-/

namespace WalletWatch

namespace Json

def isSpace (c : Char) : Bool :=
  c = ' ' || c = '\n' || c = '\t' || c = '\r'

def skipSpace (cs : List Char) : List Char :=
  cs.dropWhile isSpace

/-- A string literal: its text, a literal without a text, or no literal at all. -/
inductive Literal where
  | text (cs : List Char) (rest : List Char)
  | unpaired (rest : List Char)
  | broken

def Literal.push (c : Char) : Literal → Literal
  | .text cs rest => .text (c :: cs) rest
  | l => l

def Literal.spoil : Literal → Literal
  | .text _ rest => .unpaired rest
  | l => l

/-- The state of a string reader: between characters, after a backslash, or within the digits of an
escape, with the number of digits to come and the value so far. `high` is the first half of a surrogate
pair. -/
inductive StringState where
  | plain
  | escape
  | digits (owed value : Nat)
  | afterHigh (high : Nat)
  | afterHighEscape (high : Nat)
  | lowDigits (high owed value : Nat)

def shortEscape? (c : Char) : Option Char :=
  if c = '"' then some '"'
  else if c = '\\' then some '\\'
  else if c = '/' then some '/'
  else if c = 'b' then some '\x08'
  else if c = 'f' then some '\x0c'
  else if c = 'n' then some '\n'
  else if c = 'r' then some '\r'
  else if c = 't' then some '\t'
  else none

def isHigh (n : Nat) : Bool :=
  0xD800 ≤ n && n < 0xDC00

def isLow (n : Nat) : Bool :=
  0xDC00 ≤ n && n < 0xE000

/-- Reads a string after its opening quotation mark. A lone surrogate spoils the text, but reading goes
on so that the literal still has an end. -/
def readString : StringState → List Char → Literal
  | _, [] => .broken
  | .plain, c :: cs =>
    if c = '"' then .text [] cs
    else if c = '\\' then readString .escape cs
    else if c.toNat < 0x20 then .broken
    else (readString .plain cs).push c
  | .escape, c :: cs =>
    if c = 'u' then readString (.digits 4 0) cs
    else match shortEscape? c with
      | some e => (readString .plain cs).push e
      | none => .broken
  | .digits owed value, c :: cs =>
    match Hex.digitValue? c with
    | none => .broken
    | some d =>
      let value := value * 16 + d
      if 1 < owed then readString (.digits (owed - 1) value) cs
      else if isHigh value then readString (.afterHigh value) cs
      else if isLow value then (readString .plain cs).spoil
      else (readString .plain cs).push (Char.ofNat value)
  | .afterHigh high, c :: cs =>
    if c = '\\' then readString (.afterHighEscape high) cs
    else if c = '"' then .unpaired cs
    else if c.toNat < 0x20 then .broken
    else (readString .plain cs).spoil
  | .afterHighEscape high, c :: cs =>
    if c = 'u' then readString (.lowDigits high 4 0) cs
    else match shortEscape? c with
      | some _ => (readString .plain cs).spoil
      | none => .broken
  | .lowDigits high owed value, c :: cs =>
    match Hex.digitValue? c with
    | none => .broken
    | some d =>
      let value := value * 16 + d
      if 1 < owed then readString (.lowDigits high (owed - 1) value) cs
      else if isLow value then
        (readString .plain cs).push (Char.ofNat (0x10000 + (high - 0xD800) * 0x400 + (value - 0xDC00)))
      else if isHigh value then (readString (.afterHigh value) cs).spoil
      else (readString .plain cs).spoil

def spanDigits (cs : List Char) : List Char × List Char :=
  (cs.takeWhile Char.isDigit, cs.dropWhile Char.isDigit)

/-- Reads the exponent of a number, which is kept with a small `e` and a sign. -/
def readExponent (front cs : List Char) : Option (List Char × List Char) :=
  match cs with
  | e :: cs =>
    if e = 'e' || e = 'E' then
      let (sign, cs) := match cs with
        | '+' :: cs => ('+', cs)
        | '-' :: cs => ('-', cs)
        | cs => ('+', cs)
      let (ds, rest) := spanDigits cs
      if ds.isEmpty then none else some (front ++ 'e' :: sign :: ds, rest)
    else some (front, e :: cs)
  | [] => some (front, [])

def readFraction (front cs : List Char) : Option (List Char × List Char) :=
  match cs with
  | '.' :: cs =>
    let (ds, rest) := spanDigits cs
    if ds.isEmpty then none else readExponent (front ++ '.' :: ds) rest
  | cs => readExponent front cs

/-- Reads a number and gives its literal and the rest. A whole part has no leading zero. -/
def readNumber (cs : List Char) : Option (List Char × List Char) :=
  let (sign, cs) := match cs with
    | '-' :: cs => (['-'], cs)
    | cs => ([], cs)
  let (ds, rest) := spanDigits cs
  match ds with
  | [] => none
  | '0' :: _ :: _ => none
  | ds => readFraction (sign ++ ds) rest

def literal? (s : String) : Option String :=
  match readNumber s.toList with
  | some (literal, []) => some (String.ofList literal)
  | _ => none

def readWord (word : String) (v : Json) (cs : List Char) : Json × List Char :=
  match Text.dropMark? word.toList cs with
  | some rest => (v, rest)
  | none => (broken, [])

mutual

/-- Reads a value and gives the document and the rest. Each call consumes a character, so the length of
the text is enough fuel. -/
def readValue : (fuel : Nat) → List Char → Json × List Char
  | 0, _ => (broken, [])
  | fuel + 1, cs =>
    match skipSpace cs with
    | [] => (broken, [])
    | c :: cs =>
      if c = '"' then
        match readString .plain cs with
        | .text s rest => (string (some (String.ofList s)), rest)
        | .unpaired rest => (string none, rest)
        | .broken => (broken, [])
      else if c = '[' then
        match skipSpace cs with
        | ']' :: rest => (array [], rest)
        | cs => let (items, rest) := readItems fuel cs; (array items, rest)
      else if c = '\x7b' then
        match skipSpace cs with
        | '\x7d' :: rest => (object [], rest)
        | cs => let (members, rest) := readMembers fuel cs; (object members, rest)
      else if c = 'n' then readWord "null" null (c :: cs)
      else if c = 't' then readWord "true" (bool true) (c :: cs)
      else if c = 'f' then readWord "false" (bool false) (c :: cs)
      else match readNumber (c :: cs) with
        | some (literal, rest) => (number (String.ofList literal), rest)
        | none => (broken, [])

def readItems : (fuel : Nat) → List Char → List Json × List Char
  | 0, _ => ([broken], [])
  | fuel + 1, cs =>
    let (item, rest) := readValue fuel cs
    match skipSpace rest with
    | ',' :: rest => let (items, rest) := readItems fuel rest; (item :: items, rest)
    | ']' :: rest => ([item], rest)
    | _ => if item.isBroken then ([item], []) else ([item, broken], [])

def readMembers : (fuel : Nat) → List Char → List (Option String × Json) × List Char
  | 0, _ => ([(none, broken)], [])
  | fuel + 1, cs =>
    match skipSpace cs with
    | '"' :: cs =>
      match readString .plain cs with
      | .broken => ([(none, broken)], [])
      | .text s rest => readMember fuel (some (String.ofList s)) rest
      | .unpaired rest => readMember fuel none rest
    | _ => ([(none, broken)], [])

def readMember : (fuel : Nat) → Option String → List Char → List (Option String × Json) × List Char
  | 0, key, _ => ([(key, broken)], [])
  | fuel + 1, key, cs =>
    match skipSpace cs with
    | ':' :: cs =>
      let (value, rest) := readValue fuel cs
      match skipSpace rest with
      | ',' :: rest => let (members, rest) := readMembers fuel rest; ((key, value) :: members, rest)
      | '\x7d' :: rest => ([(key, value)], rest)
      | _ => if value.isBroken then ([(key, value)], []) else ([(key, value), (none, broken)], [])
    | _ => ([(key, broken)], [])

end

/-- A text read as JSON: its value, and whether only blanks follow it. -/
structure Document where
  value : Json
  ends : Bool

def Document.read (s : String) : Document :=
  let cs := s.toList
  let (value, rest) := readValue (3 * cs.length + 3) cs
  ⟨value, (skipSpace rest).isEmpty⟩

end Json

end WalletWatch
