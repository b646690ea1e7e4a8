import WalletWatch.Address
import WalletWatch.Json.Parser
import WalletWatch.Json.Printer
import WalletWatch.Number.Width

/-!
# Reading records

A record is given as an object, with unknown members ignored, or as an array of its fields in order.
The fields are checked in the order of the text, so the first fault of the text is the one reported: a
second member of a known name, a value that its field refuses, or the place where the text stops being
JSON. Fields that are missing are noticed last.
-/

namespace WalletWatch

/-- Why a document is not a value of the type that a reader expects. -/
inductive Refusal where
  /-- It has another shape, or it is no JSON. -/
  | shape
  /-- An identifier in it is none. -/
  | identifier (fault : IdentifierFault)
  /-- A number in it is not written with digits alone. -/
  | amount (literal : String)
  deriving DecidableEq, Repr

namespace Refusal

def message? : Refusal → Option String
  | shape => none
  | identifier fault => some fault.message
  | amount literal => some ("invalid unsigned integer: " ++ literal)

end Refusal

namespace Json

def readText : Json → Except Refusal String
  | string (some s) => .ok s
  | _ => .error .shape

def readInt64 : Json → Except Refusal Int
  | number literal => match intOfLiteral? literal with
    | some n => if Width.fitsSigned64 n then .ok n else .error .shape
    | none => .error .shape
  | _ => .error .shape

def readNat64 : Json → Except Refusal Nat
  | number literal => match natOfLiteral? literal with
    | some n => if Width.fits64 n then .ok n else .error .shape
    | none => .error .shape
  | _ => .error .shape

def amountOfLiteral (literal : String) : Except Refusal Nat :=
  match natOfLiteral? literal with
  | some n => .ok n
  | none => .error (.amount literal)

/-- Reads an unsigned integer of any size, which may be wrapped in an object. -/
def readAmount : Json → Except Refusal Nat
  | number literal => amountOfLiteral literal
  | object [(some key, string (some s))] =>
    if key = numberKey then
      match literal? s with
      | some literal => amountOfLiteral literal
      | none => .error .shape
    else .error .shape
  | _ => .error .shape

def readNullable {α : Type} (read : Json → Except Refusal α) : Json → Except Refusal (Option α)
  | null => .ok none
  | v => (read v).map some

def readItemsWith {α : Type} (read : Json → Except Refusal α) : List Json → Except Refusal (List α)
  | [] => .ok []
  | item :: items => do
    let x ← read item
    let xs ← readItemsWith read items
    return x :: xs

def readList {α : Type} (read : Json → Except Refusal α) : Json → Except Refusal (List α)
  | array items => readItemsWith read items
  | _ => .error .shape

/-- When a field may be left out: never, as a member of an object, or also at the end of an array. -/
inductive Presence where
  | required
  | optional
  | trailing
  deriving DecidableEq

/-- A field of a record: its name, the check of its value, and when it may be left out. -/
structure Field where
  name : String
  check : Json → Except Refusal Unit
  presence : Presence

def field {α : Type} (name : String) (read : Json → Except Refusal α) : Field :=
  ⟨name, fun v => (read v).map fun _ => (), .required⟩

def optionalField {α : Type} (name : String) (read : Json → Except Refusal α) : Field :=
  ⟨name, fun v => (read v).map fun _ => (), .optional⟩

def trailingField {α : Type} (name : String) (read : Json → Except Refusal α) : Field :=
  ⟨name, fun v => (read v).map fun _ => (), .trailing⟩

abbrev Record := List (String × Json)

def Field.find? (fields : List Field) (key : Option String) : Option Field :=
  fields.find? fun f => some f.name = key

def checkMembers (fields : List Field) (seen : Record) :
    List (Option String × Json) → Except Refusal Record
  | [] => .ok seen
  | (none, _) :: _ => .error .shape
  | (some key, value) :: members =>
    match Field.find? fields (some key) with
    | some f =>
      if seen.any fun m => m.1 = key then .error .shape
      else do
        f.check value
        checkMembers fields (seen ++ [(key, value)]) members
    | none => if value.isWhole then checkMembers fields seen members else .error .shape

def checkItems : List Field → List Json → Except Refusal Record
  | [], [] => .ok []
  | [], _ :: _ => .error .shape
  | f :: fields, [] => if f.presence = .trailing then checkItems fields [] else .error .shape
  | f :: fields, item :: items => do
    f.check item
    let rest ← checkItems fields items
    return (f.name, item) :: rest

def readRecord (fields : List Field) : Json → Except Refusal Record
  | object members => do
    let record ← checkMembers fields [] members
    if fields.all fun f => f.presence ≠ .required || record.any fun m => m.1 = f.name then
      .ok record
    else .error .shape
  | array items => checkItems fields items
  | _ => .error .shape

namespace Record

def get {α : Type} (r : Record) (name : String) (read : Json → Except Refusal α) :
    Except Refusal α :=
  match r.find? fun m => m.1 = name with
  | some m => read m.2
  | none => .error .shape

def getD {α : Type} (r : Record) (name : String) (absent : α) (read : Json → Except Refusal α) :
    Except Refusal α :=
  match r.find? fun m => m.1 = name with
  | some m => read m.2
  | none => .ok absent

end Record

def readDocument {α : Type} (read : Json → Except Refusal α) (s : String) : Except Refusal α :=
  let document := Document.read s
  match read document.value with
  | .ok x => if document.ends then .ok x else .error .shape
  | .error e => .error e

/-- Inserts a member into a list that is sorted by key, in place of a member of the same key. -/
def insertMember (key : String) (value : Json) : List (String × Json) → List (String × Json)
  | [] => [(key, value)]
  | (k, v) :: members =>
    if key < k then (key, value) :: (k, v) :: members
    else if key = k then (key, value) :: members
    else (k, v) :: insertMember key value members

mutual

/-- The document as a value: members sorted by key, with the last one of each key, and nested fewer than
`depth` containers deep. An object whose first key is `numberKey` or `documentKey` has no other member
and stands for the number or the document in its text, which `embedded` reads. -/
def toValueWith? (embedded : String → Option Json) : (depth : Nat) → Json → Option Json
  | _, null => some null
  | _, bool b => some (bool b)
  | _, number literal => some (number literal)
  | _, string (some s) => some (string (some s))
  | _, string none => none
  | depth, array items =>
    if depth ≤ 1 then none else (itemsToValue? embedded (depth - 1) items).map array
  | depth, object [] => if depth ≤ 1 then none else some (object [])
  | depth, object ((key, value) :: members) =>
    if depth ≤ 1 then none
    else if key = some numberKey then
      match value, members with
      | string (some s), [] => (literal? s).map number
      | _, _ => none
    else if key = some documentKey then
      match value, members with
      | string (some s), [] => embedded s
      | _, _ => none
    else (membersToValue? embedded (depth - 1) [] ((key, value) :: members)).map obj
  | _, broken => none

def itemsToValue? (embedded : String → Option Json) : (depth : Nat) → List Json → Option (List Json)
  | _, [] => some []
  | depth, item :: items => do
    let v ← toValueWith? embedded depth item
    let vs ← itemsToValue? embedded depth items
    return v :: vs

def membersToValue? (embedded : String → Option Json) :
    (depth : Nat) → List (String × Json) → List (Option String × Json) → Option (List (String × Json))
  | _, sorted, [] => some sorted
  | _, _, (none, _) :: _ => none
  | depth, sorted, (some key, value) :: members => do
    let v ← toValueWith? embedded depth value
    membersToValue? embedded depth (insertMember key v sorted) members

end

def maxDepth : Nat :=
  128

/-- Reads a text as one value. `embedding` bounds how deep documents are embedded as texts. -/
def parseEmbedded? : (embedding : Nat) → String → Option Json
  | 0, _ => none
  | embedding + 1, s =>
    let document := Document.read s
    match document.value.toValueWith? (parseEmbedded? embedding) maxDepth with
    | some v => if document.ends then some v else none
    | none => none

/-- Reads a text as one value. An embedded text is shorter than the text around it, so the length bounds
the embedding. -/
def parseValue? (s : String) : Option Json :=
  parseEmbedded? (s.length + 1) s

def toValue? (depth : Nat) (v : Json) : Option Json :=
  v.toValueWith? parseValue? depth

end Json

namespace Address

def ofJson (v : Json) : Except Refusal Address := do
  match parse (← v.readText) with
  | .ok a => .ok a
  | .error fault => .error (.identifier fault)

def toJson (a : Address) : Json :=
  .str a.text

def ofJson? (v : Json) : Except Refusal (Option Address) := do
  match ← Json.readNullable Json.readText v with
  | none => .ok none
  | some s =>
    if s.isEmpty then .ok none
    else match parse s with
      | .ok a => .ok (some a)
      | .error fault => .error (.identifier fault)

/-- An address that may be missing as a document. The empty text stands for `none`. -/
def toJson? (a : Option Address) : Json :=
  .str ((a.map text).getD "")

end Address

namespace TxHash

def ofJson (v : Json) : Except Refusal TxHash := do
  match parse (← v.readText) with
  | .ok h => .ok h
  | .error fault => .error (.identifier fault)

def toJson (h : TxHash) : Json :=
  .str h.text

end TxHash

end WalletWatch
