import WalletWatch.Number.Decimal

/-!
# JSON documents

A document is a tree whose members keep the order of the text. Numbers keep their literal, so that an
integer of any size survives, with the exponent in one form. Two leaves stand for what a text can hold
and a value cannot:

* a string whose escapes name half of a surrogate pair has no text (`none`), which is a fault only for
  a reader that asks for the text;
* `broken` stands where the text stops being JSON, and everything behind that place is lost.

Keeping `broken` inside the tree lets a reader that goes through a document from left to right report
whichever fault comes first.
-/

namespace WalletWatch

/-- A JSON document, up to the place where it stops being one. -/
inductive Json where
  | null
  | bool (b : Bool)
  | number (literal : String)
  | string (text : Option String)
  | array (items : List Json)
  | object (members : List (Option String × Json))
  | broken

namespace Json

instance : Inhabited Json := ⟨null⟩

def str (s : String) : Json :=
  string (some s)

def obj (members : List (String × Json)) : Json :=
  object (members.map fun (key, value) => (some key, value))

def nat (n : Nat) : Json :=
  number (toString n)

def int (n : Int) : Json :=
  number (toString n)

def numberKey : String :=
  "$serde_json::private::Number"

def documentKey : String :=
  "$serde_json::private::RawValue"

def text? : Json → Option String
  | string text => text
  | _ => none

def member? (key : String) : Json → Option Json
  | object members => (members.reverse.find? fun m => m.1 = some key).map (·.2)
  | _ => none

def isBroken : Json → Bool
  | broken => true
  | _ => false

mutual

def isWhole : Json → Bool
  | null => true
  | bool _ => true
  | number _ => true
  | string _ => true
  | array items => itemsWhole items
  | object members => membersWhole members
  | broken => false

def itemsWhole : List Json → Bool
  | [] => true
  | item :: items => isWhole item && itemsWhole items

def membersWhole : List (Option String × Json) → Bool
  | [] => true
  | (_, value) :: members => isWhole value && membersWhole members

end

def natOfLiteral? (literal : String) : Option Nat :=
  Decimal.digits? literal.toList

/-- The value of a literal without point or exponent. A negative zero is no integer. -/
def intOfLiteral? (literal : String) : Option Int :=
  match literal.toList with
  | '-' :: cs => match natOfLiteral? (String.ofList cs) with
    | some 0 => none
    | some n => some (-(n : Int))
    | none => none
  | _ => (natOfLiteral? literal).map (·)

end Json

end WalletWatch
