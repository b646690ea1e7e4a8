import WalletWatch.Failure
import WalletWatch.Hex
import WalletWatch.Number.Width

/-!
# Quantities

The node writes numbers in hexadecimal behind a marker. Numbers of 64 bits and numbers of any size are
read by two readers: the first takes a plus sign in front, the second also takes underscores between
digits and reads no digits at all as zero.
-/

namespace WalletWatch

namespace Quantity

/-- Why some digits are no number of 64 bits. -/
inductive Fault where
  | empty
  | badDigit
  | tooLarge
  deriving DecidableEq, Repr

namespace Fault

def message : Fault → String
  | empty => "cannot parse integer from empty string"
  | badDigit => "invalid digit found in string"
  | tooLarge => "number too large to fit in target type"

end Fault

/-- Reads the digits after a number that was read already. The first fault is reported, and a bad
character counts before the size of the number in front of it. -/
def readFrom (n : Nat) : List Char → Except Fault Nat
  | [] => .ok n
  | c :: cs =>
    match Hex.digitValue? c with
    | none => .error .badDigit
    | some d =>
      if Width.fits64 (n * 16 + d) then readFrom (n * 16 + d) cs else .error .tooLarge

def readDigits : List Char → Except Fault Nat
  | [] => .error .empty
  | ['+'] => .error .badDigit
  | '+' :: cs => readFrom 0 cs
  | cs => readFrom 0 cs

def parse64 (s : String) : Except NodeError Nat :=
  match readDigits (Hex.dropMarker s.toList) with
  | .ok n => .ok n
  | .error fault => .error (.invalidResponse
      ("Failed to parse hex '" ++ s ++ "' to u64: " ++ fault.message))

def dropPlus : List Char → List Char
  | '+' :: '+' :: cs => '+' :: '+' :: cs
  | '+' :: cs => cs
  | cs => cs

/-- Reads a number of any size. Underscores may stand anywhere but in front. -/
def readAmount? (cs : List Char) : Option Nat :=
  match dropPlus cs with
  | [] => none
  | '_' :: _ => none
  | cs => Hex.value? (cs.filter (· ≠ '_'))

def parse (s : String) : Except NodeError Nat :=
  let cs := Hex.dropMarker s.toList
  if cs.isEmpty then .ok 0
  else match readAmount? cs with
    | some n => .ok n
    | none => .error (.invalidResponse ("Failed to parse hex quantity '" ++ s ++ "'"))

def text (n : Nat) : String :=
  String.ofList (Hex.quantity n)

end Quantity

end WalletWatch
