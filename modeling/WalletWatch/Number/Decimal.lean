import WalletWatch.Number.Width

/-!
# Whole numbers in decimal

A sign in front of the digits is optional. A number that may not be negative takes only `+`.
-/

namespace WalletWatch

namespace Decimal

def value (ds : List Char) : Nat :=
  ds.foldl (fun n c => n * 10 + (c.toNat - '0'.toNat)) 0

def digits? (cs : List Char) : Option Nat :=
  if !cs.isEmpty && cs.all Char.isDigit then some (value cs) else none

def natural? : List Char → Option Nat
  | '+' :: cs => digits? cs
  | cs => digits? cs

def integer? : List Char → Option Int
  | '-' :: cs => (digits? cs).map fun n => -(n : Int)
  | cs => (natural? cs).map fun n => (n : Int)

def word? (cs : List Char) : Option Int := do
  let n ← integer? cs
  if Width.fitsSigned64 n then some n else none

end Decimal

end WalletWatch
