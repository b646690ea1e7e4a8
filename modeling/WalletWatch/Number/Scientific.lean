import WalletWatch.Number.Decimal

/-!
# Numbers with fraction and exponent

A literal has digits, perhaps a fraction and perhaps an exponent. It writes a whole number times a power
of ten. Its floating point number is the one next to that, which is no finite one where the number is
nearer to the power of two behind the last of them.
-/

namespace WalletWatch

/-- The number `digits * 10 ^ power` with a sign. -/
structure Scientific where
  negative : Bool
  digits : Nat
  power : Int
  deriving DecidableEq, Repr

namespace Scientific

def parse? (cs : List Char) : Option Scientific := do
  let (negative, cs) := match cs with
    | '-' :: cs => (true, cs)
    | '+' :: cs => (false, cs)
    | cs => (false, cs)
  let isMark (c : Char) := c = 'e' || c = 'E'
  let body := cs.takeWhile fun c => !isMark c
  let whole := body.takeWhile (· ≠ '.')
  let fraction := (body.dropWhile (· ≠ '.')).drop 1
  let digits ← Decimal.digits? (whole ++ fraction)
  let power ← match (cs.dropWhile fun c => !isMark c).drop 1 with
    | [] => some 0
    | ds => Decimal.integer? ds
  some ⟨negative, digits, power - fraction.length⟩

/-- The number of digits in front of the point, if there is a nonzero digit. -/
def places (x : Scientific) : Int :=
  (Nat.toDigits 10 x.digits).length + x.power

def infinite : Nat :=
  Nat.pow 2 1024 - Nat.pow 2 970

/-- Whether the magnitude is too great for a finite float. Below 309 places it never is, and above it
always is. -/
def overflows (x : Scientific) : Bool :=
  if x.digits = 0 || x.places < 309 then false
  else if 309 < x.places then true
  else if x.power < 0 then infinite * Nat.pow 10 x.power.natAbs ≤ x.digits
  else infinite ≤ x.digits * Nat.pow 10 x.power.natAbs

/-- The nearest float. From the 324th place after the point on it is zero. -/
def toFloat (x : Scientific) : Float :=
  let size :=
    if x.overflows then 1 / 0
    else if x.digits = 0 || x.places < -324 then 0
    else Float.ofScientific x.digits (x.power < 0) x.power.natAbs
  if x.negative then -size else size

end Scientific

def floatOfLiteral? (literal : String) : Option Float :=
  (Scientific.parse? literal.toList).map Scientific.toFloat

end WalletWatch
