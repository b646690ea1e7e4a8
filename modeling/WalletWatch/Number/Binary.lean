/-!
# Floating point numbers, exactly

A finite floating point number is a whole number times a power of two. `Binary.ofFloat?` takes it apart,
`roundDiv` rounds a quotient to the nearest whole number with halves to the even one, and
`Binary.shortest` writes the fewest digits that read back as the same number, without an exponent.
-/

namespace WalletWatch

/-- The number `mantissa · 2 ^ exponent` with a sign. -/
structure Binary where
  negative : Bool
  mantissa : Nat
  exponent : Int
  deriving DecidableEq, Repr

namespace Binary

/-- The parts of a floating point number. Infinities and `NaN` have none. -/
def ofFloat? (x : Float) : Option Binary :=
  let bits : Nat := x.toBits.toNat
  let negative := bits / 0x8000000000000000 = 1
  let e : Nat := bits / 0x10000000000000 % 0x800
  let m : Nat := bits % 0x10000000000000
  if e = 2047 then none
  else if e = 0 then some ⟨negative, m, -1074⟩
  else some ⟨negative, 0x10000000000000 + m, Int.ofNat e - 1075⟩

def roundDiv (num den : Nat) : Nat :=
  let q := num / den
  let r := num % den
  if 2 * r < den then q
  else if den < 2 * r then q + 1
  else if q % 2 = 0 then q else q + 1

def scaled (b : Binary) (scale : Nat) : Nat :=
  if 0 ≤ b.exponent then b.mantissa * scale * Nat.pow 2 b.exponent.toNat
  else roundDiv (b.mantissa * scale) (Nat.pow 2 (-b.exponent).toNat)

/-- The numbers that are read back as one float lie between two ends, written over one denominator. The
ends belong to them if the mantissa is even. -/
structure Neighbourhood where
  low : Nat
  value : Nat
  high : Nat
  den : Nat
  closed : Bool

/-- The neighbourhood of a magnitude. Just below a power of two the floats are twice as close. -/
def neighbourhood (b : Binary) : Neighbourhood :=
  let below := if b.mantissa = 0x10000000000000 ∧ -1074 < b.exponent then 1 else 2
  let e := b.exponent - 2
  let up := if 0 ≤ e then Nat.pow 2 e.toNat else 1
  let den := if 0 ≤ e then 1 else Nat.pow 2 (-e).toNat
  ⟨(4 * b.mantissa - below) * up, 4 * b.mantissa * up, (4 * b.mantissa + 2) * up, den,
    b.mantissa % 2 = 0⟩

def Neighbourhood.contains (s : Neighbourhood) (n d : Nat) : Bool :=
  if s.closed then s.low * d ≤ n * s.den && n * s.den ≤ s.high * d
  else s.low * d < n * s.den && n * s.den < s.high * d

/-- The multiple of `10 ^ t` in the neighbourhood that is nearest to its value, as its factor. -/
def Neighbourhood.onGrid? (s : Neighbourhood) (t : Int) : Option Nat :=
  let up := if 0 ≤ t then Nat.pow 10 t.toNat else 1
  let d := if 0 ≤ t then 1 else Nat.pow 10 (-t).toNat
  let q := s.value * d / (s.den * up)
  let rest := s.value * d % (s.den * up)
  let lower := s.contains (q * up) d && 0 < q
  let upper := s.contains ((q + 1) * up) d
  if lower && upper then
    some (if 2 * rest < s.den * up || (2 * rest = s.den * up && q % 2 = 0) then q else q + 1)
  else if lower then some q
  else if upper then some (q + 1)
  else none

/-- The shortest decimal `d · 10 ^ t` in the neighbourhood of a magnitude, as `(d, t)`. The coarsest
grid with a member has the fewest digits. -/
def shortestDecimal (b : Binary) : Nat × Int :=
  let s := b.neighbourhood
  let found := (List.range 660).findSome? fun (i : Nat) =>
    let t : Int := 310 - (i : Int)
    (s.onGrid? t).map fun d => (d, t)
  found.getD (0, 0)

/-- The digits of `d · 10 ^ t` around a point, which a whole number does not have. -/
def positional (d : Nat) (t : Int) : List Char :=
  let ds := Nat.toDigits 10 d
  if 0 ≤ t then ds ++ List.replicate t.toNat '0'
  else
    let places := (-t).toNat
    let padded := List.replicate (places + 1 - ds.length) '0' ++ ds
    padded.take (padded.length - places) ++ '.' :: padded.drop (padded.length - places)

def shortest (b : Binary) : List Char :=
  let sign := if b.negative then ['-'] else []
  if b.mantissa = 0 then sign ++ ['0']
  else
    let (d, t) := b.shortestDecimal
    sign ++ positional d t

end Binary

def shortestText (x : Float) : String :=
  match Binary.ofFloat? x with
  | some b => String.ofList b.shortest
  | none => if x.isNaN then "NaN" else if x < 0 then "-inf" else "inf"

end WalletWatch
