import WalletWatch.Number.Decimal
import WalletWatch.Text.Blank
import WalletWatch.Time.Instant

/-!
# Reading instants

The written form of an instant, read with some freedom: fields may have one digit and blanks in front,
the separator of date and time is a T or a space, the fraction has any number of digits of which nine
count, and the zone is a Z, the letters UTC or an offset below 24 hours with hours and minutes. A year
of more than four digits needs a sign. A sixtieth second is kept as a leap second.
-/

namespace WalletWatch

namespace Instant

def spanDigits : (limit : Nat) → List Char → List Char × List Char
  | 0, cs => ([], cs)
  | _ + 1, [] => ([], [])
  | limit + 1, c :: cs =>
    if c.isDigit then
      let (ds, rest) := spanDigits limit cs
      (c :: ds, rest)
    else ([], c :: cs)

def readField (limit : Nat) (cs : List Char) : Option (Nat × List Char) :=
  let (ds, rest) := spanDigits limit (Text.trimStart cs)
  if ds.isEmpty then none else some (Decimal.value ds, rest)

def readLong (cs : List Char) : Option (Nat × List Char) :=
  let (ds, rest) := spanDigits cs.length cs
  if ds.isEmpty then none else some (Decimal.value ds, rest)

def readYear (cs : List Char) : Option (Int × List Char) :=
  match Text.trimStart cs with
  | '-' :: cs => (readLong cs).map fun (n, rest) => (-(n : Int), rest)
  | '+' :: cs => (readLong cs).map fun (n, rest) => ((n : Int), rest)
  | cs => (readField 4 cs).map fun (n, rest) => ((n : Int), rest)

def readMark (mark : Char) (cs : List Char) : Option (List Char) :=
  match Text.trimStart cs with
  | c :: rest => if c = mark then some rest else none
  | [] => none

/-- Reads a fraction of a second as nanoseconds. Digits after the ninth are skipped. -/
def readFraction (cs : List Char) : Option (Nat × List Char) :=
  match cs with
  | '.' :: cs =>
    let (ds, rest) := spanDigits 9 cs
    if ds.isEmpty then none
    else some (Decimal.value ds * Nat.pow 10 (9 - ds.length), rest.dropWhile Char.isDigit)
  | cs => some (0, cs)

def dropUtc? : List Char → Option (List Char)
  | u :: t :: c :: rest =>
    if u.toUpper = 'U' && t.toUpper = 'T' && c.toUpper = 'C' then some rest else none
  | _ => none

/-- Reads the hours and minutes of an offset as seconds. Colons and blanks may separate them. -/
def readOffset (cs : List Char) : Option (Nat × List Char) :=
  match cs with
  | h₁ :: h₂ :: cs =>
    match cs.dropWhile fun c => c = ':' || Text.isBlank c with
    | m₁ :: m₂ :: rest =>
      if h₁.isDigit && h₂.isDigit && m₁.isDigit && m₂.isDigit && m₁ ≤ '5' then
        some (Decimal.value [h₁, h₂] * 3600 + Decimal.value [m₁, m₂] * 60, rest)
      else none
    | _ => none
  | _ => none

def readZone (cs : List Char) : Option (Int × List Char) :=
  match dropUtc? cs with
  | some rest => some (0, rest)
  | none =>
    match cs with
    | 'Z' :: rest => some (0, rest)
    | 'z' :: rest => some (0, rest)
    | '+' :: cs => (readOffset cs).map fun (n, rest) => ((n : Int), rest)
    | '-' :: cs => (readOffset cs).map fun (n, rest) => (-(n : Int), rest)
    | '−' :: cs => (readOffset cs).map fun (n, rest) => (-(n : Int), rest)
    | _ => none

/-- The instant of a date, a time and a zone. Both the local and the universal time have to be on the
calendar. -/
def ofLocal? (date : CivilDate) (hour minute second nano : Nat) (zone : Int) : Option Instant :=
  if date.isValid && hour ≤ 23 && minute ≤ 59 && second ≤ 60 && zone.natAbs < 86400 then
    let (second, nano) := if second = 60 then (59, nano + 1000000000) else (second, nano)
    let inDay := hour * 3600 + minute * 60 + second
    match of? date.toDays inDay nano with
    | some _ =>
      let shifted : Int := inDay - zone
      of? (date.toDays + shifted / 86400) (shifted % 86400).toNat nano
    | none => none
  else none

def parse? (s : String) : Option Instant := do
  let (year, cs) ← readYear s.toList
  let cs ← readMark '-' cs
  let (month, cs) ← readField 2 cs
  let cs ← readMark '-' cs
  let (day, cs) ← readField 2 cs
  let cs ← match cs with
    | c :: rest => if c = 'T' || c = 't' || c = ' ' then some rest else none
    | [] => none
  let (hour, cs) ← readField 2 cs
  let cs ← readMark ':' cs
  let (minute, cs) ← readField 2 cs
  let cs ← readMark ':' cs
  let (second, cs) ← readField 2 cs
  let (nano, cs) ← readFraction cs
  let (zone, cs) ← readZone (Text.trimStart cs)
  if Text.allBlank cs then ofLocal? ⟨year, month, day⟩ hour minute second nano zone else none

end Instant

end WalletWatch
