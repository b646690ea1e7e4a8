import WalletWatch.Time.Calendar

/-!
# Instants

An instant of universal time is a day, a second of that day and a fraction in nanoseconds. A leap
second is the last second of a minute with a fraction of one second or more. The calendar reaches from
the start of the year -262143 to the end of the year 262142.

The written form has as many of 0, 3, 6 or 9 digits of fraction as the fraction needs, and years
outside 0 to 9999 carry a sign.
-/

namespace WalletWatch

structure Instant where
  /-- Days since the first of January 1970. -/
  day : Int
  second : Nat
  nano : Nat
  day_ge : -96465292 ≤ day
  day_le : day ≤ 95026236
  second_lt : second < 86400
  nano_lt : nano < 2000000000
  leap : 1000000000 ≤ nano → second % 60 = 59
  deriving DecidableEq

namespace Instant

instance : Inhabited Instant := ⟨⟨0, 0, 0, by decide, by decide, by decide, by decide, by decide⟩⟩

def of? (day : Int) (second nano : Nat) : Option Instant :=
  if h : -96465292 ≤ day ∧ day ≤ 95026236 ∧ second < 86400 ∧ nano < 2000000000 ∧
      (1000000000 ≤ nano → second % 60 = 59) then
    some ⟨day, second, nano, h.1, h.2.1, h.2.2.1, h.2.2.2.1, h.2.2.2.2⟩
  else none

/-- The instant `n` seconds after the start of 1970, if the calendar reaches it. -/
def ofUnix? (n : Int) : Option Instant :=
  of? (n / 86400) (n % 86400).toNat 0

def toUnix (t : Instant) : Int :=
  t.day * 86400 + t.second

def pad (width n : Nat) : List Char :=
  let ds := Nat.toDigits 10 n
  List.replicate (width - ds.length) '0' ++ ds

def writeYear (y : Int) : List Char :=
  if 0 ≤ y ∧ y ≤ 9999 then pad 4 y.toNat
  else if y < 0 then '-' :: pad 4 y.natAbs
  else '+' :: pad 4 y.toNat

def writeFraction (nano : Nat) : List Char :=
  if nano = 0 then []
  else if nano % 1000000 = 0 then '.' :: pad 3 (nano / 1000000)
  else if nano % 1000 = 0 then '.' :: pad 6 (nano / 1000)
  else '.' :: pad 9 nano

def writeLocal (t : Instant) : List Char :=
  let d := CivilDate.ofDays t.day
  let second := t.second % 60 + t.nano / 1000000000
  writeYear d.year ++ '-' :: pad 2 d.month ++ '-' :: pad 2 d.day ++
    'T' :: pad 2 (t.second / 3600) ++ ':' :: pad 2 (t.second / 60 % 60) ++ ':' :: pad 2 second ++
    writeFraction (t.nano % 1000000000)

def text (t : Instant) : String :=
  String.ofList (t.writeLocal ++ ['Z'])

def textWithOffset (t : Instant) : String :=
  String.ofList (t.writeLocal ++ "+00:00".toList)

end Instant

end WalletWatch
