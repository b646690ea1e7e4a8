import WalletWatch.Number.Binary

/-!
# Spans of time

A span is a number of nanoseconds whose seconds fit into 64 bits. A number of seconds that is negative,
too large or no number is no span.
-/

namespace WalletWatch

structure Span where
  nanos : Nat
  deriving DecidableEq, Repr

namespace Span

/-- The span of some seconds, rounded to the nearest nanosecond, if there is one. -/
def ofSeconds? (x : Float) : Option Span :=
  match Binary.ofFloat? x with
  | none => none
  | some b =>
    let n := b.scaled (1000000000)
    if b.negative && b.mantissa ≠ 0 then none
    else if n < 18446744073709551616000000000 then some ⟨n⟩
    else none

def seconds (s : Span) : Nat :=
  s.nanos / 1000000000

def subsecond (s : Span) : Nat :=
  s.nanos % 1000000000

def millis (s : Span) : Nat :=
  s.nanos / 1000000

def timerMillis (s : Span) : Nat :=
  (s.nanos + 999999) / 1000000

end Span

end WalletWatch
