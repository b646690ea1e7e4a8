import WalletWatch.Number.Width
import WalletWatch.Time.Span

/-!
# Retry policies

A policy says how often an operation is attempted and how long to wait in between. The waits grow by a
factor from attempt to attempt, up to a longest wait, and may be blurred by up to five per cent either
way so that programs that failed together do not come back together.
-/

namespace WalletWatch

namespace Retry

structure Policy where
  /-- Attempts in all, the first one included. -/
  maxAttempts : Nat
  initialSeconds : Nat
  maxSeconds : Nat
  /-- What each wait is multiplied with to get the next. -/
  multiplier : Float
  /-- Whether the waits are blurred. -/
  jitter : Bool

namespace Policy

def startup : Policy :=
  ⟨2, 1, 5, 2.0, true⟩

def standard : Policy :=
  ⟨5, 1, 60, 2.0, true⟩

end Policy

def raise (base product : Float) (n : Nat) : Float :=
  let product := if n % 2 = 1 then product * base else product
  if n < 2 then product else raise (base * base) product (n / 2)
termination_by n
decreasing_by omega

/-- An integer power. A negative one is the reciprocal. -/
def power (base : Float) (n : Int) : Float :=
  let p := raise base 1.0 n.natAbs
  if n < 0 then 1.0 / p else p

def smaller (x y : Float) : Float :=
  if x.isNaN || y < x then y else x

def larger (x y : Float) : Float :=
  if x.isNaN || x < y then y else x

namespace Policy

def exponent (attempt : Nat) : Int :=
  Width.signed32 ((attempt : Int) - 1)

/-- The seconds to wait after an attempt. `chance`, between zero and one, places a jittered wait in its
range, with its centre at one half. -/
def seconds (p : Policy) (attempt : Nat) (chance : Float) : Float :=
  let grown := p.initialSeconds.toUInt64.toFloat * power p.multiplier (exponent attempt)
  let capped := smaller grown p.maxSeconds.toUInt64.toFloat
  if p.jitter then larger (capped + capped * 0.1 * (chance - 0.5)) 0.0 else capped

def delay? (p : Policy) (chance : Float) (attempt : Nat) : Option Span :=
  Span.ofSeconds? (p.seconds attempt chance)

end Policy

end Retry

end WalletWatch
