/-!
# UTF-16

Reading bytes as UTF-16 of either byte order. Whatever makes no character becomes the replacement
character: half of a pair without its partner, and what an early end leaves over.
-/

namespace WalletWatch

namespace Utf16

inductive Order where
  | little
  | big
  deriving DecidableEq, Repr

def Order.unit : Order → (first second : UInt8) → Nat
  | little, a, b => b.toNat * 256 + a.toNat
  | big, a, b => a.toNat * 256 + b.toNat

def isHigh (n : Nat) : Bool :=
  0xD800 ≤ n && n < 0xDC00

def isLow (n : Nat) : Bool :=
  0xDC00 ≤ n && n < 0xE000

def ofPair (high low : Nat) : Char :=
  Char.ofNat (0x10000 + (high - 0xD800) * 0x400 + (low - 0xDC00))

def decodeFrom (order : Order) : (pending : Option Nat) → List UInt8 → List Char
  | none, [] => []
  | some _, [] => ['\ufffd']
  | _, [_] => ['\ufffd']
  | none, a :: b :: rest =>
    let n := order.unit a b
    if isHigh n then decodeFrom order (some n) rest
    else if isLow n then '\ufffd' :: decodeFrom order none rest
    else Char.ofNat n :: decodeFrom order none rest
  | some high, a :: b :: rest =>
    let n := order.unit a b
    if isLow n then ofPair high n :: decodeFrom order none rest
    else if isHigh n then '\ufffd' :: decodeFrom order (some n) rest
    else '\ufffd' :: Char.ofNat n :: decodeFrom order none rest

/-- The text of a byte sequence, with a replacement character for every fault. -/
def decodeLossy (order : Order) (bytes : List UInt8) : List Char :=
  decodeFrom order none bytes

end Utf16

end WalletWatch
