import WalletWatch.Text.Blank
import WalletWatch.Text.Quoted

/-!
# Hexadecimal digits

Digits of either case are read and lower-case ones are written. `digits width n` is the fixed-width
form of a number, `decode` reads pairs of digits as bytes, and `dropMarker` removes one `0x` or `0X`.
-/

namespace WalletWatch

namespace Hex

def digitValue? (c : Char) : Option Nat :=
  if '0' ≤ c && c ≤ '9' then some (c.toNat - '0'.toNat)
  else if 'a' ≤ c && c ≤ 'f' then some (c.toNat - 'a'.toNat + 10)
  else if 'A' ≤ c && c ≤ 'F' then some (c.toNat - 'A'.toNat + 10)
  else none

def isDigit (c : Char) : Bool :=
  (digitValue? c).isSome

def digit (n : Nat) : Char :=
  if n < 10 then Char.ofNat ('0'.toNat + n) else Char.ofNat ('a'.toNat + (n - 10))

def digits : (width n : Nat) → List Char
  | 0, _ => []
  | width + 1, n => digits width (n / 16) ++ [digit (n % 16)]

def value (cs : List Char) : Nat :=
  cs.foldl (fun n c => n * 16 + (digitValue? c).getD 0) 0

def value? (cs : List Char) : Option Nat :=
  if cs.all isDigit then some (value cs) else none

def dropMarker : List Char → List Char
  | '0' :: 'x' :: cs => cs
  | '0' :: 'X' :: cs => cs
  | cs => cs

def quantity (n : Nat) : List Char :=
  '0' :: 'x' :: Text.hexNumber n

def byteDigits (b : UInt8) : List Char :=
  digits 2 b.toNat

def encode (bytes : List UInt8) : List Char :=
  bytes.flatMap byteDigits

/-- Why a text is not the digits of a byte sequence. -/
inductive Fault where
  /-- The digits do not pair up. -/
  | oddLength
  /-- The digits make another number of bytes than asked for. -/
  | wrongLength
  /-- A character that is no digit, shown by its first byte, and where that byte stands. -/
  | badDigit (shown : Char) (position : Nat)
  deriving DecidableEq, Repr

/-- The first byte of the UTF-8 form of a character, as the character with this number. -/
def leadByte (c : Char) : Char :=
  match String.utf8EncodeChar c with
  | b :: _ => Char.ofNat b.toNat
  | [] => c

/-- The first character that is no digit. All characters in front of it are single bytes, so its index in
the list is its index in the text. -/
def badDigit? (cs : List Char) : Option Fault :=
  match cs.dropWhile isDigit with
  | [] => none
  | c :: _ => some (.badDigit (leadByte c) (cs.takeWhile isDigit).length)

def pairs : List Char → List UInt8
  | high :: low :: cs => UInt8.ofNat (value [high, low]) :: pairs cs
  | _ => []

/-- Reads a byte sequence. An odd number of bytes is reported before any bad character. -/
def decode (cs : List Char) : Except Fault (List UInt8) :=
  if Text.utf8Length cs % 2 = 1 then .error .oddLength
  else match badDigit? cs with
    | some fault => .error fault
    | none => .ok (pairs cs)

/-- Reads a number of exactly `2 * size` digits. An odd number of bytes is reported first, another number
of bytes second, and a bad character last. -/
def decodeSized (size : Nat) (cs : List Char) : Except Fault Nat :=
  if Text.utf8Length cs % 2 = 1 then .error .oddLength
  else if Text.utf8Length cs ≠ 2 * size then .error .wrongLength
  else match badDigit? cs with
    | some fault => .error fault
    | none => .ok (value cs)

namespace Fault

def dataMessage : Fault → String
  | .oddLength => "Odd number of digits"
  | .wrongLength => "Invalid string length"
  | .badDigit c i => "Invalid character " ++ Text.quoteChar c ++ " at position " ++ toString i

def wordMessage : Fault → String
  | .oddLength => "odd number of digits"
  | .wrongLength => "invalid string length"
  | .badDigit c i => "invalid character " ++ Text.quoteChar c ++ " at position " ++ toString i

end Fault

def ofBytes (bytes : List UInt8) : Nat :=
  bytes.foldl (fun n b => n * 256 + b.toNat) 0

end Hex

end WalletWatch
