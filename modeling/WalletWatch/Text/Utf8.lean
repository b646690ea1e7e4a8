/-!
# UTF-8

Reading bytes as UTF-8. `pieces` splits a byte sequence into characters and faults, where a fault is
the longest run of bytes that starts a character and does not finish it, or a single byte that starts
none. A strict reader refuses the first fault and a lossy one writes the replacement character for
each, so both are views of the same pieces.
-/

namespace WalletWatch

namespace Utf8

def encode (cs : List Char) : List UInt8 :=
  cs.flatMap String.utf8EncodeChar

inductive Piece where
  /-- A well-formed character. -/
  | char (c : Char)
  /-- A run of `length` bytes that the next byte cannot continue. -/
  | invalid (length : Nat)
  /-- A run of bytes that the end of the input cuts short. -/
  | incomplete
  deriving DecidableEq, Repr

/-- An unfinished character: the number of bytes to come, the range of the next one, the bits so far, and
the number of bytes read. -/
structure Pending where
  owed : Nat
  low : UInt8
  high : UInt8
  bits : Nat
  taken : Nat
  deriving DecidableEq, Repr

/-- What a byte starts if no character is pending. The ranges of the second byte rule out overlong forms,
surrogates and everything above the last code point. -/
def start (b : UInt8) : Piece ⊕ Pending :=
  if b < 0x80 then .inl (.char (Char.ofNat b.toNat))
  else if b < 0xC2 then .inl (.invalid 1)
  else if b < 0xE0 then .inr ⟨1, 0x80, 0xBF, b.toNat % 32, 1⟩
  else if b < 0xF0 then
    .inr ⟨2, if b = 0xE0 then 0xA0 else 0x80, if b = 0xED then 0x9F else 0xBF, b.toNat % 16, 1⟩
  else if b < 0xF5 then
    .inr ⟨3, if b = 0xF0 then 0x90 else 0x80, if b = 0xF4 then 0x8F else 0xBF, b.toNat % 8, 1⟩
  else .inl (.invalid 1)

/-- Splits a byte sequence, with a character possibly pending. A byte that cannot continue the pending
character ends it as a fault and is read again. -/
def piecesFrom : Option Pending → List UInt8 → List Piece
  | none, [] => []
  | some _, [] => [.incomplete]
  | none, b :: bs =>
    match start b with
    | .inl piece => piece :: piecesFrom none bs
    | .inr pending => piecesFrom (some pending) bs
  | some p, b :: bs =>
    if p.low ≤ b ∧ b ≤ p.high then
      let bits := p.bits * 64 + b.toNat % 64
      if p.owed ≤ 1 then .char (Char.ofNat bits) :: piecesFrom none bs
      else piecesFrom (some ⟨p.owed - 1, 0x80, 0xBF, bits, p.taken + 1⟩) bs
    else
      .invalid p.taken ::
        match start b with
        | .inl piece => piece :: piecesFrom none bs
        | .inr pending => piecesFrom (some pending) bs

def pieces (bytes : List UInt8) : List Piece :=
  piecesFrom none bytes

/-- The text of a byte sequence, with a replacement character for every fault. -/
def decodeLossy (bytes : List UInt8) : List Char :=
  (pieces bytes).map fun
    | .char c => c
    | .invalid _ => '\ufffd'
    | .incomplete => '\ufffd'

/-- Why a byte sequence is not UTF-8: the index of the first fault, and its length unless the input ends
within it. -/
structure Fault where
  index : Nat
  length? : Option Nat
  deriving DecidableEq, Repr

namespace Fault

def message (e : Fault) : String :=
  match e.length? with
  | some n => "invalid utf-8 sequence of " ++ toString n ++ " bytes from index " ++ toString e.index
  | none => "incomplete utf-8 byte sequence from index " ++ toString e.index

end Fault

def ofPieces (index : Nat) : List Piece → Except Fault (List Char)
  | [] => .ok []
  | .char c :: ps => (ofPieces (index + c.utf8Size) ps).map (c :: ·)
  | .invalid n :: _ => .error ⟨index, some n⟩
  | .incomplete :: _ => .error ⟨index, none⟩

def decode (bytes : List UInt8) : Except Fault (List Char) :=
  ofPieces 0 (pieces bytes)

end Utf8

end WalletWatch
