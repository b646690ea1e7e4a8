import WalletWatch.Hex

/-!
# Addresses, hashes and words

An address is a number of 160 bits, a transaction hash and a topic one of 256 bits. Their text is
fixed-width lower-case hexadecimal with a `0x`, so one account has one text however it was spelled,
and the order of the texts is the order of the numbers.
-/

namespace WalletWatch

/-- Why a text is no identifier. `text` is the text as it was given. -/
inductive IdentifierFault where
  /-- An address of another length than forty digits. -/
  | addressLength (text : String) (length : Nat)
  /-- Forty bytes that are not all digits. -/
  | addressDigits (text : String)
  /-- A topic that is not sixty-four digits. -/
  | topic (text : String)
  /-- A transaction hash that is not sixty-four digits. -/
  | transactionHash (text : String)
  /-- An address fault that was reported from elsewhere. -/
  | address (text : String)
  deriving DecidableEq, Repr

namespace IdentifierFault

def detail : IdentifierFault → String
  | .addressLength text n =>
    text ++ ": expected 40 hex characters, got " ++ toString n
  | .addressDigits text => text ++ ": contains non-hexadecimal characters"
  | .topic text => "topic " ++ text ++ ": expected 64 hex characters"
  | .transactionHash text => text
  | .address text => text

def message (e : IdentifierFault) : String :=
  match e with
  | .transactionHash _ => "Invalid transaction hash: " ++ e.detail
  | _ => "Invalid wallet address: " ++ e.detail

end IdentifierFault

def Word.bound : Nat :=
  0x10000000000000000000000000000000000000000000000000000000000000000

/-- A 256-bit word: a topic of an event log, or a hash. -/
structure Word where
  toNat : Nat
  toNat_lt : toNat < Word.bound
  deriving DecidableEq

def Address.bound : Nat :=
  0x10000000000000000000000000000000000000000

structure Address where
  toNat : Nat
  toNat_lt : toNat < Address.bound
  deriving DecidableEq

structure TxHash where
  word : Word
  deriving DecidableEq

/-- The digits of an identifier: `Text.trim` drops the blanks at both ends, and `Hex.dropMarker` drops
one marker. -/
def identifierDigits (s : String) : List Char :=
  Hex.dropMarker (Text.trim s.toList)

namespace Word

instance : Inhabited Word := ⟨⟨0, by decide⟩⟩

def ofNat (n : Nat) : Word :=
  ⟨n % bound, Nat.mod_lt _ (by decide)⟩

def text (w : Word) : String :=
  String.ofList ('0' :: 'x' :: Hex.digits 64 w.toNat)

def parse? (s : String) : Option Word :=
  let cs := identifierDigits s
  if cs.length = 64 then (Hex.value? cs).map ofNat else none

end Word

namespace Address

instance : Inhabited Address := ⟨⟨0, by decide⟩⟩

def zero : Address :=
  ⟨0, by decide⟩

def isZero (a : Address) : Bool :=
  a.toNat = 0

def ofNat (n : Nat) : Address :=
  ⟨n % bound, Nat.mod_lt _ (by decide)⟩

def ofBytes (bytes : List UInt8) : Address :=
  ofNat (Hex.ofBytes bytes)

def ofWord (w : Word) : Address :=
  ofNat w.toNat

def text (a : Address) : String :=
  String.ofList ('0' :: 'x' :: Hex.digits 40 a.toNat)

/-- Reads an address. The length is counted in bytes and checked before any character is. -/
def parse (s : String) : Except IdentifierFault Address :=
  let cs := identifierDigits s
  if Text.utf8Length cs ≠ 40 then .error (.addressLength s (Text.utf8Length cs))
  else match Hex.value? cs with
    | some n => .ok (ofNat n)
    | none => .error (.addressDigits s)

def parseTopic (s : String) : Except IdentifierFault Address :=
  match Word.parse? s with
  | some w => .ok (ofWord w)
  | none => .error (.topic s)

def ble (a b : Address) : Bool :=
  a.toNat ≤ b.toNat

end Address

namespace TxHash

instance : Inhabited TxHash := ⟨⟨default⟩⟩

def text (h : TxHash) : String :=
  h.word.text

def parse (s : String) : Except IdentifierFault TxHash :=
  match Word.parse? s with
  | some w => .ok ⟨w⟩
  | none => .error (.transactionHash s)

end TxHash

end WalletWatch
