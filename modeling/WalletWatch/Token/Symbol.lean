import WalletWatch.Failure
import WalletWatch.Text.Utf8

/-!
# Token symbols

What a contract returns for the symbol of its token. The usual answer is a string in the contract
encoding: a word with the place of the string, there a word with its length, then its bytes. Older
tokens return one word that holds the text from its left end. `encodeText` and `encodeWord` write the
two forms.
-/

namespace WalletWatch

namespace Token

def symbolCall : String :=
  "0x95d89b41"

inductive SymbolFault where
  /-- It is not bytes. -/
  | notHex (fault : Hex.Fault)
  /-- It holds no bytes. -/
  | nothing
  /-- Its one word is no text. -/
  | notUtf8 (fault : Utf8.Fault)
  /-- It ends before what it announces. -/
  | tooShort
  /-- A place or a length does not fit into 64 bits. -/
  | hugeOffset (word : List UInt8)
  /-- Its text is blank. -/
  | blank
  deriving DecidableEq, Repr

namespace SymbolFault

def detail : SymbolFault → String
  | notHex fault => "invalid hex: " ++ fault.dataMessage
  | nothing => "empty return data"
  | notUtf8 fault => "symbol is not UTF-8: " ++ fault.message
  | tooShort => "ABI decoding failed: buffer overrun while deserializing"
  | hugeOffset word =>
    "type check failed for \"offset (usize)\" with data: " ++ String.ofList (Hex.encode word)
  | blank => "empty symbol"

def toError (fault : SymbolFault) : DataError :=
  .abiDecoding fault.detail

end SymbolFault

def readOffset (bytes : List UInt8) : Except SymbolFault Nat :=
  let word := bytes.take 32
  if word.length < 32 then .error .tooShort
  else if (word.take 24).all (· = 0) then .ok (Hex.ofBytes word)
  else .error (.hugeOffset word)

def readString (bytes : List UInt8) : Except SymbolFault (List UInt8) := do
  let place ← readOffset bytes
  if bytes.length < place then .error .tooShort
  else
    let tail := bytes.drop place
    let length ← readOffset tail
    let content := (tail.drop 32).take length
    if content.length < length then .error .tooShort else .ok content

def readText (bytes : List UInt8) : Except SymbolFault (List Char) :=
  if bytes.isEmpty then .error .nothing
  else if bytes.length = 32 then
    match Utf8.decode (bytes.takeWhile (· ≠ 0)) with
    | .ok cs => .ok cs
    | .error fault => .error (.notUtf8 fault)
  else (readString bytes).map Utf8.decodeLossy

def decodeSymbol (s : String) : Except SymbolFault String := do
  let bytes ← match Hex.decode (Hex.dropMarker s.toList) with
    | .ok bytes => .ok bytes
    | .error fault => .error (.notHex fault)
  let cs ← readText bytes
  if Text.allBlank cs then .error .blank else .ok (String.ofList cs)

def wordOf (n : Nat) : List UInt8 :=
  Hex.pairs (Hex.digits 64 n)

def padRight (bytes : List UInt8) : List UInt8 :=
  bytes ++ List.replicate ((32 - bytes.length % 32) % 32) 0

def encodeText (cs : List Char) : List UInt8 :=
  let bytes := Utf8.encode cs
  wordOf 32 ++ wordOf bytes.length ++ padRight bytes

def encodeWord (cs : List Char) : List UInt8 :=
  padRight (Utf8.encode cs)

end Token

end WalletWatch
