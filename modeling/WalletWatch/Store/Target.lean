import WalletWatch.Hex
import WalletWatch.Number.Decimal
import WalletWatch.Text.Utf8

/-!
# Where the message store is

The address of a store, read into its parts. It is cut at the signs that have a meaning in addresses,
whatever they were meant for: the authority ends at the first slash, question mark or number sign, the
user's part of it at its last at sign, and a percent sign with two digits stands for a byte. So a password
with such signs does not come back as it was given, unless they were escaped.
-/

namespace WalletWatch

/-- What a connection to a store needs to know. -/
structure StoreTarget where
  user : Option String
  password : Option String
  host : String
  port : UInt16
  db : Int64
  deriving DecidableEq, Repr

namespace StoreTarget

def standardPort : UInt16 :=
  6379

/-- The bytes of a text in which a percent sign and two digits stand for one byte. -/
def unescape : List Char → List UInt8
  | [] => []
  | '%' :: a :: b :: cs =>
    if Hex.isDigit a && Hex.isDigit b then UInt8.ofNat (Hex.value [a, b]) :: unescape cs
    else 0x25 :: unescape (a :: b :: cs)
  | c :: cs => String.utf8EncodeChar c ++ unescape cs

def readSecret? (cs : List Char) : Option (Option String) :=
  if cs.isEmpty then some none
  else match Utf8.decode (unescape cs) with
    | .ok cs => some (some (String.ofList cs))
    | .error _ => none

def isForbidden (c : Char) : Bool :=
  c = '\x00' || " #/:<>?@[\\]^|".toList.contains c

/-- Reads a host, which may be an address in square brackets, and gives the rest. -/
def readHost? (cs : List Char) : Option (String × List Char) :=
  match cs with
  | '[' :: cs =>
    match cs.dropWhile (· ≠ ']') with
    | _ :: rest => some (String.ofList (cs.takeWhile (· ≠ ']')), rest)
    | [] => none
  | cs =>
    let host := cs.takeWhile (· ≠ ':')
    if host.isEmpty || host.any isForbidden then none
    else some (String.ofList host, cs.dropWhile (· ≠ ':'))

def readPort? : List Char → Option UInt16
  | [] => some standardPort
  | [':'] => some standardPort
  | ':' :: cs => do
    let n ← Decimal.digits? cs
    if n < 0x10000 then some n.toUInt16 else none
  | _ => none

/-- Reads the number of a database between optional slashes. No number means zero. -/
def readDb? (cs : List Char) : Option Int64 :=
  let bare (cs : List Char) := (cs.dropWhile (· = '/')).reverse
  match bare (bare cs) with
  | [] => some 0
  | cs => (Decimal.word? cs).map Int64.ofInt

/-- Reads the address of a store. Tabs and line breaks are dropped. -/
def ofUrl? (url : String) : Option StoreTarget := do
  let cs := url.toList.filter fun c => c ≠ '\t' && c ≠ '\n' && c ≠ '\r'
  let cs ← Text.dropMark? "redis://".toList cs
  let ends (c : Char) := c = '/' || c = '?' || c = '#'
  let back := (cs.takeWhile fun c => !ends c).reverse
  let location := (back.takeWhile (· ≠ '@')).reverse
  let secrets := ((back.dropWhile (· ≠ '@')).drop 1).reverse
  let path := (cs.dropWhile fun c => !ends c).takeWhile fun c => c ≠ '?' && c ≠ '#'
  let user ← readSecret? (secrets.takeWhile (· ≠ ':'))
  let password ← readSecret? ((secrets.dropWhile (· ≠ ':')).drop 1)
  let (host, rest) ← readHost? location
  return ⟨user, password, host, ← readPort? rest, ← readDb? path⟩

end StoreTarget

end WalletWatch
