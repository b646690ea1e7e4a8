import WalletWatch.Chain.Basic

/-!
# Transfer events

A token reports a transfer by an event whose first topic is the signature of the event and whose next
two topics hold the parties in their low twenty bytes. The amount is the first word of the data, or all
of it where it is shorter than a word. Further topics and data are ignored.
-/

namespace WalletWatch

structure TransferEvent where
  token : Address
  sender : Address
  recipient : Address
  amount : Nat
  deriving DecidableEq

inductive EventFault where
  /-- It has another signature, or fewer than three topics. -/
  | notTransfer
  /-- Its emitter is no address. -/
  | emitter (fault : IdentifierFault)
  /-- One of its first three topics is no word. -/
  | topic (text : String) (fault : Hex.Fault)
  /-- Its data are no bytes. -/
  | data (text : String) (fault : Hex.Fault)
  deriving DecidableEq, Repr

namespace EventFault

def toError : EventFault → DataError
  | notTransfer => .logParsing "not a Transfer event"
  | emitter fault => .logParsing ("emitter: " ++ fault.message)
  | topic text fault => .logParsing ("topic '" ++ text ++ "': " ++ fault.wordMessage)
  | data text fault => .amountParsing ("invalid hex data '" ++ text ++ "': " ++ fault.dataMessage)

end EventFault

namespace TransferEvent

def signature : String :=
  "0xddf252ad1be2c89b69c2b068fc378daa952ba7f163c4a11628f55a4df523b3ef"

def sameLetters (s t : String) : Bool :=
  s.toList.map Char.toLower = t.toList.map Char.toLower

def isTransfer (l : EventLog) : Bool :=
  match l.topics with
  | first :: _ :: _ :: _ => sameLetters first signature
  | _ => false

def readTopic (s : String) : Except EventFault Word :=
  match Hex.decodeSized 32 (Hex.dropMarker s.toList) with
  | .ok n => .ok (.ofNat n)
  | .error fault => .error (.topic s fault)

/-- The decoder of an event: from topics and data to the parties and the amount, if they have the form of
the event. -/
abbrev Binding :=
  List Word → List UInt8 → Option (Address × Address × Word)

def signatureWord : Word :=
  .ofNat (Hex.value (Hex.dropMarker signature.toList))

/-- The decoder of the transfer event: its signature and both parties as topics, and one word of data,
which more may follow. -/
def binding : Binding := fun topics bytes =>
  match topics with
  | [first, second, third] =>
    if first = signatureWord ∧ 32 ≤ bytes.length then
      some (.ofWord second, .ofWord third, .ofNat (Hex.ofBytes (bytes.take 32)))
    else none
  | _ => none

def ofParts (read : Binding) (token : Address) (first second third : Word) (bytes : List UInt8) :
    TransferEvent :=
  match read [first, second, third] bytes with
  | some (sender, recipient, amount) => ⟨token, sender, recipient, amount.toNat⟩
  | none => ⟨token, .ofWord second, .ofWord third, Hex.ofBytes bytes⟩

/-- Reads the transfer that a log reports: the emitter first, then the topics in order, then the data. -/
def decodeWith (read : Binding) (l : EventLog) : Except EventFault TransferEvent :=
  if isTransfer l then
    match l.topics with
    | first :: second :: third :: _ => do
      let token ← match Address.parse l.emitter with
        | .ok a => .ok a
        | .error fault => .error (.emitter fault)
      let first ← readTopic first
      let second ← readTopic second
      let third ← readTopic third
      let bytes ← match Hex.decode (Hex.dropMarker l.data.toList) with
        | .ok bytes => .ok bytes
        | .error fault => .error (.data l.data fault)
      return ofParts read token first second third bytes
    | _ => .error .notTransfer
  else .error .notTransfer

def decode (l : EventLog) : Except EventFault TransferEvent :=
  decodeWith binding l

end TransferEvent

/-- Whether `a` is the sender, the recipient, or a party of a transfer log whose topics are sixty-four
digits. -/
def isInvolved (tx : ChainTransaction) (receipt : Receipt) (a : Address) : Bool :=
  let isParty (topic : String) : Bool :=
    match Address.parseTopic topic with
    | .ok party => party = a
    | .error _ => false
  tx.sender = a || tx.recipient = some a ||
    receipt.logs.any fun l => TransferEvent.isTransfer l &&
      match l.topics with
      | _ :: second :: third :: _ => isParty second || isParty third
      | _ => false

end WalletWatch
