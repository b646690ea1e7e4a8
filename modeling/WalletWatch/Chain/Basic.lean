import WalletWatch.Failure
import WalletWatch.Number.Width
import WalletWatch.Transfer

/-!
# Blocks, transactions and receipts

What the node reports about the chain, with identifiers and quantities already read. Block hashes, and
the parts of event logs, stay texts: they are only compared or read later.
-/

namespace WalletWatch

structure Header where
  number : Nat
  hash : String
  deriving DecidableEq, Repr

/-- An event that the contract `emitter` emitted. -/
structure EventLog where
  emitter : String
  topics : List String
  data : String
  deriving DecidableEq, Repr

structure ChainTransaction where
  hash : TxHash
  sender : Address
  /-- `none` if the transaction creates a contract. -/
  recipient : Option Address
  value : Nat
  gasPrice : Nat
  /-- None while the transaction waits for a block. -/
  blockNumber : Option Nat
  deriving DecidableEq

structure Receipt where
  txHash : TxHash
  blockNumber : Nat
  blockHash : String
  gasUsed : Nat
  /-- The contract that the transaction created. -/
  contract : Option Address
  logs : List EventLog
  deriving DecidableEq

structure Block where
  number : Nat
  hash : String
  /-- Seconds since the start of 1970, a number of 64 bits. -/
  timestamp : Nat
  transactions : List ChainTransaction
  deriving DecidableEq

namespace Block

/-- The instant of a block. The timestamp is cast to a signed number, so the upper half of its range lies
before 1970. -/
def time (b : Block) : Except DataError Instant :=
  (Instant.ofUnix? (Width.signed64 b.timestamp)).elim
    (.error (.blockParsing ("Block " ++ toString b.number ++ " has out-of-range timestamp " ++
      toString b.timestamp))) .ok

end Block

namespace EventLog

def fields : List Json.Field :=
  [Json.field "address" Json.readText, Json.field "topics" (Json.readList Json.readText),
    Json.field "data" Json.readText]

def ofJson (v : Json) : Except Refusal EventLog := do
  let r ← Json.readRecord fields v
  return {
    emitter := ← r.get "address" Json.readText
    topics := ← r.get "topics" (Json.readList Json.readText)
    data := ← r.get "data" Json.readText }

def toJson (l : EventLog) : Json :=
  .obj [("address", .str l.emitter), ("topics", .array (l.topics.map .str)), ("data", .str l.data)]

end EventLog

end WalletWatch
