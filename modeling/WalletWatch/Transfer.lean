import WalletWatch.Command

/-!
# Transfers and notifications

A transfer moves an amount of one asset between two addresses. A transaction record holds every
transfer of a transaction in order, the native one first. A notification tells the subscribers of one
address about a transaction and repeats the transfers that touch the address.

Amounts are whole numbers of any size and travel as bare numbers.
-/

namespace WalletWatch

structure Transfer where
  txHash : TxHash
  sender : Address
  recipient : Address
  amount : Nat
  symbol : String
  token : Address
  /-- The place of the event in its receipt, or `nativeIndex`. -/
  logIndex : Int
  deriving DecidableEq

namespace Transfer

def nativeIndex : Int :=
  -1

def isNative (t : Transfer) : Bool :=
  t.logIndex = nativeIndex

def involves (t : Transfer) (a : Address) : Bool :=
  t.sender = a || t.recipient = a

def narrow (transfers : List Transfer) (a : Address) : List Transfer :=
  transfers.filter fun t => t.involves a

def fields : List Json.Field :=
  [Json.field "tx_hash" TxHash.ofJson, Json.field "from" Address.ofJson,
    Json.field "to" Address.ofJson, Json.field "value" Json.readAmount,
    Json.field "token_symbol" Json.readText, Json.field "token_address" Address.ofJson,
    Json.field "log_index" Json.readInt64]

def ofJson (v : Json) : Except Refusal Transfer := do
  let r ← Json.readRecord fields v
  return {
    txHash := ← r.get "tx_hash" TxHash.ofJson
    sender := ← r.get "from" Address.ofJson
    recipient := ← r.get "to" Address.ofJson
    amount := ← r.get "value" Json.readAmount
    symbol := ← r.get "token_symbol" Json.readText
    token := ← r.get "token_address" Address.ofJson
    logIndex := ← r.get "log_index" Json.readInt64 }

def toJson (t : Transfer) : Json :=
  .obj [("tx_hash", t.txHash.toJson), ("from", t.sender.toJson), ("to", t.recipient.toJson),
    ("value", .nat t.amount), ("token_symbol", .str t.symbol), ("token_address", t.token.toJson),
    ("log_index", .int t.logIndex)]

def encode (t : Transfer) : String :=
  t.toJson.compact

def decode (s : String) : Except Refusal Transfer :=
  Json.readDocument ofJson s

end Transfer

/-- What is known of a transaction in a block. -/
structure TransactionRecord where
  hash : TxHash
  sender : Address
  /-- `none` if the transaction creates a contract. -/
  recipient : Option Address
  blockNumber : Nat
  time : Instant
  gasUsed : Nat
  gasPrice : Nat
  /-- Every transfer of the transaction. -/
  transfers : List Transfer
  deriving DecidableEq

namespace TransactionRecord

def fields : List Json.Field :=
  [Json.field "hash" TxHash.ofJson, Json.field "from" Address.ofJson,
    Json.field "to" Address.ofJson?, Json.field "block_number" Json.readNat64,
    Json.field "timestamp" Instant.ofJson, Json.field "gas_used" Json.readNat64,
    Json.field "gas_price" Json.readAmount,
    Json.field "transfers" (Json.readList Transfer.ofJson)]

def ofJson (v : Json) : Except Refusal TransactionRecord := do
  let r ← Json.readRecord fields v
  return {
    hash := ← r.get "hash" TxHash.ofJson
    sender := ← r.get "from" Address.ofJson
    recipient := ← r.get "to" Address.ofJson?
    blockNumber := ← r.get "block_number" Json.readNat64
    time := ← r.get "timestamp" Instant.ofJson
    gasUsed := ← r.get "gas_used" Json.readNat64
    gasPrice := ← r.get "gas_price" Json.readAmount
    transfers := ← r.get "transfers" (Json.readList Transfer.ofJson) }

def toJson (t : TransactionRecord) : Json :=
  .obj [("hash", t.hash.toJson), ("from", t.sender.toJson), ("to", Address.toJson? t.recipient),
    ("block_number", .nat t.blockNumber), ("timestamp", t.time.toJson), ("gas_used", .nat t.gasUsed),
    ("gas_price", .nat t.gasPrice), ("transfers", .array (t.transfers.map Transfer.toJson))]

def encode (t : TransactionRecord) : String :=
  t.toJson.compact

def decode (s : String) : Except Refusal TransactionRecord :=
  Json.readDocument ofJson s

end TransactionRecord

/-- What the subscribers of `address` are told of one transaction. -/
structure Notification where
  address : Address
  transaction : TransactionRecord
  /-- The transfers of the transaction that involve the address. -/
  transfers : List Transfer
  subscribers : List UserId
  time : Instant
  deriving DecidableEq

namespace Notification

def fields : List Json.Field :=
  [Json.field "wallet_address" Address.ofJson, Json.field "transaction" TransactionRecord.ofJson,
    Json.field "transfers" (Json.readList Transfer.ofJson),
    Json.field "subscribers" (Json.readList Json.readInt64), Json.field "timestamp" Instant.ofJson]

def ofJson (v : Json) : Except Refusal Notification := do
  let r ← Json.readRecord fields v
  return {
    address := ← r.get "wallet_address" Address.ofJson
    transaction := ← r.get "transaction" TransactionRecord.ofJson
    transfers := ← r.get "transfers" (Json.readList Transfer.ofJson)
    subscribers := ← r.get "subscribers" (Json.readList Json.readInt64)
    time := ← r.get "timestamp" Instant.ofJson }

def toJson (n : Notification) : Json :=
  .obj [("wallet_address", n.address.toJson), ("transaction", n.transaction.toJson),
    ("transfers", .array (n.transfers.map Transfer.toJson)),
    ("subscribers", .array (n.subscribers.map .int)), ("timestamp", n.time.toJson)]

def encode (n : Notification) : String :=
  n.toJson.compact

def decode (s : String) : Except Refusal Notification :=
  Json.readDocument ofJson s

end Notification

end WalletWatch
