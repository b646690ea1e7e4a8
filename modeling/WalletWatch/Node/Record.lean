import WalletWatch.Chain.Basic
import WalletWatch.Node.Quantity

/-!
# The node's records

Blocks, transactions and receipts as the node writes them: objects whose identifiers and quantities are
texts. Reading the object checks its shape only; `toBlock`, `toTransaction` and `toReceipt` then read
the texts, and one text that cannot be read spoils the whole record.
-/

namespace WalletWatch

structure TransactionRow where
  hash : String
  sender : String
  recipient : Option String
  value : String
  gasPrice : Option String
  blockNumber : Option String
  deriving DecidableEq, Repr

structure BlockRow where
  number : String
  hash : String
  timestamp : String
  transactions : List TransactionRow
  deriving DecidableEq, Repr

structure ReceiptRow where
  txHash : String
  blockNumber : String
  blockHash : String
  gasUsed : String
  contract : Option String
  logs : List EventLog
  deriving DecidableEq, Repr

def Address.ofNode (s : String) : Except NodeError Address :=
  match parse s with
  | .ok a => .ok a
  | .error fault => .error (.invalidResponse fault.message)

def TxHash.ofNode (s : String) : Except NodeError TxHash :=
  match parse s with
  | .ok h => .ok h
  | .error fault => .error (.invalidResponse fault.message)

def readIfPresent {α : Type} (read : String → Except NodeError α) :
    Option String → Except NodeError (Option α)
  | none => .ok none
  | some s => (read s).map some

namespace TransactionRow

def fields : List Json.Field :=
  [Json.field "hash" Json.readText, Json.field "from" Json.readText,
    Json.optionalField "to" (Json.readNullable Json.readText), Json.field "value" Json.readText,
    Json.optionalField "gasPrice" (Json.readNullable Json.readText),
    Json.optionalField "blockNumber" (Json.readNullable Json.readText)]

def ofJson (v : Json) : Except Refusal TransactionRow := do
  let r ← Json.readRecord fields v
  return {
    hash := ← r.get "hash" Json.readText
    sender := ← r.get "from" Json.readText
    recipient := ← r.getD "to" none (Json.readNullable Json.readText)
    value := ← r.get "value" Json.readText
    gasPrice := ← r.getD "gasPrice" none (Json.readNullable Json.readText)
    blockNumber := ← r.getD "blockNumber" none (Json.readNullable Json.readText) }

/-- Reads the texts of a transaction in their order. A missing gas price is zero. -/
def toTransaction (t : TransactionRow) : Except NodeError ChainTransaction := do
  let hash ← TxHash.ofNode t.hash
  let sender ← Address.ofNode t.sender
  let recipient ← readIfPresent Address.ofNode t.recipient
  let value ← Quantity.parse t.value
  let gasPrice ← readIfPresent Quantity.parse t.gasPrice
  let blockNumber ← readIfPresent Quantity.parse64 t.blockNumber
  return ⟨hash, sender, recipient, value, gasPrice.getD 0, blockNumber⟩

end TransactionRow

def readTransactions : List TransactionRow → Except NodeError (List ChainTransaction)
  | [] => .ok []
  | t :: ts => do
    let tx ← t.toTransaction
    let txs ← readTransactions ts
    return tx :: txs

namespace BlockRow

def fields : List Json.Field :=
  [Json.field "number" Json.readText, Json.field "hash" Json.readText,
    Json.field "timestamp" Json.readText,
    Json.trailingField "transactions" (Json.readList TransactionRow.ofJson)]

def ofJson (v : Json) : Except Refusal BlockRow := do
  let r ← Json.readRecord fields v
  return {
    number := ← r.get "number" Json.readText
    hash := ← r.get "hash" Json.readText
    timestamp := ← r.get "timestamp" Json.readText
    transactions := ← r.getD "transactions" [] (Json.readList TransactionRow.ofJson) }

def toBlock (b : BlockRow) : Except NodeError Block := do
  let transactions ← readTransactions b.transactions
  let number ← Quantity.parse64 b.number
  let timestamp ← Quantity.parse64 b.timestamp
  return ⟨number, b.hash, timestamp, transactions⟩

end BlockRow

namespace ReceiptRow

def fields : List Json.Field :=
  [Json.field "transactionHash" Json.readText, Json.field "blockNumber" Json.readText,
    Json.field "blockHash" Json.readText, Json.field "gasUsed" Json.readText,
    Json.optionalField "contractAddress" (Json.readNullable Json.readText),
    Json.field "logs" (Json.readList EventLog.ofJson)]

def ofJson (v : Json) : Except Refusal ReceiptRow := do
  let r ← Json.readRecord fields v
  return {
    txHash := ← r.get "transactionHash" Json.readText
    blockNumber := ← r.get "blockNumber" Json.readText
    blockHash := ← r.get "blockHash" Json.readText
    gasUsed := ← r.get "gasUsed" Json.readText
    contract := ← r.getD "contractAddress" none (Json.readNullable Json.readText)
    logs := ← r.get "logs" (Json.readList EventLog.ofJson) }

def toReceipt (r : ReceiptRow) : Except NodeError Receipt := do
  let txHash ← TxHash.ofNode r.txHash
  let blockNumber ← Quantity.parse64 r.blockNumber
  let gasUsed ← Quantity.parse64 r.gasUsed
  let contract ← readIfPresent Address.ofNode r.contract
  return ⟨txHash, blockNumber, r.blockHash, gasUsed, contract, r.logs⟩

end ReceiptRow

end WalletWatch
