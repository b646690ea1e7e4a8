import WalletWatch.Chain.Extraction
import WalletWatch.Chain.Window
import WalletWatch.Log.Events

/-!
# Scanning blocks for an address

A scan reports, in the order of the block, every transaction that touches an address in a transfer,
with all its transfers and with those of the address. Transactions without a receipt are passed over.
`details` finds a single transaction by its hash and reports the same record.
-/

namespace WalletWatch

/-- A transaction with its transfers that involve a watched address. -/
structure Activity where
  /-- The transaction, with every transfer. -/
  transaction : TransactionRecord
  /-- The transfers that involve the address; there is at least one. -/
  transfers : List Transfer
  deriving DecidableEq

/-- The known symbols, and the number of receipts that are fetched at a time. -/
structure Scanner where
  directory : Token.Directory
  /-- The number of receipts that are fetched at a time; none counts as one. -/
  batchSize : Nat

namespace Scanner

def windowSize (sc : Scanner) : Nat :=
  max sc.batchSize 1

def record (tx : ChainTransaction) (receipt : Receipt) (blockNumber : Nat) (time : Instant)
    (transfers : List Transfer) : TransactionRecord where
  hash := tx.hash
  sender := tx.sender
  recipient := tx.recipient
  blockNumber := blockNumber
  time := time
  gasUsed := receipt.gasUsed
  gasPrice := tx.gasPrice
  transfers := transfers

def withoutReceipt (blockNumber : Nat) (hash : TxHash) (e : NodeError) : LogEntry :=
  ((LogContext.mk "block_processor" "process_block" []).withBlockNumber blockNumber
    |>.withTransactionHash hash.text).debug ("Skipping transaction without receipt: " ++ e.message)

def activity? (sc : Scanner) (node : Node) (blockNumber : Nat) (time : Instant) (a : Address)
    (tx : ChainTransaction) (receipt : Receipt) (s : Session) : Option Activity × Session :=
  if isInvolved tx receipt a then
    let (transfers, s) := Extraction.transfers sc.directory node tx receipt s
    let own := Transfer.narrow transfers a
    if own.isEmpty then (none, s)
    else (some ⟨record tx receipt blockNumber time transfers, own⟩, s)
  else (none, s)

def activities (sc : Scanner) (node : Node) (blockNumber : Nat) (time : Instant) (a : Address) :
    List (ChainTransaction × Except NodeError Receipt) → Session → List Activity × Session
  | [], s => ([], s)
  | (tx, .error e) :: rest, s =>
    activities sc node blockNumber time a rest (s.log (withoutReceipt blockNumber tx.hash e))
  | (tx, .ok receipt) :: rest, s =>
    let (first, s) := sc.activity? node blockNumber time a tx receipt s
    let (others, s) := activities sc node blockNumber time a rest s
    (first.toList ++ others, s)

def datedBlock (node : Node) (hash : String) : Except Failure (Block × Instant) := do
  let block ← (node.block hash).mapError .node
  let time ← block.time.mapError .data
  return (block, time)

def scan (sc : Scanner) (node : Node) (hash : String) (a : Address) (s : Session) :
    Except Failure (List Activity) × Session :=
  match datedBlock node hash with
  | .error e => (.error e, s)
  | .ok (block, time) =>
    let s := s.askReceipts (block.transactions.map (·.hash))
    let receipts := Window.receipts sc.windowSize node.receipt block.transactions
    let (found, s) := sc.activities node block.number time a receipts s
    (.ok found, s.log (Log.blockScanned a.text block.number found.length 0))

def found (hash : TxHash) (blockNumber count : Nat) : LogEntry :=
  ((LogContext.mk "block_processor" "transaction_details" []).withTransactionHash hash.text
    |>.withBlockNumber blockNumber |>.withNumber "transfer_count" count).debug
      "Fetched transaction details"

def details (sc : Scanner) (node : Node) (hash : TxHash) (s : Session) :
    Except Failure TransactionRecord × Session :=
  match node.transaction hash with
  | .error e => (.error (.node e), s)
  | .ok none => (.error (.node (.notFound ("transaction " ++ hash.text))), s)
  | .ok (some tx) =>
    if tx.blockNumber.isNone then (.error (.data (.pendingTransaction hash.text)), s)
    else
      let s := s.askReceipts [hash]
      match node.receipt hash with
      | .error e => (.error (.node e), s)
      | .ok receipt =>
        match datedBlock node receipt.blockHash with
        | .error e => (.error e, s)
        | .ok (_, time) =>
          let (transfers, s) := Extraction.transfers sc.directory node tx receipt s
          (.ok (record tx receipt receipt.blockNumber time transfers),
            s.log (found hash receipt.blockNumber transfers.length))

def transfersFor (sc : Scanner) (node : Node) (hash : TxHash) (a : Address) (s : Session) :
    Except Failure (List Transfer) × Session :=
  let (r, s) := sc.details node hash s
  (r.map fun t => Transfer.narrow t.transfers a, s)

end Scanner

end WalletWatch
