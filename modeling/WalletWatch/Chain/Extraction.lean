import WalletWatch.Chain.Node
import WalletWatch.Chain.TransferEvent
import WalletWatch.Transfer

/-!
# The transfers of a transaction

A transaction that moves a native amount has one native transfer, which comes first. Every transfer
event of the receipt that can be read gives one more, at the place of its log and with the symbol of
its token; one that cannot be read is passed over.
-/

namespace WalletWatch

namespace ChainTransaction

/-- The party that gets the native amount: the recipient, else the created contract, else the zero
address. -/
def beneficiary (tx : ChainTransaction) (receipt : Receipt) : Address :=
  (tx.recipient.or receipt.contract).getD .zero

def nativeTransfer? (tx : ChainTransaction) (receipt : Receipt) (symbol : String) :
    Option Transfer :=
  if tx.value = 0 then none
  else some {
    txHash := tx.hash
    sender := tx.sender
    recipient := tx.beneficiary receipt
    amount := tx.value
    symbol := symbol
    token := .zero
    logIndex := Transfer.nativeIndex }

end ChainTransaction

namespace TransferEvent

def toTransfer (e : TransferEvent) (hash : TxHash) (symbol : String) (place : Nat) : Transfer where
  txHash := hash
  sender := e.sender
  recipient := e.recipient
  amount := e.amount
  symbol := symbol
  token := e.token
  logIndex := place

end TransferEvent

namespace Extraction

def skipped (hash : TxHash) (place : Nat) (fault : EventFault) : LogEntry :=
  ((LogContext.mk "transfer_detector" "extract_transfers" []).withTransactionHash hash.text
    |>.withNumber "log_index" place).warn
      ("Skipping undecodable Transfer log: " ++ fault.toError.message)

/-- The transfers that the logs from `place` on report. `nodes` gives the answers of the node while the
log at a place is read. -/
def tokenTransfers (d : Token.Directory) (nodes : Nat → Node) (hash : TxHash) :
    (place : Nat) → List EventLog → Session → List Transfer × Session
  | _, [], s => ([], s)
  | place, l :: ls, s =>
    if TransferEvent.isTransfer l then
      match TransferEvent.decode l with
      | .error fault =>
        tokenTransfers d nodes hash (place + 1) ls (s.log (skipped hash place fault))
      | .ok e =>
        let (symbol, s) := s.resolve d (nodes place) e.token
        let (transfers, s) := tokenTransfers d nodes hash (place + 1) ls s
        (e.toTransfer hash symbol place :: transfers, s)
    else tokenTransfers d nodes hash (place + 1) ls s

/-- The transfers of a transaction: the native one, and those of `tokenTransfers`. -/
def transfersBy (d : Token.Directory) (nodes : Nat → Node) (tx : ChainTransaction) (receipt : Receipt)
    (s : Session) : List Transfer × Session :=
  let (found, s) := tokenTransfers d nodes tx.hash 0 receipt.logs s
  ((tx.nativeTransfer? receipt d.native).toList ++ found, s)

/-- The transfers of a transaction, if the answers of the node do not change. -/
def transfers (d : Token.Directory) (node : Node) (tx : ChainTransaction) (receipt : Receipt)
    (s : Session) : List Transfer × Session :=
  transfersBy d (fun _ => node) tx receipt s

end Extraction

end WalletWatch
