import WalletWatch.Chain.Basic
import WalletWatch.Token.Lookup

/-!
# The node as a source of blocks

What a node answers to each kind of question, and the record of what was asked and written while its
answers were used.
-/

namespace WalletWatch

structure Node where
  block : String → Except NodeError Block
  /-- A transaction that the node does not know is no failure. -/
  transaction : TxHash → Except NodeError (Option ChainTransaction)
  receipt : TxHash → Except NodeError Receipt
  /-- A call of a contract, which changes nothing. -/
  call : (contract : Address) → (data : String) → Except NodeError String

/-- What is kept between the questions to a node (the symbol cache), and what was done: the receipts and
the tokens that were asked for, and the log, each in order. -/
structure Session where
  cache : Token.Cache
  receipts : List TxHash
  calls : List Address
  entries : List LogEntry

namespace Session

def start : Session :=
  ⟨.empty, [], [], []⟩

def askReceipts (s : Session) (hashes : List TxHash) : Session :=
  { s with receipts := s.receipts ++ hashes }

def log (s : Session) (e : LogEntry) : Session :=
  { s with entries := s.entries ++ [e] }

def resolve (s : Session) (d : Token.Directory) (node : Node) (token : Address) : String × Session :=
  let r := Token.resolve d (fun token => node.call token Token.symbolCall) s.cache token
  (r.symbol, { s with
    cache := r.cache
    calls := if r.asked then s.calls ++ [token] else s.calls
    entries := s.entries ++ r.entries })

end Session

end WalletWatch
