import WalletWatch.Chain.Node

/-!
# Archives

What is known of a chain, as lists in the order in which it became known, and the node that answers from
it. Of two reports about one thing the later one counts.
-/

namespace WalletWatch

structure Archive where
  /-- What the symbol call of a token returns; nothing where it is refused. -/
  calls : List (Address × Option String) := []
  blocks : List Block := []
  transactions : List ChainTransaction := []
  receipts : List Receipt := []

namespace Archive

/-- Adds newer reports. A report of a block also makes its transactions known. -/
def extend (old new : Archive) : Archive where
  calls := old.calls ++ new.calls
  blocks := old.blocks ++ new.blocks
  transactions := old.transactions ++ new.blocks.flatMap (·.transactions) ++ new.transactions
  receipts := old.receipts ++ new.receipts

def latest? {α : Type} (p : α → Bool) (xs : List α) : Option α :=
  xs.reverse.find? p

def node (s : Archive) : Node where
  block hash := match latest? (fun b => b.hash = hash) s.blocks with
    | some b => .ok b
    | none => .error (.notFound ("block " ++ hash))
  transaction hash := .ok (latest? (fun tx => tx.hash = hash) s.transactions)
  receipt hash := match latest? (fun r => r.txHash = hash) s.receipts with
    | some r => .ok r
    | none => .error (.notFound ("receipt for " ++ hash.text))
  call contract _ := match latest? (fun c => c.1 = contract) s.calls with
    | some (_, some data) => .ok data
    | _ => .error (.method (-32000) "execution reverted")

end Archive

end WalletWatch
