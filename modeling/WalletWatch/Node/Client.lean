import WalletWatch.Chain.Node
import WalletWatch.Log.Events
import WalletWatch.Node.Query
import WalletWatch.Node.Record
import WalletWatch.Node.Reply

/-!
# The node's client

A client numbers its questions and reads the answers. The readers of the answers are pure;
`Node.ofAnswers` puts them on top of anything that carries questions.
-/

namespace WalletWatch

namespace Answer

def number (what : String) : Json → Except NodeError Nat
  | .string (some s) => Quantity.parse64 s
  | _ => .error (.invalidResponse (what ++ " is not a string"))

def chainId : Json → Except NodeError Nat :=
  number "Chain id"

def blockNumber : Json → Except NodeError Nat :=
  number "Block number"

def callData : Json → Except NodeError String
  | .string (some s) => .ok s
  | _ => .error (.invalidResponse "eth_call result is not a string")

def object? {α : Type} (what : String) (read : Json → Except Refusal α) :
    Json → Except NodeError (Option α)
  | .null => .ok none
  | v => match read v with
    | .ok x => .ok (some x)
    | .error _ => .error (.invalidResponse ("Failed to parse " ++ what ++ ": not a " ++ what))

def block (missing : String) (v : Json) : Except NodeError Block := do
  match ← object? "block" BlockRow.ofJson v with
  | none => .error (.notFound missing)
  | some row => row.toBlock

def transaction (v : Json) : Except NodeError (Option ChainTransaction) := do
  match ← object? "transaction" TransactionRow.ofJson v with
  | none => .ok none
  | some row => (row.toTransaction).map some

def receipt (hash : TxHash) (v : Json) : Except NodeError Receipt := do
  match ← object? "receipt" ReceiptRow.ofJson v with
  | none => .error (.notFound ("receipt for " ++ hash.text))
  | some row => row.toReceipt

end Answer

/-- A client of a node: its patience in seconds, and the number of its next question. -/
structure Client where
  patience : Nat
  nextId : Nat
  deriving DecidableEq, Repr

namespace Client

def standardPatience : Nat :=
  30

def start (patience : Nat) : Client :=
  ⟨patience, 1⟩

def created (endpoint : String) (patience : Nat) : LogEntry :=
  ((LogContext.mk "rpc_client" "initialization" []).withText "endpoint" endpoint
    |>.withNumber "timeout_seconds" patience).info "Initializing RPC client"

/-- Asks a question over `carry`, which sends the text of a request. -/
def ask (c : Client) (carry : String → Exchange) (q : Query) :
    Except NodeError Json × Client × List LogEntry :=
  let r := (carry (q.request c.nextId).compact).result c.patience
  (r, { c with nextId := c.nextId + 1 }, [Log.nodeCall q.method 0 r.isOk])

end Client

namespace Node

def ofAnswers (answer : Query → Except NodeError Json) : Node where
  block hash := answer (.block hash) >>= Answer.block ("block " ++ hash)
  transaction hash := answer (.transaction hash) >>= Answer.transaction
  receipt hash := answer (.receipt hash) >>= Answer.receipt hash
  call contract data := answer (.call contract data) >>= Answer.callData

end Node

end WalletWatch
