import WalletWatch.Node.Query
import WalletWatch.Retry.Run
import WalletWatch.Settings.Load
import WalletWatch.Store.Command

/-!
# Starting the service

The service starts if its settings are usable, the store answers, and the node serves the configured
chain and knows a latest block. Whatever may pass by itself is attempted again.
-/

namespace WalletWatch

namespace Startup

/-- The log of a stage and its result. There is none after a wait that is no span of time. -/
structure Stage (α : Type) where
  entries : List LogEntry
  result : Option (Except Failure α)

namespace Stage

def andThen {α β : Type} (s : Stage α) (next : α → Stage β) : Stage β :=
  match s.result with
  | none => ⟨s.entries, none⟩
  | some (.error e) => ⟨s.entries, some (.error e)⟩
  | some (.ok x) => ⟨s.entries ++ (next x).entries, (next x).result⟩

end Stage

/-- The answers of the store and the node to each attempt, and the delays between them. -/
structure Surroundings where
  connect : Nat → Except Failure Unit
  chainId : Nat → Except Failure Nat
  latestBlock : Nat → Except Failure Block
  delay? : Nat → Option Span

/-- Attempts an operation under `Policy.startup`. `entries` is what each attempt writes itself. -/
def attempt {α : Type} (w : Surroundings) (operation : String) (entries : Nat → List LogEntry)
    (answer : Nat → Except Failure α) : Stage α :=
  let r := Retry.run operation .startup w.delay? answer
  ⟨Retry.Run.entriesWith entries 1 r.steps, r.result⟩

def askNode {α : Type} (w : Surroundings) (operation : String) (q : Query)
    (answer : Nat → Except Failure α) : Stage α :=
  attempt w operation (fun n => [Log.nodeCall q.method 0 (answer n).isOk]) answer

def checkChain (expected actual : Nat) : Stage Nat :=
  ⟨[], some (if actual = expected then .ok actual
    else .error (.settings (.chainIdMismatch expected actual)))⟩

def connected (chainId : Nat) (latest : Block) : LogEntry :=
  ((LogContext.mk "main" "verify_node" []).withBlockNumber latest.number
    |>.withNumber "chain_id" chainId).info "Connected to blockchain node"

def verifyNode (w : Surroundings) (expected : Nat) : Stage Unit :=
  (askNode w "node_chain_id" .chainId w.chainId).andThen fun actual =>
    (checkChain expected actual).andThen fun id =>
      (askNode w "node_latest_block" .latestBlock w.latestBlock).andThen fun latest =>
        ⟨[connected id latest], some (.ok ())⟩

def run (settings : Settings) (w : Surroundings) : Stage Unit :=
  (attempt w "redis_connect" (fun _ => [Store.connecting settings.redis]) w.connect).andThen fun () =>
    verifyNode w settings.blockchain.chainId.toNat

def unsettled (e : SettingsError) : String :=
  "Failed to load configuration: " ++ e.message

end Startup

end WalletWatch
