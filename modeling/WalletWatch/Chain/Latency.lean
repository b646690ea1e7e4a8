import WalletWatch.Chain.Scan

/-!
# Receipts in time

How many receipts are on their way at once depends on how long each answer takes. A receipt that is there
at once makes room before the next one is asked for, and while the transfers of a transaction are looked
up no new receipt is asked for. `Timeline.step` is what happens next, and `Scanner.peak` is the most
that a scan has on their way.
-/

namespace WalletWatch

/-- How many milliseconds a node takes to answer. -/
structure Latency where
  /-- What some receipts take; the last entry of a hash counts. -/
  receipts : List (TxHash × Nat) := []
  /-- What any other receipt takes. -/
  receipt : Nat := 0
  /-- What the call of a contract takes. -/
  call : Nat := 0

namespace Latency

def ofReceipt (l : Latency) (hash : TxHash) : Nat :=
  (l.receipts.reverse.lookup hash).getD l.receipt

end Latency

/-- A receipt to be fetched: its index, the time until its answer, and the time that its transaction
takes afterwards. -/
structure Errand where
  place : Nat
  latency : Nat
  handling : Nat
  deriving DecidableEq, Repr

/-- Errands on their way through the window: `ready` to go on, `running` until some time, or `answered`
and not yet taken. The `waiting` ones are outside of it. -/
structure Timeline where
  clock : Nat
  waiting : List Errand
  ready : List (Errand × Bool)
  running : List (Nat × Errand)
  answered : List Errand
  /-- The place of the next errand to be taken. -/
  next : Nat
  inFlight : Nat
  peak : Nat

namespace Timeline

def start (errands : List Errand) : Timeline :=
  ⟨0, errands, [], [], [], 0, 0, 0⟩

def refill (size : Nat) (t : Timeline) : Timeline :=
  let room := size - (t.ready.length + t.running.length + t.answered.length)
  { t with
    waiting := t.waiting.drop room
    ready := t.ready ++ (t.waiting.take room).map fun e => (e, false) }

/-- Lets time pass to `time`. Errands whose answers arrive become ready in the order of their arrival. -/
def passTo (time : Nat) (t : Timeline) : Timeline :=
  let arrived := (t.running.filter fun r => r.1 ≤ time).mergeSort fun r s => r.1 ≤ s.1
  { t with
    clock := time
    running := t.running.filter fun r => time < r.1
    ready := t.ready ++ arrived.map fun r => (r.2, true) }

def nextArrival? (t : Timeline) : Option Nat :=
  (t.running.map (·.1)).min?

/-- The next errand in order is taken if it is answered, else the first ready one goes on, else time
passes. -/
def step (size : Nat) (t : Timeline) : Timeline :=
  let t := t.refill size
  match t.answered.find? fun e => e.place = t.next with
  | some e =>
    { t with answered := t.answered.erase e, next := t.next + 1 }.passTo (t.clock + e.handling)
  | none => match t.ready with
    | (e, true) :: rest =>
      { t with ready := rest, answered := t.answered ++ [e], inFlight := t.inFlight - 1 }
    | (e, false) :: rest =>
      let t := { t with ready := rest, peak := max t.peak (t.inFlight + 1) }
      if e.latency = 0 then { t with answered := t.answered ++ [e] }
      else { t with
        running := t.running ++ [(t.clock + e.latency, e)]
        inFlight := t.inFlight + 1 }
    | [] => match t.nextArrival? with
      | some time => t.passTo time
      | none => t

def run (size : Nat) : (n : Nat) → Timeline → Timeline
  | 0, t => t
  | n + 1, t => run size n (t.step size)

/-- The greatest number of errands on their way at once. Every errand is started, arrives and is taken
once, and time passes at most once for each, which bounds the steps. -/
def peakOf (size : Nat) (errands : List Errand) : Nat :=
  (run size (4 * errands.length) (start errands)).peak

end Timeline

namespace Scanner

/-- For each transaction, the number of tokens that are asked for their symbols. -/
def callCounts (sc : Scanner) (node : Node) (blockNumber : Nat) (time : Instant) (a : Address) :
    List (ChainTransaction × Except NodeError Receipt) → Session → List Nat
  | [], _ => []
  | (_, .error _) :: rest, s => 0 :: callCounts sc node blockNumber time a rest s
  | (tx, .ok receipt) :: rest, s =>
    let (_, s') := sc.activity? node blockNumber time a tx receipt s
    (s'.calls.length - s.calls.length) :: callCounts sc node blockNumber time a rest s'

def peak (sc : Scanner) (node : Node) (l : Latency) (hash : String) (a : Address) (s : Session) : Nat :=
  match datedBlock node hash with
  | .error _ => 0
  | .ok (block, time) =>
    let receipts := block.transactions.map fun tx => (tx, node.receipt tx.hash)
    let counts := sc.callCounts node block.number time a receipts s
    let errands := (block.transactions.zip counts).mapIdx fun i (tx, count) =>
      Errand.mk i (l.ofReceipt tx.hash) (count * l.call)
    Timeline.peakOf sc.windowSize errands

end Scanner

end WalletWatch
