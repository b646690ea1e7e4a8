import WalletWatch.Chain.Latency
import WalletWatch.Chain.Sweep

/-!
# Sweeps in time

A sweep whose questions take time to be answered. What it can do by itself it does at once; a question
is answered when its time has come, with what the node says by then.
-/

namespace WalletWatch

/-- When the open questions of a sweep are answered. -/
structure Timetable where
  /-- When each receipt that was asked for is there, in the order of the questions. -/
  arrivals : List Nat := []
  /-- When the symbol that was asked for last is there. -/
  told : Nat := 0

/-- A sweep with its timetable. -/
structure TimedSweep extends Timetable where
  search : Search
  sweep : Sweep

namespace TimedSweep

/-- The open requests for receipts by their indices, with the times of their answers. -/
def awaited (v : TimedSweep) : List (Nat × Nat) :=
  let asked := v.sweep.window.pending.zip (v.arrivals.drop v.sweep.window.taken.length)
  asked.zipIdx.filterMap fun (((_, reply?), time), i) =>
    if reply?.isNone then some (i, time) else none

def dues (v : TimedSweep) : List Nat :=
  v.awaited.map (·.2) ++ match v.sweep.task with
    | .asking _ _ => [v.told]
    | _ => []

def answers (node : Node) (now : Nat) (v : TimedSweep) : List Sweep.Event :=
  let receipts := (v.awaited.filter fun w => w.2 ≤ now).filterMap fun (i, _) =>
    v.sweep.window.pending[i]?.map fun (tx, _) => .answer i (node.receipt tx.hash)
  receipts ++ match v.sweep.task with
    | .asking _ e => if v.told ≤ now then [.told (node.answerOf e.token)] else []
    | _ => []

def nextEvent? (node : Node) (now : Nat) (v : TimedSweep) : Option Sweep.Event :=
  let events : List Sweep.Event := [.request, .take, .read, .settle, .finish]
  (v.answers node now ++ events).find? fun e => (v.sweep.step? v.search e).isSome

def await (l : Latency) (now : Nat) (v : TimedSweep) (e : Sweep.Event) : Timetable where
  arrivals := match e, v.sweep.window.waiting with
    | .request, tx :: _ => v.arrivals ++ [now + l.ofReceipt tx.hash]
    | _, _ => v.arrivals
  told := match e with
    | .read => now + l.call
    | _ => v.told

/-- More than the steps that are left, if the answers of the node do not change: a transaction takes four
steps and two for each log. -/
def bound (node : Node) (v : TimedSweep) : Nat :=
  let w := v.sweep.window
  let replies := w.waiting.map (fun tx => node.receipt tx.hash) ++
    w.pending.map fun (tx, reply?) => reply?.getD (node.receipt tx.hash)
  let inWork := match v.sweep.task with
    | .reading w | .asking w _ => w.logs.length
    | _ => 0
  let logs := replies.flatMap fun reply => match reply with
    | .ok receipt => receipt.logs
    | .error _ => []
  4 + v.sweep.found.length + 4 * replies.length + 2 * (inWork + logs.length)

end TimedSweep

end WalletWatch
