import WalletWatch.Chain.Sweep
import WalletWatch.Tracker.Run

/-!
# A tracker and the scans of its listeners

To `Tracker.step?` a scan is over in one event, `Listener.Event.scanned`, with any result. Here the scan of a
listener is a sweep of the block of its header for its own address. The steps of all sweeps (`Sweep.step?`)
and the events of the tracker come in any order, and a listener is told what its own sweep found. The events
carry the answers of the node, so two questions about one token may be answered differently.
-/

namespace WalletWatch

/-- A tracker with the sweeps of its listeners, by the indices of the listeners. -/
structure ScanningTracker where
  tracker : Tracker
  scanner : Scanner
  /-- The session that all sweeps share. Its log is always handed out at once. -/
  session : Session := .start
  sweeps : List (Option (Search × Sweep)) := []

namespace ScanningTracker

inductive Event where
  /-- Any event of the tracker but the end of a scan. -/
  | tracker (e : Tracker.Event)
  /-- The block of the header that the `i`-th listener scans is asked for, and `node` answers. -/
  | fetched (i : Nat) (node : Node)
  /-- The sweep of the `i`-th listener goes one step. -/
  | sweep (i : Nat) (e : Sweep.Event)
  /-- The sweep of the `i`-th listener has ended, and the listener gets what it found. -/
  | swept (i : Nat)

def start (capacity : Nat) (sc : Scanner) : ScanningTracker where
  tracker := .start capacity
  scanner := sc

/-- The sweep of the `i`-th listener, with the shared session. -/
def sweep? (w : ScanningTracker) (i : Nat) : Option (Search × Sweep) :=
  w.sweeps[i]?.join.map fun (q, v) => (q, { v with session := w.session })

def put (w : ScanningTracker) (i : Nat) (scan? : Option (Search × Sweep)) : ScanningTracker :=
  { w with sweeps := (w.sweeps ++ List.replicate (i + 1 - w.sweeps.length) none).set i scan? }

/-- The `i`-th listener asks for the block of the header that it scans, and gets a sweep of the block for
its address, or a failure. -/
def fetch? (w : ScanningTracker) (i : Nat) (node : Node) : Option (Except Failure (Search × Sweep)) :=
  match w.tracker.listeners[i]?, w.sweep? i with
  | some l, none => match l.phase with
    | .running (.scanning header) _ _ =>
      some (w.scanner.sweep node header.hash l.address w.session)
    | _ => none
  | _, _ => none

def happens? (w : ScanningTracker) : Event → Option Tracker.Event
  | .tracker e => match e with
    | .listener _ (.scanned _) => none
    | _ => some e
  | .fetched i node => match w.fetch? i node with
    | some (.error e) => some (.listener i (.scanned (.error e)))
    | _ => none
  | .sweep _ _ => none
  | .swept i => ((w.sweep? i).bind fun (_, v) => v.result?).map fun found =>
    .listener i (.scanned (.ok found))

/-- Removes the sweep that an event of the tracker ends. -/
def drop (w : ScanningTracker) : Tracker.Event → ScanningTracker
  | .listener i .stopScan | .listener i (.scanned _) => w.put i none
  | _ => w

def move? (w : ScanningTracker) : Event → Option (ScanningTracker × List Effect)
  | .fetched i node => match w.fetch? i node with
    | some (.ok scan) => some (w.put i (some scan), [])
    | _ => none
  | .sweep i e => match w.sweep? i with
    | some (q, v) => (v.step? q e).map fun v =>
      ({ w.put i (some (q, v)) with session := { v.session with entries := [] } },
        v.session.entries.map .log)
    | none => none
  | _ => none

def step? (w : ScanningTracker) (e : Event) : Option (ScanningTracker × List Effect) :=
  match w.happens? e with
  | some e => (w.tracker.step? e).map fun (t, effects) => ({ w.drop e with tracker := t }, effects)
  | none => w.move? e

abbrev Moment := Machine.Moment ScanningTracker Event

abbrev next? := Machine.next? step?

abbrev Runs := Machine.Runs next?

def history (h : List Moment) : List Tracker.Moment :=
  Machine.history tracker happens? h

end ScanningTracker

end WalletWatch
