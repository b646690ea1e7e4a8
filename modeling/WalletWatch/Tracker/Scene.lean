import WalletWatch.Chain.Archive
import WalletWatch.Chain.TimedSweep
import WalletWatch.Tracker.Scanning

/-!
# A tracker among known surroundings

A scene is a `ScanningTracker` with everything that its listeners meet: what the node knows and how long it
takes to answer, the headers that their subscriptions still have to yield, and a publisher that accepts,
refuses or keeps them waiting. With all answers known, the tracker can be let run until nothing moves,
and then until some time has passed. A listener scans as long as it can before it publishes.
-/

namespace WalletWatch

abbrev Scene.Yield := Option (Except NodeError Header)

structure Scene extends ScanningTracker where
  /-- What the node knows. -/
  archive : Archive
  /-- How long the node takes to answer. -/
  latency : Latency := {}
  /-- The time that notifications bear. -/
  now : Instant
  /-- The milliseconds that have passed. -/
  clock : Nat := 0
  /-- What the subscription of each listener still has to yield. -/
  items : List (List Scene.Yield) := []
  /-- When the questions of each listener's sweep are answered. -/
  timetables : List Timetable := []
  /-- How many times a subscription was asked for. -/
  subscribes : Nat := 0
  /-- What a request for a subscription is answered with. -/
  subscription : Except NodeError Unit := .ok ()
  /-- What the publisher answers. -/
  publisher : Except ChannelError Unit := .ok ()
  /-- Whether the publisher does not answer for now. -/
  held : Bool := false
  published : List Notification := []
  entries : List LogEntry := []

namespace Scene

def effect (s : Scene) : Effect → Scene
  | .log e => { s with entries := s.entries ++ [e] }
  | .subscribe => { s with subscribes := s.subscribes + 1 }
  | _ => s

def apply (s : Scene) (r : Tracker × List Effect) : Scene :=
  r.2.foldl effect { s with tracker := r.1 }

def can (s : Scene) (e : ScanningTracker.Event) : Option Scene :=
  (s.toScanningTracker.step? e).map fun (w, effects) =>
    effects.foldl effect { s with toScanningTracker := w }

def does (s : Scene) (i : Nat) (e : Listener.Event) : Option Scene :=
  s.can (.tracker (.listener i e))

def timed? (s : Scene) (i : Nat) : Option TimedSweep :=
  (s.sweep? i).map fun (search, sweep) =>
    { s.timetables[i]?.getD {} with search := search, sweep := sweep }

def nextSweep? (s : Scene) (i : Nat) (v : TimedSweep) : Option Scene := do
  let e ← v.nextEvent? s.archive.node s.clock
  let s' ← s.can (.sweep i e)
  return { s' with timetables := s.timetables.set i (v.await s.latency s.clock e) }

def nextScan? (s : Scene) (i : Nat) : ScanHalf → Option Scene
  | .reading => match s.items[i]?.getD [] with
    | item :: rest => (s.does i (.receive item)).map fun s =>
      { s with items := s.items.set i rest }
    | [] => none
  | .scanning _ => match s.timed? i with
    | none => (s.can (.fetched i s.archive.node)).map fun s =>
      { s with timetables := s.timetables.set i {} }
    | some v => (s.can (.swept i)).or (s.nextSweep? i v)
  | .ended => none

def nextPublish? (s : Scene) (i : Nat) : PublishHalf → Option Scene
  | .idle => (s.does i .take).or (s.does i .drained)
  | .holding _ => s.does i (.prepare s.now)
  | .ready _ => s.does i .clear
  | .cleared _ => s.does i .publish
  | .publishing n =>
    if s.held then none
    else match s.publisher with
      | .error e => s.does i (.published (.error e))
      | .ok () => (s.does i (.published (.ok ()))).map fun s =>
        { s with published := s.published ++ [n] }
  | .ended => none

def next? (s : Scene) (i : Nat) : Option Scene := do
  let l ← s.tracker.listeners[i]?
  match l.phase with
  | .starting => if l.cancelled then s.does i .quit else s.does i (.subscribed s.subscription)
  | .stopped => none
  | .running scan publish _ =>
    if l.cancelled then (s.does i .stopScan).or (s.does i .stopPublish)
    else (s.nextScan? i scan).or (s.nextPublish? i publish)

def advance (i : Nat) : (fuel : Nat) → Scene → Scene
  | 0, s => s
  | fuel + 1, s => match s.next? i with
    | some s => advance i fuel s
    | none => s

/-- More steps than a listener can take: those of its scan, and a few for each header, each log and each
activity. -/
def bound (s : Scene) (i : Nat) : Nat :=
  let node := s.archive.node
  let items := s.items[i]?.getD []
  let receipts := items.flatMap fun item => match item with
    | some (.ok header) => match node.block header.hash with
      | .ok b => b.transactions.map fun tx => node.receipt tx.hash
      | .error _ => []
    | _ => []
  let logs := receipts.flatMap fun reply => match reply with
    | .ok receipt => receipt.logs
    | .error _ => []
  let sweep := ((s.timed? i).map (TimedSweep.bound node)).getD 0
  16 + 6 * sweep + 8 * items.length + 9 * receipts.length + 2 * logs.length + 5 * s.tracker.capacity

def settle (s : Scene) : Scene :=
  let missing := s.tracker.listeners.length - s.items.length
  let s := { s with
    items := s.items ++ List.replicate missing []
    timetables := s.timetables ++ List.replicate missing {} }
  (List.range s.tracker.listeners.length).foldl (fun s i => advance i (s.bound i) s) s

def due? (s : Scene) (time : Nat) : Option Nat :=
  let dues := (List.range s.tracker.listeners.length).flatMap fun i =>
    ((s.timed? i).map TimedSweep.dues).getD []
  (dues.filter fun t => s.clock < t && t ≤ time).min?

def passTo (time : Nat) : (fuel : Nat) → Scene → Scene
  | 0, s => { s with clock := time }
  | fuel + 1, s => match s.due? time with
    | some t => passTo time fuel { s with clock := t }.settle
    | none => { s with clock := time }

def wait (s : Scene) (milliseconds : Nat) : Scene :=
  let s := s.settle
  let answers := (List.range s.tracker.listeners.length).foldl (fun n i => n + s.bound i) 0
  passTo (s.clock + milliseconds) answers s

/-- Gives every open subscription an item. A subscription holds at most 64 of them. -/
def offer (s : Scene) (new : List Yield) : Scene :=
  { s with items := (s.tracker.listeners.zip s.items).map fun p =>
      if p.1.subscribed then (p.2 ++ new).take 64 else p.2 }

end Scene

end WalletWatch
