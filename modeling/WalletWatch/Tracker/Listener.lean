import WalletWatch.Chain.Scan

/-!
# Listeners

A listener watches one address. It subscribes to new headers once; then one half of it scans the block
of each header and puts what it finds into a bounded queue, and the other half takes activities from the
queue and publishes them, one at a time. When the queue is full, the newest activities are dropped. Both
halves run in one task, so the activities of a block are put into the queue in one step.

The scanning half ends when the headers end, and everything in the queue is still published. A cancelled
listener ends at the next place where it would wait. `Listener.step?` is one step of one half; it returns
what the step did to the world outside, and is `none` where the step cannot be taken.
-/

namespace WalletWatch

inductive Effect where
  | log (entry : LogEntry)
  /-- The listener asks for a header subscription. -/
  | subscribe
  /-- The listener releases its header subscription. -/
  | unsubscribe
  /-- The notification is handed to the publisher. -/
  | publish (n : Notification)

inductive ScanHalf where
  /-- It waits for a header. -/
  | reading
  | scanning (header : Header)
  | ended
  deriving DecidableEq

inductive PublishHalf where
  /-- It waits for an activity. -/
  | idle
  /-- It took an activity and has not looked for subscribers yet. -/
  | holding (activity : Activity)
  /-- It has a notification and has not looked yet whether it was cancelled. -/
  | ready (n : Notification)
  /-- It found that it was not cancelled and is about to hand its notification over. -/
  | cleared (n : Notification)
  /-- It waits for the publisher. -/
  | publishing (n : Notification)
  | ended
  deriving DecidableEq

def PublishHalf.heeds : PublishHalf → Bool
  | idle | ready _ | publishing _ => true
  | holding _ | cleared _ | ended => false

inductive Phase where
  | starting
  /-- Its two halves run, with a queue between them. -/
  | running (scan : ScanHalf) (publish : PublishHalf) (queue : List Activity)
  /-- It ended without a subscription. -/
  | stopped
  deriving DecidableEq

structure Listener where
  address : Address
  cancelled : Bool
  phase : Phase
  deriving DecidableEq

namespace Listener

inductive Event where
  /-- A listener that was cancelled early ends. -/
  | quit
  /-- Its request for headers is answered. -/
  | subscribed (reply : Except NodeError Unit)
  /-- The subscription yields a header or a failure, or ends. -/
  | receive (item : Option (Except NodeError Header))
  /-- The scan of a block comes to its end. -/
  | scanned (result : Except Failure (List Activity))
  /-- The scanning half notices that it was cancelled. -/
  | stopScan
  /-- The publishing half takes an activity. -/
  | take
  /-- It looks for the subscribers and makes its notification, at some time. -/
  | prepare (now : Instant)
  /-- It finds that it was not cancelled. -/
  | clear
  /-- It hands its notification to the publisher. -/
  | publish
  /-- The publisher answers. -/
  | published (reply : Except ChannelError Unit)
  /-- The publishing half notices that it was cancelled. -/
  | stopPublish
  /-- The publishing half finds that nothing will come any more. -/
  | drained

def start (a : Address) (cancelled : Bool) : Listener :=
  ⟨a, cancelled, .starting⟩

def cancel (l : Listener) : Listener :=
  { l with cancelled := true }

def subscribed (l : Listener) : Bool :=
  match l.phase with
  | .running scan _ _ => scan ≠ .ended
  | _ => false

def ended (l : Listener) : Bool :=
  match l.phase with
  | .starting => false
  | .running scan publish _ => scan = .ended && publish = .ended
  | .stopped => true

def context (l : Listener) (operation : String) : LogContext :=
  (LogContext.mk "listener" operation []).withWallet l.address.text

def refused (l : Listener) (e : NodeError) : LogEntry :=
  ((l.context "run").withError e.message).warn
    "Header subscription failed, wallet is no longer monitored"

def failed (l : Listener) (e : NodeError) : LogEntry :=
  ((l.context "scan_blocks").withError e.message).warn
    "Header subscription failed, wallet is no longer monitored"

def finished (l : Listener) : LogEntry :=
  (l.context "scan_blocks").warn "Header subscription ended, wallet is no longer monitored"

def unscanned (l : Listener) (header : Header) (e : Failure) : LogEntry :=
  ((l.context "scan_blocks").withBlockNumber header.number |>.withError e.message).warn
    "Block scan failed, skipping block"

def unaddressed (l : Listener) : LogEntry :=
  (l.context "publish_activity").debug "Wallet has no subscribers left, skipping notification"

def unpublished (l : Listener) (n : Notification) (e : ChannelError) : LogEntry :=
  ((l.context "publish_activity").withTransactionHash n.transaction.hash.text
    |>.withNumber "transfer_count" n.transfers.length
    |>.withError e.message).error "Failed to publish notification"

def answered (l : Listener) (n : Notification) : Except ChannelError Unit → LogEntry
  | .ok () => Log.published l.address.text n.transaction.hash.text n.subscribers.length
  | .error e => l.unpublished n e

/-- Puts an activity into a queue if there is room, else gives the reason why it is dropped. A queue
without a reader is closed. -/
def offer (capacity : Nat) (closed : Bool) (queue : List Activity) (activity : Activity) :
    List Activity × Option String :=
  if closed then (queue, some "notification consumer stopped")
  else if queue.length < capacity then (queue ++ [activity], none)
  else (queue, some "notification buffer full")

/-- Offers the activities of one block in order, and returns the dropped ones with their reasons. -/
def handOff (capacity : Nat) (closed : Bool) :
    (queue found : List Activity) → List Activity × List (Activity × String)
  | queue, [] => (queue, [])
  | queue, activity :: found =>
    let (queue, reason?) := offer capacity closed queue activity
    let (queue, dropped) := handOff capacity closed queue found
    (queue, (reason?.map fun reason => (activity, reason)).toList ++ dropped)

def givenUp (l : Listener) (activity : Activity) (reason : String) : LogEntry :=
  Log.dropped l.address.text activity.transaction.hash.text reason

def notification (l : Listener) (activity : Activity) (subscribers : List UserId) (now : Instant) :
    Notification where
  address := l.address
  transaction := activity.transaction
  transfers := activity.transfers
  subscribers := subscribers
  time := now

/-- One step of a listener with queues of `capacity` activities, whose address has the given subscribers
now. -/
def step? (capacity : Nat) (subscribers : List UserId) (l : Listener) :
    Event → Option (Listener × List Effect)
  | .quit => match l.phase with
    | .starting => if l.cancelled then some ({ l with phase := .stopped }, []) else none
    | _ => none
  | .subscribed reply => match l.phase with
    | .starting => match reply with
      | .ok () => some ({ l with phase := .running .reading .idle [] }, [.subscribe])
      | .error e => some ({ l with phase := .stopped }, [.subscribe, .log (l.refused e)])
    | _ => none
  | .receive item => match l.phase with
    | .running .reading publish queue =>
      if l.cancelled then none
      else match item with
        | some (.ok header) => some ({ l with phase := .running (.scanning header) publish queue }, [])
        | some (.error e) =>
          some ({ l with phase := .running .ended publish queue }, [.log (l.failed e), .unsubscribe])
        | none =>
          some ({ l with phase := .running .ended publish queue }, [.log l.finished, .unsubscribe])
    | _ => none
  | .scanned result => match l.phase with
    | .running (.scanning header) publish queue =>
      if l.cancelled then none
      else match result with
        | .ok found =>
          let (queue, dropped) := handOff capacity (publish = .ended) queue found
          some ({ l with phase := .running .reading publish queue },
            dropped.map fun (activity, reason) => .log (l.givenUp activity reason))
        | .error e =>
          some ({ l with phase := .running .reading publish queue }, [.log (l.unscanned header e)])
    | _ => none
  | .stopScan => match l.phase with
    | .running scan publish queue =>
      if l.cancelled && scan ≠ .ended then
        some ({ l with phase := .running .ended publish queue }, [.unsubscribe])
      else none
    | _ => none
  | .take => match l.phase with
    | .running scan .idle (activity :: queue) =>
      if l.cancelled then none
      else some ({ l with phase := .running scan (.holding activity) queue }, [])
    | _ => none
  | .prepare now => match l.phase with
    | .running scan (.holding activity) queue =>
      if subscribers.isEmpty then
        some ({ l with phase := .running scan .idle queue }, [.log l.unaddressed])
      else
        let n := l.notification activity subscribers now
        some ({ l with phase := .running scan (.ready n) queue }, [])
    | _ => none
  | .clear => match l.phase with
    | .running scan (.ready n) queue =>
      if l.cancelled then none
      else some ({ l with phase := .running scan (.cleared n) queue }, [])
    | _ => none
  | .publish => match l.phase with
    | .running scan (.cleared n) queue =>
      some ({ l with phase := .running scan (.publishing n) queue }, [.publish n])
    | _ => none
  | .published reply => match l.phase with
    | .running scan (.publishing n) queue =>
      if l.cancelled then none
      else some ({ l with phase := .running scan .idle queue }, [.log (l.answered n reply)])
    | _ => none
  | .stopPublish => match l.phase with
    | .running scan publish queue =>
      if l.cancelled && publish.heeds then
        some ({ l with phase := .running scan .ended queue }, [])
      else none
    | _ => none
  | .drained => match l.phase with
    | .running .ended .idle [] => some ({ l with phase := .running .ended .ended [] }, [])
    | _ => none

end Listener

end WalletWatch
