import WalletWatch.Headers.Message
import WalletWatch.Log.Entry

/-!
# The header pump

A pump stands between the socket of a subscription and the reader of its headers. It passes the headers
on through a channel of bounded size, waits where the channel is full, and passes on one failure when
the socket is at its end. When the reader drops the subscription, the pump is told to stop and the
reader's end of the channel goes away, one after the other.
-/

namespace WalletWatch

namespace Headers

abbrev Item := Except NodeError Header

inductive Stage where
  /-- It waits for a message. -/
  | listening
  /-- It waits for room in the channel; a last item ends its work. -/
  | sending (item : Item) (last : Bool)
  | stopped

structure Pump where
  /-- The subscription's identifier. -/
  id : String
  capacity : Nat
  stage : Stage
  /-- Items that wait for the reader. -/
  channel : List Item
  /-- Whether the pump was told to stop. -/
  cancelled : Bool
  /-- Whether the reader's end of the channel is gone. -/
  closed : Bool

namespace Pump

inductive Event where
  /-- The socket yields something. -/
  | arrive (m : Message)
  /-- The item that waits for room goes into the channel. -/
  | deliver
  /-- The pump finds the channel closed. -/
  | giveUp
  /-- The pump notices that it was told to stop. -/
  | notice
  /-- The reader takes an item. -/
  | take
  /-- The pump is told to stop. -/
  | cancel
  /-- The reader's end of the channel goes away. -/
  | close

inductive Effect where
  | log (entry : LogEntry)
  /-- A message is sent over the socket. -/
  | send (text : String)
  /-- The reader gets an item. -/
  | received (item : Item)

/-- The pump of a new subscription. A channel holds at least one item. -/
def start (id : String) (capacity : Nat) : Pump :=
  ⟨id, max capacity 1, .listening, [], false, false⟩

def context (p : Pump) : LogContext :=
  (LogContext.mk "header_stream" "pump" []).withText "subscription_id" p.id

def receive (p : Pump) (m : Message) : Pump × List Effect :=
  match failure? m with
  | some e => ({ p with stage := .sending (.error e) true },
      [.log (p.context.warn ("Header subscription failed: " ++ e.message))])
  | none => match m with
    | .text s => match notification? p.id s with
      | some (.ok header) => ({ p with stage := .sending (.ok header) false }, [])
      | some (.error e) =>
        (p, [.log (p.context.warn ("Ignoring malformed header notification: " ++ e.message))])
      | none => (p, [])
    | _ => (p, [])

def step? (p : Pump) : Event → Option (Pump × List Effect)
  | .arrive m => match p.stage with
    | .listening => if p.cancelled then none else some (p.receive m)
    | _ => none
  | .deliver => match p.stage with
    | .sending item last =>
      if p.closed || p.capacity ≤ p.channel.length then none
      else some ({ p with
        stage := if last then .stopped else .listening
        channel := p.channel ++ [item] }, [])
    | _ => none
  | .giveUp => match p.stage with
    | .sending _ _ => if p.closed then some ({ p with stage := .stopped }, []) else none
    | _ => none
  | .notice => match p.stage with
    | .listening =>
      if p.cancelled then some ({ p with stage := .stopped }, [.send (unsubscribeRequest p.id)])
      else none
    | _ => none
  | .take => match p.channel with
    | item :: rest => if p.closed then none else some ({ p with channel := rest }, [.received item])
    | [] => none
  | .cancel => if p.cancelled then none else some ({ p with cancelled := true }, [])
  | .close =>
    if p.cancelled && !p.closed then some ({ p with closed := true, channel := [] }, []) else none

/-- Runs several events with their effects. An event that cannot happen is skipped. -/
def run (p : Pump) : List Event → Pump × List Effect
  | [] => (p, [])
  | e :: es => match p.step? e with
    | none => p.run es
    | some (p', effects) =>
      let (p'', more) := p'.run es
      (p'', effects ++ more)

end Pump

end Headers

end WalletWatch
