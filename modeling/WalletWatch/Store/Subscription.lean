import WalletWatch.Store.Command
import WalletWatch.Text.Utf8

/-!
# Receiving from the message store

A subscription hands over every message of its channel that is text, in order, until it is stopped or the
store closes it. A stop is noticed before the next message.
-/

namespace WalletWatch

namespace Subscription

inductive Event where
  | log (entry : LogEntry)
  /-- A message is handed over. -/
  | deliver (payload : String)

def context (channel : String) : LogContext :=
  (LogContext.mk "redis_client" "subscribe" []).withText "channel" channel

def receive (channel : String) (message : List UInt8) : Event :=
  match Utf8.decode message with
  | .ok cs => .deliver (String.ofList cs)
  | .error fault => .log ((context channel).warn ("Dropping non-text payload: " ++ fault.message))

def closed (channel : String) : ChannelError :=
  .subscriptionClosed ("server closed subscription to " ++ channel)

/-- A subscription that is confirmed and brings some messages before the store closes it, unless it is
stopped before. -/
def run (channel : String) (stopped : Bool) (messages : List (List UInt8)) :
    List Event × Except ChannelError Unit :=
  let confirmed := Event.log ((context channel).info ("Subscribed to channel " ++ channel))
  if stopped then ([confirmed, .log ((context channel).info "Subscription stopped")], .ok ())
  else (confirmed :: messages.map (receive channel), .error (closed channel))

end Subscription

end WalletWatch
