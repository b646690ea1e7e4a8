import WalletWatch.Tracker.Basic

/-!
# Commands for the tracker

Payloads arrive as texts. One that cannot be read is dropped with a word in the log; a command of a kind
that is not known changes nothing.
-/

namespace WalletWatch

namespace Command

def malformed (r : Refusal) : ChannelError :=
  .malformedPayload (r.message?.getD "not a command")

def dropped (payload : String) (r : Refusal) : LogEntry :=
  ((LogContext.mk "command_subscriber" "dispatch" []).withText "payload" payload).warn
    ("Dropping malformed command: " ++ (malformed r).message)

def received (c : Command) : LogEntry :=
  ((LogContext.mk "command_subscriber" "dispatch" []).withWallet c.address.text
    |>.withUser c.user |>.withText "command_type" c.kind.text).debug "Received command"

def ignored (c : Command) : LogEntry :=
  ((LogContext.mk "command_dispatcher" "handle_command" []).withWallet c.address.text
    |>.withUser c.user |>.withText "command_type" c.kind.text).warn "Ignoring unknown command type"

end Command

namespace Tracker

def handle (t : Tracker) (c : Command) : Tracker × List Effect :=
  match c.kind with
  | .add => t.add c.address c.user
  | .remove => t.remove c.address c.user
  | .other _ => (t, [.log c.ignored])

def dispatch (t : Tracker) (payload : String) : Tracker × List Effect :=
  match Command.decode payload with
  | .ok c =>
    let (t', effects) := t.handle c
    (t', .log c.received :: effects)
  | .error r => (t, [.log (Command.dropped payload r)])

end Tracker

end WalletWatch
