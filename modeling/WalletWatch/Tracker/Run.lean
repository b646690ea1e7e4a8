import WalletWatch.Machine
import WalletWatch.Tracker.Dispatch

/-!
# Runs of a tracker

A tracker changes by one event at a time: an operation, a command, or one step of one listener. Its runs are
those of the machine `Tracker.next?`.
-/

namespace WalletWatch

namespace Tracker

inductive Event where
  | add (a : Address) (user : UserId)
  | remove (a : Address) (user : UserId)
  /-- A command is handled, of whatever kind. -/
  | command (c : Command)
  | stopAll
  /-- The first half of a shutdown; the second is `stopAll`. -/
  | close
  /-- The `i`-th listener goes one step. -/
  | listener (i : Nat) (e : Listener.Event)

/-- One event, if it can happen. A listener sees the subscribers that its address has now. -/
def step? (t : Tracker) : Event → Option (Tracker × List Effect)
  | .add a user => some (t.add a user)
  | .remove a user => some (t.remove a user)
  | .command c => some (t.handle c)
  | .stopAll => some t.stopAll
  | .close => some (t.close, [])
  | .listener i e => match t.listeners[i]? with
    | none => none
    | some l => match l.step? t.capacity (t.subscribersOf l.address) e with
      | none => none
      | some (l', effects) => some ({ t with listeners := t.listeners.set i l' }, effects)

abbrev Moment := Machine.Moment Tracker Event

abbrev next? := Machine.next? step?

abbrev Runs := Machine.Runs next?

abbrev Moment.effects (m : Moment) : List Effect :=
  Machine.effects step? m

end Tracker

end WalletWatch
