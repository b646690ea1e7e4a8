import WalletWatch.Machine
import WalletWatch.Tracker.Run

/-!
# Commands on their way

A payload that can be read starts a handler of its command, for which nothing waits. Handlers run in any
order, each of them at once and as a whole, and other things may happen to the tracker between them.
`Tracker.dispatch` is a payload whose handler runs before anything else happens.
-/

namespace WalletWatch

/-- A tracker, with the commands that were read and wait for their handlers. -/
structure Inbox where
  tracker : Tracker
  /-- The commands whose handlers were started and have not run yet. -/
  waiting : List Command
  /-- What was done to the world outside, in order. -/
  effects : List Effect

namespace Inbox

inductive Event where
  /-- A payload arrives. -/
  | payload (text : String)
  /-- The handler of the `i`-th waiting command runs. -/
  | handle (i : Nat)
  /-- Something else happens to the tracker. -/
  | tracker (e : Tracker.Event)

def start (capacity : Nat) : Inbox :=
  ⟨.start capacity, [], []⟩

def apply (s : Inbox) (r : Tracker × List Effect) : Inbox :=
  { s with tracker := r.1, effects := s.effects ++ r.2 }

def step? (s : Inbox) : Event → Option Inbox
  | .payload text => match Command.decode text with
    | .ok c => some { s with waiting := s.waiting ++ [c], effects := s.effects ++ [.log c.received] }
    | .error r => some { s with effects := s.effects ++ [.log (Command.dropped text r)] }
  | .handle i => match s.waiting[i]? with
    | some c => some ({ s with waiting := s.waiting.eraseIdx i }.apply (s.tracker.handle c))
    | none => none
  | .tracker e => (s.tracker.step? e).map s.apply

abbrev Moment := Machine.Moment Inbox Event

abbrev Runs := Machine.Runs step?

def happens? (s : Inbox) : Event → Option Tracker.Event
  | .payload _ => none
  | .handle i => (s.waiting[i]?).map .command
  | .tracker e => some e

def history (h : List Moment) : List Tracker.Moment :=
  Machine.history tracker happens? h

def arrived (h : List Moment) : List Command :=
  h.filterMap fun m => match m.event with
    | .payload text => (Command.decode text).toOption
    | _ => none

def handled (h : List Moment) : List Command :=
  h.filterMap fun m => match m.event with
    | .handle i => m.before.waiting[i]?
    | _ => none

end Inbox

end WalletWatch
