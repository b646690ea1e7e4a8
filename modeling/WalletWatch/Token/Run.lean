import WalletWatch.Machine
import WalletWatch.Token.Lookup

/-!
# Runs of lookups

Lookups over one cache go one step at a time, in any order. What a node answers is part of the event, so a
run in which all answers come from one node is one in which every moment is `AnsweredBy` it.
-/

namespace WalletWatch

namespace Token

namespace Lookups

def Event.place : Event → Nat
  | .look i | .answer i _ | .store i => i

abbrev Moment := Machine.Moment Lookups Event

abbrev Runs := Machine.Runs step?

/-- An answer in this moment is the one that `ask` gives to the token of the lookup. -/
def AnsweredBy (ask : Address → Except NodeError String) (m : Moment) : Prop :=
  ∀ i reply l, m.event = .answer i reply → m.before.lookups[i]? = some l → reply = ask l.token

def Inserts (token : Address) (m : Moment) : Prop :=
  ∃ i reply symbol, m.event = .store i ∧ m.before.lookups[i]? = some ⟨token, .answered reply⟩ ∧
    symbolOf reply = .ok symbol

def askedBy (i : Nat) (h : List Moment) : List Address :=
  h.flatMap fun m =>
    if m.event.place = i then m.after.asked.drop m.before.asked.length else []

def Complete (s : Lookups) : Prop :=
  ∀ l ∈ s.lookups, ∃ symbol, l.progress = .done symbol

end Lookups

end Token

end WalletWatch
