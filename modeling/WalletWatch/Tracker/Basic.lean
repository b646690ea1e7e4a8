import WalletWatch.AddressMap
import WalletWatch.Tracker.Listener

/-!
# The tracker

The tracker keeps the subscribers of every watched address and one listener for each. The first
subscriber of an address starts its listener and the last one to leave cancels it. A user who subscribes
twice is kept twice, and each removal drops one entry.

Listeners that were started stay in the state for good, so that a listener that was cancelled and the
one that took its place can be told apart.
-/

namespace WalletWatch

/-- The subscriptions, and all listeners that were ever started. -/
structure Tracker where
  /-- The size of a listener's queue. -/
  capacity : Nat
  subscribers : AddressMap (List UserId)
  /-- The listener of each watched address, by its place in `listeners`. -/
  registered : AddressMap Nat
  /-- Every listener that was ever started, in order. -/
  listeners : List Listener
  /-- Whether the tracker was shut down; listeners are then born cancelled. -/
  closed : Bool
  deriving DecidableEq

namespace Tracker

/-- A tracker without subscriptions. A queue holds at least one activity. -/
def start (capacity : Nat) : Tracker :=
  ⟨max capacity 1, .empty, .empty, [], false⟩

def subscribersOf (t : Tracker) (a : Address) : List UserId :=
  (t.subscribers.get? a).getD []

def isWatching (t : Tracker) (a : Address) : Bool :=
  t.registered.contains a

def watched (t : Tracker) : List Address :=
  t.registered.keys

def listenerCount (t : Tracker) : Nat :=
  t.registered.size

def context (operation : String) (a : Address) (user : UserId) : LogContext :=
  (LogContext.mk "wallet_tracker" operation []).withWallet a.text |>.withUser user

def add (t : Tracker) (a : Address) (user : UserId) : Tracker × List Effect :=
  let users := t.subscribersOf a ++ [user]
  let t := { t with subscribers := t.subscribers.insert a users }
  if users.length = 1 then
    let t := { t with
      registered := t.registered.insert a t.listeners.length
      listeners := t.listeners ++ [Listener.start a t.closed] }
    (t, [.log ((context "add_wallet" a user).info "Started listener for wallet"),
      .log (Log.listenerCount t.listenerCount)])
  else
    (t, [.log (((context "add_wallet" a user).withNumber "subscriber_count" users.length).info
      "Added subscriber to watched wallet")])

def cancel (t : Tracker) (i : Nat) : Tracker :=
  { t with listeners := t.listeners.modify i Listener.cancel }

def forget (t : Tracker) (a : Address) : Tracker :=
  let t' := { t with
    subscribers := t.subscribers.erase a
    registered := t.registered.erase a }
  match t.registered.get? a with
  | some i => t'.cancel i
  | none => t'

/-- Removes one subscription of a user. An unknown address or user is ignored. -/
def remove (t : Tracker) (a : Address) (user : UserId) : Tracker × List Effect :=
  match t.subscribers.get? a with
  | none => (t, [.log ((context "remove_wallet" a user).debug "Wallet is not watched")])
  | some users =>
    if users.contains user then
      let users := users.erase user
      if users.isEmpty then
        let t' := t.forget a
        (t', [.log ((context "remove_wallet" a user).info "Stopped listener for wallet"),
          .log (Log.listenerCount t'.listenerCount)])
      else
        ({ t with subscribers := t.subscribers.insert a users },
          [.log (((context "remove_wallet" a user).withNumber "subscriber_count" users.length).info
            "Removed subscriber from watched wallet")])
    else (t, [.log ((context "remove_wallet" a user).debug "User is not subscribed to wallet")])

def stopAll (t : Tracker) : Tracker × List Effect :=
  let places := t.registered.entries.map (·.2)
  let t' := places.foldl cancel { t with subscribers := .empty, registered := .empty }
  (t', [.log (((LogContext.mk "wallet_tracker" "stop_all" []).withNumber "stopped_listeners"
    places.length).info "Stopped all listeners")])

def close (t : Tracker) : Tracker :=
  { t with
    closed := true
    listeners := t.listeners.map Listener.cancel }

def shutdown (t : Tracker) : Tracker × List Effect :=
  t.close.stopAll

def started : LogEntry :=
  (LogContext.mk "wallet_tracker" "run" []).info "Wallet tracker started"

end Tracker

end WalletWatch
