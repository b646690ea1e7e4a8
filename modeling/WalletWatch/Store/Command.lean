import WalletWatch.Failure
import WalletWatch.Log.Entry
import WalletWatch.Settings.Basic
import WalletWatch.Store.Target
import WalletWatch.Transfer

/-!
# Asking the message store

The store takes commands of several words. Commands on a connection are answered one by one.
-/

namespace WalletWatch

inductive StoreCommand where
  | authenticate (user : Option String) (password : String)
  | select (db : Int64)
  | ping
  | publish (channel payload : String)
  | subscribe (channel : String)
  deriving DecidableEq, Repr

namespace StoreCommand

def words : StoreCommand → List String
  | authenticate user password => "AUTH" :: (user.toList ++ [password])
  | select db => ["SELECT", toString db]
  | ping => ["PING"]
  | publish channel payload => ["PUBLISH", channel, payload]
  | subscribe channel => ["SUBSCRIBE", channel]

end StoreCommand

namespace Store

/-- The commands that open a connection. Database zero needs no command. -/
def opening (t : StoreTarget) : List StoreCommand :=
  (match t.password with
    | some password => [.authenticate t.user password]
    | none => []) ++ (if t.db = 0 then [] else [.select t.db])

def connecting (s : StoreSettings) : LogEntry :=
  ((LogContext.mk "redis_client" "connect" []).withText "host" s.host
    |>.withNumber "port" s.port.toNat |>.withNumber "db" s.db.toInt).info "Connecting to Redis"

/-- Connects to the store of the settings: the commands of `opening`, unless the address cannot be read
or the store is not reached. -/
def connect (s : StoreSettings) (reached : Except IoCause Unit) :
    Except ChannelError (List StoreCommand) :=
  match StoreTarget.ofUrl? s.connectionUrl, reached with
  | none, _ => .error (.store .address ("no address of a store: " ++ s.connectionUrl))
  | some t, .ok () => .ok (opening t)
  | some _, .error cause => .error (.store (.io cause) ("no connection to " ++ s.connectionUrl))

def checkPing (reply : String) : Except ChannelError Unit :=
  if reply = "PONG" then .ok () else .error (.malformedPayload ("unexpected PING reply: " ++ reply))

def notify (channel : String) (n : Notification) : StoreCommand :=
  .publish channel n.encode

def notified (channel : String) (n : Notification) (receivers : Nat) : List LogEntry :=
  if receivers = 0 then
    [((LogContext.mk "redis_publisher" "publish" []).withWallet n.address.text
      |>.withTransactionHash n.transaction.hash.text).debug ("No subscribers on " ++ channel)]
  else []

end Store

end WalletWatch
