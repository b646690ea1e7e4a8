/-!
# Settings

Everything that can be set from outside, in five sections, with the values used where nothing is set.
-/

namespace WalletWatch

structure StoreSettings where
  host : String := "localhost"
  port : UInt16 := 6379
  /-- Empty where the store asks for none. -/
  password : String := ""
  db : Int64 := 0
  deriving DecidableEq, Repr

structure ChainSettings where
  /-- Where requests go. -/
  rpcUrl : String := "https://rpc.plasma.network"
  /-- Where subscriptions to headers go. -/
  wsUrl : String := "wss://ws.plasma.network"
  /-- The chain that the node has to serve. -/
  chainId : UInt64 := 9745
  /-- How many receipts are asked for at the same time. -/
  batchSize : UInt64 := 100
  requestTimeoutSeconds : UInt64 := 30
  nativeSymbol : String := "XPL"
  deriving DecidableEq, Repr

structure ServiceSettings where
  commandChannel : String := "wallet_commands"
  notificationChannel : String := "wallet_notifications"
  workerCount : UInt64 := 10
  /-- How many notifications of one listener may wait. -/
  notificationBuffer : UInt64 := 100
  deriving DecidableEq, Repr

structure HealthSettings where
  host : String := "0.0.0.0"
  port : UInt16 := 8080
  deriving DecidableEq, Repr

structure LogSettings where
  level : String := "info"
  format : String := "json"
  deriving DecidableEq, Repr

structure Settings where
  redis : StoreSettings := {}
  blockchain : ChainSettings := {}
  service : ServiceSettings := {}
  api : HealthSettings := {}
  logging : LogSettings := {}
  deriving DecidableEq, Repr

/-- The address of the store. The password is pasted in front of the host without any escape. -/
def StoreSettings.connectionUrl (s : StoreSettings) : String :=
  let secret := if s.password.isEmpty then "" else ":" ++ s.password ++ "@"
  "redis://" ++ secret ++ s.host ++ ":" ++ toString s.port ++ "/" ++ toString s.db

end WalletWatch
