import WalletWatch.Failure
import WalletWatch.Settings.Field
import WalletWatch.Text.Blank

/-!
# The rules for settings

Settings are usable if they keep every rule. The rules have an order, and the first one that is broken is
the fault that is reported.
-/

namespace WalletWatch

namespace Settings

/-- A check of the settings, with the fault to report. -/
structure Rule where
  holds : Settings → Bool
  fault : Settings → SettingsError

def startsWithAny (marks : List String) (s : String) : Bool :=
  marks.any fun m => (Text.dropMark? m.toList s.toList).isSome

namespace Rule

def scheme (url : Settings → String) (marks : List String) : Rule :=
  ⟨fun s => startsWithAny marks (url s), fun s => .invalidUrl (url s)⟩

def between (name : String) (n : Settings → UInt64) (most : UInt64) : Rule :=
  ⟨fun s => 1 ≤ n s && n s ≤ most, fun s => .invalidValue name (toString (n s))⟩

def notBlank (name : String) (text : Settings → String) : Rule :=
  ⟨fun s => !Text.allBlank (text s).toList, fun s => .invalidValue name (text s)⟩

def oneOf (name : String) (text : Settings → String) (words : List String) : Rule :=
  ⟨fun s => words.contains (text s), fun s => .invalidValue name (text s)⟩

end Rule

def rules : List Rule := [
  .scheme (·.blockchain.rpcUrl) ["http://", "https://"],
  .scheme (·.blockchain.wsUrl) ["ws://", "wss://"],
  .between "blockchain.batch_size" (·.blockchain.batchSize) 1000,
  .between "blockchain.request_timeout_seconds" (·.blockchain.requestTimeoutSeconds) 300,
  .notBlank "blockchain.native_symbol" (·.blockchain.nativeSymbol),
  .between "service.worker_count" (·.service.workerCount) 512,
  .between "service.notification_buffer" (·.service.notificationBuffer) 0xffffffffffffffff,
  .notBlank "service.command_channel" (·.service.commandChannel),
  .notBlank "service.notification_channel" (·.service.notificationChannel),
  .notBlank "redis.host" (·.redis.host),
  ⟨fun s => s.api.port ≠ 0, fun _ => .invalidValue "api.port" "0"⟩,
  .oneOf "logging.level" (·.logging.level) ["error", "warn", "info", "debug", "trace"],
  .oneOf "logging.format" (·.logging.format) ["json", "pretty"]]

def isValid (s : Settings) : Bool :=
  rules.all fun r => r.holds s

def fault? (s : Settings) : Option SettingsError :=
  (rules.find? fun r => !r.holds s).map fun r => r.fault s

theorem fault?_eq_none_iff (s : Settings) : s.fault? = none ↔ s.isValid := by
  simp [fault?, isValid]

end Settings

end WalletWatch
