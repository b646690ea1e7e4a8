import WalletWatch.Proofs.Text.Blank
import WalletWatch.Settings.Rules

/-!
# Usable settings

`Usable s` states the rules without their order and their faults. Settings are valid exactly if they are
usable.
-/

namespace WalletWatch

namespace Settings

def HasScheme (marks : List String) (url : String) : Prop :=
  ∃ mark ∈ marks, ∃ rest, url.toList = mark.toList ++ rest

def IsFilled (text : String) : Prop :=
  ∃ c ∈ text.toList, Text.isBlank c = false

/-- The settings that keep every rule. -/
structure Usable (s : Settings) : Prop where
  rpcUrl : HasScheme ["http://", "https://"] s.blockchain.rpcUrl
  wsUrl : HasScheme ["ws://", "wss://"] s.blockchain.wsUrl
  batchSize : 1 ≤ s.blockchain.batchSize.toNat ∧ s.blockchain.batchSize.toNat ≤ 1000
  requestTimeout : 1 ≤ s.blockchain.requestTimeoutSeconds.toNat ∧ s.blockchain.requestTimeoutSeconds.toNat ≤ 300
  nativeSymbol : IsFilled s.blockchain.nativeSymbol
  workerCount : 1 ≤ s.service.workerCount.toNat ∧ s.service.workerCount.toNat ≤ 512
  notificationBuffer : 1 ≤ s.service.notificationBuffer.toNat
  commandChannel : IsFilled s.service.commandChannel
  notificationChannel : IsFilled s.service.notificationChannel
  redisHost : IsFilled s.redis.host
  apiPort : 1 ≤ s.api.port.toNat
  logLevel : s.logging.level ∈ ["error", "warn", "info", "debug", "trace"]
  logFormat : s.logging.format ∈ ["json", "pretty"]

namespace Rule

theorem holds_scheme {s : Settings} {url : Settings → String} {marks : List String} :
    (scheme url marks).holds s = true ↔ HasScheme marks (url s) := by
  simp only [scheme, startsWithAny, HasScheme, List.any_eq_true, Option.isSome_iff_exists,
    Text.dropMark?_eq_some_iff]

theorem holds_between {s : Settings} {name : String} {n : Settings → UInt64} {most : UInt64} :
    (between name n most).holds s = true ↔ 1 ≤ (n s).toNat ∧ (n s).toNat ≤ most.toNat := by
  simp [between, UInt64.le_iff_toNat_le]

theorem holds_notBlank {s : Settings} {name : String} {text : Settings → String} :
    (notBlank name text).holds s = true ↔ IsFilled (text s) := by
  simp [notBlank, Text.allBlank, IsFilled]

theorem holds_oneOf {s : Settings} {name : String} {text : Settings → String} {words : List String} :
    (oneOf name text words).holds s = true ↔ text s ∈ words := by
  simp [oneOf]

end Rule

theorem isValid_iff (s : Settings) : s.isValid = true ↔ Usable s := by
  have unbounded : s.service.notificationBuffer.toNat ≤ (0xffffffffffffffff : UInt64).toNat :=
    Nat.le_of_lt_succ s.service.notificationBuffer.toNat_lt
  have port : s.api.port ≠ 0 ↔ 1 ≤ s.api.port.toNat := by
    rw [Nat.one_le_iff_ne_zero, ne_eq, ne_eq, ← UInt16.toNat_inj, UInt16.toNat_zero]
  simp only [isValid, List.all_eq_true, rules, List.forall_mem_cons, Rule.holds_scheme, Rule.holds_between,
    Rule.holds_notBlank, Rule.holds_oneOf, decide_eq_true_eq, port]
  constructor
  · rintro ⟨rpc, ws, batch, timeout, symbol, workers, buffer, commands, notifications, host, api, level, format, -⟩
    exact ⟨rpc, ws, batch, timeout, symbol, workers, buffer.1, commands, notifications, host, api, level, format⟩
  · rintro ⟨rpc, ws, batch, timeout, symbol, workers, buffer, commands, notifications, host, api, level, format⟩
    exact ⟨rpc, ws, batch, timeout, symbol, workers, ⟨buffer, unbounded⟩, commands, notifications, host, api,
      level, format, List.forall_mem_nil _⟩

end Settings

end WalletWatch
