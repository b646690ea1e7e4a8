import WalletWatch.Number.Decimal
import WalletWatch.Number.Width
import WalletWatch.Settings.Basic
import WalletWatch.Text.Lower
import WalletWatch.Toml.Basic

/-!
# The fields of the settings

Each field has a place in the settings file, a variable of the environment that replaces it, and a kind
that says what may stand in it. Reading a field and changing it are the two operations on settings; what
is changed in one field is not seen in any other (`get_set_self`, `get_set_of_ne`).
-/

namespace WalletWatch

namespace Settings

inductive Section where
  | redis
  | blockchain
  | service
  | api
  | logging
  deriving DecidableEq, Repr

inductive Field where
  | redisHost
  | redisPort
  | redisPassword
  | redisDb
  | rpcUrl
  | wsUrl
  | chainId
  | batchSize
  | requestTimeout
  | nativeSymbol
  | commandChannel
  | notificationChannel
  | workerCount
  | notificationBuffer
  | apiHost
  | apiPort
  | logLevel
  | logFormat
  deriving DecidableEq, Repr

inductive Kind where
  | text
  /-- A word whose case does not matter in the environment. -/
  | word
  | port
  | count
  | index
  deriving DecidableEq, Repr

abbrev Kind.Value : Kind → Type
  | text => String
  | word => String
  | port => UInt16
  | count => UInt64
  | index => Int64

def Kind.ofText? : (k : Kind) → String → Option k.Value
  | text, s => some s
  | word, s => some (String.ofList (Text.lower s.toList))
  | port, s => do
    let n ← Decimal.natural? s.toList
    if n < 0x10000 then some n.toUInt16 else none
  | count, s => do
    let n ← Decimal.natural? s.toList
    if Width.fits64 n then some n.toUInt64 else none
  | index, s => (Decimal.word? s.toList).map Int64.ofInt

def Kind.ofToml? : (k : Kind) → Toml → Option k.Value
  | text, .string s => some s
  | word, .string s => some s
  | port, .integer n => if 0 ≤ n ∧ n < 0x10000 then some n.toNat.toUInt16 else none
  | count, .integer n => if 0 ≤ n ∧ Width.fits64 n.toNat then some n.toNat.toUInt64 else none
  | index, .integer n => some (Int64.ofInt n)
  | _, _ => none

def Kind.toToml : (k : Kind) → k.Value → Toml
  | text, s => .string s
  | word, s => .string s
  | port, n => .integer n.toNat
  | count, n => .integer n.toNat
  | index, n => .integer n.toInt

namespace Section

def all : List Section :=
  [redis, blockchain, service, api, logging]

def name : Section → String
  | redis => "redis"
  | blockchain => "blockchain"
  | service => "service"
  | api => "api"
  | logging => "logging"

def fields : Section → List Field
  | redis => [.redisHost, .redisPort, .redisPassword, .redisDb]
  | blockchain => [.rpcUrl, .wsUrl, .chainId, .batchSize, .requestTimeout, .nativeSymbol]
  | service => [.commandChannel, .notificationChannel, .workerCount, .notificationBuffer]
  | api => [.apiHost, .apiPort]
  | logging => [.logLevel, .logFormat]

end Section

namespace Field

def all : List Field :=
  Section.all.flatMap Section.fields

def kind : Field → Kind
  | redisPort => .port
  | apiPort => .port
  | redisDb => .index
  | chainId => .count
  | batchSize => .count
  | requestTimeout => .count
  | workerCount => .count
  | notificationBuffer => .count
  | logLevel => .word
  | logFormat => .word
  | _ => .text

abbrev Value (f : Field) : Type :=
  f.kind.Value

def key : Field → String
  | redisHost => "host"
  | redisPort => "port"
  | redisPassword => "password"
  | redisDb => "db"
  | rpcUrl => "rpc_url"
  | wsUrl => "ws_url"
  | chainId => "chain_id"
  | batchSize => "batch_size"
  | requestTimeout => "request_timeout_seconds"
  | nativeSymbol => "native_symbol"
  | commandChannel => "command_channel"
  | notificationChannel => "notification_channel"
  | workerCount => "worker_count"
  | notificationBuffer => "notification_buffer"
  | apiHost => "host"
  | apiPort => "port"
  | logLevel => "level"
  | logFormat => "format"

def variableName : Field → String
  | redisHost => "REDIS_HOST"
  | redisPort => "REDIS_PORT"
  | redisPassword => "REDIS_PASSWORD"
  | redisDb => "REDIS_DB"
  | rpcUrl => "BLOCKCHAIN_RPC_URL"
  | wsUrl => "BLOCKCHAIN_WS_URL"
  | chainId => "BLOCKCHAIN_CHAIN_ID"
  | batchSize => "BLOCKCHAIN_BATCH_SIZE"
  | requestTimeout => "BLOCKCHAIN_REQUEST_TIMEOUT"
  | nativeSymbol => "BLOCKCHAIN_NATIVE_SYMBOL"
  | commandChannel => "SERVICE_COMMAND_CHANNEL"
  | notificationChannel => "SERVICE_NOTIFICATION_CHANNEL"
  | workerCount => "SERVICE_WORKER_COUNT"
  | notificationBuffer => "SERVICE_NOTIFICATION_BUFFER"
  | apiHost => "API_HOST"
  | apiPort => "API_PORT"
  | logLevel => "LOG_LEVEL"
  | logFormat => "LOG_FORMAT"

def get : (f : Field) → Settings → f.Value
  | redisHost, s => s.redis.host
  | redisPort, s => s.redis.port
  | redisPassword, s => s.redis.password
  | redisDb, s => s.redis.db
  | rpcUrl, s => s.blockchain.rpcUrl
  | wsUrl, s => s.blockchain.wsUrl
  | chainId, s => s.blockchain.chainId
  | batchSize, s => s.blockchain.batchSize
  | requestTimeout, s => s.blockchain.requestTimeoutSeconds
  | nativeSymbol, s => s.blockchain.nativeSymbol
  | commandChannel, s => s.service.commandChannel
  | notificationChannel, s => s.service.notificationChannel
  | workerCount, s => s.service.workerCount
  | notificationBuffer, s => s.service.notificationBuffer
  | apiHost, s => s.api.host
  | apiPort, s => s.api.port
  | logLevel, s => s.logging.level
  | logFormat, s => s.logging.format

def set : (f : Field) → f.Value → Settings → Settings
  | redisHost, v, s => { s with redis.host := v }
  | redisPort, v, s => { s with redis.port := v }
  | redisPassword, v, s => { s with redis.password := v }
  | redisDb, v, s => { s with redis.db := v }
  | rpcUrl, v, s => { s with blockchain.rpcUrl := v }
  | wsUrl, v, s => { s with blockchain.wsUrl := v }
  | chainId, v, s => { s with blockchain.chainId := v }
  | batchSize, v, s => { s with blockchain.batchSize := v }
  | requestTimeout, v, s => { s with blockchain.requestTimeoutSeconds := v }
  | nativeSymbol, v, s => { s with blockchain.nativeSymbol := v }
  | commandChannel, v, s => { s with service.commandChannel := v }
  | notificationChannel, v, s => { s with service.notificationChannel := v }
  | workerCount, v, s => { s with service.workerCount := v }
  | notificationBuffer, v, s => { s with service.notificationBuffer := v }
  | apiHost, v, s => { s with api.host := v }
  | apiPort, v, s => { s with api.port := v }
  | logLevel, v, s => { s with logging.level := v }
  | logFormat, v, s => { s with logging.format := v }

@[simp] theorem get_set_self (f : Field) (v : f.Value) (s : Settings) : f.get (f.set v s) = v := by
  cases f <;> rfl

theorem get_set_of_ne {f g : Field} (h : f ≠ g) (v : g.Value) (s : Settings) :
    f.get (g.set v s) = f.get s := by
  cases f <;> cases g <;> first | rfl | exact absurd rfl h

theorem mem_all (f : Field) : f ∈ all := by
  cases f <;> decide

end Field

theorem ext_get {s t : Settings} (h : ∀ f : Field, f.get s = f.get t) : s = t := by
  obtain ⟨⟨_, _, _, _⟩, ⟨_, _, _, _, _, _⟩, ⟨_, _, _, _⟩, ⟨_, _⟩, ⟨_, _⟩⟩ := s
  obtain ⟨⟨_, _, _, _⟩, ⟨_, _, _, _, _, _⟩, ⟨_, _, _, _⟩, ⟨_, _⟩, ⟨_, _⟩⟩ := t
  have h₁ := h .redisHost; have h₂ := h .redisPort; have h₃ := h .redisPassword
  have h₄ := h .redisDb; have h₅ := h .rpcUrl; have h₆ := h .wsUrl; have h₇ := h .chainId
  have h₈ := h .batchSize; have h₉ := h .requestTimeout; have h₁₀ := h .nativeSymbol
  have h₁₁ := h .commandChannel; have h₁₂ := h .notificationChannel; have h₁₃ := h .workerCount
  have h₁₄ := h .notificationBuffer; have h₁₅ := h .apiHost; have h₁₆ := h .apiPort
  have h₁₇ := h .logLevel; have h₁₈ := h .logFormat
  simp_all [Field.get]

end Settings

end WalletWatch
