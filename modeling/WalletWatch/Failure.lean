import WalletWatch.Address

/-!
# Failures

What can go wrong, by the part that it goes wrong in: the node, the message channel, the chain's data,
the settings, an identifier, the system. Each failure has a text for people (`message`), a diagnostic
form that shows its structure (`diagnostic`), a severity, and says whether trying again may help.
-/

namespace WalletWatch

inductive NodeError where
  /-- The exchange itself failed. -/
  | http (text : String)
  /-- The answer is no JSON, or not of the agreed form. -/
  | json (text : String)
  /-- The node refused the call. -/
  | method (code : Int) (text : String)
  | invalidResponse (text : String)
  | timeout (seconds : Nat)
  | connection (text : String)
  | notFound (text : String)
  | webSocket (text : String)
  | subscriptionClosed (text : String)
  deriving DecidableEq, Repr

namespace NodeError

def message : NodeError → String
  | http text => "HTTP request failed: " ++ text
  | json text => "JSON parsing failed: " ++ text
  | method code text => "RPC method error: code=" ++ toString code ++ ", message=" ++ text
  | invalidResponse text => "Invalid response format: " ++ text
  | timeout seconds => "Timeout after " ++ toString seconds ++ " seconds"
  | connection text => "Connection failed: " ++ text
  | notFound text => "Not found: " ++ text
  | webSocket text => "WebSocket error: " ++ text
  | subscriptionClosed text => "Subscription closed: " ++ text

def diagnostic : NodeError → String
  | http text => "Http(" ++ text ++ ")"
  | json text => "Json(" ++ text ++ ")"
  | method code text =>
    "Method \x7b code: " ++ toString code ++ ", message: " ++ Text.quote text ++ " \x7d"
  | invalidResponse text => "InvalidResponse(" ++ Text.quote text ++ ")"
  | timeout seconds => "Timeout \x7b seconds: " ++ toString seconds ++ " \x7d"
  | connection text => "Connection(" ++ Text.quote text ++ ")"
  | notFound text => "NotFound(" ++ Text.quote text ++ ")"
  | webSocket text => "WebSocket(" ++ Text.quote text ++ ")"
  | subscriptionClosed text => "SubscriptionClosed(" ++ Text.quote text ++ ")"

end NodeError

inductive IoCause where
  | refused
  | timedOut
  | notFound
  | other
  deriving DecidableEq, Repr

namespace IoCause

def name : IoCause → String
  | refused => "ConnectionRefused"
  | timedOut => "TimedOut"
  | notFound => "NotFound"
  | other => "Other"

end IoCause

/-- Why the message store failed: its address cannot be read, the connection failed, or the store
answered with an error. -/
inductive StoreCause where
  | address
  | io (cause : IoCause)
  | reply
  deriving DecidableEq, Repr

inductive ChannelError where
  | store (cause : StoreCause) (text : String)
  | serialization (text : String)
  | malformedPayload (text : String)
  | subscriptionClosed (text : String)
  deriving DecidableEq, Repr

namespace ChannelError

def message : ChannelError → String
  | store _ text => "Redis error: " ++ text
  | serialization text => "Serialization failed: " ++ text
  | malformedPayload text => "Malformed payload: " ++ text
  | subscriptionClosed text => "Subscription closed: " ++ text

def diagnostic : ChannelError → String
  | store _ text => "Redis(" ++ text ++ ")"
  | serialization text => "Serialization(" ++ text ++ ")"
  | malformedPayload text => "MalformedPayload(" ++ Text.quote text ++ ")"
  | subscriptionClosed text => "SubscriptionClosed(" ++ Text.quote text ++ ")"

end ChannelError

inductive DataError where
  | blockParsing (text : String)
  | transactionParsing (text : String)
  | logParsing (text : String)
  | amountParsing (text : String)
  | abiDecoding (text : String)
  | pendingTransaction (text : String)
  deriving DecidableEq, Repr

namespace DataError

def message : DataError → String
  | blockParsing text => "Block parsing failed: " ++ text
  | transactionParsing text => "Transaction parsing failed: " ++ text
  | logParsing text => "Log parsing failed: " ++ text
  | amountParsing text => "Amount parsing failed: " ++ text
  | abiDecoding text => "ABI decoding failed: " ++ text
  | pendingTransaction text => "Transaction is pending: " ++ text

def diagnostic : DataError → String
  | blockParsing text => "BlockParsing(" ++ Text.quote text ++ ")"
  | transactionParsing text => "TransactionParsing(" ++ Text.quote text ++ ")"
  | logParsing text => "LogParsing(" ++ Text.quote text ++ ")"
  | amountParsing text => "AmountParsing(" ++ Text.quote text ++ ")"
  | abiDecoding text => "AbiDecoding(" ++ Text.quote text ++ ")"
  | pendingTransaction text => "PendingTransaction(" ++ Text.quote text ++ ")"

end DataError

inductive SettingsError where
  | invalidValue (key value : String)
  | fileNotFound (text : String)
  | parsing (text : String)
  | invalidUrl (text : String)
  | chainIdMismatch (configured node : Nat)
  deriving DecidableEq, Repr

namespace SettingsError

def message : SettingsError → String
  | invalidValue key value => "Invalid configuration value for " ++ key ++ ": " ++ value
  | fileNotFound text => "Configuration file not found: " ++ text
  | parsing text => "Configuration parsing failed: " ++ text
  | invalidUrl text => "Invalid URL format: " ++ text
  | chainIdMismatch configured node =>
    "Chain id mismatch: configured=" ++ toString configured ++ ", node=" ++ toString node

def diagnostic : SettingsError → String
  | invalidValue key value =>
    "InvalidValue \x7b key: " ++ Text.quote key ++ ", value: " ++ Text.quote value ++ " \x7d"
  | fileNotFound text => "FileNotFound(" ++ Text.quote text ++ ")"
  | parsing text => "Parsing(" ++ Text.quote text ++ ")"
  | invalidUrl text => "InvalidUrl(" ++ Text.quote text ++ ")"
  | chainIdMismatch configured node =>
    "ChainIdMismatch \x7b configured: " ++ toString configured ++ ", node: " ++ toString node ++ " \x7d"

end SettingsError

namespace IdentifierFault

def diagnostic (e : IdentifierFault) : String :=
  match e with
  | .transactionHash _ => "InvalidTransactionHash(" ++ Text.quote e.detail ++ ")"
  | _ => "InvalidAddress(" ++ Text.quote e.detail ++ ")"

end IdentifierFault

/-- A failure of the operating system, or a limit of time or attempts that was reached. -/
inductive SystemError where
  | io (cause : IoCause) (text : String)
  | signal (text : String)
  | retriesExhausted (text : String)
  deriving DecidableEq, Repr

namespace SystemError

def message : SystemError → String
  | io _ text => "I/O error: " ++ text
  | signal text => "Signal handling failed: " ++ text
  | retriesExhausted text => "Retries exhausted: " ++ text

def diagnostic : SystemError → String
  | io cause text =>
    "Io(Custom \x7b kind: " ++ cause.name ++ ", error: " ++ Text.quote text ++ " \x7d)"
  | signal text => "Signal(" ++ Text.quote text ++ ")"
  | retriesExhausted text => "RetriesExhausted(" ++ Text.quote text ++ ")"

end SystemError

inductive Failure where
  | node (e : NodeError)
  | channel (e : ChannelError)
  | data (e : DataError)
  | settings (e : SettingsError)
  | identifier (e : IdentifierFault)
  | system (e : SystemError)
  deriving DecidableEq, Repr

inductive Severity where
  /-- The program cannot start. -/
  | critical
  /-- A listener or the command path is gone. -/
  | high
  /-- One item is skipped, or a result is poorer. -/
  | medium
  /-- Worth knowing. -/
  | low
  deriving DecidableEq, Repr

namespace Severity

def name : Severity → String
  | critical => "Critical"
  | high => "High"
  | medium => "Medium"
  | low => "Low"

end Severity

namespace Failure

def message : Failure → String
  | node e => "RPC error: " ++ e.message
  | channel e => "Transport error: " ++ e.message
  | data e => "Processing error: " ++ e.message
  | settings e => "Configuration error: " ++ e.message
  | identifier e => "Validation error: " ++ e.message
  | system e => "System error: " ++ e.message

def diagnostic : Failure → String
  | node e => "Rpc(" ++ e.diagnostic ++ ")"
  | channel e => "Transport(" ++ e.diagnostic ++ ")"
  | data e => "Processing(" ++ e.diagnostic ++ ")"
  | settings e => "Config(" ++ e.diagnostic ++ ")"
  | identifier e => "Validation(" ++ e.diagnostic ++ ")"
  | system e => "System(" ++ e.diagnostic ++ ")"

def severity : Failure → Severity
  | settings _ => .critical
  | system (.io _ _) => .critical
  | node (.connection _) => .high
  | node (.webSocket _) => .high
  | node (.subscriptionClosed _) => .high
  | channel (.store _ _) => .high
  | identifier _ => .low
  | node (.notFound _) => .low
  | channel (.malformedPayload _) => .low
  | _ => .medium

/-- Only failures of a connection and missing answers are worth another attempt. -/
def isRecoverable : Failure → Bool
  | node (.timeout _) => true
  | node (.connection _) => true
  | node (.http _) => true
  | node (.webSocket _) => true
  | channel (.store (.io _) _) => true
  | _ => false

end Failure

end WalletWatch
