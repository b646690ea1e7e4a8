import WalletWatch.Failure
import WalletWatch.Json.Record

/-!
# Log entries

An entry names the component and the operation that it comes from and carries further members. Its line
is one object whose members are sorted by name. Members that were added later replace earlier ones of
the same name, the five base members included.
-/

namespace WalletWatch

inductive Level where
  | trace
  | debug
  | info
  | warn
  | error
  deriving DecidableEq, Repr

namespace Level

def name : Level → String
  | trace => "TRACE"
  | debug => "DEBUG"
  | info => "INFO"
  | warn => "WARN"
  | error => "ERROR"

def rank : Level → Nat
  | trace => 0
  | debug => 1
  | info => 2
  | warn => 3
  | error => 4

end Level

/-- The origin of a log entry, with members that describe its circumstances. -/
structure LogContext where
  component : String
  operation : String
  /-- Further members, in the order in which they were added. -/
  members : List (String × Json) := []

structure LogEntry where
  context : LogContext
  level : Level
  message : String

namespace LogContext

def including (c : LogContext) (key : String) (value : Json) : LogContext :=
  { c with members := c.members ++ [(key, value)] }

def withText (c : LogContext) (key value : String) : LogContext :=
  c.including key (.str value)

def withNumber (c : LogContext) (key : String) (n : Int) : LogContext :=
  c.including key (.int n)

def withBlockNumber (c : LogContext) (n : Nat) : LogContext :=
  c.withNumber "block_number" n

def withTransactionHash (c : LogContext) (text : String) : LogContext :=
  c.withText "transaction_hash" text

def withWallet (c : LogContext) (text : String) : LogContext :=
  c.withText "wallet_address" text

def withUser (c : LogContext) (user : Int) : LogContext :=
  c.withNumber "user_id" user

def withDuration (c : LogContext) (ms : Nat) : LogContext :=
  c.withNumber "duration_ms" ms

def withRetryCount (c : LogContext) (n : Nat) : LogContext :=
  c.withNumber "retry_count" n

def withError (c : LogContext) (text : String) : LogContext :=
  c.withText "error" text

def entry (c : LogContext) (level : Level) (message : String) : LogEntry :=
  ⟨c, level, message⟩

def trace (c : LogContext) (message : String) : LogEntry :=
  c.entry .trace message

def debug (c : LogContext) (message : String) : LogEntry :=
  c.entry .debug message

def info (c : LogContext) (message : String) : LogEntry :=
  c.entry .info message

def warn (c : LogContext) (message : String) : LogEntry :=
  c.entry .warn message

def error (c : LogContext) (message : String) : LogEntry :=
  c.entry .error message

end LogContext

namespace LogEntry

def baseMembers (e : LogEntry) (timestamp : Int) : List (String × Json) :=
  [("timestamp", .int timestamp), ("level", .str e.level.name),
    ("component", .str e.context.component), ("operation", .str e.context.operation),
    ("message", .str e.message)]

def lineMembers (e : LogEntry) (timestamp : Int) : List (String × Json) :=
  (e.baseMembers timestamp ++ e.context.members).foldl
    (fun sorted m => Json.insertMember m.1 m.2 sorted) []

def document (e : LogEntry) (timestamp : Int) : Json :=
  .obj (e.lineMembers timestamp)

def line (e : LogEntry) (timestamp : Int) : String :=
  (e.document timestamp).compact

end LogEntry

end WalletWatch
