import WalletWatch.Log.Entry

/-!
# Standard log entries

The entries that several parts write in the same way: measurements, failures by their severity, failed
attempts, and the time that an operation took.
-/

namespace WalletWatch

namespace Log

/-- The end of a scan. It is written for readers of the log only if something was found. -/
def blockScanned (wallet : String) (block found ms : Nat) : LogEntry :=
  let context := (LogContext.mk "metrics" "block_scanned" []).withWallet wallet
    |>.withBlockNumber block |>.withNumber "matching_transactions" found |>.withDuration ms
  if 0 < found then
    context.info ("Block " ++ toString block ++ " has " ++ toString found ++ " transactions for " ++
      wallet)
  else context.debug ("Block " ++ toString block ++ " scanned for " ++ wallet)

def published (wallet tx : String) (subscribers : Nat) : LogEntry :=
  (LogContext.mk "metrics" "notification_published" []).withWallet wallet
    |>.withTransactionHash tx |>.withNumber "subscriber_count" subscribers
    |>.info ("Published notification for " ++ wallet ++ " to " ++ toString subscribers ++
      " subscribers")

def dropped (wallet tx reason : String) : LogEntry :=
  (LogContext.mk "metrics" "notification_dropped" []).withWallet wallet
    |>.withTransactionHash tx |>.withText "reason" reason
    |>.warn ("Dropped activity for " ++ wallet ++ ": " ++ reason)

def nodeCall (method : String) (ms : Nat) (success : Bool) : LogEntry :=
  let context := (LogContext.mk "metrics" "rpc_call" []).withText "method" method
    |>.withDuration ms |>.including "success" (.bool success)
  if success then
    context.debug ("RPC call " ++ method ++ " completed in " ++ toString ms ++ "ms")
  else context.warn ("RPC call " ++ method ++ " failed after " ++ toString ms ++ "ms")

def listenerCount (n : Nat) : LogEntry :=
  (LogContext.mk "metrics" "listener_count" []).withNumber "active_listeners" n
    |>.info (toString n ++ " active wallet listeners")

def levelOf : Severity → Level
  | .critical => .error
  | .high => .error
  | .medium => .warn
  | .low => .info

def failure (e : Failure) (context? : Option LogContext) : LogEntry :=
  let context := context?.getD (LogContext.mk "error" "unknown" [])
  context.withText "error_type" e.diagnostic
    |>.withText "severity" e.severity.name
    |>.including "recoverable" (.bool e.isRecoverable)
    |>.entry (levelOf e.severity) ("Error occurred: " ++ e.message)

def attemptFailed (operation text : String) (attempt maxAttempts : Nat) : LogEntry :=
  let context := (LogContext.mk "recovery" "retry_attempt" []).withText "operation" operation
    |>.withRetryCount attempt |>.withNumber "max_attempts" maxAttempts |>.withError text
  if maxAttempts ≤ attempt then
    context.error ("Final attempt of " ++ operation ++ " failed: " ++ text)
  else context.warn ("Attempt " ++ toString attempt ++ " of " ++ toString maxAttempts ++ " for " ++
      operation ++ " failed: " ++ text)

/-- The end of an operation after `ms` milliseconds, with the text of its failure if it failed. -/
def timed (operation : String) (members : List (String × Json)) (ms : Nat) (failure? : Option String) :
    LogEntry :=
  let context := members.foldl (fun c m => c.including m.1 m.2)
    ((LogContext.mk "performance" operation []).withDuration ms)
  match failure? with
  | none => context.debug ("Operation completed successfully in " ++ toString ms ++ "ms")
  | some text =>
    (context.withError text).warn ("Operation failed after " ++ toString ms ++ "ms: " ++ text)

end Log

end WalletWatch
