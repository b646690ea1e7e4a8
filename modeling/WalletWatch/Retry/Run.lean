import WalletWatch.Log.Events
import WalletWatch.Retry.Policy

/-!
# Repeated attempts

An operation is attempted until it succeeds, fails in a way that another attempt cannot mend, or the
attempts run out. A run keeps everything that happened in order: the attempts, what was written to the
log, and the waits, which only stand between two attempts.
-/

namespace WalletWatch

namespace Retry

inductive Step where
  /-- The operation is attempted. -/
  | attempt
  | log (entry : LogEntry)
  | wait (span : Span)

structure Run (α : Type) where
  steps : List Step
  /-- `none` if a wait of the policy is no span of time. -/
  result : Option (Except Failure α)

namespace Run

def prepend {α : Type} (steps : List Step) (r : Run α) : Run α :=
  ⟨steps ++ r.steps, r.result⟩

def attempts {α : Type} (r : Run α) : Nat :=
  r.steps.countP fun
    | .attempt => true
    | _ => false

def waits {α : Type} (r : Run α) : List Span :=
  r.steps.filterMap fun
    | .wait span => some span
    | _ => none

def entries {α : Type} (r : Run α) : List LogEntry :=
  r.steps.filterMap fun
    | .log entry => some entry
    | _ => none

/-- The log of some steps in order. Each attempt writes entries of its own, and the first attempt has the
number `attempt`. -/
def entriesWith (own : Nat → List LogEntry) (attempt : Nat) : List Step → List LogEntry
  | [] => []
  | .attempt :: steps => own attempt ++ entriesWith own (attempt + 1) steps
  | .wait _ :: steps => entriesWith own attempt steps
  | .log entry :: steps => entry :: entriesWith own attempt steps

/-- The time of each attempt in milliseconds, on a clock that only waits move. -/
def attemptMillis (now : Nat) : List Step → List Nat
  | [] => []
  | .attempt :: steps => now :: attemptMillis now steps
  | .wait span :: steps => attemptMillis (now + span.timerMillis) steps
  | .log _ :: steps => attemptMillis now steps

end Run

def context (operation : String) (attempt : Nat) : LogContext :=
  (LogContext.mk "retry" operation []).withRetryCount attempt

def succeeded (operation : String) (attempt : Nat) : LogEntry :=
  (context operation attempt).info
    (operation ++ " succeeded after " ++ toString attempt ++ " attempts")

def givenUp (operation : String) (attempt : Nat) (e : Failure) : LogEntry :=
  ((context operation attempt).withText "reason" "non_recoverable").error
    ("Non-recoverable error, aborting retries: " ++ e.message)

def waiting (operation : String) (attempt maxAttempts : Nat) (span : Span) : LogEntry :=
  ((context operation attempt).withNumber "delay_ms" (span.millis % 0x10000000000000000 : Nat)).info
    ("Retrying in " ++ toString span.millis ++ "ms (attempt " ++ toString attempt ++ " of " ++
      toString maxAttempts ++ ")")

def exhausted (operation : String) : Failure :=
  .system (.retriesExhausted (operation ++ " was attempted zero times"))

/-- The run from `attempt` on with `left` attempts allowed, where `answer` gives the result of each
attempt. -/
def runFrom {α : Type} (operation : String) (maxAttempts : Nat) (delay? : Nat → Option Span)
    (answer : Nat → Except Failure α) : (left attempt : Nat) → Run α
  | 0, _ => ⟨[], some (.error (exhausted operation))⟩
  | left + 1, attempt =>
    match answer attempt with
    | .ok x =>
      ⟨.attempt :: (if 1 < attempt then [.log (succeeded operation attempt)] else []), some (.ok x)⟩
    | .error e =>
      let failed : List Step :=
        [.attempt, .log (Log.attemptFailed operation e.message attempt maxAttempts)]
      if !e.isRecoverable then
        ⟨failed ++ [.log (givenUp operation attempt e)], some (.error e)⟩
      else if left = 0 then ⟨failed, some (.error e)⟩
      else match delay? attempt with
        | none => ⟨failed, none⟩
        | some span =>
          (runFrom operation maxAttempts delay? answer left (attempt + 1)).prepend
            (failed ++ [.log (waiting operation attempt maxAttempts span), .wait span])

def summary {α : Type} (operation : String) (maxAttempts ms : Nat) (result : Except Failure α) :
    LogEntry :=
  Log.timed ("retry_" ++ operation) [("max_attempts", .nat maxAttempts)] ms
    (match result with
      | .ok _ => none
      | .error e => some e.message)

/-- Attempts an operation under a policy. Only waits take time. -/
def run {α : Type} (operation : String) (p : Policy) (delay? : Nat → Option Span)
    (answer : Nat → Except Failure α) : Run α :=
  let r := runFrom operation p.maxAttempts delay? answer p.maxAttempts 1
  match r.result with
  | none => r
  | some result =>
    let ms := r.waits.foldl (fun ms span => ms + span.timerMillis) 0
    { r with steps := r.steps ++ [.log (summary operation p.maxAttempts ms result)] }

end Retry

end WalletWatch
