import Std.Time.DateTime.Timestamp
import WalletWatch.CommandLine.Plan
import WalletWatch.Store.Command

/-!
# The program

The program looks at its words, the settings file, the environment and the clock, and does what
`CommandLine.plan` makes of them. It opens no connection itself, so to it every store is out of reach.
-/

namespace WalletWatch

def readEnvironment : IO Settings.Environment := do
  let names := "CONFIG_FILE" :: Settings.Field.all.map Settings.Field.variableName
  let values ← names.mapM fun name => do return (name, ← IO.getEnv name)
  return fun name => (values.find? fun e => e.1 = name).bind (·.2)

def readSettingsFile (path : String) : IO Settings.File := do
  match ← (IO.FS.readBinFile path).toBaseIO with
  | .ok bytes => return .content bytes.toList
  | .error (.noFileOrDirectory ..) => return .missing
  | .error _ => return .unreadable

def readClock : IO Instant := do
  let now ← Std.Time.Timestamp.now
  let seconds := now.val.second.val
  let time? := Instant.of? (seconds / 86400) (seconds % 86400).toNat now.val.nano.val.toNat
  match time? with
  | some t => return t
  | none => throw (IO.userError "the clock is out of range")

def refusingStore : CommandLine.StoreAnswers where
  reached := .error .refused
  opened := .ok ()
  receivers := .ok 0

end WalletWatch

def main (words : List String) : IO UInt32 := do
  let env ← WalletWatch.readEnvironment
  let file ← WalletWatch.readSettingsFile (WalletWatch.Settings.path env)
  let plan := WalletWatch.CommandLine.plan words file env (← WalletWatch.readClock)
  let (_, outcome) := plan.carryOut WalletWatch.refusingStore
  IO.print outcome.output
  IO.eprint outcome.errors
  return outcome.code.toUInt32
