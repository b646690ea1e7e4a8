import WalletWatch.Settings.Rules
import WalletWatch.Text.Utf8
import WalletWatch.Toml.Parser
import WalletWatch.Toml.Printer

/-!
# Where settings come from

A settings file gives every field, and where there is none every field has its default. A variable of the
environment replaces its field in either case. The rules are applied to what comes out, so a bad value in
the file does no harm if the environment replaces it.
-/

namespace WalletWatch

namespace Settings

abbrev Environment := String → Option String

/-- The contents of the settings file, if there is one. -/
inductive File where
  | missing
  /-- Something is there, but it is not a file. -/
  | unreadable
  | content (bytes : List UInt8)

/-- The fields of a section: a table has them by their keys, an array in order. -/
def Section.read? (sec : Section) (v : Toml) (s : Settings) : Option Settings :=
  match v with
  | .table _ entries =>
    sec.fields.foldlM (fun s f => do
      let v ← f.kind.ofToml? (← Toml.find? f.key entries)
      some (f.set v s)) s
  | .array items =>
    if items.length < sec.fields.length then none
    else (sec.fields.zip items).foldlM (fun s (f, v) => do
      let v ← f.kind.ofToml? v
      some (f.set v s)) s
  | _ => none

/-- The settings of a document. Every field has to be there, and other keys are ignored. -/
def ofToml? (entries : Toml.Entries) : Option Settings :=
  Section.all.foldlM (fun s sec => do sec.read? (← Toml.find? sec.name entries) s) {}

def ofFile (path : String) : File → Except SettingsError Settings
  | .missing => .ok {}
  | .unreadable => .error (.fileNotFound path)
  | .content bytes =>
    match Utf8.decode bytes with
    | .error _ => .error (.fileNotFound path)
    | .ok cs =>
      match Toml.read? (String.ofList cs) >>= ofToml? with
      | none => .error (.parsing "not a settings file")
      | some s => .ok s

def override (env : Environment) (s : Settings) (f : Field) : Except SettingsError Settings :=
  match env f.variableName with
  | none => .ok s
  | some raw =>
    match f.kind.ofText? raw with
    | none => .error (.invalidValue f.variableName raw)
    | some v => .ok (f.set v s)

def overrideAll (env : Environment) (s : Settings) : Except SettingsError Settings :=
  Field.all.foldlM (override env) s

def checked (s : Settings) : Except SettingsError Settings :=
  match s.fault? with
  | none => .ok s
  | some e => .error e

def path (env : Environment) : String :=
  (env "CONFIG_FILE").getD "config.toml"

def load (file : File) (env : Environment) : Except SettingsError Settings := do
  let s ← ofFile (path env) file
  let s ← overrideAll env s
  checked s

def document (s : Settings) : String :=
  Toml.printSections (Section.all.map fun sec =>
    (sec.name, sec.fields.map fun f => (f.key, f.kind.toToml (f.get s))))

def sample : String :=
  document {}

end Settings

end WalletWatch
