import WalletWatch.Log.Entry
import WalletWatch.Pattern.Meaning

/-!
# Log filters

A filter is a list of directives, each a least level for all targets or for those whose name starts in
some way. The longest matching name decides, and a target that none matches is silent. A pattern that some
part of the message must match may follow behind a slash.
-/

namespace WalletWatch

namespace Log

/-- The least level of the entries that are kept, or `off` for none. -/
inductive Threshold where
  | off
  | from (level : Level)
  deriving DecidableEq, Repr

namespace Threshold

def admits : Threshold → Level → Bool
  | off, _ => false
  | .from least, level => least.rank ≤ level.rank

def parse? (cs : List Char) : Option Threshold :=
  let name := String.ofList (cs.map Char.toUpper)
  if name = "OFF" then some off
  else ([Level.error, .warn, .info, .debug, .trace].find? fun l => l.name = name).map .from

end Threshold

structure Directive where
  /-- What the targets start with; no name means all of them. -/
  target : Option String
  threshold : Threshold
  deriving DecidableEq, Repr

structure Filter where
  directives : List Directive
  /-- What some part of the message must match. -/
  pattern : Option Pattern.Regex
  /-- What could not be read, in words. -/
  complaints : List String

namespace Filter

def directive (cs : List Char) : Except String Directive :=
  let everything := Threshold.from .trace
  let refused (cs : List Char) := "warning: invalid logging spec '" ++ String.ofList cs ++
    "', ignoring it"
  match Text.splitOn '=' cs with
  | [name] => match Threshold.parse? name with
    | some t => .ok ⟨none, t⟩
    | none => .ok ⟨some (String.ofList name), everything⟩
  | [name, level] =>
    let level := Text.trim level
    if level.isEmpty then .ok ⟨some (String.ofList name), everything⟩
    else match Threshold.parse? level with
      | some t => .ok ⟨some (String.ofList name), t⟩
      | none => .error (refused level)
  | _ => .error (refused cs)

/-- Adds a directive at the end, or in place of an earlier one for the same target. -/
def put (d : Directive) : List Directive → List Directive
  | [] => [d]
  | d' :: ds => if d'.target = d.target then d :: ds else d' :: put d ds

def ofDirectives (cs : List Char) : Filter :=
  let read := (Text.splitOn ',' cs).map Text.trim |>.filter (!·.isEmpty) |>.map directive
  read.foldl (fun f r => match r with
    | .ok d => { f with directives := put d f.directives }
    | .error complaint => { f with complaints := f.complaints ++ [complaint] }) ⟨[], none, []⟩

def parse (s : String) : Filter :=
  match Text.splitOn '/' s.toList with
  | [ds] => ofDirectives ds
  | [ds, pattern] =>
    let f := ofDirectives ds
    match Pattern.compile (String.ofList pattern) with
    | .ok r => { f with pattern := some r }
    | .error why =>
      { f with complaints := f.complaints ++ ["warning: invalid regex filter - " ++ why] }
  | _ => ⟨[], none, ["warning: invalid logging spec '" ++ s ++ "', ignoring it (too many '/'s)"]⟩

def closeness? (target : String) (d : Directive) : Option Nat :=
  match d.target with
  | none => some 0
  | some name => (Text.dropMark? name.toList target.toList).map fun _ => name.utf8ByteSize

/-- The threshold for a target. A filter without directives keeps errors. -/
def thresholdFor (f : Filter) (target : String) : Threshold :=
  if f.directives.isEmpty then .from .error
  else
    let best := f.directives.foldl (fun best d =>
      match closeness? target d, best with
      | some n, some (m, t) => if m ≤ n then some (n, d.threshold) else some (m, t)
      | some n, none => some (n, d.threshold)
      | none, best => best) (none : Option (Nat × Threshold))
    match best with
    | some (_, t) => t
    | none => .off

def keeps (f : Filter) (level : Level) (target message : String) : Bool :=
  (f.thresholdFor target).admits level &&
    match f.pattern with
    | some r => r.isMatch message.toList
    | none => true

end Filter

end Log

end WalletWatch
