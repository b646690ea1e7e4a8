/-!
# Sets of code points

A set of code points as a list of runs, and the notation that tables are kept in: runs with blanks
between them, each a code point, two with a hyphen between them, or those with a step behind a slash,
in hexadecimal.
-/

namespace WalletWatch

namespace Text

/-- Every `step`-th code point from `first` to `last`. -/
structure Run where
  first : Nat
  last : Nat
  step : Nat
  deriving DecidableEq, Repr

namespace Run

def has (r : Run) (n : Nat) : Bool :=
  r.first ≤ n && n ≤ r.last && (n - r.first) % r.step = 0

def between (first last : Nat) : Run :=
  ⟨first, last, 1⟩

end Run

inductive RunPart where
  | first
  | last
  | step

/-- Reads runs. `run` is the current one, and `started` says whether it has a digit. -/
def readRuns (part : RunPart) (run : Run) (started : Bool) : List Char → List Run
  | [] => if started then [run] else []
  | c :: cs =>
    if c = ' ' then
      if started then run :: readRuns .first ⟨0, 0, 1⟩ false cs
      else readRuns .first ⟨0, 0, 1⟩ false cs
    else if c = '-' then readRuns .last { run with last := 0 } started cs
    else if c = '/' then readRuns .step { run with step := 0 } started cs
    else
      let digit := if c.isDigit then c.toNat - '0'.toNat else c.toNat - 'a'.toNat + 10
      let add (n : Nat) := n * 16 + digit
      let run := match part with
        | .first => { run with first := add run.first, last := add run.first }
        | .last => { run with last := add run.last }
        | .step => { run with step := add run.step }
      readRuns part run true cs

def runs (table : String) : List Run :=
  readRuns .first ⟨0, 0, 1⟩ false table.toList

end Text

end WalletWatch
