/-!
# TOML tables

A table may be opened by a header, be implied by the header of a table inside it, grow out of dotted
keys, or be written inline. A table keeps how it came to be, because that decides what may be added to it
later: nothing to an inline one, nothing by dotted keys to one with a header, and one header to one that
was only implied.
-/

namespace WalletWatch

inductive TableOrigin where
  | header
  /-- By the header of a table inside it. -/
  | implied
  /-- By dotted keys. -/
  | dotted
  | inline
  deriving DecidableEq, Repr

/-- A value of a settings file. Floats and dates are kept without their values. -/
inductive Toml where
  | string (s : String)
  | integer (n : Int)
  | boolean (b : Bool)
  | float
  | date
  | array (items : List Toml)
  | table (origin : TableOrigin) (entries : List (String × Toml))
  /-- Tables under one repeated header. -/
  | tables (items : List (List (String × Toml)))

namespace Toml

instance : Inhabited Toml := ⟨boolean false⟩

abbrev Entries := List (String × Toml)

def find? (key : String) (entries : Entries) : Option Toml :=
  (entries.find? fun e => e.1 = key).map (·.2)

def put (key : String) (v : Toml) (entries : Entries) : Entries :=
  if entries.any fun e => e.1 = key then
    entries.map fun e => if e.1 = key then (key, v) else e
  else entries ++ [(key, v)]

def mayEnter (byDots : Bool) : TableOrigin → Bool
  | .header => !byDots
  | .implied => true
  | .dotted => true
  | .inline => false

/-- Changes the table at the end of a path. Missing tables are created; a path through a value or a
closed table fails. -/
def updateAt (byDots : Bool) (change : TableOrigin → Entries → Option Entries) :
    List String → TableOrigin → Entries → Option Entries
  | [], origin, entries => change origin entries
  | key :: path, _, entries =>
    match find? key entries with
    | none => do
      let origin := if byDots then TableOrigin.dotted else .implied
      let inner ← updateAt byDots change path origin []
      some (put key (.table origin inner) entries)
    | some (.table origin inner) =>
      if mayEnter byDots origin then do
        let inner ← updateAt byDots change path origin inner
        some (put key (.table origin inner) entries)
      else none
    | some (.tables items) =>
      match items.reverse with
      | [] => none
      | last :: earlier => do
        let last ← updateAt byDots change path .header last
        some (put key (.tables (last :: earlier).reverse) entries)
    | some _ => none

/-- Gives a new key a value at the end of a dotted path. The path leads through tables that come from
dotted keys only. -/
def define (path : List String) (key : String) (v : Toml) (origin : TableOrigin) (entries : Entries) :
    Option Entries :=
  let insert (origin : TableOrigin) (entries : Entries) : Option Entries :=
    if (origin = .dotted) = (path = []) then none
    else if (find? key entries).isSome then none
    else some (entries ++ [(key, v)])
  updateAt true insert path origin entries

def openTable (key : String) (entries : Entries) : Option Entries :=
  match find? key entries with
  | none => some (entries ++ [(key, .table .header [])])
  | some (.table .implied inner) => some (put key (.table .header inner) entries)
  | some _ => none

def openNext (key : String) (entries : Entries) : Option Entries :=
  match find? key entries with
  | none => some (entries ++ [(key, .tables [[]])])
  | some (.tables items) => some (put key (.tables (items ++ [[]])) entries)
  | some _ => none

end Toml

end WalletWatch
