import WalletWatch.Toml.Basic
import WalletWatch.Toml.Lexical

/-!
# Reading TOML

A document is a list of lines: headers, and keys with values, which belong to the table of the header in
front. `Toml.read?` returns the entries of the document, or nothing where it is none. Values are nested
at most eighty deep.
-/

namespace WalletWatch

namespace Toml

def maxDepth : Nat :=
  79

def readWord? (cs : List Char) : Option (Toml × List Char) :=
  if startsDate cs then (date? cs).map fun rest => (.date, rest)
  else if startsTime cs then (time? cs).map fun rest => (.date, rest)
  else
    let isWordChar (c : Char) := c.isAlphanum || c = '_' || c = '+' || c = '-' || c = '.'
    let word := cs.takeWhile isWordChar
    let rest := cs.dropWhile isWordChar
    if word = ['t', 'r', 'u', 'e'] then some (.boolean true, rest)
    else if word = ['f', 'a', 'l', 's', 'e'] then some (.boolean false, rest)
    else match integer? word with
      | some n => some (.integer n, rest)
      | none => if isFloat word then some (.float, rest) else none

mutual

def readValue : (fuel depth : Nat) → List Char → Option (Toml × List Char)
  | 0, _, _ => none
  | fuel + 1, depth, cs =>
    match cs with
    | '"' :: _ => (readText? cs).map fun (s, rest) => (.string s, rest)
    | '\'' :: _ => (readText? cs).map fun (s, rest) => (.string s, rest)
    | '[' :: cs =>
      if maxDepth ≤ depth then none
      else (readItems fuel (depth + 1) cs).map fun (items, rest) => (.array items, rest)
    | '\x7b' :: cs =>
      if maxDepth ≤ depth then none
      else match skipBlanks cs with
        | '\x7d' :: cs => some (.table .inline [], cs)
        | cs => (readPairs fuel (depth + 1) [] cs).map fun (entries, rest) =>
          (.table .inline entries, rest)
    | cs => readWord? cs

def readItems : (fuel depth : Nat) → List Char → Option (List Toml × List Char)
  | 0, _, _ => none
  | fuel + 1, depth, cs =>
    match skipFiller false cs with
    | ']' :: cs => some ([], cs)
    | cs => do
      let (item, cs) ← readValue fuel depth cs
      match skipFiller false cs with
      | ',' :: cs => do
        let (items, rest) ← readItems fuel depth cs
        some (item :: items, rest)
      | ']' :: cs => some ([item], cs)
      | _ => none

def readPairs : (fuel depth : Nat) → Entries → List Char → Option (Entries × List Char)
  | 0, _, _, _ => none
  | fuel + 1, depth, entries, cs => do
    let (key, cs) ← readKey? maxDepth cs
    let cs ← behind? '=' cs
    let (v, cs) ← readValue fuel depth (skipBlanks cs)
    let entries ← define key.dropLast (key.getLast?.getD "") v .inline entries
    match skipBlanks cs with
    | ',' :: cs => readPairs fuel depth entries cs
    | '\x7d' :: cs => some (entries, cs)
    | _ => none

end

def readHeader? (close : List Char) (cs : List Char) : Option (List String × List Char) := do
  let (key, cs) ← readKey? maxDepth cs
  let cs ← Text.dropMark? close cs
  some (key, ← lineEnd? cs)

/-- Reads the lines of a document. `path` leads to the current table. -/
def readDocument : (fuel : Nat) → (path : List String) → Entries → List Char → Option Entries
  | 0, _, _, _ => none
  | fuel + 1, path, entries, cs =>
    match skipBlanks cs with
    | [] => some entries
    | '[' :: '[' :: cs => do
      let (key, rest) ← readHeader? [']', ']'] cs
      let entries ← updateAt false (fun _ => openNext (key.getLast?.getD "")) key.dropLast .header
        entries
      readDocument fuel key entries rest
    | '[' :: cs => do
      let (key, rest) ← readHeader? [']'] cs
      let entries ← updateAt false (fun _ => openTable (key.getLast?.getD "")) key.dropLast .header
        entries
      readDocument fuel key entries rest
    | cs =>
      match lineEnd? cs with
      | some rest => readDocument fuel path entries rest
      | none => do
        let (key, cs) ← readKey? maxDepth cs
        let cs ← behind? '=' cs
        let (v, cs) ← readValue (cs.length + 1) 0 (skipBlanks cs)
        let entries ← updateAt false
          (fun origin => define key.dropLast (key.getLast?.getD "") v origin) path .header entries
        readDocument fuel path entries (← lineEnd? cs)

def read? (s : String) : Option Entries :=
  let cs := match s.toList with
    | '\ufeff' :: cs => cs
    | cs => cs
  readDocument (cs.length + 1) [] [] cs

end Toml

end WalletWatch
