import WalletWatch.Hex
import WalletWatch.Number.Scientific
import WalletWatch.Number.Width
import WalletWatch.Time.Calendar

/-!
# The words of TOML

Blanks, comments, keys, texts, numbers and dates. Every reader returns what it read with the rest of
the text, or nothing.
-/

namespace WalletWatch

namespace Toml

/-- Whether a character may stand in a comment: tabs are the only control characters. -/
def isCommentChar (c : Char) : Bool :=
  c = '\t' || (' ' ≤ c && c ≠ '\x7f')

def skipBlanks (cs : List Char) : List Char :=
  cs.dropWhile fun c => c = ' ' || c = '\t'

def newline? : List Char → Option (List Char)
  | '\n' :: cs => some cs
  | '\r' :: '\n' :: cs => some cs
  | _ => none

def skipBreaks : List Char → List Char
  | [] => []
  | c :: cs =>
    if c = ' ' || c = '\t' || c = '\n' || (c = '\r' && cs.head? = some '\n') then skipBreaks cs
    else c :: cs

def skipComment : List Char → List Char
  | '#' :: cs => cs.dropWhile isCommentChar
  | cs => cs

def lineEnd? (cs : List Char) : Option (List Char) :=
  match skipComment (skipBlanks cs) with
  | [] => some []
  | cs => newline? cs

def skipFiller (inComment : Bool) : List Char → List Char
  | [] => []
  | c :: cs =>
    if inComment && isCommentChar c then skipFiller true cs
    else if c = ' ' || c = '\t' || c = '\n' then skipFiller false cs
    else if c = '\r' && cs.head? = some '\n' then skipFiller false cs
    else if c = '#' then skipFiller true cs
    else c :: cs

def scalar? (digits : List Char) : Option Char := do
  let n ← Hex.value? digits
  if n < 0xD800 || (0xDFFF < n && n < 0x110000) then some (Char.ofNat n) else none

def escape? : List Char → Option (Char × List Char)
  | 'b' :: cs => some ('\x08', cs)
  | 't' :: cs => some ('\t', cs)
  | 'n' :: cs => some ('\n', cs)
  | 'f' :: cs => some ('\x0c', cs)
  | 'r' :: cs => some ('\r', cs)
  | '"' :: cs => some ('"', cs)
  | '\\' :: cs => some ('\\', cs)
  | 'u' :: cs =>
    if cs.length < 4 then none else (scalar? (cs.take 4)).map fun c => (c, cs.drop 4)
  | 'U' :: cs =>
    if cs.length < 8 then none else (scalar? (cs.take 8)).map fun c => (c, cs.drop 8)
  | _ => none

def readBasic : (fuel : Nat) → List Char → Option (List Char × List Char)
  | 0, _ => none
  | _ + 1, [] => none
  | _ + 1, '"' :: cs => some ([], cs)
  | fuel + 1, '\\' :: cs => do
    let (c, cs) ← escape? cs
    let (text, rest) ← readBasic fuel cs
    some (c :: text, rest)
  | fuel + 1, c :: cs =>
    if isCommentChar c then do
      let (text, rest) ← readBasic fuel cs
      some (c :: text, rest)
    else none

def readLiteral : List Char → Option (List Char × List Char)
  | [] => none
  | '\'' :: cs => some ([], cs)
  | c :: cs =>
    if isCommentChar c then do
      let (text, rest) ← readLiteral cs
      some (c :: text, rest)
    else none

/-- Ends a multi-line text at a run of quotation marks: three of them end it, and up to two before these
belong to it. -/
def closing? (mark : Char) (cs : List Char) : Option (List Char × List Char) :=
  let run := min (cs.takeWhile (· = mark)).length 5
  if 3 ≤ run then some (List.replicate (run - 3) mark, cs.drop run) else none

/-- Reads a multi-line text. A backslash at the end of a line skips the blanks up to the next character. -/
def readLines (mark : Char) : (fuel : Nat) → List Char → Option (List Char × List Char)
  | 0, _ => none
  | fuel + 1, cs =>
    match closing? mark cs with
    | some closed => some closed
    | none =>
      match newline? cs with
      | some cs => do
        let (text, rest) ← readLines mark fuel cs
        some ('\n' :: text, rest)
      | none => match cs with
        | [] => none
        | '\\' :: cs' =>
          if mark = '"' then
            match newline? (skipBlanks cs') with
            | some cs => readLines mark fuel (skipBreaks cs)
            | none => do
              let (c, cs) ← escape? cs'
              let (text, rest) ← readLines mark fuel cs
              some (c :: text, rest)
          else do
            let (text, rest) ← readLines mark fuel cs'
            some ('\\' :: text, rest)
        | c :: cs =>
          if isCommentChar c then do
            let (text, rest) ← readLines mark fuel cs
            some (c :: text, rest)
          else none

def readText? (cs : List Char) : Option (String × List Char) :=
  let done (r : Option (List Char × List Char)) := r.map fun (text, rest) => (String.ofList text, rest)
  match cs with
  | '"' :: '"' :: '"' :: cs => done (readLines '"' (cs.length + 1) ((newline? cs).getD cs))
  | '\'' :: '\'' :: '\'' :: cs => done (readLines '\'' (cs.length + 1) ((newline? cs).getD cs))
  | '"' :: cs => done (readBasic (cs.length + 1) cs)
  | '\'' :: cs => done (readLiteral cs)
  | _ => none

def isKeyChar (c : Char) : Bool :=
  c.isAlphanum || c = '-' || c = '_'

def readKeyPart? (cs : List Char) : Option (String × List Char) :=
  match cs with
  | '"' :: cs => (readBasic (cs.length + 1) cs).map fun (text, rest) => (String.ofList text, rest)
  | '\'' :: cs => (readLiteral cs).map fun (text, rest) => (String.ofList text, rest)
  | _ =>
    let word := cs.takeWhile isKeyChar
    if word.isEmpty then none else some (String.ofList word, cs.dropWhile isKeyChar)

/-- Reads a key of at most `most` parts with dots and blanks between them. -/
def readKey? : (most : Nat) → List Char → Option (List String × List Char)
  | 0, _ => none
  | most + 1, cs => do
    let (part, cs) ← readKeyPart? (skipBlanks cs)
    match skipBlanks cs with
    | '.' :: cs => do
      let (parts, rest) ← readKey? most cs
      some (part :: parts, rest)
    | cs => some ([part], cs)

/-- The digits of a number with underscores between digits only. -/
def groupedDigits? (isDigit : Char → Bool) (cs : List Char) : Option (List Char) :=
  let groups := Text.splitOn '_' cs
  if groups.all fun g => !g.isEmpty && g.all isDigit then some groups.flatten else none

def valueIn (base : Nat) (digits : List Char) : Nat :=
  digits.foldl (fun n c => n * base + (Hex.digitValue? c).getD 0) 0

def decimalDigits? (cs : List Char) : Option (List Char) := do
  let digits ← groupedDigits? Char.isDigit cs
  if digits.head? = some '0' && 1 < digits.length then none else some digits

def splitSign : List Char → Bool × List Char
  | '-' :: cs => (true, cs)
  | '+' :: cs => (false, cs)
  | cs => (false, cs)

def integer? (word : List Char) : Option Int := do
  let n : Int ← match word with
    | '0' :: 'x' :: cs => (groupedDigits? Hex.isDigit cs).map fun ds => (valueIn 16 ds : Int)
    | '0' :: 'o' :: cs =>
      (groupedDigits? (fun c => '0' ≤ c && c ≤ '7') cs).map fun ds => (valueIn 8 ds : Int)
    | '0' :: 'b' :: cs =>
      (groupedDigits? (fun c => c = '0' || c = '1') cs).map fun ds => (valueIn 2 ds : Int)
    | _ =>
      let (negative, cs) := splitSign word
      (decimalDigits? cs).map fun ds => if negative then -(valueIn 10 ds : Int) else valueIn 10 ds
  if Width.fitsSigned64 n then some n else none

def isExponent (cs : List Char) : Bool :=
  (groupedDigits? Char.isDigit (splitSign cs).2).isSome

/-- Whether a word is a float. A float without a minus sign must not overflow. -/
def isFloat (word : List Char) : Bool :=
  let (negative, cs) := splitSign word
  if cs = ['i', 'n', 'f'] || cs = ['n', 'a', 'n'] then true
  else
    let isMark (c : Char) := c = 'e' || c = 'E'
    let body := cs.takeWhile fun c => !isMark c
    let tail := cs.dropWhile fun c => !isMark c
    let whole := body.takeWhile (· ≠ '.')
    let fraction := body.dropWhile (· ≠ '.')
    (decimalDigits? whole).isSome &&
      (fraction.isEmpty || (groupedDigits? Char.isDigit (fraction.drop 1)).isSome) &&
      (tail.isEmpty || isExponent (tail.drop 1)) && !(fraction.isEmpty && tail.isEmpty) &&
      (negative || !(Scientific.parse? (cs.filter (· ≠ '_'))).any Scientific.overflows)

def twoDigits? (most : Nat) : List Char → Option (Nat × List Char)
  | a :: b :: cs =>
    if a.isDigit && b.isDigit && valueIn 10 [a, b] ≤ most then some (valueIn 10 [a, b], cs) else none
  | _ => none

def behind? (c : Char) : List Char → Option (List Char)
  | c' :: cs => if c' = c then some cs else none
  | [] => none

def time? (cs : List Char) : Option (List Char) := do
  let (_, cs) ← twoDigits? 23 cs
  let (_, cs) ← twoDigits? 59 (← behind? ':' cs)
  let (_, cs) ← twoDigits? 60 (← behind? ':' cs)
  match cs with
  | '.' :: d :: cs => if d.isDigit then some (cs.dropWhile Char.isDigit) else none
  | '.' :: [] => none
  | cs => some cs

def zone? (cs : List Char) : Option (List Char) :=
  match cs with
  | 'Z' :: cs => some cs
  | 'z' :: cs => some cs
  | c :: rest =>
    if c = '+' || c = '-' then do
      let (_, cs) ← twoDigits? 23 rest
      let (_, cs) ← twoDigits? 59 (← behind? ':' cs)
      some cs
    else some (c :: rest)
  | [] => some []

def startsTime : List Char → Bool
  | a :: b :: ':' :: _ => a.isDigit && b.isDigit
  | _ => false

def startsDate : List Char → Bool
  | a :: b :: c :: d :: '-' :: _ => a.isDigit && b.isDigit && c.isDigit && d.isDigit
  | _ => false

def date? (cs : List Char) : Option (List Char) := do
  let year := valueIn 10 (cs.take 4)
  let (month, cs) ← twoDigits? 12 (cs.drop 5)
  let (day, cs) ← twoDigits? 31 (← behind? '-' cs)
  if !(CivilDate.mk year month day).isValid then none
  else match cs with
    | c :: rest =>
      if (c = 'T' || c = 't' || c = ' ') && startsTime rest then do zone? (← time? rest)
      else some (c :: rest)
    | [] => some []

end Toml

end WalletWatch
