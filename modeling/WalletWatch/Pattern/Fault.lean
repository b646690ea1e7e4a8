import WalletWatch.Text.Blank

/-!
# Faults in patterns

What can be wrong with a pattern and where. A fault is shown with the pattern above it and a row of
carets under the place, in the words of `Problem.render`.
-/

namespace WalletWatch

namespace Pattern

/-- A place in a pattern. Lines and columns are counted from one. -/
structure Place where
  line : Nat
  column : Nat
  deriving DecidableEq, Repr

namespace Place

def start : Place :=
  ⟨1, 1⟩

def behind (p : Place) (c : Char) : Place :=
  if c = '\n' then ⟨p.line + 1, 1⟩ else ⟨p.line, p.column + 1⟩

def before (p q : Place) : Bool :=
  p.line < q.line || (p.line = q.line && p.column < q.column)

end Place

structure Span where
  first : Place
  stop : Place
  deriving DecidableEq, Repr

def Span.at (p : Place) : Span :=
  ⟨p, p⟩

inductive Fault where
  | classEscapeInvalid
  | classRangeInvalid
  | classRangeLiteral
  | classUnclosed
  | decimalInvalid
  | escapeHexEmpty
  | escapeHexInvalid
  | escapeHexInvalidDigit
  | escapeUnfinished
  | escapeUnrecognized
  | flagDanglingNegation
  | flagDuplicate
  | flagRepeatedNegation
  | flagUnfinished
  | flagUnrecognized
  | groupNameDuplicate
  | groupNameEmpty
  | groupNameInvalid
  | groupNameUnfinished
  | groupUnclosed
  | groupUnopened
  | nestedTooDeep (limit : Nat)
  | repetitionCountInvalid
  | repetitionCountEmpty
  | repetitionCountUnclosed
  | repetitionMissing
  | wordBoundaryUnclosed
  | wordBoundaryUnrecognized
  | wordBoundaryUnfinished
  | unicodeClassInvalid
  | backreference
  | lookAround
  | unicodeNotAllowed
  | invalidUtf8
  | propertyNotFound
  | propertyValueNotFound
  deriving DecidableEq, Repr

def Fault.message : Fault → String
  | classEscapeInvalid => "invalid escape sequence found in character class"
  | classRangeInvalid => "invalid character class range, the start must be <= the end"
  | classRangeLiteral => "invalid range boundary, must be a literal"
  | classUnclosed => "unclosed character class"
  | decimalInvalid => "decimal literal invalid"
  | escapeHexEmpty => "hexadecimal literal empty"
  | escapeHexInvalid => "hexadecimal literal is not a Unicode scalar value"
  | escapeHexInvalidDigit => "invalid hexadecimal digit"
  | escapeUnfinished => "incomplete escape sequence, reached end of pattern prematurely"
  | escapeUnrecognized => "unrecognized escape sequence"
  | flagDanglingNegation => "dangling flag negation operator"
  | flagDuplicate => "duplicate flag"
  | flagRepeatedNegation => "flag negation operator repeated"
  | flagUnfinished => "expected flag but got end of regex"
  | flagUnrecognized => "unrecognized flag"
  | groupNameDuplicate => "duplicate capture group name"
  | groupNameEmpty => "empty capture group name"
  | groupNameInvalid => "invalid capture group character"
  | groupNameUnfinished => "unclosed capture group name"
  | groupUnclosed => "unclosed group"
  | groupUnopened => "unopened group"
  | nestedTooDeep limit =>
    "exceed the maximum number of nested parentheses/brackets (" ++ toString limit ++ ")"
  | repetitionCountInvalid => "invalid repetition count range, the start must be <= the end"
  | repetitionCountEmpty => "repetition quantifier expects a valid decimal"
  | repetitionCountUnclosed => "unclosed counted repetition"
  | repetitionMissing => "repetition operator missing expression"
  | wordBoundaryUnclosed =>
    "special word boundary assertion is either unclosed or contains an invalid character"
  | wordBoundaryUnrecognized => "unrecognized special word boundary assertion, " ++
    "valid choices are: start, end, start-half or end-half"
  | wordBoundaryUnfinished => "found either the beginning of a special word boundary or a bounded " ++
    "repetition on a \\b with an opening brace, but no closing brace"
  | unicodeClassInvalid => "invalid Unicode character class"
  | backreference => "backreferences are not supported"
  | lookAround => "look-around, including look-ahead and look-behind, is not supported"
  | unicodeNotAllowed => "Unicode not allowed here"
  | invalidUtf8 => "pattern can match invalid UTF-8"
  | propertyNotFound => "Unicode property not found"
  | propertyValueNotFound => "Unicode property value not found"

/-- A fault with its span in the pattern, and the span of another part that it refers to. -/
structure Problem where
  fault : Fault
  span : Span
  other : Option Span
  deriving DecidableEq, Repr

namespace Problem

/-- The lines of a pattern. A line break at the end does not start a line. -/
def lines (cs : List Char) : List (List Char) :=
  let pieces := Text.splitOn '\n' cs
  let pieces := if pieces.getLast? = some [] then pieces.dropLast else pieces
  pieces.map fun piece => if piece.getLast? = some '\r' then piece.dropLast else piece

def padded (width n : Nat) : List Char :=
  let digits := (toString n).toList
  List.replicate (width - digits.length) ' ' ++ digits

def carets (column : Nat) : List Span → List Char
  | [] => []
  | s :: rest =>
    let blank := s.first.column - column
    let marked := max 1 (s.stop.column - s.first.column)
    List.replicate blank ' ' ++ List.replicate marked '^' ++ carets (column + blank + marked) rest

def spans (p : Problem) : List Span :=
  match p.other with
  | none => [p.span]
  | some s => if s.first.before p.span.first then [s, p.span] else [p.span, s]

def isOnOneLine (s : Span) : Bool :=
  s.first.line = s.stop.line

/-- The lines of a pattern from `number` on, with carets under the named spans. A pattern of one line has
no line numbers, else they are `width` wide. -/
def notated (width : Nat) (parts : List Span) : (number : Nat) → List (List Char) → List Char
  | _, [] => []
  | number, line :: rest =>
    let front := if width = 0 then [' ', ' ', ' ', ' '] else padded width number ++ [':', ' ']
    let here := parts.filter fun s => isOnOneLine s && s.first.line = number
    let notes := if here.isEmpty then []
      else List.replicate (if width = 0 then 4 else 2 + width) ' ' ++ carets 1 here ++ ['\n']
    front ++ line ++ ['\n'] ++ notes ++ notated width parts (number + 1) rest

def note (s : Span) : String :=
  "on line " ++ toString s.first.line ++ " (column " ++ toString s.first.column ++ ") through line " ++
    toString s.stop.line ++ " (column " ++ toString (s.stop.column - 1) ++ ")"

def render (pattern : List Char) (p : Problem) : String :=
  let rows := lines pattern
  let conclusion := "error: " ++ p.fault.message
  if pattern.contains '\n' then
    let count := rows.length + (if pattern.getLast? = some '\n' then 1 else 0)
    let divider := String.ofList (List.replicate 79 '~') ++ "\n"
    let wide := p.spans.filter fun s => !isOnOneLine s
    "regex parse error:\n" ++ divider ++
      String.ofList (notated (toString count).length p.spans 1 rows) ++ divider ++
      (if wide.isEmpty then "" else String.intercalate "\n" (wide.map note) ++ "\n") ++ conclusion
  else "regex parse error:\n" ++ String.ofList (notated 0 p.spans 1 rows) ++ conclusion

end Problem

end Pattern

end WalletWatch
