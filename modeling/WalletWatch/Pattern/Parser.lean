import WalletWatch.Hex
import WalletWatch.Pattern.Basic
import WalletWatch.Pattern.Category
import WalletWatch.Pattern.Trait

/-!
# Reading patterns

A reader of patterns that goes from left to right and stops at the first fault. `Expr.parse` is the
entry. In the mode that ignores blanks, blanks and comments from a number sign to the end of the line
may stand nearly everywhere.
-/

namespace WalletWatch

namespace Pattern

/-- The state of a reader: the rest of the pattern, the place of its first character, whether blanks are
ignored, and the names of the groups so far. -/
structure Reader where
  rest : List Char
  place : Place
  ignoresBlanks : Bool
  names : List (String × Span)

abbrev Reading := StateT Reader (Except Problem)

namespace Reading

def fail {α : Type} (fault : Fault) (span : Span) (other : Option Span) : Reading α :=
  fun _ => .error ⟨fault, span, other⟩

def refuse {α : Type} (fault : Fault) (span : Span) : Reading α :=
  fail fault span none

def here : Reading Place := do
  return (← get).place

def since (first : Place) : Reading Span := do
  return ⟨first, ← here⟩

def next? : Reading (Option Char) := do
  return (← get).rest.head?

def second? : Reading (Option Char) := do
  return (← get).rest[1]?

def isOver : Reading Bool := do
  return (← get).rest.isEmpty

def room : Reading Nat := do
  return (← get).rest.length

def nextSpan : Reading Span := do
  let r ← get
  match r.rest with
  | [] => return .at r.place
  | c :: _ => return ⟨r.place, r.place.behind c⟩

def pass : (n : Nat) → Reading Unit
  | 0 => return ()
  | n + 1 => do
    let r ← get
    match r.rest with
    | [] => return ()
    | c :: cs =>
      set { r with rest := cs, place := r.place.behind c }
      pass n

def behindFiller (inComment : Bool) (p : Place) : List Char → List Char × Place
  | [] => ([], p)
  | c :: cs =>
    if inComment then behindFiller (c ≠ '\n') (p.behind c) cs
    else if Text.isBlank c then behindFiller false (p.behind c) cs
    else if c = '#' then behindFiller true (p.behind c) cs
    else (c :: cs, p)

def skip : Reading Unit := do
  let r ← get
  if r.ignoresBlanks then
    let (rest, place) := behindFiller false r.place r.rest
    set { r with rest := rest, place := place }

/-- Moves past a character, and past blanks and comments after it if they are ignored. The result says
whether the pattern goes on. -/
def advance : Reading Bool := do
  pass 1
  if ← isOver then return false
  skip
  return !(← isOver)

def passText (s : String) : Reading Bool := do
  match Text.dropMark? s.toList (← get).rest with
  | some _ =>
    pass s.length
    return true
  | none => return false

/-- Reads characters of some kind, and skips what is ignored between them. -/
def collect (p : Char → Bool) : (room : Nat) → Reading (List Char)
  | 0 => return []
  | room + 1 => do
    match ← next? with
    | some c =>
      if p c then
        let _ ← advance
        return c :: (← collect p room)
      else return []
    | none => return []

/-- The first character that is not blank. The first number sign does not count. -/
def beyondFiller (inComment : Bool) : List Char → Option Char
  | [] => none
  | c :: cs =>
    if Text.isBlank c then beyondFiller inComment cs
    else if !inComment && c = '#' then beyondFiller true cs
    else some c

/-- The character after the next one. Blanks and a number sign are skipped if they are ignored and
something follows them. -/
def secondBeyondFiller? : Reading (Option Char) := do
  let r ← get
  let behind := r.rest.drop 1
  if r.ignoresBlanks then return (beyondFiller false behind).or behind.head?
  else return behind.head?

def decimal? : Reading (Except Problem Nat) := do
  pass ((← get).rest.takeWhile Text.isBlank).length
  let first ← here
  let digits ← collect Char.isDigit (← room)
  let span ← since first
  let _ ← collect Text.isBlank (← room)
  let n := digits.foldl (fun n c => n * 10 + (c.toNat - '0'.toNat)) 0
  if digits.isEmpty then return .error ⟨.repetitionCountEmpty, span, none⟩
  else if n < 0x100000000 then return .ok n
  else return .error ⟨.decimalInvalid, span, none⟩

def scalar? (digits : List Char) : Option Char := do
  let n ← Hex.value? digits
  if n < 0xD800 || (0xDFFF < n && n < 0x110000) then some (Char.ofNat n) else none

/-- Reads a fixed number of hexadecimal digits, starting at the current character. -/
def hexDigits : (n : Nat) → Reading (List Char)
  | 0 => return []
  | n + 1 => do
    match ← next? with
    | some c =>
      if !Hex.isDigit c then refuse .escapeHexInvalidDigit (← nextSpan)
      let goesOn ← advance
      if 0 < n && !goesOn then refuse .escapeUnfinished (.at (← here))
      return c :: (← hexDigits n)
    | none => refuse .escapeUnfinished (.at (← here))

/-- Reads hexadecimal digits up to the closing brace, which is not consumed. -/
def bracedDigits (opening : Place) : (room : Nat) → Reading (List Char)
  | 0 => return []
  | room + 1 => do
    if !(← advance) then refuse .escapeUnfinished (← since opening)
    match ← next? with
    | some '\x7d' => return []
    | some c =>
      if !Hex.isDigit c then refuse .escapeHexInvalidDigit (← nextSpan)
      return c :: (← bracedDigits opening room)
    | none => refuse .escapeUnfinished (← since opening)

/-- Reads an escape of hexadecimal digits after the letter that gives their number. -/
def hexadecimal (start : Place) (count : Nat) : Reading Expr := do
  if !(← advance) then refuse .escapeUnfinished (.at (← here))
  let opening ← here
  if (← next?) = some '\x7b' then
    let first := (← nextSpan).stop
    let digits ← bracedDigits opening ((← room) + 1)
    let span ← since first
    let _ ← advance
    if digits.isEmpty then refuse .escapeHexEmpty (← since opening)
    match scalar? digits with
    | some c => return .literal ⟨⟨start, ← here⟩, c, false⟩
    | none => refuse .escapeHexInvalid span
  else
    let digits ← hexDigits count
    let span ← since opening
    match scalar? digits with
    | some c => return .literal ⟨⟨start, span.stop⟩, c, count = 2⟩
    | none => refuse .escapeHexInvalid span

def bracedName : (room : Nat) → Reading (List Char)
  | 0 => return []
  | room + 1 => do
    if !(← advance) then refuse .escapeUnfinished (.at (← here))
    match ← next? with
    | some '\x7d' =>
      pass 1
      return []
    | some c => return c :: (← bracedName room)
    | none => refuse .escapeUnfinished (.at (← here))

def className (cs : List Char) : ClassName × Bool :=
  let named (cut : List Char × List Char) := ClassName.value (String.ofList cut.1) (String.ofList cut.2)
  match Text.cutAt? ['!', '='] cs with
  | some cut => (named cut, true)
  | none => match Text.cutAt? [':'] cs with
    | some cut => (named cut, false)
    | none => match Text.cutAt? ['='] cs with
      | some cut => (named cut, false)
      | none => (.name (String.ofList cs), false)

def property (start : Place) (negated : Bool) : Reading Expr := do
  if !(← advance) then refuse .escapeUnfinished (.at (← here))
  match ← next? with
  | some '\x7b' =>
    let (name, opposite) := className (← bracedName ((← room) + 1))
    return .property (← since start) (negated != opposite) name
  | some '\\' => refuse .unicodeClassInvalid (← nextSpan)
  | some c =>
    let _ ← advance
    return .property (← since start) negated (.letter c)
  | none => refuse .escapeUnfinished (.at (← here))

def boundaryNames : List (String × Assertion) := [
  ("start", .wordStart), ("end", .wordEnd), ("start-half", .wordStartHalf), ("end-half", .wordEndHalf)]

/-- Reads the word in braces after a word boundary. Other braces are left for a repetition. -/
def boundaryName? (start : Place) : Reading (Option Assertion) := do
  let isNameChar (c : Char) := c.isAlpha || c = '-'
  let r ← get
  if !(← advance) then refuse .wordBoundaryUnfinished (← since start)
  let first ← here
  if !(← next?).any isNameChar then
    set r
    return none
  let name ← collect isNameChar (← room)
  if (← next?) ≠ some '\x7d' then refuse .wordBoundaryUnclosed (← since r.place)
  let span ← since first
  pass 1
  match boundaryNames.lookup (String.ofList name) with
  | some a => return some a
  | none => refuse .wordBoundaryUnrecognized span

def isSpecial (c : Char) : Bool :=
  "\\.+*?()|[]\x7b\x7d^$#&-~".toList.contains c

def isEscapable (c : Char) : Bool :=
  isSpecial c || (c.toNat < 0x80 && !c.isAlphanum && c ≠ '<' && c ≠ '>')

def letterEscapes : List (Char × Char) := [
  ('a', '\x07'), ('f', '\x0c'), ('t', '\t'), ('n', '\n'), ('r', '\r'), ('v', '\x0b')]

def assertionEscapes : List (Char × Assertion) := [
  ('A', .startText), ('z', .endText), ('B', .noWordBoundary), ('<', .wordStart), ('>', .wordEnd)]

def classEscapes : List (Char × Bool × ClassLetter) := [
  ('d', false, .digit), ('s', false, .space), ('w', false, .word),
  ('D', true, .digit), ('S', true, .space), ('W', true, .word)]

def escape : Reading Expr := do
  let start ← here
  pass 1
  match ← next? with
  | none => refuse .escapeUnfinished (← since start)
  | some c =>
    if c.isDigit then refuse .backreference ⟨start, (← nextSpan).stop⟩
    else if c = 'x' then hexadecimal start 2
    else if c = 'u' then hexadecimal start 4
    else if c = 'U' then hexadecimal start 8
    else if c = 'p' then property start false
    else if c = 'P' then property start true
    else
      pass 1
      let span ← since start
      if isEscapable c then return .literal ⟨span, c, false⟩
      else match letterEscapes.lookup c, assertionEscapes.lookup c, classEscapes.lookup c with
        | some e, _, _ => return .literal ⟨span, e, false⟩
        | _, some a, _ => return .assertion span a
        | _, _, some (negated, name) => return .letter span negated name
        | _, _, _ =>
          if c ≠ 'b' then refuse .escapeUnrecognized span
          else if (← next?) ≠ some '\x7b' then return .assertion span .wordBoundary
          else match ← boundaryName? start with
            | some a => return .assertion (← since start) a
            | none => return .assertion span .wordBoundary

/-! ### Sets between brackets -/

structure Items where
  span : Span
  sets : List ClassSet

def Items.push (items : Items) (set : ClassSet) : Items :=
  let span := set.span?.getD items.span
  ⟨if items.sets.isEmpty then span else ⟨items.span.first, span.stop⟩, items.sets ++ [set]⟩

def Items.toSet (items : Items) : ClassSet :=
  match items.sets with
  | [] => .nothing
  | [set] => set
  | sets => .union items.span sets

def Items.join (items : Items) : Option (ClassSet × Span × SetOperator) → ClassSet × Span
  | none => (items.toSet, items.span)
  | some (left, span, operator) =>
    let span := ⟨span.first, items.span.stop⟩
    (.joined span operator left items.toSet, span)

def asciiClasses : List (String × AsciiClass) := [
  ("alnum", .alnum), ("alpha", .alpha), ("ascii", .ascii), ("blank", .blank), ("cntrl", .cntrl),
  ("digit", .digit), ("graph", .graph), ("lower", .lower), ("print", .print), ("punct", .punct),
  ("space", .space), ("upper", .upper), ("word", .word), ("xdigit", .xdigit)]

def asciiClass? : Reading (Option ClassSet) := do
  let start ← here
  match (← get).rest with
  | '[' :: ':' :: cs =>
    let negated := cs.head? = some '^'
    let cs := if negated then cs.drop 1 else cs
    let name := cs.takeWhile (· ≠ ':')
    match (cs.dropWhile (· ≠ ':')).take 2, asciiClasses.lookup (String.ofList name) with
    | [':', ']'], some kind =>
      pass (name.length + (if negated then 5 else 4))
      return some (.ascii (← since start) negated kind)
    | _, _ => return none
  | _ => return none

def leadingHyphens (start : Place) : (room : Nat) → Items → Reading Items
  | 0, items => return items
  | room + 1, items => do
    if (← next?) = some '-' then
      let items := items.push (.literal ⟨← nextSpan, '-', false⟩)
      if !(← advance) then refuse .classUnclosed (.at start)
      leadingHyphens start room items
    else return items

/-- Reads the start of a set: whether it is negated, and the first items, which may be special elsewhere. -/
def openSet : Reading (Bool × Items) := do
  let start ← here
  if !(← advance) then refuse .classUnclosed (← since start)
  let negated := (← next?) = some '^'
  if negated then
    if !(← advance) then refuse .classUnclosed (← since start)
  let items ← leadingHyphens start (← room) ⟨.at (← here), []⟩
  if items.sets.isEmpty && (← next?) = some ']' then
    let items := items.push (.literal ⟨← nextSpan, ']', false⟩)
    if !(← advance) then refuse .classUnclosed (← since start)
    return (negated, items)
  else return (negated, items)

def setPart : Reading Expr := do
  if (← next?) = some '\\' then escape
  else
    let span ← nextSpan
    let c := (← next?).getD '-'
    pass 1
    return .literal ⟨span, c, false⟩

def partItem : Expr → Reading ClassSet
  | .literal l => return .literal l
  | .letter span negated name => return .letter span negated name
  | .property span negated name => return .property span negated name
  | e => refuse .classEscapeInvalid e.span

def partLiteral : Expr → Reading Literal
  | .literal l => return l
  | e => refuse .classRangeLiteral e.span

def setItem (opening : Span) : Reading ClassSet := do
  let first ← setPart
  skip
  if ← isOver then refuse .classUnclosed opening
  let second ← secondBeyondFiller?
  if (← next?) ≠ some '-' || second = some ']' || second = some '-' then partItem first
  else
    if !(← advance) then refuse .classUnclosed opening
    let last ← setPart
    let span : Span := ⟨first.span.first, last.span.stop⟩
    let first ← partLiteral first
    let last ← partLiteral last
    if last.char < first.char then refuse .classRangeInvalid span
    else return .range span first last

def operator? : Reading (Option SetOperator) := do
  match (← get).rest with
  | '&' :: '&' :: _ => return some .intersection
  | '-' :: '-' :: _ => return some .difference
  | '~' :: '~' :: _ => return some .symmetricDifference
  | _ => return none

mutual

def bracketed : (room : Nat) → Reading (Span × Bool × ClassSet)
  | 0 => do refuse .classUnclosed (.at (← here))
  | room + 1 => do
    let start ← here
    let (negated, items) ← openSet
    let set ← setItems (← since start) room none items
    return (← since start, negated, set)

def setItems (opening : Span) :
    (room : Nat) → Option (ClassSet × Span × SetOperator) → Items → Reading ClassSet
  | 0, _, _ => refuse .classUnclosed opening
  | room + 1, left, items => do
    skip
    match ← next?, ← operator? with
    | none, _ => refuse .classUnclosed opening
    | some '[', _ =>
      match ← asciiClass? with
      | some set => setItems opening room left (items.push set)
      | none =>
        let (span, negated, set) ← bracketed room
        setItems opening room left (items.push (.bracketed span negated set))
    | some ']', _ =>
      pass 1
      return (items.join left).1
    | _, some operator =>
      let (set, span) := items.join left
      pass 2
      setItems opening room (some (set, span, operator)) ⟨.at (← here), []⟩
    | _, _ => setItems opening room left (items.push (← setItem opening))

end

/-! ### Groups and repetitions -/

def flagLetters : List (Char × Flag) := [
  ('i', .ignoreCase), ('m', .multiLine), ('s', .dotIsAny), ('U', .swapGreed), ('u', .unicode),
  ('R', .crlf), ('x', .ignoreBlanks)]

def flags : (room : Nat) → Flags → Reading Flags
  | 0, fs => return fs
  | room + 1, fs => do
    let span ← nextSpan
    match ← next? with
    | none => refuse .flagUnfinished (.at (← here))
    | some c =>
      if c = ':' || c = ')' then
        match fs.getLast? with
        | some (span, none) => refuse .flagDanglingNegation span
        | _ => return fs
      else
        let flag ← if c = '-' then pure none
          else match flagLetters.lookup c with
            | some flag => pure (some flag)
            | none => refuse .flagUnrecognized span
        match fs.find? fun f => f.2 = flag with
        | some f => fail (if flag.isNone then .flagRepeatedNegation else .flagDuplicate) span (some f.1)
        | none =>
          pass 1
          if ← isOver then refuse .flagUnfinished (.at (← here))
          flags room (fs ++ [(span, flag)])

def hasTrait (name : String) (c : Char) : Bool :=
  ((trait? name).getD []).any fun run => run.has c.toNat

def hasCategory (name : String) (c : Char) : Bool :=
  ((categoryOrGroup? name).getD []).any fun run => run.has c.toNat

def isNameChar (first : Bool) (c : Char) : Bool :=
  c = '_' || c.isAlpha || (!first && (c.isDigit || c = '.' || c = '[' || c = ']')) ||
    (0x80 ≤ c.toNat && (hasTrait "alphabetic" c || (!first && hasCategory "number" c)))

def groupName (first : Bool) : (room : Nat) → Reading (List Char)
  | 0 => return []
  | room + 1 => do
    match ← next? with
    | none => return []
    | some '>' => return []
    | some c =>
      if !isNameChar first c then refuse .groupNameInvalid (← nextSpan)
      pass 1
      return c :: (← groupName false room)

def newGroupName : Reading Unit := do
  let start ← here
  let name ← groupName true (← room)
  let span ← since start
  if ← isOver then refuse .groupNameUnfinished (.at (← here))
  pass 1
  if name.isEmpty then refuse .groupNameEmpty (.at start)
  let r ← get
  match r.names.lookup (String.ofList name) with
  | some other => fail .groupNameDuplicate span (some other)
  | none => set { r with names := r.names ++ [(String.ofList name, span)] }

inductive Opening where
  | group (captures : Bool) (flags : Flags)
  | flags (span : Span) (flags : Flags)

def openGroup (start : Span) : Reading Opening := do
  skip
  for mark in ["?=", "?!", "?<=", "?<!"] do
    if ← passText mark then refuse .lookAround (← since start.first)
  let inner ← here
  if (← passText "?P<") || (← passText "?<") then
    newGroupName
    return .group true []
  else if ← passText "?" then
    if ← isOver then refuse .groupUnclosed start
    let fs ← flags (← room) []
    let close ← next?
    pass 1
    if close = some ':' then return .group false fs
    else if fs.isEmpty then refuse .repetitionMissing (.at inner)
    else return .flags (← since start.first) fs
  else return .group true []

def repeated (es : List Expr) : Reading (List Expr × Expr) := do
  match es.getLast? with
  | none => refuse .repetitionMissing (.at (← here))
  | some (.empty _) => refuse .repetitionMissing (.at (← here))
  | some (.flags _ _) => refuse .repetitionMissing (.at (← here))
  | some e => return (es.dropLast, e)

def repetition (least : Nat) (most : Option Nat) (es : List Expr) : Reading (List Expr) := do
  let (es, e) ← repeated es
  pass 1
  if (← next?) = some '?' then pass 1
  return es ++ [.repetition ⟨e.span.first, ← here⟩ least most e]

def orRefuse {α : Type} : Except Problem α → Reading α
  | .ok x => return x
  | .error p => fail p.fault p.span p.other

def countedRepetition (es : List Expr) : Reading (List Expr) := do
  let start ← here
  let (es, e) ← repeated es
  if !(← advance) then refuse .repetitionCountUnclosed (← since start)
  let least ← decimal?
  if ← isOver then refuse .repetitionCountUnclosed (← since start)
  let (least, most) ← do
    if (← next?) = some ',' then
      if !(← advance) then refuse .repetitionCountUnclosed (← since start)
      if (← next?) = some '\x7d' then pure (← orRefuse least, none)
      else
        let least ← orRefuse least
        pure (least, some (← orRefuse (← decimal?)))
    else
      let n ← orRefuse least
      pure (n, some n)
  if (← next?) ≠ some '\x7d' then refuse .repetitionCountUnclosed (← since start)
  if (← advance) && (← next?) = some '?' then pass 1
  if most.any (· < least) then refuse .repetitionCountInvalid (← since start)
  return es ++ [.repetition ⟨e.span.first, ← here⟩ least most e]

def primitive : Reading Expr := do
  let span ← nextSpan
  match ← next? with
  | some '\\' => escape
  | some '.' => pass 1; return .dot span
  | some '^' => pass 1; return .assertion span .startLine
  | some '$' => pass 1; return .assertion span .endLine
  | some c => pass 1; return .literal ⟨span, c, false⟩
  | none => return .empty span

def concatenated (span : Span) : List Expr → Expr
  | [] => .empty span
  | [e] => e
  | es => .concat span es

mutual

def alternatives : (room : Nat) → (start : Place) → List Expr → Reading Expr
  | 0, start, _ => do return .empty (← since start)
  | room + 1, start, es => do
    let first ← here
    let items ← sequence room []
    let e := concatenated (← since first) items
    let span ← since start
    if (← next?) = some '|' then
      pass 1
      alternatives room start (es ++ [e])
    else if es.isEmpty then return e
    else return .alternation span (es ++ [e])

def sequence : (room : Nat) → List Expr → Reading (List Expr)
  | 0, es => return es
  | room + 1, es => do
    skip
    match ← next? with
    | none => return es
    | some '|' => return es
    | some ')' => return es
    | some '(' =>
      let opening ← nextSpan
      pass 1
      match ← openGroup opening with
      | .flags span fs =>
        match Flags.state? .ignoreBlanks false fs with
        | some ignores => modify fun r => { r with ignoresBlanks := ignores }
        | none => pure ()
        sequence room (es ++ [.flags span fs])
      | .group captures fs =>
        let outside := (← get).ignoresBlanks
        let inside := (Flags.state? .ignoreBlanks false fs).getD outside
        modify fun r => { r with ignoresBlanks := inside }
        let e ← alternatives room (← here) []
        if ← isOver then refuse .groupUnclosed opening
        modify fun r => { r with ignoresBlanks := outside }
        pass 1
        sequence room (es ++ [.group (← since opening.first) captures fs e])
    | some '[' =>
      let (span, negated, set) ← bracketed room
      sequence room (es ++ [.bracketed span negated set])
    | some '?' => sequence room (← repetition 0 (some 1) es)
    | some '*' => sequence room (← repetition 0 none es)
    | some '+' => sequence room (← repetition 1 none es)
    | some '\x7b' => sequence room (← countedRepetition es)
    | some _ => sequence room (es ++ [← primitive])

end

def whole : Reading Expr := do
  let e ← alternatives (2 * (← room) + 2) (← here) []
  if !(← isOver) then refuse .groupUnopened (← nextSpan)
  e.checkDepth 0
  return e

end Reading

def Expr.parse (cs : List Char) : Except Problem Expr :=
  match Reading.whole.run ⟨cs, .start, false, []⟩ with
  | .ok (e, _) => .ok e
  | .error p => .error p

end Pattern

end WalletWatch
