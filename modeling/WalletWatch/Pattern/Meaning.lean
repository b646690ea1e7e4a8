import WalletWatch.Pattern.Parser
import WalletWatch.Pattern.Room

/-!
# The meaning of patterns

What each part of a pattern matches depends on the modes that hold where it stands. Flags hold up to the
end of their group. A pattern may match whole characters only, so what could match part of one is a
fault. `Pattern.compile` reads a pattern and says what it matches, or what is wrong with it.
-/

namespace WalletWatch

namespace Pattern

structure Modes where
  ignoreCase : Bool
  multiLine : Bool
  dotIsAny : Bool
  unicode : Bool
  crlf : Bool
  deriving DecidableEq, Repr

namespace Modes

def start : Modes :=
  ⟨false, false, false, true, false⟩

def apply (m : Modes) (fs : Flags) : Modes :=
  let state (flag : Flag) (old : Bool) := (Flags.state? flag false fs).getD old
  { ignoreCase := state .ignoreCase m.ignoreCase
    multiLine := state .multiLine m.multiLine
    dotIsAny := state .dotIsAny m.dotIsAny
    unicode := state .unicode m.unicode
    crlf := state .crlf m.crlf }

def widen (m : Modes) (s : Charset) : Charset :=
  if !m.ignoreCase then s else if m.unicode then .anyCase s else .anyAsciiCase s

/-- A set or its complement, which has to be ASCII if Unicode is off. -/
def finish (m : Modes) (span : Span) (negated : Bool) (s : Charset) : Except Problem Charset :=
  let s := if negated then .complement s else s
  if m.unicode || s.isAscii then .ok s else .error ⟨.invalidUtf8, span, none⟩

def character (m : Modes) (l : Literal) : Except Problem Char :=
  if !m.unicode && l.isByte && 0x80 ≤ l.char.toNat then .error ⟨.invalidUtf8, l.span, none⟩
  else .ok l.char

def setCharacter (m : Modes) (l : Literal) : Except Problem Char := do
  let c ← m.character l
  if !m.unicode && 0x80 ≤ c.toNat then .error ⟨.unicodeNotAllowed, l.span, none⟩ else .ok c

def ofLetter (m : Modes) (span : Span) (negated : Bool) (name : ClassLetter) :
    Except Problem Charset :=
  m.finish span negated (if m.unicode then .ofLetter name else .ofAsciiLetter name)

def ofName (m : Modes) (span : Span) (negated : Bool) (name : ClassName) : Except Problem Charset :=
  if !m.unicode then .error ⟨.unicodeNotAllowed, span, none⟩
  else match Charset.ofName name with
    | .ok s => m.finish span negated (m.widen s)
    | .error fault => .error ⟨fault, span, none⟩

mutual

def ofSet (m : Modes) : ClassSet → Except Problem Charset
  | .nothing => .ok .empty
  | .literal l => do return .only (← m.setCharacter l)
  | .range _ first last => do
    let first ← m.setCharacter first
    let last ← m.setCharacter last
    return .between first last
  | .ascii span negated name => m.finish span negated (m.widen (.ofAscii name))
  | .letter span negated name => m.ofLetter span negated name
  | .property span negated name => m.ofName span negated name
  | .bracketed span negated set => do m.finish span negated (m.widen (← m.ofSet set))
  | .union _ items => m.ofItems items
  | .joined _ operator left right => do
    let left := m.widen (← m.ofSet left)
    let right := m.widen (← m.ofSet right)
    return match operator with
      | .intersection => .intersection left right
      | .difference => .difference left right
      | .symmetricDifference => .symmetricDifference left right

def ofItems (m : Modes) : List ClassSet → Except Problem Charset
  | [] => .ok .empty
  | item :: items => do
    let s ← m.ofSet item
    let t ← m.ofItems items
    return .union s t

end

def dot (m : Modes) (span : Span) : Except Problem Charset :=
  if !m.unicode then .error ⟨.invalidUtf8, span, none⟩
  else if m.dotIsAny then .ok (.complement .empty)
  else if m.crlf then .ok (.complement (.union (.only '\n') (.only '\r')))
  else .ok (.complement (.only '\n'))

def look (m : Modes) : Assertion → Look
  | .startLine => if !m.multiLine then .startText else if m.crlf then .startLineCrlf else .startLine
  | .endLine => if !m.multiLine then .endText else if m.crlf then .endLineCrlf else .endLine
  | .startText => .startText
  | .endText => .endText
  | .wordBoundary => .wordBoundary m.unicode
  | .noWordBoundary => .noWordBoundary m.unicode
  | .wordStart => .wordStart m.unicode
  | .wordEnd => .wordEnd m.unicode
  | .wordStartHalf => .wordStartHalf m.unicode
  | .wordEndHalf => .wordEndHalf m.unicode

mutual

def meaning (m : Modes) : Expr → Except Problem (Regex × Modes)
  | .empty _ => .ok (.empty, m)
  | .flags _ fs => .ok (.empty, m.apply fs)
  | .literal l => do
    let c ← m.character l
    let hasCase := 1 < (Text.variants c).eraseDups.length
    return (.one (if m.ignoreCase && hasCase then m.widen (.only c) else .only c), m)
  | .dot span => do return (.one (← m.dot span), m)
  | .assertion _ a => .ok (.look (m.look a), m)
  | .letter span negated name => do return (.one (← m.ofLetter span negated name), m)
  | .property span negated name => do return (.one (← m.ofName span negated name), m)
  | .bracketed span negated set => do
    let s ← m.ofSet set
    return (.one (← m.finish span negated (m.widen s)), m)
  | .repetition _ least most e => do
    let (r, m) ← m.meaning e
    return (.times r least most, m)
  | .group _ captures fs e => do
    let (r, _) ← (m.apply fs).meaning e
    return (if captures then .capture r else r, m)
  | .concat _ es => m.inTurn es
  | .alternation _ es => m.either es

def inTurn (m : Modes) : List Expr → Except Problem (Regex × Modes)
  | [] => .ok (.empty, m)
  | e :: es => do
    let (r, m) ← m.meaning e
    let (s, m) ← m.inTurn es
    return (.seq r s, m)

def either (m : Modes) : List Expr → Except Problem (Regex × Modes)
  | [] => .ok (.nothing, m)
  | e :: es => do
    let (r, m) ← m.meaning e
    let (s, m) ← m.either es
    return (.alt r s, m)

end

end Modes

def roomLimit : Nat :=
  10485760

def compile (pattern : String) : Except String Regex :=
  let cs := pattern.toList
  match (do Modes.start.meaning (← Expr.parse cs) : Except Problem (Regex × Modes)) with
  | .error p => .error (p.render cs)
  | .ok (r, _) =>
    if roomLimit < r.room then
      .error ("Compiled regex exceeds size limit of " ++ toString roomLimit ++ " bytes.")
    else .ok r

end Pattern

end WalletWatch
