import WalletWatch.Pattern.Fault

/-!
# Patterns as they are written

A pattern as a tree that keeps where each part stands. What a part means depends on the modes that are
set in front of it, so this tree says nothing about meaning yet.
-/

namespace WalletWatch

namespace Pattern

inductive ClassLetter where
  | digit
  | space
  | word
  deriving DecidableEq, Repr

inductive AsciiClass where
  | alnum
  | alpha
  | ascii
  | blank
  | cntrl
  | digit
  | graph
  | lower
  | print
  | punct
  | space
  | upper
  | word
  | xdigit
  deriving DecidableEq, Repr

inductive ClassName where
  | letter (c : Char)
  | name (s : String)
  | value (property value : String)
  deriving DecidableEq, Repr

/-- A single character, as it stands or as an escape. `isByte` marks an escape of two hexadecimal digits. -/
structure Literal where
  span : Span
  char : Char
  isByte : Bool
  deriving DecidableEq, Repr

inductive SetOperator where
  | intersection
  | difference
  | symmetricDifference
  deriving DecidableEq, Repr

inductive ClassSet where
  | nothing
  | literal (l : Literal)
  | range (span : Span) (first last : Literal)
  | ascii (span : Span) (negated : Bool) (name : AsciiClass)
  | letter (span : Span) (negated : Bool) (name : ClassLetter)
  | property (span : Span) (negated : Bool) (name : ClassName)
  | bracketed (span : Span) (negated : Bool) (set : ClassSet)
  | union (span : Span) (items : List ClassSet)
  | joined (span : Span) (operator : SetOperator) (left right : ClassSet)

def ClassSet.span? : ClassSet → Option Span
  | nothing => none
  | literal l => some l.span
  | range span _ _ => some span
  | ascii span _ _ => some span
  | letter span _ _ => some span
  | property span _ _ => some span
  | bracketed span _ _ => some span
  | union span _ => some span
  | joined span _ _ _ => some span

inductive Assertion where
  | startLine
  | endLine
  | startText
  | endText
  | wordBoundary
  | noWordBoundary
  | wordStart
  | wordEnd
  | wordStartHalf
  | wordEndHalf
  deriving DecidableEq, Repr

inductive Flag where
  | ignoreCase
  | multiLine
  | dotIsAny
  | swapGreed
  | unicode
  | crlf
  | ignoreBlanks
  deriving DecidableEq, Repr

/-- The flags before a colon or a parenthesis in order. `none` is the sign after which flags are cleared. -/
abbrev Flags := List (Span × Option Flag)

def Flags.state? (flag : Flag) : (clear : Bool) → Flags → Option Bool
  | _, [] => none
  | _, (_, none) :: fs => state? flag true fs
  | clear, (_, some f) :: fs => if f = flag then some !clear else state? flag clear fs

/-- An expression. A capturing group keeps the text that it matches. -/
inductive Expr where
  | empty (span : Span)
  | flags (span : Span) (flags : Flags)
  | literal (l : Literal)
  | dot (span : Span)
  | assertion (span : Span) (a : Assertion)
  | letter (span : Span) (negated : Bool) (name : ClassLetter)
  | property (span : Span) (negated : Bool) (name : ClassName)
  | bracketed (span : Span) (negated : Bool) (set : ClassSet)
  | repetition (span : Span) (least : Nat) (most : Option Nat) (e : Expr)
  | group (span : Span) (captures : Bool) (flags : Flags) (e : Expr)
  | concat (span : Span) (es : List Expr)
  | alternation (span : Span) (es : List Expr)

def Expr.span : Expr → Span
  | empty span => span
  | flags span _ => span
  | literal l => l.span
  | dot span => span
  | assertion span _ => span
  | letter span _ _ => span
  | property span _ _ => span
  | bracketed span _ _ => span
  | repetition span _ _ _ => span
  | group span _ _ _ => span
  | concat span _ => span
  | alternation span _ => span

def maxNesting : Nat :=
  250

def descend (span : Span) (depth : Nat) : Except Problem Nat :=
  if depth < maxNesting then .ok (depth + 1)
  else .error ⟨.nestedTooDeep maxNesting, span, none⟩

mutual

def ClassSet.checkDepth (depth : Nat) : ClassSet → Except Problem Unit
  | .bracketed span _ set => do set.checkDepth (← descend span depth)
  | .union span items => do itemsDepth (← descend span depth) items
  | .joined span _ left right => do
    let depth ← descend span depth
    left.checkDepth depth
    right.checkDepth depth
  | _ => .ok ()

def itemsDepth (depth : Nat) : List ClassSet → Except Problem Unit
  | [] => .ok ()
  | item :: items => do
    item.checkDepth depth
    itemsDepth depth items

end

mutual

def Expr.checkDepth (depth : Nat) : Expr → Except Problem Unit
  | .bracketed span _ set => do set.checkDepth (← descend span depth)
  | .repetition span _ _ e => do e.checkDepth (← descend span depth)
  | .group span _ _ e => do e.checkDepth (← descend span depth)
  | .concat span es => do partsDepth (← descend span depth) es
  | .alternation span es => do partsDepth (← descend span depth) es
  | _ => .ok ()

def partsDepth (depth : Nat) : List Expr → Except Problem Unit
  | [] => .ok ()
  | e :: es => do
    e.checkDepth depth
    partsDepth depth es

end

end Pattern

end WalletWatch
