import WalletWatch.Pattern.Charset

/-!
# Matching

What a pattern means: a regular expression over characters, with assertions about the places between
them. A pattern is matched from all places of a text at once. `reach` takes the places where a part may
start to those where it may end, and a text matches when any place can be reached.
-/

namespace WalletWatch

namespace Pattern

/-- What a regular expression may assert of a place. `unicode` selects the word characters. -/
inductive Look where
  | startText
  | endText
  | startLine
  | endLine
  | startLineCrlf
  | endLineCrlf
  | wordBoundary (unicode : Bool)
  | noWordBoundary (unicode : Bool)
  | wordStart (unicode : Bool)
  | wordEnd (unicode : Bool)
  | wordStartHalf (unicode : Bool)
  | wordEndHalf (unicode : Bool)
  deriving DecidableEq, Repr

inductive Regex where
  | nothing
  | empty
  | one (s : Charset)
  | look (l : Look)
  | seq (r s : Regex)
  | alt (r s : Regex)
  | times (r : Regex) (least : Nat) (most : Option Nat)
  /-- What matches is kept. -/
  | capture (r : Regex)

def isWord (unicode : Bool) (c : Option Char) : Bool :=
  c.any (if unicode then Charset.ofLetter .word else Charset.ofAsciiLetter .word).has

/-- Whether an assertion holds between two characters, either of which may be missing. -/
def Look.holds (before after : Option Char) : Look → Bool
  | startText => before.isNone
  | endText => after.isNone
  | startLine => before.isNone || before = some '\n'
  | endLine => after.isNone || after = some '\n'
  | startLineCrlf => before.isNone || before = some '\n' || (before = some '\r' && after ≠ some '\n')
  | endLineCrlf => after.isNone || after = some '\r' || (after = some '\n' && before ≠ some '\r')
  | wordBoundary u => isWord u before != isWord u after
  | noWordBoundary u => isWord u before == isWord u after
  | wordStart u => !isWord u before && isWord u after
  | wordEnd u => isWord u before && !isWord u after
  | wordStartHalf u => !isWord u before
  | wordEndHalf u => !isWord u after

/-- A set of places of a text, from the start to the end. -/
abbrev Places := List Bool

namespace Places

def or (p q : Places) : Places :=
  List.zipWith (· || ·) p q

def iterate (step : Places → Places) : (n : Nat) → Places → Places
  | 0, p => p
  | n + 1, p => let q := step p; if q = p then p else iterate step n q

def upTo (step : Places → Places) (n : Nat) (p : Places) : Places :=
  iterate (fun q => q.or (step q)) n p

end Places

def fronts (cs : List Char) : List (Option Char) :=
  none :: cs.map some

def backs (cs : List Char) : List (Option Char) :=
  cs.map some ++ [none]

namespace Regex

/-- The places where a match may end that starts at one of some places. More repetitions than the text
has places add no new one. -/
def reach (cs : List Char) : Regex → Places → Places
  | nothing, p => p.map fun _ => false
  | empty, p => p
  | one s, p => false :: List.zipWith (fun here c => here && s.has c) p cs
  | look l, p => List.zipWith (· && ·) p (List.zipWith (fun b a => l.holds b a) (fronts cs) (backs cs))
  | seq r s, p => s.reach cs (r.reach cs p)
  | alt r s, p => (r.reach cs p).or (s.reach cs p)
  | times r least most, p =>
    let start := Places.iterate (r.reach cs) least p
    Places.upTo (r.reach cs) ((most.getD (least + cs.length + 1)) - least) start
  | capture r, p => r.reach cs p

def isMatch (r : Regex) (cs : List Char) : Bool :=
  (r.reach cs (true :: cs.map fun _ => true)).any id

end Regex

end Pattern

end WalletWatch
