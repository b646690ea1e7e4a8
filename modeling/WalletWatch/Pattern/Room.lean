import WalletWatch.Pattern.Regex

/-!
# The room that a pattern takes

A pattern is matched by an automaton over bytes in which every repetition is written out. A state takes
32 bytes, each way on from it that depends on the next byte takes 8, and each other way on takes 4.

A set of characters of several bytes is written out as sequences of runs of bytes. Read from the end of a
text, sequences that start alike share the states of their start, and only those. `Charset.room` and
`Regex.room` count what that makes.
-/

namespace WalletWatch

namespace Pattern

namespace Charset

def runEdges (r : Text.Run) : List Nat :=
  if r.step = 1 then [r.first, r.last + 1]
  else (List.range ((r.last - r.first) / r.step + 1)).flatMap fun k =>
    [r.first + k * r.step, r.first + k * r.step + 1]

def edges : Charset → List Nat
  | only c => [c.toNat, c.toNat + 1]
  | runs rs => rs.flatMap runEdges
  | union s t => s.edges ++ t.edges
  | intersection s t => s.edges ++ t.edges
  | difference s t => s.edges ++ t.edges
  | complement s => s.edges
  | anyCase (only c) => (Text.variants c).flatMap fun d => [d.toNat, d.toNat + 1]
  | anyCase s => s.edges ++ (Text.casePairs.filter fun p => (anyCase s).has p.1).flatMap fun p =>
      [p.1.toNat, p.1.toNat + 1, p.2.toNat, p.2.toNat + 1]
  | anyAsciiCase s => s.edges ++ (List.range 123).drop 65

/-- Joins adjacent runs of code points. The second number of a run is exclusive. -/
def joinRuns : List (Nat × Nat) → List (Nat × Nat)
  | [] => []
  | (a, b) :: rest => match joinRuns rest with
    | (c, d) :: more => if b = c then (a, d) :: more else (a, b) :: (c, d) :: more
    | [] => [(a, b)]

/-- The runs of code points of a set. The second number of a run is exclusive. -/
def codeRuns (s : Charset) : List (Nat × Nat) :=
  let marks := (0 :: 0xD800 :: 0xE000 :: 0x110000 :: s.edges).mergeSort fun a b => a ≤ b
  joinRuns ((marks.zip marks.tail).filter fun (a, b) =>
    a < b && a ≠ 0xD800 && s.has (Char.ofNat a))

/-- Where to cut the code points from `a` to `b`, so that each part is one sequence of byte runs: at a
change of the number of bytes, and where a byte overflows. -/
def cut? (a b : Nat) : Option Nat :=
  if b < 0x80 then none
  else ([0x80, 0x800, 0x10000].find? fun m => a < m && m ≤ b).or <|
    [0x40, 0x1000, 0x40000].findSome? fun m =>
      if a / m = b / m then none
      else if a % m ≠ 0 then some ((a / m + 1) * m)
      else if b % m ≠ m - 1 then some (b / m * m)
      else none

/-- The sequences of byte runs of the code points from `a` to `b`, both included. -/
def sequences : (fuel : Nat) → (a b : Nat) → List (List (UInt8 × UInt8))
  | 0, _, _ => []
  | fuel + 1, a, b => match cut? a b with
    | some m => sequences fuel a (m - 1) ++ sequences fuel m b
    | none => [(String.utf8EncodeChar (Char.ofNat a)).zip (String.utf8EncodeChar (Char.ofNat b))]

def sharedStart : List (UInt8 × UInt8) → List (UInt8 × UInt8) → Nat
  | p :: ps, q :: qs => if p = q then sharedStart ps qs + 1 else 0
  | _, _ => 0

def states (last : List (UInt8 × UInt8)) : List (List (UInt8 × UInt8)) → Nat
  | [] => 0
  | next :: rest => next.length - sharedStart last next + states next rest

/-- The room of a set. A single character is a literal, and a set of single bytes is one state. -/
def room (s : Charset) : Nat :=
  match s.codeRuns with
  | [(a, b)] => if b = a + 1 then 32 * (Char.ofNat a).utf8Size else roomOf [(a, b)]
  | rs => roomOf rs
where
  /-- The room that a set of several characters takes. -/
  roomOf (rs : List (Nat × Nat)) : Nat :=
    if rs.all fun r => r.2 ≤ 0x80 then 64 + 8 * rs.length
    else
      let all := rs.flatMap fun (a, b) => sequences 24 a (b - 1)
      64 + 4 * all.length + 32 * states [] all

end Charset

namespace Regex

def charset? : Regex → Option Charset
  | one s => some s
  | alt r nothing => r.charset?
  | alt r s => do return .union (← r.charset?) (← s.charset?)
  | _ => none

def isEmpty : Regex → Bool
  | nothing => false
  | empty => true
  | one _ => false
  | look _ => true
  | seq r s => r.isEmpty && s.isEmpty
  | alt r nothing => r.isEmpty
  | alt r s => r.isEmpty && s.isEmpty
  | times r _ most => r.isEmpty || most = some 0
  | capture r => r.isEmpty

def isOfBytes : Regex → Bool
  | one s => s.codeRuns.all fun r => r.2 ≤ 0x80
  | seq r s => r.isOfBytes && s.isOfBytes
  | alt r s => r.isOfBytes && s.isOfBytes
  | times r _ _ => r.isOfBytes
  | capture r => r.isOfBytes
  | _ => true

/-- An estimate of the room of an expression. Alternatives of single characters are a set. The larger one
of the forward and the backward automaton counts: only the forward one has captures, and sets of long
characters are larger in the backward one. -/
def room : Regex → Nat
  | nothing => 64
  | empty => 0
  | one s => s.room
  | look _ => 32
  | seq r s => r.room + s.room
  | alt r s => match (alt r s).charset? with
    | some set => set.room
    | none => 4 + max 32 r.room + s.room
  | times r least most =>
    if r.isEmpty then r.room
    else match most with
      | some n =>
        if n = least then n * r.room else n * r.room + (n - least) * 40 + 32
      | none => max least 1 * r.room + 40
  | capture r => if r.isOfBytes then r.room + 64 else r.room

end Regex

end Pattern

end WalletWatch
