/-!
# Blank characters

The characters of Unicode's `White_Space` property, and trimming by them. Identifiers read from a
command line, a message or a node may be padded with any of them, so this class and not the ASCII
one decides where an identifier starts and ends.
-/

namespace WalletWatch

namespace Text

def isBlank (c : Char) : Bool :=
  c = ' ' || ('\t' ≤ c && c ≤ '\r') || c = '\u0085' || c = '\u00a0' || c = '\u1680' ||
    ('\u2000' ≤ c && c ≤ '\u200a') || c = '\u2028' || c = '\u2029' || c = '\u202f' ||
    c = '\u205f' || c = '\u3000'

def trimStart (cs : List Char) : List Char :=
  cs.dropWhile isBlank

def trim (cs : List Char) : List Char :=
  (trimStart (trimStart cs).reverse).reverse

def allBlank (cs : List Char) : Bool :=
  cs.all isBlank

def dropMark? : (mark text : List Char) → Option (List Char)
  | [], cs => some cs
  | _ :: _, [] => none
  | m :: ms, c :: cs => if m = c then dropMark? ms cs else none

def occurs (part : List Char) : List Char → Bool
  | [] => part.isEmpty
  | c :: cs => (dropMark? part (c :: cs)).isSome || occurs part cs

def cutAt? (part : List Char) : List Char → Option (List Char × List Char)
  | [] => if part.isEmpty then some ([], []) else none
  | c :: cs =>
    match dropMark? part (c :: cs) with
    | some rest => some ([], rest)
    | none => (cutAt? part cs).map fun (before, after) => (c :: before, after)

/-- The pieces of a text between the occurrences of `sep`. There is at least one. -/
def splitOn (sep : Char) : List Char → List (List Char)
  | [] => [[]]
  | c :: cs =>
    if c = sep then [] :: splitOn sep cs
    else match splitOn sep cs with
      | [] => [[c]]
      | piece :: pieces => (c :: piece) :: pieces

def utf8Length : List Char → Nat
  | [] => 0
  | c :: cs => c.utf8Size + utf8Length cs

end Text

end WalletWatch
