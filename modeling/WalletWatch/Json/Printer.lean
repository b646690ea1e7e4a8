import WalletWatch.Json.Basic

/-!
# Writing JSON

The compact form has no blanks. The indented form puts every item and member on a line of its own,
two blanks deeper than its container, and leaves empty containers closed.
-/

namespace WalletWatch

namespace Json

def escapeDigit (n : Nat) : Char :=
  if n < 10 then Char.ofNat (48 + n) else Char.ofNat (87 + n)

/-- A character within a string. Only the quotation mark, the backslash and the characters below the
space are escaped. -/
def escapeChar (c : Char) : List Char :=
  if c = '"' then ['\\', '"']
  else if c = '\\' then ['\\', '\\']
  else if c = '\x08' then ['\\', 'b']
  else if c = '\x0c' then ['\\', 'f']
  else if c = '\n' then ['\\', 'n']
  else if c = '\r' then ['\\', 'r']
  else if c = '\t' then ['\\', 't']
  else if c.toNat < 0x20 then
    ['\\', 'u', '0', '0', escapeDigit (c.toNat / 16), escapeDigit (c.toNat % 16)]
  else [c]

def printString (s : String) : List Char :=
  '"' :: s.toList.flatMap escapeChar ++ ['"']

mutual

def print : Json → List Char
  | null => ['n', 'u', 'l', 'l']
  | bool true => ['t', 'r', 'u', 'e']
  | bool false => ['f', 'a', 'l', 's', 'e']
  | number literal => literal.toList
  | string text => printString (text.getD "")
  | array items => '[' :: printItems items ++ [']']
  | object members => '\x7b' :: printMembers members ++ ['\x7d']
  | broken => []

def printItems : List Json → List Char
  | [] => []
  | [item] => print item
  | item :: items => print item ++ ',' :: printItems items

def printMembers : List (Option String × Json) → List Char
  | [] => []
  | [(key, value)] => printString (key.getD "") ++ ':' :: print value
  | (key, value) :: members =>
    printString (key.getD "") ++ ':' :: print value ++ ',' :: printMembers members

end

def newLine (depth : Nat) : List Char :=
  '\n' :: List.replicate (2 * depth) ' '

mutual

def printIndented (depth : Nat) : Json → List Char
  | array [] => ['[', ']']
  | array (item :: items) =>
    '[' :: indentItems (depth + 1) (item :: items) ++ newLine depth ++ [']']
  | object [] => ['\x7b', '\x7d']
  | object (member :: members) =>
    '\x7b' :: indentMembers (depth + 1) (member :: members) ++ newLine depth ++ ['\x7d']
  | null => ['n', 'u', 'l', 'l']
  | bool true => ['t', 'r', 'u', 'e']
  | bool false => ['f', 'a', 'l', 's', 'e']
  | number literal => literal.toList
  | string text => printString (text.getD "")
  | broken => []

def indentItems (depth : Nat) : List Json → List Char
  | [] => []
  | [item] => newLine depth ++ printIndented depth item
  | item :: items => newLine depth ++ printIndented depth item ++ ',' :: indentItems depth items

def indentMembers (depth : Nat) : List (Option String × Json) → List Char
  | [] => []
  | [(key, value)] =>
    newLine depth ++ printString (key.getD "") ++ ':' :: ' ' :: printIndented depth value
  | (key, value) :: members =>
    newLine depth ++ printString (key.getD "") ++ ':' :: ' ' :: printIndented depth value ++
      ',' :: indentMembers depth members

end

def compact (v : Json) : String :=
  String.ofList v.print

def pretty (v : Json) : String :=
  String.ofList (v.printIndented 0)

end Json

end WalletWatch
