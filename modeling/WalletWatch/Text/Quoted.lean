import WalletWatch.Text.Invisible

/-!
# Quotations

A text or a character as a reader of a diagnostic sees it: between quotation marks, with the marks,
the backslash and every character that cannot be seen written as an escape.
-/

namespace WalletWatch

namespace Text

def hexNumber (n : Nat) : List Char :=
  Nat.toDigits 16 n

def quoteUnit (mark c : Char) : List Char :=
  if c = '\x00' then ['\\', '0']
  else if c = '\t' then ['\\', 't']
  else if c = '\r' then ['\\', 'r']
  else if c = '\n' then ['\\', 'n']
  else if c = '\\' || c = mark then ['\\', c]
  else if isInvisible c then ['\\', 'u', '\x7b'] ++ hexNumber c.toNat ++ ['\x7d']
  else [c]

def quote (s : String) : String :=
  String.ofList (['"'] ++ s.toList.flatMap (quoteUnit '"') ++ ['"'])

def quoteChar (c : Char) : String :=
  String.ofList (['\''] ++ quoteUnit '\'' c ++ ['\''])

end Text

end WalletWatch
