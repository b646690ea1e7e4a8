import WalletWatch.Toml.Basic
import WalletWatch.Hex

/-!
# Writing TOML

Texts stand in quotation marks. What may not stand there as it is, is written with a backslash.
-/

namespace WalletWatch

namespace Toml

def escapeChar (c : Char) : List Char :=
  if c = '"' then ['\\', '"']
  else if c = '\\' then ['\\', '\\']
  else if c = '\n' then ['\\', 'n']
  else if c = '\r' then ['\\', 'r']
  else if c = '\t' then ['\\', 't']
  else if c < ' ' || c = '\x7f' then '\\' :: 'u' :: Hex.digits 4 c.toNat
  else [c]

def printText (s : String) : List Char :=
  '"' :: s.toList.flatMap escapeChar ++ ['"']

/-- A line that gives a key a value, if the value fits on one line. -/
def printLine? (key : String) : Toml → Option (List Char)
  | string s => some (key.toList ++ " = ".toList ++ printText s ++ ['\n'])
  | integer n => some (key.toList ++ " = ".toList ++ (toString n).toList ++ ['\n'])
  | boolean b => some (key.toList ++ " = ".toList ++ (toString b).toList ++ ['\n'])
  | _ => none

def printSections (sections : List (String × Entries)) : String :=
  let one (s : String × Entries) : List Char :=
    '[' :: s.1.toList ++ [']', '\n'] ++ s.2.flatMap fun e => (printLine? e.1 e.2).getD []
  String.ofList (['\n'].intercalate (sections.map one))

end Toml

end WalletWatch
