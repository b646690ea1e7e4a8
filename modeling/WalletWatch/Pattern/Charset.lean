import WalletWatch.Pattern.Basic
import WalletWatch.Pattern.Script
import WalletWatch.Pattern.Trait
import WalletWatch.Text.Blank
import WalletWatch.Text.Lower

/-!
# Sets of characters

The sets that classes in patterns stand for, built from runs of code points by the operations on sets
and by adding the characters that differ in case only.
-/

namespace WalletWatch

namespace Pattern

inductive Charset where
  | only (c : Char)
  | runs (rs : List Text.Run)
  | union (s t : Charset)
  | intersection (s t : Charset)
  | difference (s t : Charset)
  | complement (s : Charset)
  /-- All characters that differ from one of a set in case only. -/
  | anyCase (s : Charset)
  /-- The same, where letters of ASCII alone have a case. -/
  | anyAsciiCase (s : Charset)

namespace Charset

def empty : Charset :=
  runs []

def between (first last : Char) : Charset :=
  runs [.between first.toNat last.toNat]

def otherCase (c : Char) : Char :=
  if c.isUpper then c.toLower else c.toUpper

def has : Charset → Char → Bool
  | only d, c => c = d
  | runs rs, c => rs.any fun r => r.has c.toNat
  | union s t, c => s.has c || t.has c
  | intersection s t, c => s.has c && t.has c
  | difference s t, c => s.has c && !t.has c
  | complement s, c => !s.has c
  | anyCase s, c => (Text.variants c).any s.has
  | anyAsciiCase s, c => s.has c || s.has (otherCase c)

def symmetricDifference (s t : Charset) : Charset :=
  union (difference s t) (difference t s)

/-- Whether a set is ASCII, judged by the characters from 128 to 255. -/
def isAscii (s : Charset) : Bool :=
  !(List.range 128).any fun n => s.has (Char.ofNat (128 + n))

def ofAsciiLetter : ClassLetter → Charset
  | .digit => between '0' '9'
  | .space => union (between '\t' '\r') (only ' ')
  | .word => runs [.between 48 57, .between 65 90, .between 95 95, .between 97 122]

/-- The word characters of Unicode: letters, marks, digits and connectors. -/
def wordRuns : List Text.Run :=
  (trait? "alphabetic").getD [] ++ (categoryOrGroup? "m").getD [] ++ (category? "nd").getD [] ++
    (category? "pc").getD [] ++ (trait? "joincontrol").getD []

def ofLetter : ClassLetter → Charset
  | .digit => runs ((category? "nd").getD [])
  | .space => runs ((trait? "whitespace").getD [])
  | .word => runs wordRuns

def ofAscii : AsciiClass → Charset
  | .alnum => runs [.between 48 57, .between 65 90, .between 97 122]
  | .alpha => runs [.between 65 90, .between 97 122]
  | .ascii => runs [.between 0 127]
  | .blank => runs [.between 9 9, .between 32 32]
  | .cntrl => runs [.between 0 31, .between 127 127]
  | .digit => between '0' '9'
  | .graph => between '!' '~'
  | .lower => between 'a' 'z'
  | .print => between ' ' '~'
  | .punct => runs [.between 33 47, .between 58 64, .between 91 96, .between 123 126]
  | .space => runs [.between 9 13, .between 32 32]
  | .upper => between 'A' 'Z'
  | .word => ofAsciiLetter .word
  | .xdigit => runs [.between 48 57, .between 65 70, .between 97 102]

/-- A name as the tables have it: ASCII in lower case, without blanks, hyphens, underscores and a leading
`is`. -/
def plainName (s : String) : String :=
  let cs := s.toList.map Char.toLower
  let isLead := cs.take 2 = ['i', 's']
  let body := (if isLead then cs.drop 2 else cs).filter fun c =>
    c ≠ ' ' && c ≠ '_' && c ≠ '-' && c.toNat < 0x80
  if isLead && body = ['c'] then "isc" else String.ofList body

def idStart : Charset :=
  difference
    (runs ((categoryOrGroup? "l").getD [] ++ (category? "nl").getD [] ++
      Text.runs "1885-1886 2118 212e 309b-309c"))
    (runs ((trait? "patternsyntax").getD [] ++ (trait? "patternwhitespace").getD []))

def idContinue : Charset :=
  difference
    (union idStart (runs ((category? "mn").getD [] ++ (category? "mc").getD [] ++
      (category? "nd").getD [] ++ (category? "pc").getD [] ++
      Text.runs "b7 387 1369-1371 19da 200c-200d 30fb ff65")))
    (runs ((trait? "patternsyntax").getD [] ++ (trait? "patternwhitespace").getD []))

def graphemeBase : Charset :=
  complement (runs (["cc", "cf", "co", "cn", "zl", "zp"].flatMap (fun name => (category? name).getD []) ++
    (trait? "graphemeextend").getD []))

def unsteadyStart : List Text.Run :=
  Text.runs "37a e33 eb3 309b-309c fc5e-fc63 fdfa-fdfb fe70-fe7e/2 ff9e-ff9f"

def unsteady : List Text.Run :=
  Text.runs "37a 309b-309c fc5e-fc63 fdfa-fdfb fe70-fe7e/2"

def derivedTrait? (name : String) : Option Charset :=
  if ["idstart", "ids"].contains name then some idStart
  else if ["idcontinue", "idc"].contains name then some idContinue
  else if ["xidstart", "xids"].contains name then some (difference idStart (runs unsteadyStart))
  else if ["xidcontinue", "xidc"].contains name then some (difference idContinue (runs unsteady))
  else if ["graphemebase", "grbase"].contains name then some graphemeBase
  else none

/-- The characters of a category or a group of categories by its plain name. `assigned` is the complement
of `cn`. -/
def ofCategory? (name : String) : Option Charset :=
  if name = "ascii" then some (between '\x00' '\x7f')
  else if name = "assigned" then (category? "cn").map fun rs => complement (runs rs)
  else (categoryOrGroup? name).map runs

def valueOf? (property : String) : Option (String → Option Charset) :=
  if ["gc", "generalcategory"].contains property then some ofCategory?
  else if ["sc", "script"].contains property then some fun name => (script? name).map runs
  else if ["scx", "scriptextensions"].contains property then
    some fun name => (scriptExtension? name).map runs
  else if (trait? property).isSome || (derivedTrait? property).isSome then some fun _ => none
  else none

/-- The characters of a class that is named by one word: a trait, a category or a script. -/
def ofWord (word : String) : Except Fault Charset :=
  let name := plainName word
  let first :=
    if name = "cf" || name = "sc" || name = "lc" then none
    else ((trait? name).map runs).or (derivedTrait? name)
  match (first.or (ofCategory? name)).or ((script? name).map runs) with
  | some s => .ok s
  | none =>
    .error (if name = "cs" || name = "surrogate" then .propertyValueNotFound else .propertyNotFound)

def ofName : ClassName → Except Fault Charset
  | .letter c => ofWord (String.singleton c)
  | .name s => ofWord s
  | .value property value =>
    match valueOf? (plainName property) with
    | none => .error .propertyNotFound
    | some values => match values (plainName value) with
      | some s => .ok s
      | none => .error .propertyValueNotFound

end Charset

end Pattern

end WalletWatch
