import WalletWatch.Command
import WalletWatch.Number.Decimal
import WalletWatch.Text.Blank

/-!
# The command line

A call names a subcommand and gives it options. Words are read from left to right, and the first fault is
the one that is reported. A value is looked at when the next option is named or the words end, so a word
that is no option wins over a bad value in front of it.
-/

namespace WalletWatch

namespace CommandLine

inductive Request where
  | add (address : String) (user : UserId)
  | remove (address : String) (user : UserId)
  /-- A settings file to start from. -/
  | sample
  deriving DecidableEq

inductive Subcommand where
  | add
  | remove
  | sample
  | help
  deriving DecidableEq

namespace Subcommand

def all : List Subcommand :=
  [add, remove, sample, help]

def name : Subcommand → String
  | add => "add-wallet"
  | remove => "remove-wallet"
  | sample => "sample-config"
  | help => "help"

def summary : Subcommand → String
  | add => "Subscribe a user to a wallet"
  | remove => "Unsubscribe a user from a wallet"
  | sample => "Print a configuration file with every default filled in"
  | help => "Print this message or the help of the given subcommand(s)"

def ofName? (s : String) : Option Subcommand :=
  all.find? fun c => c.name = s

end Subcommand

inductive Slot where
  | address
  | user
  deriving DecidableEq

namespace Slot

def name : Slot → String
  | address => "address"
  | user => "user-id"

end Slot

/-- Why no request can be read. The first three are not errors of the call. -/
inductive Refusal where
  | help (topic : Option Subcommand)
  | version
  | noSubcommand
  | unknownArgument
  | unknownSubcommand
  /-- An option that takes no value was given one. -/
  | unexpectedValue
  /-- An option that takes a value was given none. -/
  | missingValue
  /-- A value is not of the option's kind. -/
  | badValue
  /-- An option was given twice. -/
  | repeated
  | missingOption
  deriving DecidableEq

inductive Word where
  /-- Everything behind it is no option. -/
  | divider
  /-- An option by its name, perhaps with a value. -/
  | long (name : String) (value : Option String)
  /-- Options by a letter each. -/
  | short (letter : Char)
  | plain (s : String)
  deriving DecidableEq

/-- Classifies a word. A lone hyphen is an ordinary word. -/
def Word.ofString (s : String) : Word :=
  match s.toList with
  | ['-', '-'] => .divider
  | '-' :: '-' :: cs => match Text.cutAt? ['='] cs with
    | some (name, value) => .long (String.ofList name) (some (String.ofList value))
    | none => .long (String.ofList cs) none
  | '-' :: c :: _ => .short c
  | _ => .plain s

structure Draft where
  address : Option String := none
  user : Option UserId := none
  /-- The option that was named last and is not settled, with its value if that has come. -/
  pending : Option (Slot × Option String) := none
  deriving DecidableEq

namespace Draft

def has (d : Draft) : Slot → Bool
  | .address => d.address.isSome
  | .user => d.user.isSome

def fill (d : Draft) (slot : Slot) (value : String) : Except Refusal Draft :=
  if d.has slot then .error .repeated
  else match slot with
    | .address => .ok { d with address := some value }
    | .user => match Decimal.word? value.toList with
      | some user => .ok { d with user := some user }
      | none => .error .badValue

def settle (d : Draft) : Except Refusal Draft :=
  match d.pending with
  | none => .ok d
  | some (_, none) => .error .missingValue
  | some (slot, some value) => { d with pending := none }.fill slot value

def step (topic : Subcommand) (slots : List Slot) (d : Draft) : Word → Except Refusal Draft
  | .divider => .ok d
  | .long name value? =>
    match slots.find? fun slot => slot.name = name with
    | some slot => do
      let d ← d.settle
      match value? with
      | some value => d.fill slot value
      | none => .ok { d with pending := some (slot, none) }
    | none =>
      if name ≠ "help" then .error .unknownArgument
      else if value?.isSome then .error .unexpectedValue
      else do
        let _ ← d.settle
        .error (.help topic)
  | .short letter =>
    if letter ≠ 'h' then .error .unknownArgument
    else do
      let _ ← d.settle
      .error (.help topic)
  | .plain s => match d.pending with
    | some (slot, none) => .ok { d with pending := some (slot, some s) }
    | _ => .error .unknownArgument

end Draft

/-- Reads the words after a subcommand. Nothing may follow a divider. -/
def readOptions (topic : Subcommand) (slots : List Slot) : List String → Draft → Except Refusal Draft
  | [], d => d.settle
  | s :: rest, d => match Word.ofString s with
    | .divider => if rest.isEmpty then d.settle else .error .unknownArgument
    | w => do readOptions topic slots rest (← d.step topic slots w)

def readBoth (topic : Subcommand) (words : List String) : Except Refusal (String × UserId) := do
  let d ← readOptions topic [.address, .user] words {}
  match d.address, d.user with
  | some address, some user => .ok (address, user)
  | _, _ => .error .missingOption

def readHelp : List String → Refusal
  | [] => .help none
  | s :: rest => match Subcommand.ofName? s with
    | none => .unknownSubcommand
    | some c => if rest.isEmpty then .help c else .unknownSubcommand

def parse : List String → Except Refusal Request
  | [] => .error .noSubcommand
  | s :: rest => match Subcommand.ofName? s with
    | some .add => (readBoth .add rest).map fun (address, user) => .add address user
    | some .remove => (readBoth .remove rest).map fun (address, user) => .remove address user
    | some .sample => (readOptions .sample [] rest {}).map fun _ => .sample
    | some .help => .error (readHelp rest)
    | none => .error <| match Word.ofString s with
      | .divider => match rest with
        | [] => .noSubcommand
        | s :: _ => if (Subcommand.ofName? s).isSome then .unknownArgument else .unknownSubcommand
      | .long name value? =>
        if name ≠ "help" && name ≠ "version" then .unknownArgument
        else if value?.isSome then .unexpectedValue
        else if name = "help" then .help none else .version
      | .short 'h' => .help none
      | .short 'V' => .version
      | .short _ => .unknownArgument
      | .plain _ => .unknownSubcommand

namespace Request

/-- The command that a request publishes at time `now`. A request for a sample publishes none. -/
def toCommand (now : Instant) : Request → Except IdentifierFault (Option Command)
  | add address user => (Address.parse address).map fun a => some ⟨.add, a, user, some now⟩
  | remove address user => (Address.parse address).map fun a => some ⟨.remove, a, user, some now⟩
  | sample => .ok none

end Request

end CommandLine

end WalletWatch
