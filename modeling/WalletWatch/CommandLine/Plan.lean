import WalletWatch.CommandLine.Request
import WalletWatch.Settings.Load
import WalletWatch.Store.Command

/-!
# What a call comes to

A call is refused, ends with a text, or publishes one command. All of it but the answers of the store is
decided here, from the words of the call, the settings file, the environment and the time.
-/

namespace WalletWatch

namespace CommandLine

/-- The exit status of a call, and what it writes. -/
structure Outcome where
  code : Nat
  output : String := ""
  errors : String := ""
  deriving DecidableEq, Repr

inductive Plan where
  | finish (o : Outcome)
  /-- A command is to be published on a channel of a store. -/
  | publish (store : StoreSettings) (channel : String) (command : Command)
  deriving DecidableEq

def version : String :=
  "0.1.0"

namespace Refusal

def overview : String :=
  "Manage wallets watched by the Plasma wallet tracker\n\nUsage: cli <COMMAND>\n\nCommands:\n" ++
    String.join (Subcommand.all.map fun c =>
      "  " ++ String.ofList (c.name.toList.rightpad 13 ' ') ++ "  " ++ c.summary ++ "\n") ++
    "\nOptions:\n  -h, --help     Print help\n  -V, --version  Print version\n"

def usage : Subcommand → String
  | .add => "Usage: cli add-wallet --address <ADDRESS> --user-id <USER_ID>"
  | .remove => "Usage: cli remove-wallet --address <ADDRESS> --user-id <USER_ID>"
  | .sample => "Usage: cli sample-config"
  | .help => "Usage: cli help [COMMAND]..."

def text : Refusal → String
  | help none => overview
  | help (some topic) => topic.summary ++ "\n\n" ++ usage topic ++ "\n"
  | version => "cli " ++ CommandLine.version ++ "\n"
  | noSubcommand => overview
  | unknownArgument => "error: unexpected argument\n"
  | unknownSubcommand => "error: unrecognized subcommand\n"
  | unexpectedValue => "error: unexpected value for an option without one\n"
  | missingValue => "error: a value is required\n"
  | badValue => "error: invalid value\n"
  | repeated => "error: an option cannot be used multiple times\n"
  | missingOption => "error: required arguments were not provided\n"

/-- How a refused call ends. Help and version are no errors. -/
def outcome (r : Refusal) : Outcome :=
  match r with
  | help _ => { code := 0, output := r.text }
  | version => { code := 0, output := r.text }
  | _ => { code := 2, errors := r.text }

end Refusal

def unsettled (e : SettingsError) : Outcome :=
  { code := 1, errors := "Failed to load configuration: " ++ e.message ++ "\n" }

def misaddressed (e : IdentifierFault) : Outcome :=
  { code := 1, errors := "Error: Invalid argument: " ++ e.message ++ "\n" }

def unpublished (e : ChannelError) : Outcome :=
  { code := 1, errors := "Error: Transport error: " ++ e.message ++ "\n" }

def published (channel : String) (c : Command) (receivers : Nat) : Outcome :=
  { code := 0
    output := "Published " ++ c.kind.text ++ " for " ++ c.address.text ++ " (user " ++
      toString c.user ++ ") to '" ++ channel ++ "'\n" ++
      (if receivers = 0 then "Warning: no tracker is subscribed to the command channel\n" else "") }

def Request.plan (settings : Settings) (now : Instant) (r : Request) : Plan :=
  match r.toCommand now with
  | .error e => .finish (misaddressed e)
  | .ok none => .finish { code := 0, output := Settings.sample ++ "\n" }
  | .ok (some command) => .publish settings.redis settings.service.commandChannel command

/-- Reads the words of a call first, and the settings only if the words can be read. -/
def plan (words : List String) (file : Settings.File) (env : Settings.Environment) (now : Instant) :
    Plan :=
  match parse words with
  | .error r => .finish r.outcome
  | .ok request => match Settings.load file env with
    | .error e => .finish (unsettled e)
    | .ok settings => request.plan settings now

/-- How the store answers a call: whether it is reached, whether it accepts the commands of `opening`,
and how many receivers a message has. -/
structure StoreAnswers where
  reached : Except IoCause Unit
  opened : Except ChannelError Unit
  receivers : Except ChannelError Nat

def Plan.carryOut (answers : StoreAnswers) : Plan → List StoreCommand × Outcome
  | .finish o => ([], o)
  | .publish store channel command =>
    match Store.connect store answers.reached with
    | .error e => ([], unpublished e)
    | .ok opening => match answers.opened with
      | .error e => (opening, unpublished e)
      | .ok () =>
        (opening ++ [.publish channel command.encode],
          match answers.receivers with
          | .error e => unpublished e
          | .ok receivers => published channel command receivers)

end CommandLine

end WalletWatch
