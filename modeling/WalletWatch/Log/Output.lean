import WalletWatch.Log.Filter

/-!
# Log output

Records come from this program, whose messages are lines of JSON, and from the libraries that it uses,
whose messages are plain. The compact style keeps a message that is JSON as it stands and puts any other
into an object of its own. The pretty style indents JSON and puts date, level and target in front of
plain messages.
-/

namespace WalletWatch

namespace Log

structure Record where
  level : Level
  target : String
  message : String
  deriving DecidableEq, Repr

inductive Style where
  | compact
  | pretty
  deriving DecidableEq, Repr

namespace Style

def ofName (s : String) : Style :=
  if s = "pretty" then pretty else compact

/-- A record as text. `date` and `seconds` are the time in the forms that the two styles need. -/
def render (style : Style) (date : String) (seconds : Int) (r : Record) : String :=
  match Json.parseValue? r.message, style with
  | some v, pretty => v.pretty ++ "\n"
  | some _, compact => r.message ++ "\n"
  | none, pretty => date ++ " [" ++ r.level.name ++ "] " ++ r.target ++ ": " ++ r.message ++ "\n"
  | none, compact => (Json.obj [("component", .str r.target), ("level", .str r.level.name),
      ("message", .str r.message), ("timestamp", .int seconds)]).compact ++ "\n"

end Style

def opening : Record :=
  ⟨.info, "plasma_wallet_tracker::logging", "Structured logging initialized"⟩

/-- The faults of a filter, one on each line. They are written at every set-up of a log, also if one is
already there and the new one is dropped. -/
def announcement (f : Filter) : String :=
  String.join (f.complaints.map (· ++ "\n"))

/-- All that a log of some records writes: the faults of the filter, and then the records that it keeps. -/
def output (f : Filter) (style : Style) (date : String) (seconds : Int) (records : List Record) :
    String :=
  let kept := (opening :: records).filter fun r => f.keeps r.level r.target r.message
  announcement f ++ String.join (kept.map (style.render date seconds))

end Log

end WalletWatch
