import WalletWatch.Json.Record
import WalletWatch.Time.Reader

/-!
# Commands

A command asks to add or to remove one subscription of a user to an address. A command of a kind that
is not known keeps the text of its kind, so that the handler can name what was ignored. `encode`
and `decode` are the form in which commands travel.
-/

namespace WalletWatch

abbrev UserId := Int

inductive CommandKind where
  | add
  | remove
  /-- A kind that is not known, by its text. -/
  | other (text : String)
  deriving DecidableEq, Repr

namespace CommandKind

def text : CommandKind → String
  | add => "add_wallet"
  | remove => "remove_wallet"
  | other s => s

def ofText (s : String) : CommandKind :=
  if s = "add_wallet" then add else if s = "remove_wallet" then remove else other s

end CommandKind

/-- A request to change the subscriptions of `address`. -/
structure Command where
  kind : CommandKind
  address : Address
  user : UserId
  /-- When the command was made, if it says so. -/
  time : Option Instant
  deriving DecidableEq

namespace Instant

def ofJson (v : Json) : Except Refusal Instant := do
  match parse? (← v.readText) with
  | some t => .ok t
  | none => .error .shape

def toJson (t : Instant) : Json :=
  .str t.text

end Instant

namespace Command

def fields : List Json.Field :=
  [Json.field "type" Json.readText, Json.field "wallet_address" Address.ofJson,
    Json.field "user_id" Json.readInt64,
    Json.trailingField "timestamp" (Json.readNullable Instant.ofJson)]

def ofJson (v : Json) : Except Refusal Command := do
  let r ← Json.readRecord fields v
  return {
    kind := .ofText (← r.get "type" Json.readText)
    address := ← r.get "wallet_address" Address.ofJson
    user := ← r.get "user_id" Json.readInt64
    time := ← r.getD "timestamp" none (Json.readNullable Instant.ofJson) }

def toJson (c : Command) : Json :=
  .obj [("type", .str c.kind.text), ("wallet_address", c.address.toJson), ("user_id", .int c.user),
    ("timestamp", (c.time.map Instant.toJson).getD .null)]

def encode (c : Command) : String :=
  c.toJson.compact

def decode (s : String) : Except Refusal Command :=
  Json.readDocument ofJson s

end Command

end WalletWatch
