import WalletWatch.Chain.Basic
import WalletWatch.Json.Record
import WalletWatch.Node.Quantity
import WalletWatch.Number.Width

/-!
# Messages of a header subscription

The subscription is asked for by one message and confirmed by another, which carries its identifier.
From then on each new header comes as a notification that names the subscription. Everything else that
arrives is passed over.
-/

namespace WalletWatch

namespace Headers

inductive Message where
  | text (s : String)
  /-- A frame without a text: binary data, a ping or a pong. -/
  | other
  /-- The other side closes the socket; `frame` says why. -/
  | close (frame : String)
  /-- The socket fails. -/
  | failed (why : String)
  /-- The socket is at its end. -/
  | ended
  deriving DecidableEq, Repr

def subscribeRequest : String :=
  (Json.obj [("id", .nat 1), ("jsonrpc", .str "2.0"), ("method", .str "eth_subscribe"),
    ("params", .array [.str "newHeads"])]).compact

def unsubscribeRequest (id : String) : String :=
  (Json.obj [("id", .nat 2), ("jsonrpc", .str "2.0"), ("method", .str "eth_unsubscribe"),
    ("params", .array [.str id])]).compact

def confirmationPatience : Nat :=
  10

def nat64? : Json → Option Nat
  | .number literal => match Json.natOfLiteral? literal with
    | some n => if Width.fits64 n then some n else none
    | none => none
  | _ => none

def int64? : Json → Option Int
  | .number literal => match Json.intOfLiteral? literal with
    | some n => if Width.fitsSigned64 n then some n else none
    | none => none
  | _ => none

def textMember? (v : Json) (key : String) : Option String := do
  (← v.member? key).text?

/-- The failure for an error in the confirmation. The code is cut to its low 32 bits. -/
def rejection (error : Json) : NodeError :=
  let code := ((error.member? "code").bind int64?).getD 0
  .method (Width.signed32 code) ((textMember? error "message").getD "eth_subscribe rejected")

/-- The meaning of a text that arrives before the confirmation: the identifier of the subscription or a
failure, or `none` if it answers another message. -/
def confirmation? (s : String) : Option (Except NodeError String) :=
  match Json.parseValue? s with
  | none => some (.error (.json "not JSON"))
  | some v =>
    if (v.member? "id").bind nat64? ≠ some 1 then none
    else match v.member? "error" with
      | some e => some (.error (rejection e))
      | none => match textMember? v "result" with
        | some id => some (.ok id)
        | none => some (.error (.invalidResponse "eth_subscribe returned no subscription id"))

/-- Waits for the confirmation among some messages, and gives the identifier and the remaining messages,
or a failure, or `none` if the messages do not decide. -/
def confirm : List Message → Option (Except NodeError (String × List Message))
  | [] => none
  | .text s :: ms => match confirmation? s with
    | none => confirm ms
    | some (.ok id) => some (.ok (id, ms))
    | some (.error e) => some (.error e)
  | .other :: ms => confirm ms
  | .close frame :: _ =>
    some (.error (.subscriptionClosed ("closed before confirmation: " ++ frame)))
  | .failed why :: _ => some (.error (.webSocket why))
  | .ended :: _ => some (.error (.subscriptionClosed "stream ended before confirmation"))

/-- Subscribes over a socket that cannot be opened, or that brings some messages and then nothing until
`confirmationPatience` is over. -/
def subscribe (url : String) (socket : Except String (List Message)) :
    Except NodeError (String × List Message) :=
  match socket with
  | .error why => .error (.webSocket ("connect to " ++ url ++ " failed: " ++ why))
  | .ok ms => (confirm ms).getD (.error (.timeout confirmationPatience))

def headerOf (result : Json) : Except NodeError Header := do
  let number ← match textMember? result "number" with
    | some s => .ok s
    | none => .error (.invalidResponse "header without number")
  let hash ← match textMember? result "hash" with
    | some s => .ok s
    | none => .error (.invalidResponse "header without hash")
  return ⟨← Quantity.parse64 number, hash⟩

/-- The header in a text, or `none` if the text is no notification of the subscription `id`. -/
def notification? (id s : String) : Option (Except NodeError Header) := do
  let v ← Json.parseValue? s
  if textMember? v "method" ≠ some "eth_subscription" then none
  else
    let params ← v.member? "params"
    if textMember? params "subscription" ≠ some id then none
    else match params.member? "result" with
      | some result => some (headerOf result)
      | none => some (.error (.invalidResponse "notification without result"))

def failure? : Message → Option NodeError
  | .close frame => some (.subscriptionClosed ("server closed the socket: " ++ frame))
  | .failed why => some (.webSocket why)
  | .ended => some (.subscriptionClosed "stream ended")
  | _ => none

end Headers

end WalletWatch
