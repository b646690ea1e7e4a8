import WalletWatch.Failure
import WalletWatch.Json.Record
import WalletWatch.Number.Width
import WalletWatch.Text.Utf16
import WalletWatch.Text.Utf8

/-!
# Replies of the node

An exchange with the node ends in one of a few ways. A reply with a good status holds an object with a
result or an error. A result of null is a good answer: there is no such thing.
-/

namespace WalletWatch

inductive Exchange where
  /-- The node did not answer in time. -/
  | timedOut
  /-- The node was not reached. -/
  | unreachable (text : String)
  /-- The connection failed on the way. -/
  | broken (text : String)
  | answered (status : Nat) (body : List UInt8)
  deriving DecidableEq, Repr

def reasonPhrase? (status : Nat) : Option String :=
  match status with
  | 100 => some "Continue"
  | 101 => some "Switching Protocols"
  | 102 => some "Processing"
  | 200 => some "OK"
  | 201 => some "Created"
  | 202 => some "Accepted"
  | 203 => some "Non Authoritative Information"
  | 204 => some "No Content"
  | 205 => some "Reset Content"
  | 206 => some "Partial Content"
  | 207 => some "Multi-Status"
  | 208 => some "Already Reported"
  | 226 => some "IM Used"
  | 300 => some "Multiple Choices"
  | 301 => some "Moved Permanently"
  | 302 => some "Found"
  | 303 => some "See Other"
  | 304 => some "Not Modified"
  | 305 => some "Use Proxy"
  | 307 => some "Temporary Redirect"
  | 308 => some "Permanent Redirect"
  | 400 => some "Bad Request"
  | 401 => some "Unauthorized"
  | 402 => some "Payment Required"
  | 403 => some "Forbidden"
  | 404 => some "Not Found"
  | 405 => some "Method Not Allowed"
  | 406 => some "Not Acceptable"
  | 407 => some "Proxy Authentication Required"
  | 408 => some "Request Timeout"
  | 409 => some "Conflict"
  | 410 => some "Gone"
  | 411 => some "Length Required"
  | 412 => some "Precondition Failed"
  | 413 => some "Payload Too Large"
  | 414 => some "URI Too Long"
  | 415 => some "Unsupported Media Type"
  | 416 => some "Range Not Satisfiable"
  | 417 => some "Expectation Failed"
  | 418 => some "I'm a teapot"
  | 421 => some "Misdirected Request"
  | 422 => some "Unprocessable Entity"
  | 423 => some "Locked"
  | 424 => some "Failed Dependency"
  | 426 => some "Upgrade Required"
  | 428 => some "Precondition Required"
  | 429 => some "Too Many Requests"
  | 431 => some "Request Header Fields Too Large"
  | 451 => some "Unavailable For Legal Reasons"
  | 500 => some "Internal Server Error"
  | 501 => some "Not Implemented"
  | 502 => some "Bad Gateway"
  | 503 => some "Service Unavailable"
  | 504 => some "Gateway Timeout"
  | 505 => some "HTTP Version Not Supported"
  | 506 => some "Variant Also Negotiates"
  | 507 => some "Insufficient Storage"
  | 508 => some "Loop Detected"
  | 510 => some "Not Extended"
  | 511 => some "Network Authentication Required"
  | _ => none

structure ReplyError where
  code : Int
  message : String
  deriving DecidableEq, Repr

structure Reply where
  result : Option Json
  error : Option ReplyError

namespace Json

def readInt32 (v : Json) : Except Refusal Int := do
  let n ← v.readInt64
  if Width.fitsSigned32 n then .ok n else .error .shape

def readAny (v : Json) : Except Refusal Json :=
  match v.toValue? (maxDepth - 1) with
  | some v => .ok v
  | none => .error .shape

end Json

namespace ReplyError

def fields : List Json.Field :=
  [Json.field "code" Json.readInt32, Json.field "message" Json.readText]

def ofJson (v : Json) : Except Refusal ReplyError := do
  let r ← Json.readRecord fields v
  return ⟨← r.get "code" Json.readInt32, ← r.get "message" Json.readText⟩

/-- The failure for an error of the node. Three codes are failures of the exchange itself. -/
def toFailure (e : ReplyError) : NodeError :=
  if e.code = -32700 then .invalidResponse "Parse error"
  else if e.code = -32600 then .invalidResponse "Invalid request"
  else if e.code = -32602 then .invalidResponse "Invalid params"
  else .method e.code e.message

end ReplyError

namespace Reply

def fields : List Json.Field :=
  [Json.field "jsonrpc" Json.readText,
    Json.optionalField "result" (Json.readNullable Json.readAny),
    Json.optionalField "error" (Json.readNullable ReplyError.ofJson),
    Json.field "id" Json.readNat64]

def ofJson (v : Json) : Except Refusal Reply := do
  let r ← Json.readRecord fields v
  return {
    result := ← r.getD "result" none (Json.readNullable Json.readAny)
    error := ← r.getD "error" none (Json.readNullable ReplyError.ofJson) }

def outcome (r : Reply) : Except NodeError Json :=
  match r.error with
  | some e => .error e.toFailure
  | none => .ok (r.result.getD .null)

def read (s : String) : Except NodeError Json :=
  match Json.readDocument ofJson s with
  | .ok r => r.outcome
  | .error _ => .error (.json "not a reply")

end Reply

namespace Exchange

/-- The text of a body. A byte order mark selects the encoding and is dropped. -/
def bodyText : (body : List UInt8) → String
  | 0xEF :: 0xBB :: 0xBF :: rest => String.ofList (Utf8.decodeLossy rest)
  | 0xFF :: 0xFE :: rest => String.ofList (Utf16.decodeLossy .little rest)
  | 0xFE :: 0xFF :: rest => String.ofList (Utf16.decodeLossy .big rest)
  | body => String.ofList (Utf8.decodeLossy body)

def result (patience : Nat) : Exchange → Except NodeError Json
  | timedOut => .error (.timeout patience)
  | unreachable text => .error (.connection text)
  | broken text => .error (.http text)
  | answered status body =>
    if 200 ≤ status ∧ status < 300 then Reply.read (bodyText body)
    else .error (.connection ("HTTP error: " ++ toString status ++ " " ++
      (reasonPhrase? status).getD "Unknown"))

end Exchange

end WalletWatch
