import WalletWatch.Json.Printer
import WalletWatch.Log.Entry
import WalletWatch.Text.Utf8

/-!
# Health pages

Three pages report the health of the service. `/health` and `/ready` ask the message store and then the node, and
the first that does not answer decides; the node is not asked once the store has failed. Pages from any
place may ask, so every answer says so.
-/

namespace WalletWatch

namespace Health

structure Request where
  method : String
  target : String
  deriving DecidableEq, Repr

/-- A response, with its headers sorted by name. -/
structure Response where
  status : Nat
  headers : List (String × String)
  body : String
  deriving DecidableEq, Repr

inductive Page where
  | health
  | ready
  | metrics
  deriving DecidableEq, Repr

/-- What the store and the node answer to a health check. -/
structure Probes where
  store : Except Failure Unit
  node : Except Failure Unit

/-- A response, the number of times the store and the node were asked for it, and its log. -/
structure Reply where
  response : Response
  storeChecks : Nat
  nodeChecks : Nat
  entries : List LogEntry

structure Content where
  status : Nat
  kind : String
  text : String
  deriving DecidableEq, Repr

/-- The path of a target, without the query. A target that does not start with a slash has a scheme and a
host in front, which are dropped. -/
def path (target : String) : List Char :=
  let cs := target.toList.takeWhile fun c => c ≠ '?' && c ≠ '#'
  match cs.head?, Text.cutAt? [':', '/', '/'] cs with
  | some '/', _ => cs
  | _, none => cs
  | _, some (_, cs) => match cs.dropWhile (· ≠ '/') with
    | [] => ['/']
    | cs => cs

def Page.ofPath? (cs : List Char) : Option Page :=
  if cs = "/health".toList then some .health
  else if cs = "/ready".toList then some .ready
  else if cs = "/metrics".toList then some .metrics
  else none

def healthy : Content :=
  ⟨200, "application/json", (Json.obj [("status", .str "healthy")]).compact⟩

def unhealthy (reason : String) : Content :=
  ⟨503, "application/json",
    (Json.obj [("status", .str "unhealthy"), ("error", .str reason)]).compact⟩

def measures : Content :=
  ⟨200, "text/plain", "# Metrics placeholder\n"⟩

def unreachable (what : String) (e : Failure) : LogEntry :=
  ((LogContext.mk "http" "health" []).withError e.message).error
    ("Health check failed: " ++ what ++ " unavailable")

def check (p : Probes) : Content × Nat × Nat × List LogEntry :=
  match p.store with
  | .error e => (unhealthy "redis_unavailable", 1, 0, [unreachable "Redis" e])
  | .ok () => match p.node with
    | .error e => (unhealthy "blockchain_unavailable", 1, 1, [unreachable "blockchain" e])
    | .ok () => (healthy, 1, 1, [])

def Page.content (p : Probes) : Page → Content × Nat × Nat × List LogEntry
  | .metrics => (measures, 0, 0, [])
  | _ => check p

def varying : String × String :=
  ("vary", "origin, access-control-request-method, access-control-request-headers")

def openHeaders : List (String × String) :=
  [("access-control-allow-origin", "*"), ("access-control-expose-headers", "*")]

def permission : List (String × String) :=
  [("access-control-allow-headers", "*"), ("access-control-allow-methods", "*"),
    ("access-control-allow-origin", "*")]

def allowed : List (String × String) :=
  [("allow", "GET,HEAD")]

def empty (status : Nat) (headers : List (String × String)) : Reply :=
  ⟨⟨status, headers ++ [("content-length", "0"), varying], ""⟩, 0, 0, []⟩

/-- Only `GET` and `HEAD` get a page, `HEAD` without its text. A preflight request is granted for every
path. -/
def answer (p : Probes) (r : Request) : Reply :=
  match Page.ofPath? (path r.target) with
  | none =>
    if r.method = "OPTIONS" then empty 200 permission else empty 404 openHeaders
  | some page =>
    if r.method = "GET" || r.method = "HEAD" then
      let (content, storeChecks, nodeChecks, entries) := page.content p
      ⟨{ status := content.status
         headers := openHeaders ++
           [("content-length", toString (Utf8.encode content.text.toList).length),
             ("content-type", content.kind), varying]
         body := if r.method = "HEAD" then "" else content.text },
        storeChecks, nodeChecks, entries⟩
    else if r.method = "OPTIONS" then empty 200 (permission ++ allowed)
    else empty 405 (openHeaders ++ allowed)

def starting (host : String) (port : UInt16) : String :=
  "HTTP server starting on " ++ host ++ ":" ++ toString port

def stopped : String :=
  "HTTP server stopped"

end Health

end WalletWatch
