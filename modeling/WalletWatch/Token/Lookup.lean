import WalletWatch.AddressMap
import WalletWatch.Log.Entry
import WalletWatch.Token.Symbol

/-!
# Looking up symbols

The native asset and a few tokens have symbols of their own. Any other symbol is taken from the cache
or else asked of the token, and kept if the answer holds one. A token that has no symbol to offer is
shown by the beginning of its address and is asked again the next time.

Lookups run side by side over one cache. A lookup reads the cache, asks, is answered, and stores; other
lookups may come between any two of these steps, so a token may be asked twice. `Lookups.step` is one
such step, and `resolve` is a lookup that nothing comes between.
-/

namespace WalletWatch

namespace Token

abbrev Cache := AddressMap String

structure Directory where
  /-- The symbol of the native asset. -/
  native : String
  /-- Tokens whose symbol never changes. -/
  known : List (Address × String)

namespace Directory

def knownTokens : List (Address × String) :=
  [(.ofNat 0xa0b86a33e6ba0c74d75c9abfd35e5e0b1bcceb83, "WXPL")]

def withNative (native : String) : Directory :=
  ⟨native, knownTokens⟩

def fixed? (d : Directory) (token : Address) : Option String :=
  if token.isZero then some d.native
  else (d.known.find? fun e => e.1 = token).map (·.2)

end Directory

def fallback (token : Address) : String :=
  String.ofList (token.text.toList.take 8)

def symbolOf (reply : Except NodeError String) : Except Failure String :=
  match reply with
  | .error e => .error (.node e)
  | .ok data => match decodeSymbol data with
    | .ok symbol => .ok symbol
    | .error fault => .error (.data fault.toError)

def complaint : Failure → String
  | .node e => e.message
  | .data e => e.message
  | e => e.message

inductive Progress where
  /-- It has not looked into the cache yet. -/
  | waiting
  /-- It has asked the token. -/
  | asking
  /-- The token has answered, and nothing is stored yet. -/
  | answered (reply : Except NodeError String)
  | done (symbol : String)

def look (d : Directory) (c : Cache) (token : Address) : Progress :=
  match d.fixed? token with
  | some symbol => .done symbol
  | none => match c.get? token with
    | some symbol => .done symbol
    | none => .asking

def store (c : Cache) (token : Address) (reply : Except NodeError String) : Cache × String :=
  match symbolOf reply with
  | .ok symbol => (c.insert token symbol, symbol)
  | .error _ => (c, fallback token)

structure Lookup where
  token : Address
  progress : Progress

structure Lookups where
  directory : Directory
  cache : Cache
  lookups : List Lookup
  /-- The tokens that were asked, in order. -/
  asked : List Address

namespace Lookups

/-- One lookup takes its next step. -/
inductive Event where
  | look (i : Nat)
  | answer (i : Nat) (reply : Except NodeError String)
  | store (i : Nat)

def start (d : Directory) (c : Cache) (tokens : List Address) : Lookups :=
  ⟨d, c, tokens.map fun token => ⟨token, .waiting⟩, []⟩

def advance (s : Lookups) (i : Nat) (l : Lookup) (p : Progress) : Lookups :=
  { s with lookups := s.lookups.set i { l with progress := p } }

def step? (s : Lookups) : Event → Option Lookups
  | .look i => match s.lookups[i]? with
    | some ⟨token, .waiting⟩ =>
      match Token.look s.directory s.cache token with
      | .asking => some { s.advance i ⟨token, .waiting⟩ .asking with asked := s.asked ++ [token] }
      | p => some (s.advance i ⟨token, .waiting⟩ p)
    | _ => none
  | .answer i reply => match s.lookups[i]? with
    | some ⟨token, .asking⟩ => some (s.advance i ⟨token, .asking⟩ (.answered reply))
    | _ => none
  | .store i => match s.lookups[i]? with
    | some ⟨token, .answered reply⟩ =>
      let (cache, symbol) := Token.store s.cache token reply
      some { s.advance i ⟨token, .answered reply⟩ (.done symbol) with cache := cache }
    | _ => none

def step (s : Lookups) (e : Event) : Lookups :=
  (s.step? e).getD s

def run (s : Lookups) (es : List Event) : Lookups :=
  es.foldl step s

/-- The answer of each token when it is asked for its symbol, by the index of its lookup. -/
def replies (ask : Address → Except NodeError String) (s : Lookups) : List (Except NodeError String) :=
  s.lookups.map fun l => ask l.token

def runTogether (ask : Address → Except NodeError String) (s : Lookups) : Lookups :=
  let is := List.range s.lookups.length
  s.run (is.map .look ++ (is.zip (s.replies ask)).map (fun (i, reply) => .answer i reply) ++
    is.map .store)

def runInTurn (ask : Address → Except NodeError String) (s : Lookups) : Lookups :=
  s.run (((List.range s.lookups.length).zip (s.replies ask)).flatMap fun (i, reply) =>
    [.look i, .answer i reply, .store i])

def symbols (s : Lookups) : List (Option String) :=
  s.lookups.map fun l => match l.progress with
    | .done symbol => some symbol
    | _ => none

end Lookups

structure Resolution where
  symbol : String
  cache : Cache
  /-- Whether the token was asked. -/
  asked : Bool
  /-- What was written to the log. -/
  entries : List LogEntry

def unnamed (token : Address) (e : Failure) : LogEntry :=
  ((LogContext.mk "token_resolver" "resolve" []).withText "token_address" token.text).debug
    ("symbol() lookup failed, using address prefix: " ++ complaint e)

def resolve (d : Directory) (ask : Address → Except NodeError String) (c : Cache) (token : Address) :
    Resolution :=
  match look d c token with
  | .done symbol => ⟨symbol, c, false, []⟩
  | _ =>
    let (cache, symbol) := store c token (ask token)
    ⟨symbol, cache, true, match symbolOf (ask token) with
      | .ok _ => []
      | .error e => [unnamed token e]⟩

end Token

end WalletWatch
