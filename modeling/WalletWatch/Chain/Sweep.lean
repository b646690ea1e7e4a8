import WalletWatch.Chain.Scan
import WalletWatch.Machine

/-!
# A scan in single steps

A sweep is a scan of which any step that is possible may come next: a receipt is asked for, a question is
answered, the first answer is taken up, or the transaction in work goes on by one log. While a transaction
is in work no receipt is asked for and none is taken up, but questions are answered. Lookups of others over
the same cache may store what they were answered between any two steps.
-/

namespace WalletWatch

abbrev Node.answerOf (node : Node) (token : Address) : Except NodeError String :=
  node.call token Token.symbolCall

/-- The activity of a transaction for the address `a`, if one of the transfers involves `a`. -/
def Activity.of? (transaction : TransactionRecord) (a : Address) : Option Activity :=
  let own := Transfer.narrow transaction.transfers a
  if own.isEmpty then none else some ⟨transaction, own⟩

/-- A transaction at work: the transfers that were found, and the logs that are still to be read, the
first of which stands at `place`. -/
structure Draft where
  tx : ChainTransaction
  receipt : Receipt
  transfers : List Transfer
  place : Nat
  logs : List EventLog

namespace Draft

def start (d : Token.Directory) (tx : ChainTransaction) (receipt : Receipt) : Draft :=
  ⟨tx, receipt, (tx.nativeTransfer? receipt d.native).toList, 0, receipt.logs⟩

def skip (w : Draft) : Draft :=
  { w with place := w.place + 1, logs := w.logs.tail }

def push (w : Draft) (e : TransferEvent) (symbol : String) : Draft :=
  { w.skip with transfers := w.transfers ++ [e.toTransfer w.tx.hash symbol w.place] }

end Draft

inductive Task where
  /-- It waits for the next receipt. -/
  | idle
  | reading (w : Draft)
  /-- It has asked the token of the first log of a draft for its symbol. -/
  | asking (w : Draft) (e : TransferEvent)
  | ended

def Draft.read (d : Token.Directory) (w : Draft) (l : EventLog) (s : Session) : Task × Session :=
  if TransferEvent.isTransfer l then
    match TransferEvent.decode l with
    | .error fault => (.reading w.skip, s.log (Extraction.skipped w.tx.hash w.place fault))
    | .ok e => match Token.look d s.cache e.token with
      | .done symbol => (.reading (w.push e symbol), s)
      | _ => (.asking w e, { s with calls := s.calls ++ [e.token] })
  else (.reading w.skip, s)

/-- A search for the activities of `address` in the block of some number and time. -/
structure Search where
  scanner : Scanner
  blockNumber : Nat
  time : Instant
  address : Address

namespace Search

def activity? (q : Search) (w : Draft) : Option Activity :=
  Activity.of? (Scanner.record w.tx w.receipt q.blockNumber q.time w.transfers) q.address

end Search

structure Sweep where
  window : Window
  task : Task
  /-- The activities in the transactions that are done with, in order. -/
  found : List Activity
  session : Session

namespace Sweep

inductive Event where
  /-- The next receipt is asked for. -/
  | request
  /-- The `i`-th open request for a receipt is answered. -/
  | answer (i : Nat) (reply : Except NodeError Receipt)
  /-- The first answer is taken up. -/
  | take
  /-- The first log of the transaction in work is read. -/
  | read
  /-- A token answers what its symbol is. -/
  | told (reply : Except NodeError String)
  /-- All logs of the transaction in work were read. -/
  | settle
  /-- All receipts were taken up, and the sweep ends. -/
  | finish
  /-- Another user of the session stores an answer. -/
  | elsewhere (token : Address) (reply : Except NodeError String)

def start (txs : List ChainTransaction) (s : Session) : Sweep :=
  ⟨.start txs, .idle, [], s⟩

def takeUp (q : Search) (tx : ChainTransaction) (reply : Except NodeError Receipt) (s : Session) :
    Task × Session :=
  match reply with
  | .error e => (.idle, s.log (Scanner.withoutReceipt q.blockNumber tx.hash e))
  | .ok receipt =>
    if isInvolved tx receipt q.address then
      (.reading (.start q.scanner.directory tx receipt), s)
    else (.idle, s)

def note (token : Address) (reply : Except NodeError String) (s : Session) : Session :=
  { s with
    cache := (Token.store s.cache token reply).1
    entries := s.entries ++ match Token.symbolOf reply with
      | .ok _ => []
      | .error e => [Token.unnamed token e] }

def step? (q : Search) (v : Sweep) : Event → Option Sweep
  | .request => match v.task, v.window.waiting with
    | .idle, tx :: _ => (v.window.step? q.scanner.windowSize .request).map fun w =>
      { v with window := w, session := v.session.askReceipts [tx.hash] }
    | _, _ => none
  | .answer i reply => (v.window.step? q.scanner.windowSize (.answer i reply)).map fun w =>
    { v with window := w }
  | .take => match v.task, v.window.pending with
    | .idle, (tx, some reply) :: _ => (v.window.step? q.scanner.windowSize .take).map fun w =>
      let (task, s) := takeUp q tx reply v.session
      { v with window := w, task := task, session := s }
    | _, _ => none
  | .read => match v.task with
    | .reading w => match w.logs with
      | l :: _ =>
        let (task, s) := w.read q.scanner.directory l v.session
        some { v with task := task, session := s }
      | [] => none
    | _ => none
  | .told reply => match v.task with
    | .asking w e =>
      let (_, symbol) := Token.store v.session.cache e.token reply
      some { v with task := .reading (w.push e symbol), session := note e.token reply v.session }
    | _ => none
  | .settle => match v.task with
    | .reading w => match w.logs with
      | [] => some { v with task := .idle, found := v.found ++ (q.activity? w).toList }
      | _ :: _ => none
    | _ => none
  | .finish => match v.task, v.window.pending, v.window.waiting with
    | .idle, [], [] => some { v with
        task := .ended
        session := v.session.log (Log.blockScanned q.address.text q.blockNumber v.found.length 0) }
    | _, _, _ => none
  | .elsewhere token reply =>
    if (q.scanner.directory.fixed? token).isNone then
      some { v with session := { v.session with
        cache := (Token.store v.session.cache token reply).1 } }
    else none

def result? (v : Sweep) : Option (List Activity) :=
  match v.task with
  | .ended => some v.found
  | _ => none

abbrev Moment := Machine.Moment Sweep Event

abbrev Runs (q : Search) := Machine.Runs (step? q)

/-- Receipts are answered as `fetches` says for their transactions, and symbols as `node` says. Other
users of the session `s` may ask only for tokens whose symbols were not known when the sweep began. -/
def AnsweredBy (node : Node) (s : Session)
    (fetches : List (ChainTransaction × Except NodeError Receipt)) (m : Moment) : Prop :=
  match m.event with
  | .answer i reply => ∀ fetch, fetches[m.before.window.taken.length + i]? = some fetch → reply = fetch.2
  | .told reply => ∀ w e, m.before.task = .asking w e → reply = node.answerOf e.token
  | .elsewhere token reply => s.cache.get? token = none ∧ reply = node.answerOf token
  | _ => True

def Event.isOwn : Event → Bool
  | .elsewhere _ _ => false
  | _ => true

def ownSteps (h : List Moment) : Nat :=
  h.countP fun m => m.event.isOwn

end Sweep

def Scanner.sweep (sc : Scanner) (node : Node) (hash : String) (a : Address) (s : Session) :
    Except Failure (Search × Sweep) :=
  (datedBlock node hash).map fun (block, time) =>
    (⟨sc, block.number, time, a⟩, .start block.transactions s)

end WalletWatch
