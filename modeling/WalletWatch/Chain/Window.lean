import WalletWatch.Chain.Node

/-!
# A window of open requests

The receipts of a block's transactions are asked for in the order of the block, a bounded number at a
time. They may be answered in any order, but they are taken in the order in which they were asked for,
and an answer that still waits to be taken holds its place in the window.
-/

namespace WalletWatch

structure Window where
  /-- Transactions that were not asked for yet. -/
  waiting : List ChainTransaction
  /-- Transactions that were asked for, with the answer once it is there. -/
  pending : List (ChainTransaction × Option (Except NodeError Receipt))
  /-- What was taken, in order. -/
  taken : List (ChainTransaction × Except NodeError Receipt)

namespace Window

inductive Event where
  /-- The next transaction is asked for. -/
  | request
  /-- The `i`-th open request is answered. -/
  | answer (i : Nat) (reply : Except NodeError Receipt)
  /-- The first open request, which was answered, is taken. -/
  | take

def start (txs : List ChainTransaction) : Window :=
  ⟨txs, [], []⟩

def step? (size : Nat) (w : Window) : Event → Option Window
  | .request => match w.waiting with
    | [] => none
    | tx :: txs =>
      if w.pending.length < size then
        some { w with waiting := txs, pending := w.pending ++ [(tx, none)] }
      else none
  | .answer i reply => match w.pending[i]? with
    | some (tx, none) => some { w with pending := w.pending.set i (tx, some reply) }
    | _ => none
  | .take => match w.pending with
    | (tx, some reply) :: rest => some { w with pending := rest, taken := w.taken ++ [(tx, reply)] }
    | _ => none

def step (size : Nat) (w : Window) (e : Event) : Window :=
  (w.step? size e).getD w

def inFlight (w : Window) : Nat :=
  w.pending.countP fun p => p.2.isNone

def fill (size : Nat) (w : Window) : Window :=
  let n := size - w.pending.length
  { w with
    waiting := w.waiting.drop n
    pending := w.pending ++ (w.waiting.take n).map fun tx => (tx, none) }

def answerAll (receipt : TxHash → Except NodeError Receipt) (w : Window) : Window :=
  { w with pending := w.pending.map fun p => (p.1, some (p.2.getD (receipt p.1.hash))) }

/-- Fills the window, answers all open requests, and takes the first answer. -/
def round (size : Nat) (receipt : TxHash → Except NodeError Receipt) (w : Window) : Window :=
  ((w.fill size).answerAll receipt).step size .take

def rounds (size : Nat) (receipt : TxHash → Except NodeError Receipt) : (n : Nat) → Window → Window
  | 0, w => w
  | n + 1, w => rounds size receipt n (w.round size receipt)

def receipts (size : Nat) (receipt : TxHash → Except NodeError Receipt) (txs : List ChainTransaction) :
    List (ChainTransaction × Except NodeError Receipt) :=
  (rounds size receipt txs.length (start txs)).taken

end Window

end WalletWatch
