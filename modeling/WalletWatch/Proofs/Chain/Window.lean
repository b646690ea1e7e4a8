import WalletWatch.Chain.Window
import WalletWatch.Proofs.Machine

/-!
# The order of a window

A window of any size hands over the answers in the order of the transactions. `outcome` is what it will have
handed over in the end: the taken answers, those to the open requests, and those to the waiting ones. A
round moves one entry to the front part and changes nothing else. `Follows` says the same of single steps,
with answers that come in any order.
-/

namespace WalletWatch

namespace Window

/-- The answers that a window gives in the end, in order. -/
def outcome (receipt : TxHash → Except NodeError Receipt) (w : Window) :
    List (ChainTransaction × Except NodeError Receipt) :=
  w.taken ++ (w.pending.map fun p => (p.1, p.2.getD (receipt p.1.hash))) ++
    w.waiting.map fun tx => (tx, receipt tx.hash)

def left (w : Window) : Nat :=
  w.pending.length + w.waiting.length

theorem outcome_fill (size : Nat) (receipt : TxHash → Except NodeError Receipt) (w : Window) :
    (w.fill size).outcome receipt = w.outcome receipt := by
  simp only [outcome, fill, List.map_append, List.map_map, List.append_assoc]
  congr 2
  change List.map (fun tx : ChainTransaction => (tx, receipt tx.hash)) _ ++ _ = _
  rw [← List.map_append, List.take_append_drop]

theorem left_fill (size : Nat) (w : Window) : (w.fill size).left = w.left := by
  simp only [left, fill, List.length_append, List.length_map, List.length_take, List.length_drop]
  omega

theorem outcome_answerAll (receipt : TxHash → Except NodeError Receipt) (w : Window) :
    (w.answerAll receipt).outcome receipt = w.outcome receipt := by
  simp [outcome, answerAll]

theorem left_answerAll (receipt : TxHash → Except NodeError Receipt) (w : Window) :
    (w.answerAll receipt).left = w.left := by
  simp [left, answerAll]

theorem pending_fill_ne_nil {size : Nat} {w : Window} (wide : 0 < size) (more : 0 < w.left) :
    (w.fill size).pending ≠ [] := by
  intro none
  have none := congrArg List.length none
  simp only [fill, List.length_append, List.length_map, List.length_take, List.length_nil] at none
  simp only [left] at more
  omega

theorem outcome_round {size : Nat} (receipt : TxHash → Except NodeError Receipt) {w : Window}
    (wide : 0 < size) (more : 0 < w.left) :
    (w.round size receipt).outcome receipt = w.outcome receipt ∧
      (w.round size receipt).left + 1 = w.left := by
  rw [← outcome_fill size receipt w, ← outcome_answerAll receipt, ← left_fill size w,
    ← left_answerAll receipt (w.fill size)]
  cases hp : (w.fill size).pending with
  | nil => exact absurd hp (pending_fill_ne_nil wide more)
  | cons p rest =>
      simp [round, step, step?, answerAll, hp, outcome, left]
      omega

theorem outcome_rounds {size : Nat} (receipt : TxHash → Except NodeError Receipt) (wide : 0 < size)
    (n : Nat) (w : Window) (enough : w.left = n) :
    (rounds size receipt n w).outcome receipt = w.outcome receipt ∧
      (rounds size receipt n w).left = 0 := by
  induction n generalizing w with
  | zero => exact ⟨rfl, enough⟩
  | succ n ih =>
      obtain ⟨same, less⟩ := outcome_round receipt wide (w := w) (by omega)
      rw [rounds, ← same]
      exact ih _ (by omega)

theorem receipts_eq {size : Nat} (receipt : TxHash → Except NodeError Receipt) (wide : 0 < size)
    (txs : List ChainTransaction) :
    receipts size receipt txs = txs.map fun tx => (tx, receipt tx.hash) := by
  obtain ⟨same, none⟩ := outcome_rounds receipt wide txs.length (start txs) (by simp [left, start])
  obtain ⟨pending, waiting⟩ := Nat.add_eq_zero_iff.1 none
  rw [List.length_eq_zero_iff] at pending waiting
  have first : (start txs).outcome receipt = txs.map fun tx => (tx, receipt tx.hash) := by
    simp [outcome, start]
  rw [first, outcome, pending, waiting] at same
  simpa [receipts] using same

/-- The window takes some transactions in order, with the answers of their indices. -/
structure Follows (fetches : List (ChainTransaction × Except NodeError Receipt)) (w : Window) :
    Prop where
  order : w.taken.map (·.1) ++ w.pending.map (·.1) ++ w.waiting = fetches.map (·.1)
  taken : ∀ (i : Nat) fetch, w.taken[i]? = some fetch → fetches[i]? = some fetch
  answered : ∀ (i : Nat) tx reply, w.pending[i]? = some (tx, some reply) →
    fetches[w.taken.length + i]? = some (tx, reply)

theorem follows_start (fetches : List (ChainTransaction × Except NodeError Receipt)) :
    Follows fetches (start (fetches.map (·.1))) where
  order := rfl
  taken i fetch h := by simp [start] at h
  answered i tx reply h := by simp [start] at h

theorem Follows.getElem?_pending {fetches : List (ChainTransaction × Except NodeError Receipt)} {w : Window}
    {tx : ChainTransaction} {i : Nat} {r : Option (Except NodeError Receipt)} (h : Follows fetches w)
    (hi : w.pending[i]? = some (tx, r)) :
    ∃ reply, fetches[w.taken.length + i]? = some (tx, reply) := by
  have inside : i < w.pending.length := (List.getElem?_eq_some_iff.1 hi).1
  have same : (fetches.map (·.1))[w.taken.length + i]? = some tx := by
    rw [← h.order, List.append_assoc, List.getElem?_append_right (by simp)]
    rw [List.length_map, Nat.add_sub_cancel_left, List.getElem?_append_left (by simpa using inside),
      List.getElem?_map, hi]
    rfl
  rw [List.getElem?_map, Option.map_eq_some_iff] at same
  obtain ⟨⟨_, reply⟩, fetch, rfl⟩ := same
  exact ⟨reply, fetch⟩

theorem Follows.request {fetches : List (ChainTransaction × Except NodeError Receipt)} {w : Window}
    {tx : ChainTransaction} {txs : List ChainTransaction} (h : Follows fetches w)
    (hw : w.waiting = tx :: txs) :
    Follows fetches { w with waiting := txs, pending := w.pending ++ [(tx, none)] } where
  order := by
    rw [← h.order, hw]
    simp
  taken := h.taken
  answered i tx' reply hi := by
    rcases Nat.lt_or_ge i w.pending.length with older | newer
    · rw [List.getElem?_append_left older] at hi
      exact h.answered i tx' reply hi
    · rw [List.getElem?_append_right newer, List.getElem?_singleton] at hi
      split at hi <;> cases hi

theorem Follows.answer {fetches : List (ChainTransaction × Except NodeError Receipt)} {w : Window}
    {tx : ChainTransaction} {reply : Except NodeError Receipt} {i : Nat} (h : Follows fetches w)
    (hi : w.pending[i]? = some (tx, none))
    (asked : ∀ fetch, fetches[w.taken.length + i]? = some fetch → reply = fetch.2) :
    Follows fetches { w with pending := w.pending.set i (tx, some reply) } where
  order := by
    rw [← h.order]
    exact congrArg (_ ++ · ++ _) (Machine.map_set_of_eq _ hi rfl)
  taken := h.taken
  answered j tx' reply' hj := by
    by_cases same : i = j
    · subst same
      rw [List.getElem?_set_self (List.getElem?_eq_some_iff.1 hi).1] at hj
      cases hj
      obtain ⟨reply', fetch⟩ := h.getElem?_pending hi
      rw [fetch, asked _ fetch]
    · rw [List.getElem?_set_ne same] at hj
      exact h.answered j tx' reply' hj

theorem Follows.take {fetches : List (ChainTransaction × Except NodeError Receipt)} {w : Window}
    {tx : ChainTransaction} {reply : Except NodeError Receipt}
    {rest : List (ChainTransaction × Option (Except NodeError Receipt))} (h : Follows fetches w)
    (hp : w.pending = (tx, some reply) :: rest) :
    Follows fetches { w with pending := rest, taken := w.taken ++ [(tx, reply)] } where
  order := by
    rw [← h.order, hp]
    simp
  taken i fetch hi := by
    rcases Nat.lt_or_ge i w.taken.length with older | newer
    · rw [List.getElem?_append_left older] at hi
      exact h.taken i fetch hi
    · rw [List.getElem?_append_right newer, List.getElem?_singleton] at hi
      split at hi
      · next zero =>
          cases hi
          have now := h.answered 0 tx reply (by rw [hp]; rfl)
          rwa [show i = w.taken.length + 0 by omega]
      · cases hi
  answered i tx' reply' hi := by
    have next := h.answered (i + 1) tx' reply' (by rw [hp]; exact hi)
    rw [List.length_append, List.length_singleton, ← next]
    congr 1
    omega

theorem Follows.eq_of_empty {fetches : List (ChainTransaction × Except NodeError Receipt)} {w : Window}
    (h : Follows fetches w) (hp : w.pending = []) (hw : w.waiting = []) :
    w.taken = fetches := by
  have same : w.taken.map (·.1) = fetches.map (·.1) := by
    rw [← h.order, hp, hw]
    simp
  have length : w.taken.length = fetches.length := by
    simpa using congrArg List.length same
  refine List.ext_getElem? fun i => ?_
  cases hi : w.taken[i]? with
  | some fetch => exact (h.taken i fetch hi).symm
  | none =>
      rw [List.getElem?_eq_none_iff] at hi
      exact (List.getElem?_eq_none (length ▸ hi)).symm

end Window

end WalletWatch
