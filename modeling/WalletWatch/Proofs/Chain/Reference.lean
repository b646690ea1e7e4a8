import WalletWatch.Chain.Sweep
import WalletWatch.Proofs.Chain.Report
import WalletWatch.Proofs.Token.Resolution

/-!
# The report of a scan

With the symbols of all tokens given, the transfers of a transaction, its activity and the `report` on a
block are functions of the transactions and their receipts alone. Scans and queries look symbols up in a
cache that they fill on the way. No lookup changes what the cache shows (`Kept`), so they agree with these
functions for the symbols that the first session shows.
-/

namespace WalletWatch

namespace Session

def shown (s : Session) (d : Token.Directory) (node : Node) : Address → String :=
  Token.shown d node.answerOf s.cache

theorem shown_zero (s : Session) (d : Token.Directory) (node : Node) :
    s.shown d node .zero = d.native :=
  Token.shown_zero

/-- What looking up symbols and writing to the log leaves as it is. -/
structure Kept (d : Token.Directory) (node : Node) (s s' : Session) : Prop where
  shown : s'.shown d node = s.shown d node
  genuine : s.cache.Genuine d node.answerOf → s'.cache.Genuine d node.answerOf
  receipts : s'.receipts = s.receipts

theorem Kept.refl {d : Token.Directory} {node : Node} {s : Session} : Kept d node s s := ⟨rfl, id, rfl⟩

theorem Kept.trans {d : Token.Directory} {node : Node} {s s' s'' : Session} (first : Kept d node s s')
    (second : Kept d node s' s'') : Kept d node s s'' where
  shown := second.shown.trans first.shown
  genuine held := second.genuine (first.genuine held)
  receipts := second.receipts.trans first.receipts

theorem kept_log {d : Token.Directory} {node : Node} {s : Session} (e : LogEntry) :
    Kept d node s (s.log e) := ⟨rfl, id, rfl⟩

theorem kept_resolve {d : Token.Directory} {node : Node} {s : Session} (token : Address) :
    Kept d node s (s.resolve d node token).2 where
  shown := funext fun b => Token.shown_resolve d _ s.cache token b
  genuine held := held.resolve token
  receipts := rfl

end Session

open Session (Kept kept_log kept_resolve)

namespace Extraction

def tokenTransfersWith (symbol : Address → String) (hash : TxHash) :
    (place : Nat) → List EventLog → List Transfer
  | _, [] => []
  | place, l :: ls => match TransferEvent.decode l with
    | .ok e => e.toTransfer hash (symbol e.token) place ::
        tokenTransfersWith symbol hash (place + 1) ls
    | .error _ => tokenTransfersWith symbol hash (place + 1) ls

def transfersWith (symbol : Address → String) (tx : ChainTransaction) (receipt : Receipt) :
    List Transfer :=
  (tx.nativeTransfer? receipt (symbol .zero)).toList ++
    tokenTransfersWith symbol tx.hash 0 receipt.logs

theorem tokenTransfers_eq (d : Token.Directory) (node : Node) (hash : TxHash) (place : Nat)
    (ls : List EventLog) (s : Session) :
    (tokenTransfers d (fun _ => node) hash place ls s).1 =
        tokenTransfersWith (s.shown d node) hash place ls ∧
      Kept d node s (tokenTransfers d (fun _ => node) hash place ls s).2 := by
  induction ls generalizing place s with
  | nil => exact ⟨rfl, .refl⟩
  | cons l ls ih =>
      cases event : TransferEvent.decode l with
      | error fault =>
          rw [tokenTransfers_cons_of_error d _ hash place ls s event]
          simp only [tokenTransfersWith, event]
          split
          · obtain ⟨later, kept⟩ := ih (place + 1) (s.log (skipped hash place fault))
            exact ⟨later, (kept_log _).trans kept⟩
          · exact ih (place + 1) s
      | ok e =>
          obtain ⟨later, kept⟩ := ih (place + 1) (s.resolve d node e.token).2
          rw [(kept_resolve e.token).shown] at later
          rw [tokenTransfers_cons_of_ok d _ hash place ls s event]
          simp only [tokenTransfersWith, event, ← later]
          exact ⟨rfl, (kept_resolve e.token).trans kept⟩

theorem transfers_eq (d : Token.Directory) (node : Node) (tx : ChainTransaction) (receipt : Receipt)
    (s : Session) :
    (transfers d node tx receipt s).1 = transfersWith (s.shown d node) tx receipt ∧
      Kept d node s (transfers d node tx receipt s).2 := by
  obtain ⟨found, kept⟩ := tokenTransfers_eq d node tx.hash 0 receipt.logs s
  refine ⟨?_, kept⟩
  rw [transfersWith, Session.shown_zero, ← found]
  rfl

end Extraction

theorem Activity.of?_eq_some_iff {transaction : TransactionRecord} {a : Address} {x : Activity} :
    of? transaction a = some x ↔
      x = ⟨transaction, Transfer.narrow transaction.transfers a⟩ ∧ x.transfers ≠ [] := by
  unfold of?
  dsimp only
  split
  · next none =>
      simp only [reduceCtorEq, false_iff, not_and, ne_eq, not_not]
      rintro rfl
      exact List.isEmpty_iff.1 none
  · next some =>
      rw [List.isEmpty_iff] at some
      constructor
      · intro h
        cases h
        exact ⟨rfl, some⟩
      · rintro ⟨rfl, -⟩
        rfl

namespace Scanner

def activityWith (symbol : Address → String) (blockNumber : Nat) (time : Instant) (a : Address)
    (tx : ChainTransaction) (receipt : Receipt) : Option Activity :=
  if isInvolved tx receipt a then
    Activity.of? (record tx receipt blockNumber time (Extraction.transfersWith symbol tx receipt)) a
  else none

/-- The activity of a transaction for an address, with the answer to the request for its receipt. -/
def outcomeWith (symbol : Address → String) (blockNumber : Nat) (time : Instant) (a : Address) :
    ChainTransaction × Except NodeError Receipt → Option Activity
  | (tx, .ok receipt) => activityWith symbol blockNumber time a tx receipt
  | (_, .error _) => none

/-- The report on some transactions with the answers to the requests for their receipts: in order, the
activities of those that have a receipt, involve `a` and have a transfer of `a`. -/
def report (symbol : Address → String) (blockNumber : Nat) (time : Instant) (a : Address)
    (fetches : List (ChainTransaction × Except NodeError Receipt)) : List Activity :=
  fetches.filterMap (outcomeWith symbol blockNumber time a)

theorem report_cons {symbol : Address → String} {blockNumber : Nat} {time : Instant} {a : Address}
    (fetch : ChainTransaction × Except NodeError Receipt)
    (rest : List (ChainTransaction × Except NodeError Receipt)) :
    report symbol blockNumber time a (fetch :: rest) =
      (outcomeWith symbol blockNumber time a fetch).toList ++
        report symbol blockNumber time a rest := by
  rw [report, List.filterMap_cons]
  cases outcomeWith symbol blockNumber time a fetch <;> rfl

theorem report_append {symbol : Address → String} {blockNumber : Nat} {time : Instant} {a : Address}
    (fetches fetches' : List (ChainTransaction × Except NodeError Receipt)) :
    report symbol blockNumber time a (fetches ++ fetches') =
      report symbol blockNumber time a fetches ++ report symbol blockNumber time a fetches' :=
  List.filterMap_append

theorem report_of_error {symbol : Address → String} {blockNumber : Nat} {time : Instant} {a : Address}
    {fetches : List (ChainTransaction × Except NodeError Receipt)} {i : Nat} {tx : ChainTransaction}
    {e : NodeError} (h : fetches[i]? = some (tx, .error e)) :
    report symbol blockNumber time a fetches =
      report symbol blockNumber time a (fetches.eraseIdx i) := by
  obtain ⟨inside, same⟩ := List.getElem?_eq_some_iff.1 h
  have parts : fetches = fetches.take i ++ (tx, .error e) :: fetches.drop (i + 1) := by
    rw [← same, List.getElem_cons_drop, List.take_append_drop]
  calc report symbol blockNumber time a fetches
      = report symbol blockNumber time a
          (fetches.take i ++ (tx, .error e) :: fetches.drop (i + 1)) := congrArg _ parts
    _ = report symbol blockNumber time a (fetches.eraseIdx i) := by
        rw [List.eraseIdx_eq_take_drop_succ, report_append, report_append, report_cons]
        rfl

/-- The transactions of a block with the answers of the node to the requests for their receipts. -/
def fetches (node : Node) (block : Block) : List (ChainTransaction × Except NodeError Receipt) :=
  block.transactions.map fun tx => (tx, node.receipt tx.hash)

theorem activity?_eq (sc : Scanner) (node : Node) (blockNumber : Nat) (time : Instant) (a : Address)
    (tx : ChainTransaction) (receipt : Receipt) (s : Session) :
    (sc.activity? node blockNumber time a tx receipt s).1 =
        activityWith (s.shown sc.directory node) blockNumber time a tx receipt ∧
      Kept sc.directory node s (sc.activity? node blockNumber time a tx receipt s).2 := by
  unfold activity? activityWith
  split
  · obtain ⟨found, kept⟩ := Extraction.transfers_eq sc.directory node tx receipt s
    rw [← found]
    dsimp only [Activity.of?, record]
    split
    · exact ⟨rfl, kept⟩
    · exact ⟨rfl, kept⟩
  · exact ⟨rfl, .refl⟩

/-- The symbols shown in the first session are those of all transactions. -/
theorem activities_eq (sc : Scanner) (node : Node) (blockNumber : Nat) (time : Instant) (a : Address)
    (fetches : List (ChainTransaction × Except NodeError Receipt)) (s : Session) :
    (sc.activities node blockNumber time a fetches s).1 =
        report (s.shown sc.directory node) blockNumber time a fetches ∧
      Kept sc.directory node s (sc.activities node blockNumber time a fetches s).2 := by
  induction fetches generalizing s with
  | nil => exact ⟨rfl, .refl⟩
  | cons fetch rest ih =>
      obtain ⟨tx, e | receipt⟩ := fetch
      · obtain ⟨others, kept⟩ := ih (s.log (withoutReceipt blockNumber tx.hash e))
        exact ⟨others, (kept_log _).trans kept⟩
      · obtain ⟨first, kept⟩ := sc.activity?_eq node blockNumber time a tx receipt s
        obtain ⟨others, kept'⟩ := ih (sc.activity? node blockNumber time a tx receipt s).2
        rw [kept.shown] at others
        refine ⟨?_, kept.trans kept'⟩
        rw [report_cons, outcomeWith, ← first, ← others]
        rfl

theorem windowSize_pos (sc : Scanner) : 0 < sc.windowSize :=
  Nat.lt_of_lt_of_le Nat.zero_lt_one (Nat.le_max_right _ _)

/-- The scan of a block that can be fetched and dated is its `report`, and asks for every receipt in the
order of the block. -/
theorem scan_eq {node : Node} {hash : String} {block : Block} {time : Instant} (sc : Scanner)
    (a : Address) (s : Session) (hb : node.block hash = .ok block) (ht : block.time = .ok time) :
    (sc.scan node hash a s).1 =
        .ok (report (s.shown sc.directory node) block.number time a (fetches node block)) ∧
      (sc.scan node hash a s).2.shown sc.directory node = s.shown sc.directory node ∧
      (sc.scan node hash a s).2.receipts =
        s.receipts ++ block.transactions.map fun tx => tx.hash := by
  obtain ⟨found, kept⟩ := sc.activities_eq node block.number time a (fetches node block)
    (s.askReceipts (block.transactions.map fun tx => tx.hash))
  simp only [scan, datedBlock_eq_ok_iff.2 ⟨hb, ht⟩, Window.receipts_eq node.receipt sc.windowSize_pos]
  exact ⟨congrArg Except.ok found, kept.shown, kept.receipts⟩

theorem mapError_bind_of_error {ε ε' α β : Type} {x : Except ε α} {e : ε} (h : x = .error e)
    (f : ε → ε') (g : α → Except ε' β) : (x.mapError f >>= g) = .error (f e) := by
  rw [h]
  rfl

theorem mapError_bind_of_ok {ε ε' α β : Type} {x : Except ε α} {a : α} (h : x = .ok a)
    (f : ε → ε') (g : α → Except ε' β) : (x.mapError f >>= g) = g a := by
  rw [h]
  rfl

theorem datedBlock_eq_error {node : Node} {hash : String} {e : NodeError}
    (hb : node.block hash = .error e) : datedBlock node hash = .error (.node e) :=
  mapError_bind_of_error hb _ _

theorem datedBlock_eq_error_of_time {node : Node} {hash : String} {block : Block} {e : DataError}
    (hb : node.block hash = .ok block) (ht : block.time = .error e) :
    datedBlock node hash = .error (.data e) := by
  rw [datedBlock, mapError_bind_of_ok hb]
  exact mapError_bind_of_error ht _ _

theorem scan_eq_of_error {node : Node} {hash : String} {e : Failure} (sc : Scanner) (a : Address)
    (s : Session) (h : datedBlock node hash = .error e) :
    sc.scan node hash a s = (.error e, s) := by
  simp only [scan, h]

theorem details_eq {node : Node} {tx : ChainTransaction} {hash : TxHash} {receipt : Receipt}
    {block : Block} {time : Instant} (sc : Scanner) (s : Session)
    (htx : node.transaction hash = .ok (some tx)) (mined : tx.blockNumber.isNone = false)
    (hr : node.receipt hash = .ok receipt) (hb : node.block receipt.blockHash = .ok block)
    (ht : block.time = .ok time) :
    (sc.details node hash s).1 = .ok (record tx receipt receipt.blockNumber time
        (Extraction.transfersWith (s.shown sc.directory node) tx receipt)) := by
  obtain ⟨found, -⟩ :=
    Extraction.transfers_eq sc.directory node tx receipt (s.askReceipts [hash])
  simp only [details, htx, mined, hr, datedBlock_eq_ok_iff.2 ⟨hb, ht⟩, Bool.false_eq_true, if_false]
  exact congrArg (fun transfers => Except.ok (record tx receipt receipt.blockNumber time transfers))
    found

theorem genuine_details {sc : Scanner} {node : Node} {s : Session} (hash : TxHash)
    (held : s.cache.Genuine sc.directory node.answerOf) :
    (sc.details node hash s).2.cache.Genuine sc.directory node.answerOf := by
  unfold details
  split
  · exact held
  · exact held
  · split
    · exact held
    · split
      · exact held
      · split
        · exact held
        · exact (Extraction.transfers_eq sc.directory node _ _ (s.askReceipts [hash])).2.genuine held

theorem genuine_scan {sc : Scanner} {node : Node} {s : Session} (hash : String) (a : Address)
    (held : s.cache.Genuine sc.directory node.answerOf) :
    (sc.scan node hash a s).2.cache.Genuine sc.directory node.answerOf := by
  unfold scan
  split
  · exact held
  · exact (sc.activities_eq node _ _ a _ _).2.genuine held

theorem exists_of_scan_eq_ok {sc : Scanner} {node : Node} {hash : String} {a : Address}
    {s : Session} {found : List Activity} (h : (sc.scan node hash a s).1 = .ok found) :
    ∃ block time, node.block hash = .ok block ∧ block.time = .ok time ∧
      found = report (s.shown sc.directory node) block.number time a (fetches node block) := by
  cases dated : datedBlock node hash with
  | error e =>
      rw [scan_eq_of_error sc a s dated] at h
      cases h
  | ok p =>
      obtain ⟨hb, ht⟩ := datedBlock_eq_ok_iff.1 dated
      rw [(scan_eq sc a s hb ht).1, Except.ok.injEq] at h
      exact ⟨p.1, p.2, hb, ht, h.symm⟩

theorem exists_of_mem_report {symbol : Address → String} {blockNumber : Nat} {time : Instant}
    {a : Address} {node : Node} {block : Block} {x : Activity}
    (hx : x ∈ report symbol blockNumber time a (fetches node block)) :
    ∃ tx ∈ block.transactions, ∃ receipt, node.receipt tx.hash = .ok receipt ∧
      x.transaction = record tx receipt blockNumber time (Extraction.transfersWith symbol tx receipt) ∧
      x.transfers = Transfer.narrow x.transaction.transfers a := by
  obtain ⟨fetch, mem, hx⟩ := List.mem_filterMap.1 hx
  obtain ⟨tx, htx, rfl⟩ := List.mem_map.1 mem
  cases hr : node.receipt tx.hash with
  | error e =>
      rw [hr] at hx
      cases hx
  | ok receipt =>
      rw [hr, outcomeWith, activityWith] at hx
      split at hx
      · obtain ⟨rfl, -⟩ := Activity.of?_eq_some_iff.1 hx
        exact ⟨tx, htx, receipt, hr, rfl, rfl⟩
      · cases hx

end Scanner

end WalletWatch
