import WalletWatch.Chain.Scan
import WalletWatch.Proofs.Chain.Involvement
import WalletWatch.Proofs.Chain.Window

/-!
# The transactions that a scan reports

A scan filters first and narrows the transfers afterwards. `leaves` says that narrowing leaves a transfer,
with or without the filter, and `misses` that the address is only paid at creation. A scan reports the
transactions that `leaves` and not `misses`, in the order of the block.
-/

namespace WalletWatch

theorem Block.time_eq_ok_iff {b : Block} {t : Instant} :
    b.time = .ok t ↔ Instant.ofUnix? (Width.signed64 b.timestamp) = some t := by
  unfold time
  cases Instant.ofUnix? (Width.signed64 b.timestamp) <;> simp

namespace Scanner

/-- Whether a transaction has a receipt and narrowing its transfers to `a` leaves some. -/
def leaves (sc : Scanner) (node : Node) (a : Address) (s : Session) (tx : ChainTransaction) : Bool :=
  match node.receipt tx.hash with
  | .ok receipt => !(Transfer.narrow (Extraction.transfers sc.directory node tx receipt s).1 a).isEmpty
  | .error _ => false

/-- Whether `a` is only `paidAtCreation` by a transaction. -/
def misses (node : Node) (a : Address) (tx : ChainTransaction) : Bool :=
  match node.receipt tx.hash with
  | .ok receipt => paidAtCreation tx receipt a
  | .error _ => false

theorem leaves_eq (sc : Scanner) (node : Node) (a : Address) (s s' : Session) :
    sc.leaves node a s = sc.leaves node a s' := by
  funext tx
  unfold leaves
  split
  · rw [Extraction.narrow_isEmpty_eq]
  · rfl

theorem misses_of_leaves {sc : Scanner} {node : Node} {a : Address} {s : Session}
    {tx : ChainTransaction} {receipt : Receipt} (hr : node.receipt tx.hash = .ok receipt)
    (leaves : sc.leaves node a s tx = true) :
    misses node a tx = !isInvolved tx receipt a := by
  simp only [misses, hr]
  cases involved : isInvolved tx receipt a with
  | true => simp [paidAtCreation, involved]
  | false =>
      simp only [Scanner.leaves, hr, Bool.not_eq_true', List.isEmpty_eq_false_iff_exists_mem] at leaves
      obtain ⟨t, ht⟩ := leaves
      exact (not_isInvolved_and_involves_iff ..).1 ⟨involved, t, List.mem_filter.1 ht⟩

theorem map_hash_activity? {sc : Scanner} {node : Node} {tx : ChainTransaction} {receipt : Receipt}
    (blockNumber : Nat) (time : Instant) (a : Address) (s : Session)
    (hr : node.receipt tx.hash = .ok receipt) :
    ((sc.activity? node blockNumber time a tx receipt s).1.map fun x => x.transaction.hash) =
      if sc.leaves node a s tx && !misses node a tx then some tx.hash else none := by
  cases left : sc.leaves node a s tx with
  | false =>
      simp only [leaves, hr, Bool.not_eq_false'] at left
      unfold activity?
      split <;> simp [left]
  | true =>
      rw [misses_of_leaves hr left]
      simp only [leaves, hr, Bool.not_eq_true'] at left
      unfold activity?
      split <;> simp_all [record]

theorem map_hash_activities (sc : Scanner) (node : Node) (blockNumber : Nat) (time : Instant)
    (a : Address) (txs : List ChainTransaction) (s s' : Session) :
    ((sc.activities node blockNumber time a (txs.map fun tx => (tx, node.receipt tx.hash)) s).1.map
        fun x => x.transaction.hash) =
      (txs.filter fun tx => sc.leaves node a s' tx && !misses node a tx).map fun tx => tx.hash := by
  induction txs generalizing s with
  | nil => rfl
  | cons tx txs ih =>
      rw [List.map_cons, List.filter_cons]
      cases hr : node.receipt tx.hash with
      | error e =>
          rw [activities, ih]
          simp [leaves, hr]
      | ok receipt =>
          rw [activities, List.map_append, ih, ← Option.toList_map, map_hash_activity? _ _ _ _ hr,
            leaves_eq sc node a s s']
          split <;> simp_all

theorem datedBlock_eq_ok_iff {node : Node} {hash : String} {block : Block} {time : Instant} :
    datedBlock node hash = .ok (block, time) ↔
      node.block hash = .ok block ∧ block.time = .ok time := by
  simp only [datedBlock, bind_eq_ok_iff, mapError_eq_ok_iff]
  constructor
  · rintro ⟨b, hb, t, ht, h⟩
    cases h
    exact ⟨hb, ht⟩
  · rintro ⟨hb, ht⟩
    exact ⟨block, hb, time, ht, rfl⟩

theorem exists_scan {node : Node} {hash : String} {block : Block} {time : Instant} (sc : Scanner)
    (a : Address) (s : Session) (hb : node.block hash = .ok block) (ht : block.time = .ok time) :
    ∃ found, (sc.scan node hash a s).1 = .ok found ∧ ∀ s',
      (found.map fun x => x.transaction.hash) =
        (block.transactions.filter fun tx => sc.leaves node a s' tx && !misses node a tx).map
          fun tx => tx.hash := by
  have wide : 0 < sc.windowSize := Nat.lt_of_lt_of_le Nat.zero_lt_one (Nat.le_max_right _ _)
  simp only [scan, datedBlock_eq_ok_iff.2 ⟨hb, ht⟩, Window.receipts_eq _ wide]
  exact ⟨_, rfl, map_hash_activities sc node _ _ a block.transactions _⟩

/-- The node gives a transaction of `block` and the block of its receipt by hash as it gave `block`. -/
structure Serves (node : Node) (block : Block) (tx : ChainTransaction) : Prop where
  transaction : node.transaction tx.hash = .ok (some tx)
  mined : tx.blockNumber.isSome = true
  block : ∀ receipt, node.receipt tx.hash = .ok receipt → node.block receipt.blockHash = .ok block

/-- By its hash, a transaction has the transfers that its scan narrows. -/
theorem leaves_iff_transfersFor {node : Node} {block : Block} {time : Instant} {tx : ChainTransaction}
    (sc : Scanner) (a : Address) (s : Session) (serves : Serves node block tx)
    (ht : block.time = .ok time) :
    sc.leaves node a s tx = true ↔
      ∃ own, (sc.transfersFor node tx.hash a s).1 = .ok own ∧ own ≠ [] := by
  have mined : tx.blockNumber.isNone = false := by simpa using serves.mined
  cases hr : node.receipt tx.hash with
  | error e => simp [leaves, transfersFor, details, serves.transaction, mined, hr, Except.map]
  | ok receipt =>
      rw [leaves_eq sc node a s (s.askReceipts [tx.hash])]
      simp [leaves, transfersFor, details, serves.transaction, mined, hr, Except.map,
        datedBlock_eq_ok_iff.2 ⟨serves.block receipt hr, ht⟩, record]

/-- `isInvolved` turns away a party of a transfer exactly if the party is only `paidAtCreation`. Hence a
scan reports, in the order of the block, the transactions that `leaves` keeps, without those that
`misses` names. If the node `Serves` the same data by hash, `leaves` holds exactly for the transactions
of which `transfersFor` finds a transfer. -/
theorem scan_filter_paidAtCreation (sc : Scanner) (node : Node) (a : Address) :
    (∀ (tx : ChainTransaction) (receipt : Receipt) (s : Session),
      (isInvolved tx receipt a = false ∧
          ∃ t ∈ (Extraction.transfers sc.directory node tx receipt s).1, t.involves a = true) ↔
        paidAtCreation tx receipt a = true) ∧
    (∀ (tx : ChainTransaction) (receipt : Receipt) (s : Session),
      ∀ t ∈ (Extraction.transfers sc.directory node tx receipt s).1, t.involves a = true →
        isInvolved tx receipt a = true ∨ paidAtCreation tx receipt a = true ∧ t.isNative = true) ∧
    (∀ (hash : String) (block : Block) (time : Instant) (s : Session),
      node.block hash = .ok block → block.time = .ok time →
      ∃ found, (sc.scan node hash a s).1 = .ok found ∧ ∀ s',
        ((found.map fun x => x.transaction.hash) =
          (block.transactions.filter fun tx => sc.leaves node a s' tx && !misses node a tx).map
            fun tx => tx.hash) ∧
        ∀ tx ∈ block.transactions, Serves node block tx →
          (sc.leaves node a s' tx = true ↔
            ∃ own, (sc.transfersFor node tx.hash a s').1 = .ok own ∧ own ≠ [])) := by
  refine ⟨fun tx receipt s => not_isInvolved_and_involves_iff _ _ tx receipt s a,
    fun tx receipt s t ht party => isInvolved_of_involves ht party, ?_⟩
  intro hash block time s hb ht
  obtain ⟨found, scanned, hashes⟩ := exists_scan sc a s hb ht
  refine ⟨found, scanned, fun s' => ⟨hashes s', ?_⟩⟩
  intro tx _ serves
  exact leaves_iff_transfersFor sc a s' serves ht

/-- Of two transactions that pay an address, the one that creates it is not reported. -/
theorem scan_filter_paidAtCreation_two_transactions :
    ∃ (sc : Scanner) (node : Node) (block : Block) (time : Instant) (paid made : ChainTransaction)
      (a : Address), node.block "0x1" = .ok block ∧ block.time = .ok time ∧
      block.transactions = [paid, made] ∧ Serves node block paid ∧
      (∃ found, (sc.scan node "0x1" a .start).1 = .ok found ∧
        (found.map fun x => x.transaction.hash) = [paid.hash]) ∧
      ∃ own, (sc.transfersFor node paid.hash a .start).1 = .ok own ∧ own ≠ [] := by
  let sc : Scanner := ⟨.withNative "ETH", 1⟩
  let paid : ChainTransaction := ⟨⟨.ofNat 1⟩, .ofNat 1, some (.ofNat 3), 7, 0, some 1⟩
  let made : ChainTransaction := ⟨⟨.ofNat 2⟩, .ofNat 1, none, 7, 0, some 1⟩
  let block : Block := ⟨1, "0x1", 0, [paid, made]⟩
  let node : Node := {
    block := fun _ => .ok block
    transaction := fun hash => .ok (some (if hash = paid.hash then paid else made))
    receipt := fun hash => .ok ⟨hash, 1, "0x1", 0, some (.ofNat 3), []⟩
    call := fun _ _ => .error (.timeout 10) }
  obtain ⟨time, early⟩ : ∃ time, Instant.ofUnix? (Width.signed64 0) = some time := ⟨_, rfl⟩
  have ht : block.time = .ok time := Block.time_eq_ok_iff.2 early
  have serves : Serves node block paid := ⟨rfl, rfl, fun _ _ => rfl⟩
  obtain ⟨-, -, reported⟩ := scan_filter_paidAtCreation sc node (.ofNat 3)
  obtain ⟨found, scanned, exactly⟩ := reported "0x1" block time .start rfl ht
  obtain ⟨hashes, asked⟩ := exactly .start
  exact ⟨sc, node, block, time, paid, made, .ofNat 3, rfl, ht, rfl, serves,
    ⟨found, scanned, hashes⟩, (asked paid (.head _) serves).1 rfl⟩

/-- A transaction creates a contract and pays it. `transfersFor` finds the transfer, but the contract is
not involved, and its scan reports nothing. -/
theorem exists_paidAtCreation_scan_eq_nil :
    ∃ (sc : Scanner) (node : Node) (block : Block) (tx : ChainTransaction) (receipt : Receipt)
      (t : Transfer) (a : Address), node.block "0x1" = .ok block ∧ block.transactions = [tx] ∧
      node.receipt tx.hash = .ok receipt ∧ Serves node block tx ∧
      (Extraction.transfers sc.directory node tx receipt .start).1 = [t] ∧ t.involves a = true ∧
      (∃ own, (sc.transfersFor node tx.hash a .start).1 = .ok own ∧ own ≠ []) ∧
      isInvolved tx receipt a = false ∧ (sc.scan node "0x1" a .start).1 = .ok [] := by
  let tx : ChainTransaction := ⟨default, .ofNat 1, none, 7, 0, some 1⟩
  let block : Block := ⟨1, "0x1", 0, [tx]⟩
  let node : Node := {
    block := fun _ => .ok block
    transaction := fun _ => .ok (some tx)
    receipt := fun _ => .ok ⟨default, 1, "0x1", 0, some (.ofNat 3), []⟩
    call := fun _ _ => .error (.timeout 10) }
  let sc : Scanner := ⟨.withNative "ETH", 1⟩
  obtain ⟨time, early⟩ : ∃ time, Instant.ofUnix? (Width.signed64 0) = some time := ⟨_, rfl⟩
  have ht : block.time = .ok time := Block.time_eq_ok_iff.2 early
  have serves : Serves node block tx := ⟨rfl, rfl, fun _ _ => rfl⟩
  have asked := leaves_iff_transfersFor sc (.ofNat 3) .start serves ht
  obtain ⟨found, scanned, hashes⟩ :=
    exists_scan sc (.ofNat 3) .start (rfl : node.block "0x1" = .ok block) ht
  have none : found = [] := List.map_eq_nil_iff.1 (hashes .start)
  exact ⟨sc, node, block, tx, _, _, .ofNat 3, rfl, rfl, rfl, serves, rfl, rfl, asked.1 rfl, rfl,
    none ▸ scanned⟩

end Scanner

end WalletWatch
