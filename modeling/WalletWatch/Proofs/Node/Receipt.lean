import WalletWatch.Node.Client
import WalletWatch.Proofs.Chain.Extraction

/-!
# The status of a receipt

A record ignores the members of its object that it does not know, if they are JSON. A receipt has six
fields, and `status`, which marks a reverted transaction, is none of them. So nodes that are `SameButStatus`
give the same answers, and a native transfer is reported exactly if its amount is not zero.
-/

namespace WalletWatch

namespace Json

def without (key : String) : Json → Json
  | object members => object (members.filter fun m => m.1 ≠ some key)
  | v => v

theorem find?_eq_none {fields : List Field} {key : String} (unknown : ∀ f ∈ fields, f.name ≠ key) :
    Field.find? fields (some key) = none := by
  simpa [Field.find?] using unknown

theorem checkMembers_filter {fields : List Field} {key : String} (unknown : ∀ f ∈ fields, f.name ≠ key)
    (seen : Record) {members : List (Option String × Json)} (whole : membersWhole members = true) :
    checkMembers fields seen (members.filter fun m => m.1 ≠ some key) =
      checkMembers fields seen members := by
  induction members generalizing seen with
  | nil => rfl
  | cons m members ih =>
      obtain ⟨name, value⟩ := m
      rw [membersWhole, Bool.and_eq_true] at whole
      by_cases same : name = some key
      · subst same
        rw [List.filter_cons_of_neg (by simp), checkMembers, find?_eq_none unknown, ih seen whole.2]
        exact (if_pos whole.1).symm
      · rw [List.filter_cons_of_pos (by simpa using same)]
        cases name with
        | none => rfl
        | some name =>
            simp only [checkMembers, fun seen => ih seen whole.2]

theorem readRecord_without {fields : List Field} {key : String} (unknown : ∀ f ∈ fields, f.name ≠ key)
    {v : Json} (whole : v.isWhole = true) :
    readRecord fields (v.without key) = readRecord fields v := by
  cases v with
  | object members =>
      rw [isWhole] at whole
      rw [without, readRecord, readRecord, checkMembers_filter unknown [] whole]
  | _ => rfl

end Json

def ReceiptRow.status : String :=
  "status"

theorem ReceiptRow.ofJson_without {v : Json} (whole : v.isWhole = true) :
    ofJson (v.without status) = ofJson v := by
  rw [ofJson, ofJson, Json.readRecord_without (by decide) whole]

/-- `ReceiptRow.status` is not read. -/
theorem Answer.receipt_without (hash : TxHash) {v : Json} (whole : v.isWhole = true) :
    receipt hash (v.without ReceiptRow.status) = receipt hash v := by
  cases v with
  | object members =>
      have row := ReceiptRow.ofJson_without whole
      rw [Json.without] at row
      simp only [Json.without, receipt, object?, row]
  | _ => rfl

/-- Answers that differ only in the statuses of receipts. -/
structure SameButStatus (answer answer' : Query → Except NodeError Json) : Prop where
  receipt : ∀ hash, (answer (.receipt hash)).map (Json.without ReceiptRow.status) =
    (answer' (.receipt hash)).map (Json.without ReceiptRow.status)
  whole : ∀ hash v, answer (.receipt hash) = .ok v ∨ answer' (.receipt hash) = .ok v → v.isWhole = true
  other : ∀ q, (∀ hash, q ≠ .receipt hash) → answer q = answer' q

namespace Node

theorem receipt_ofAnswers {answer : Query → Except NodeError Json} {hash : TxHash}
    (whole : ∀ v, answer (.receipt hash) = .ok v → v.isWhole = true) :
    (ofAnswers answer).receipt hash =
      (answer (.receipt hash)).map (Json.without ReceiptRow.status) >>= Answer.receipt hash := by
  change answer (.receipt hash) >>= Answer.receipt hash = _
  cases got : answer (.receipt hash) with
  | error e => rfl
  | ok v => exact (Answer.receipt_without hash (whole v got)).symm

theorem ofAnswers_eq {answer answer' : Query → Except NodeError Json}
    (same : SameButStatus answer answer') : ofAnswers answer = ofAnswers answer' := by
  have receipts : (ofAnswers answer).receipt = (ofAnswers answer').receipt := by
    funext hash
    rw [receipt_ofAnswers fun v hv => same.whole hash v (.inl hv),
      receipt_ofAnswers fun v hv => same.whole hash v (.inr hv), same.receipt]
  rw [ofAnswers, ofAnswers, Node.mk.injEq]
  refine ⟨?_, ?_, receipts, ?_⟩
  · funext hash
    rw [same.other (.block hash) nofun]
  · funext hash
    rw [same.other (.transaction hash) nofun]
  · funext contract data
    rw [same.other (.call contract data) nofun]

end Node

theorem ChainTransaction.beneficiary_eq {tx : ChainTransaction} {a : Address} (receipt : Receipt)
    (h : tx.recipient = some a) : tx.beneficiary receipt = a := by
  rw [beneficiary, h]
  rfl

namespace Scanner

theorem exists_native_of_scan {node : Node} {hash : String} {block : Block} {time : Instant}
    {tx : ChainTransaction} {receipt : Receipt} {a : Address} (sc : Scanner) (s : Session)
    (hb : node.block hash = .ok block) (ht : block.time = .ok time) (mem : tx ∈ block.transactions)
    (hr : node.receipt tx.hash = .ok receipt) (value : tx.value ≠ 0)
    (party : tx.sender = a ∨ tx.recipient = some a) :
    ∃ found x t, (sc.scan node hash a s).1 = .ok found ∧ x ∈ found ∧ x.transaction.hash = tx.hash ∧
      t ∈ x.transfers ∧ t.isNative = true ∧ t.amount = tx.value := by
  let symbol := s.shown sc.directory node
  let transfers := Extraction.transfersWith symbol tx receipt
  let t : Transfer :=
    ⟨tx.hash, tx.sender, tx.beneficiary receipt, tx.value, symbol .zero, .zero, Transfer.nativeIndex⟩
  have native : t ∈ transfers := List.mem_append_left _ (Option.mem_toList.2 (if_neg value))
  have own : t.involves a = true := by
    rw [Transfer.involves, Bool.or_eq_true, decide_eq_true_eq, decide_eq_true_eq]
    exact party.imp_right (tx.beneficiary_eq receipt)
  have involved : isInvolved tx receipt a = true := by
    rcases party with sender | recipient
    · simp [isInvolved, sender]
    · simp [isInvolved, recipient]
  have narrowed : t ∈ Transfer.narrow transfers a := List.mem_filter.2 ⟨native, own⟩
  have reported : outcomeWith symbol block.number time a (tx, .ok receipt) =
      some ⟨record tx receipt block.number time transfers, Transfer.narrow transfers a⟩ := by
    rw [outcomeWith, activityWith, if_pos involved, Activity.of?_eq_some_iff]
    exact ⟨rfl, List.ne_nil_of_mem narrowed⟩
  have fetched : (tx, .ok receipt) ∈ fetches node block := hr ▸ List.mem_map_of_mem mem
  exact ⟨_, _, t, (scan_eq sc a s hb ht).1, List.mem_filterMap.2 ⟨_, fetched, reported⟩, rfl, narrowed,
    rfl, rfl⟩

/-- `Answer.receipt` ignores the member `ReceiptRow.status`, so answers that are `SameButStatus` make the
same node. A native transfer is found exactly if the amount is not zero, and the scan of its block
reports it to the sender and to the recipient. -/
theorem isNative_transfers_sameButStatus (sc : Scanner) :
    (∀ (hash : TxHash) (v : Json), v.isWhole = true →
      Answer.receipt hash (v.without ReceiptRow.status) = Answer.receipt hash v) ∧
    (∀ answer answer' : Query → Except NodeError Json, SameButStatus answer answer' →
      Node.ofAnswers answer = Node.ofAnswers answer') ∧
    (∀ (node : Node) (tx : ChainTransaction) (receipt : Receipt) (s : Session),
      (Extraction.transfers sc.directory node tx receipt s).1.filter Transfer.isNative =
        if tx.value = 0 then [] else
          [{ txHash := tx.hash
             sender := tx.sender
             recipient := tx.beneficiary receipt
             amount := tx.value
             symbol := sc.directory.native
             token := .zero
             logIndex := -1 }]) ∧
    ∀ (node : Node) (hash : String) (block : Block) (time : Instant) (tx : ChainTransaction)
      (receipt : Receipt) (a : Address) (s : Session), node.block hash = .ok block →
      block.time = .ok time → tx ∈ block.transactions → node.receipt tx.hash = .ok receipt →
      tx.value ≠ 0 → tx.sender = a ∨ tx.recipient = some a →
      ∃ found x t, (sc.scan node hash a s).1 = .ok found ∧ x ∈ found ∧ x.transaction.hash = tx.hash ∧
        t ∈ x.transfers ∧ t.isNative = true ∧ t.amount = tx.value := by
  refine ⟨fun hash v => Answer.receipt_without hash, fun answer answer' => Node.ofAnswers_eq,
    fun node tx receipt s => ?_, fun node hash block time tx receipt a s => exists_native_of_scan sc s⟩
  rw [Extraction.filter_isNative, Extraction.native_toList]

/-- The answers of a node that knows one transaction, with an amount of seven and a receipt of some
status. -/
def answersWith (status : Json) : Query → Except NodeError Json
  | .block _ => .ok (.obj [("number", .str "0x1"), ("hash", .str "0x1"), ("timestamp", .str "0x0"),
      ("transactions", .array [.obj [
        ("hash", .str "0x0000000000000000000000000000000000000000000000000000000000000001"),
        ("from", .str "0x0000000000000000000000000000000000000001"),
        ("to", .str "0x0000000000000000000000000000000000000003"), ("value", .str "0x7")]])])
  | .receipt _ => .ok (.obj [
      ("transactionHash", .str "0x0000000000000000000000000000000000000000000000000000000000000001"),
      ("blockNumber", .str "0x1"), ("blockHash", .str "0x1"), ("gasUsed", .str "0x0"),
      ("logs", .array []), ("status", status)])
  | _ => .error (.timeout 10)

/-- One node says that a transaction was reverted, and another one that it was not. They are the same
node, and the recipient is told of the amount. -/
theorem isNative_transfers_sameButStatus_two_statuses :
    ∃ (sc : Scanner) (reverted done : Query → Except NodeError Json) (hash : TxHash) (v w : Json)
      (a : Address) (t : Transfer),
      reverted (.receipt hash) = .ok v ∧ v.member? "status" = some (.str "0x0") ∧
      done (.receipt hash) = .ok w ∧ w.member? "status" = some (.str "0x1") ∧
      Answer.receipt hash (v.without "status") = Answer.receipt hash v ∧
      Node.ofAnswers reverted = Node.ofAnswers done ∧ t.isNative = true ∧ t.amount = 7 ∧
      ∃ found x, (sc.scan (.ofAnswers reverted) "0x1" a .start).1 = .ok found ∧ x ∈ found ∧
        t ∈ x.transfers := by
  let sc : Scanner := ⟨.withNative "ETH", 1⟩
  let tx : ChainTransaction := ⟨⟨.ofNat 1⟩, .ofNat 1, some (.ofNat 3), 7, 0, none⟩
  let block : Block := ⟨1, "0x1", 0, [tx]⟩
  obtain ⟨read, nodes, -, reported⟩ := isNative_transfers_sameButStatus sc
  have same : SameButStatus (answersWith (.str "0x0")) (answersWith (.str "0x1")) := by
    constructor
    case receipt => exact fun _ => rfl
    case whole =>
      rintro hash v (hv | hv)
      · cases hv
        rfl
      · cases hv
        rfl
    case other =>
      intro q hq
      cases q with
      | receipt hash => exact absurd rfl (hq hash)
      | _ => rfl
  obtain ⟨time, early⟩ : ∃ time, Instant.ofUnix? (Width.signed64 0) = some time := ⟨_, rfl⟩
  have hb : (Node.ofAnswers (answersWith (.str "0x0"))).block "0x1" = .ok block := by decide +kernel
  have hr : (Node.ofAnswers (answersWith (.str "0x0"))).receipt tx.hash =
      .ok ⟨⟨.ofNat 1⟩, 1, "0x1", 0, none, []⟩ := by decide +kernel
  obtain ⟨found, x, t, scanned, hx, -, ht, native, amount⟩ :=
    reported _ "0x1" block time tx _ (.ofNat 3) .start hb (Block.time_eq_ok_iff.2 early) (.head _) hr
      (by decide) (.inr rfl)
  exact ⟨sc, answersWith (.str "0x0"), answersWith (.str "0x1"), tx.hash, _, _, .ofNat 3, t, rfl, rfl,
    rfl, rfl, read tx.hash _ rfl, nodes _ _ same, native, amount, found, x, scanned, hx, ht⟩

/-- The transaction was reverted, and its amount is still reported. -/
theorem exists_isNative_transfer_status_zero :
    ∃ (sc : Scanner) (answer : Query → Except NodeError Json) (v : Json) (block : Block)
      (tx : ChainTransaction) (receipt : Receipt) (a : Address),
      answer (.receipt tx.hash) = .ok v ∧ v.member? "status" = some (.str "0x0") ∧
      (Node.ofAnswers answer).block "0x1" = .ok block ∧ block.transactions = [tx] ∧
      Answer.receipt tx.hash v = .ok receipt ∧
      ((Extraction.transfers sc.directory (.ofAnswers answer) tx receipt .start).1.map
        Transfer.isNative) = [true] ∧
      ((sc.scan (.ofAnswers answer) "0x1" a .start).1.toOption.map fun found =>
        found.map fun x => x.transfers.map fun t => (t.isNative, t.amount)) = some [[(true, 7)]] := by
  let tx : ChainTransaction := ⟨⟨.ofNat 1⟩, .ofNat 1, some (.ofNat 3), 7, 0, none⟩
  refine ⟨⟨.withNative "ETH", 1⟩, answersWith (.str "0x0"), _, ⟨1, "0x1", 0, [tx]⟩, tx,
    ⟨⟨.ofNat 1⟩, 1, "0x1", 0, none, []⟩, .ofNat 3, rfl, rfl, ?_, rfl, ?_, ?_, ?_⟩
  · decide +kernel
  · decide +kernel
  · decide +kernel
  · decide +kernel

end Scanner

end WalletWatch
