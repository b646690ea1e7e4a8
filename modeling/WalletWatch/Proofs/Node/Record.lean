import Mathlib.Data.List.Nodup
import WalletWatch.Node.Client
import WalletWatch.Proofs.Json.Member
import WalletWatch.Proofs.Node.Quantity

/-!
# The records of a node are read whole

`WrittenAs` describes how a node writes a transaction, a block, a log or a receipt: an object with the right
members among others, in any order, with identifiers and quantities in any spelling, and with missing values
left out or null. Such an object is read back. `ReadsWhole` says that a reading succeeds exactly if every
part of it does, and otherwise gives an invalid response.
-/

namespace WalletWatch

/-! ## Fields that are served -/

namespace Json

def IsTidy (v : Json) : Prop :=
  ∃ members, v = object members ∧ Tidy members

structure Serves (v : Json) (f : Field) : Prop where
  accepted : ∀ w, v.member? f.name = some w → f.check w = .ok ()
  present : f.presence = .required → v.member? f.name ≠ none

def Says (v : Json) (key : String) (P : String → Prop) : Prop :=
  ∃ s, v.member? key = some (str s) ∧ P s

/-- The member `key` is a text about `x`. Without an `x` it is missing or null. -/
def SaysIfAny {α : Type} (v : Json) (key : String) (P : α → String → Prop) : Option α → Prop
  | some x => v.Says key (P x)
  | none => v.member? key = none ∨ v.member? key = some null

/-- The member `key` is an array of documents about the elements of `xs`. -/
def Lists {α : Type} (v : Json) (key : String) (P : α → Json → Prop) (xs : List α) : Prop :=
  ∃ items, v.member? key = some (array items) ∧ List.Forall₂ P xs items

theorem IsTidy.of_obj {members : List (String × Json)} (distinct : (members.map (·.1)).Nodup)
    (whole : ∀ m ∈ members, m.2.isWhole = true) : (obj members).IsTidy := by
  refine ⟨_, rfl, ?_, ?_, ?_⟩
  · intro m hm
    obtain ⟨⟨key, w⟩, -, rfl⟩ := List.mem_map.1 hm
    exact ⟨key, rfl⟩
  · have names := List.Nodup.map (fun _ _ => Option.some.inj) distinct
    rw [List.map_map] at names ⊢
    exact names
  · intro m hm
    obtain ⟨m, there, rfl⟩ := List.mem_map.1 hm
    exact whole m there

theorem IsTidy.ne_null {v : Json} (tidy : v.IsTidy) : v ≠ null := by
  rintro rfl
  obtain ⟨_, object, -⟩ := tidy
  cases object

theorem IsTidy.exists_readRecord {v : Json} {fields : List Field} (tidy : v.IsTidy)
    (serves : ∀ f ∈ fields, v.Serves f) :
    ∃ r, readRecord fields v = .ok r ∧ ∀ f ∈ fields, r.value? f.name = v.member? f.name := by
  obtain ⟨members, rfl, tidy⟩ := tidy
  exact Json.exists_readRecord tidy (fun f hf => (serves f hf).accepted) fun f hf => (serves f hf).present

theorem Serves.of_check {v : Json} {f : Field} {w : Json} (found : v.member? f.name = some w)
    (accepted : f.check w = .ok ()) : v.Serves f where
  accepted w' there := by
    rw [found] at there
    cases there
    exact accepted
  present _ := by simp [found]

theorem Serves.of_absent {v : Json} {f : Field} (absent : v.member? f.name = none)
    (optional : f.presence ≠ .required) : v.Serves f where
  accepted w there := by
    rw [absent] at there
    cases there
  present required := absurd required optional

theorem Says.serves {v : Json} {key : String} {P : String → Prop} (h : v.Says key P) :
    v.Serves (field key readText) := by
  obtain ⟨s, found, -⟩ := h
  exact .of_check found rfl

theorem Says.get {v : Json} {key : String} {r : Record} {P : String → Prop} (h : v.Says key P)
    (value : r.value? key = v.member? key) :
    ∃ s, r.get key readText = .ok s ∧ P s := by
  obtain ⟨s, found, holds⟩ := h
  exact ⟨s, Record.get_of_value? (value.trans found) readText, holds⟩

theorem SaysIfAny.serves {α : Type} {v : Json} {key : String} {P : α → String → Prop} {x : Option α}
    (h : v.SaysIfAny key P x) :
    v.Serves (optionalField key (readNullable readText)) := by
  cases x with
  | some x =>
      obtain ⟨s, found, -⟩ := h
      exact .of_check found rfl
  | none =>
      rcases h with absent | null
      · exact .of_absent absent nofun
      · exact .of_check null rfl

theorem SaysIfAny.getD {α : Type} {v : Json} {key : String} {r : Record} {P : α → String → Prop}
    {Q : String → α → Prop} {x : Option α} (h : v.SaysIfAny key P x) (reads : ∀ x s, P x s → Q s x)
    (value : r.value? key = v.member? key) :
    ∃ o, r.getD key none (readNullable readText) = .ok o ∧ Option.Rel Q o x := by
  cases x with
  | some x =>
      obtain ⟨s, found, holds⟩ := h
      exact ⟨some s, Record.getD_of_value? (value.trans found) _ _, .some (reads _ _ holds)⟩
  | none =>
      rcases h with absent | null
      · exact ⟨none, Record.getD_of_value?_eq_none (value.trans absent) _ _, .none⟩
      · exact ⟨none, Record.getD_of_value? (value.trans null) _ _, .none⟩

theorem Lists.read {α β : Type} {v : Json} {key : String} {P : α → Json → Prop} {Q : β → α → Prop}
    {xs : List α} (h : v.Lists key P xs) (read : Json → Except Refusal β)
    (each : ∀ x item, P x item → ∃ y, read item = .ok y ∧ Q y x) :
    ∃ w ys, v.member? key = some w ∧ readList read w = .ok ys ∧ List.Forall₂ Q ys xs := by
  obtain ⟨items, found, listed⟩ := h
  obtain ⟨ys, got, all⟩ : ∃ ys, readItemsWith read items = .ok ys ∧ List.Forall₂ Q ys xs := by
    clear found
    induction listed with
    | nil => exact ⟨[], rfl, .nil⟩
    | cons first _ ih =>
        obtain ⟨y, readFirst, holds⟩ := each _ _ first
        obtain ⟨ys, readRest, all⟩ := ih
        exact ⟨y :: ys, by rw [readItemsWith, readFirst, readRest]; rfl, .cons holds all⟩
  exact ⟨_, ys, found, got, all⟩

end Json

/-! ## What a record is read as -/

/-- A reading that gives exactly the results in `Reads`, and else fails with an invalid response. -/
def ReadsWhole {α : Type} (outcome : Except NodeError α) (Reads : α → Prop) : Prop :=
  (∀ x, outcome = .ok x ↔ Reads x) ∧ ∀ e, outcome = .error e → ∃ text, e = .invalidResponse text

namespace ReadsWhole

theorem congr {α : Type} {x : Except NodeError α} {P : α → Prop} {Q : α → Prop} (h : ReadsWhole x P)
    (same : ∀ a, P a ↔ Q a) : ReadsWhole x Q :=
  ⟨fun a => (h.1 a).trans (same a), h.2⟩

theorem pure {α : Type} (a : α) : ReadsWhole (.ok a) (· = a) :=
  ⟨fun _ => ⟨fun h => (Except.ok.inj h).symm, fun h => h ▸ rfl⟩, nofun⟩

theorem bind {α β : Type} {x : Except NodeError α} {P : α → Prop} {f : α → Except NodeError β}
    {Q : α → β → Prop} (first : ReadsWhole x P) (second : ∀ a, P a → ReadsWhole (f a) (Q a)) :
    ReadsWhole (x >>= f) fun b => ∃ a, P a ∧ Q a b := by
  refine ⟨fun _ => ?_, fun e failed => ?_⟩
  · rw [bind_eq_ok_iff]
    exact exists_congr fun a =>
      (and_congr_left' (first.1 a)).trans (and_congr_right fun holds => (second a holds).1 _)
  · cases read : x with
    | error e' =>
        rw [read] at failed
        cases failed
        exact first.2 e read
    | ok a =>
        rw [read] at failed
        exact (second a ((first.1 a).1 read)).2 e failed

theorem map {α β : Type} {x : Except NodeError α} {P : α → Prop} (h : ReadsWhole x P) (f : α → β) :
    ReadsWhole (x.map f) fun b => ∃ a, P a ∧ b = f a := by
  have mapped : x.map f = x >>= fun a => .ok (f a) := by cases x <;> rfl
  rw [mapped]
  exact h.bind fun a _ => pure (f a)

theorem ifPresent {α : Type} {read : String → Except NodeError α} {Q : String → α → Prop}
    (each : ∀ s, ReadsWhole (read s) (Q s)) (o : Option String) :
    ReadsWhole (readIfPresent read o) (Option.Rel Q o) := by
  cases o with
  | none =>
      refine (pure none).congr fun a => ⟨fun h => h ▸ .none, fun h => ?_⟩
      cases h
      rfl
  | some s =>
      refine ((each s).map some).congr fun a => ⟨?_, ?_⟩
      · rintro ⟨a, holds, rfl⟩
        exact .some holds
      · rintro (holds | _)
        exact ⟨_, holds, rfl⟩

theorem address (s : String) : ReadsWhole (Address.ofNode s) fun a => Address.parse s = .ok a := by
  unfold ReadsWhole Address.ofNode
  cases Address.parse s <;> simp

theorem txHash (s : String) : ReadsWhole (TxHash.ofNode s) fun h => TxHash.parse s = .ok h := by
  unfold ReadsWhole TxHash.ofNode
  cases TxHash.parse s <;> simp

theorem quantity (s : String) : ReadsWhole (Quantity.parse s) fun n => Quantity.parse s = .ok n := by
  refine ⟨fun n => Iff.rfl, fun e failed => ?_⟩
  rw [Quantity.parse] at failed
  split at failed
  · cases failed
  · split at failed
    · cases failed
    · exact ⟨_, (Except.error.inj failed).symm⟩

theorem quantity64 (s : String) :
    ReadsWhole (Quantity.parse64 s) fun n => Quantity.parse64 s = .ok n := by
  refine ⟨fun n => Iff.rfl, fun e failed => ?_⟩
  rw [Quantity.parse64] at failed
  split at failed
  · cases failed
  · exact ⟨_, (Except.error.inj failed).symm⟩

end ReadsWhole

/-- The texts of the row are those of the transaction. -/
structure TransactionRow.ReadsAs (row : TransactionRow) (tx : ChainTransaction) : Prop where
  hash : TxHash.parse row.hash = .ok tx.hash
  sender : Address.parse row.sender = .ok tx.sender
  recipient : Option.Rel (fun s a => Address.parse s = .ok a) row.recipient tx.recipient
  value : Quantity.parse row.value = .ok tx.value
  /-- A price that is missing is zero. -/
  gasPrice : ∃ price, Option.Rel (fun s n => Quantity.parse s = .ok n) row.gasPrice price ∧
    tx.gasPrice = price.getD 0
  blockNumber : Option.Rel (fun s n => Quantity.parse64 s = .ok n) row.blockNumber tx.blockNumber

/-- The texts of the row and of its transactions are those of the block. -/
structure BlockRow.ReadsAs (row : BlockRow) (b : Block) : Prop where
  number : Quantity.parse64 row.number = .ok b.number
  hash : b.hash = row.hash
  timestamp : Quantity.parse64 row.timestamp = .ok b.timestamp
  transactions : List.Forall₂ TransactionRow.ReadsAs row.transactions b.transactions

/-- The texts of the row are those of the receipt, with the same logs. -/
structure ReceiptRow.ReadsAs (row : ReceiptRow) (r : Receipt) : Prop where
  txHash : TxHash.parse row.txHash = .ok r.txHash
  blockNumber : Quantity.parse64 row.blockNumber = .ok r.blockNumber
  blockHash : r.blockHash = row.blockHash
  gasUsed : Quantity.parse64 row.gasUsed = .ok r.gasUsed
  contract : Option.Rel (fun s a => Address.parse s = .ok a) row.contract r.contract
  logs : r.logs = row.logs

theorem TransactionRow.readsWhole (row : TransactionRow) : ReadsWhole row.toTransaction row.ReadsAs := by
  have parts := (ReadsWhole.txHash row.hash).bind fun hash _ =>
    (ReadsWhole.address row.sender).bind fun sender _ =>
    (ReadsWhole.ifPresent ReadsWhole.address row.recipient).bind fun recipient _ =>
    (ReadsWhole.quantity row.value).bind fun value _ =>
    (ReadsWhole.ifPresent ReadsWhole.quantity row.gasPrice).bind fun gasPrice _ =>
    (ReadsWhole.ifPresent ReadsWhole.quantity64 row.blockNumber).bind fun blockNumber _ =>
    ReadsWhole.pure (⟨hash, sender, recipient, value, gasPrice.getD 0, blockNumber⟩ : ChainTransaction)
  refine parts.congr fun tx => ⟨?_, ?_⟩
  · rintro ⟨hash, h, sender, s, recipient, r, value, v, gasPrice, g, blockNumber, n, rfl⟩
    exact ⟨h, s, r, v, ⟨gasPrice, g, rfl⟩, n⟩
  · rintro ⟨h, s, r, v, ⟨gasPrice, g, price⟩, n⟩
    refine ⟨_, h, _, s, _, r, _, v, gasPrice, g, _, n, ?_⟩
    rw [← price]

theorem readTransactions_readsWhole (rows : List TransactionRow) :
    ReadsWhole (readTransactions rows) (List.Forall₂ TransactionRow.ReadsAs rows) := by
  induction rows with
  | nil =>
      refine (ReadsWhole.pure []).congr fun txs => ⟨fun h => h ▸ .nil, fun h => ?_⟩
      cases h
      rfl
  | cons row rows ih =>
      have parts := row.readsWhole.bind fun tx _ => ih.bind fun txs _ => ReadsWhole.pure (tx :: txs)
      refine parts.congr fun txs => ⟨?_, ?_⟩
      · rintro ⟨tx, first, others, rest, rfl⟩
        exact .cons first rest
      · rintro (_ | ⟨first, rest⟩)
        exact ⟨_, first, _, rest, rfl⟩

theorem BlockRow.readsWhole (row : BlockRow) : ReadsWhole row.toBlock row.ReadsAs := by
  have parts := (readTransactions_readsWhole row.transactions).bind fun transactions _ =>
    (ReadsWhole.quantity64 row.number).bind fun number _ =>
    (ReadsWhole.quantity64 row.timestamp).bind fun timestamp _ =>
    ReadsWhole.pure (⟨number, row.hash, timestamp, transactions⟩ : Block)
  refine parts.congr fun _ => ⟨?_, ?_⟩
  · rintro ⟨transactions, txs, number, n, timestamp, t, rfl⟩
    exact ⟨n, rfl, t, txs⟩
  · rintro ⟨n, hash, t, txs⟩
    refine ⟨_, txs, _, n, _, t, ?_⟩
    rw [← hash]

theorem ReceiptRow.readsWhole (row : ReceiptRow) : ReadsWhole row.toReceipt row.ReadsAs := by
  have parts := (ReadsWhole.txHash row.txHash).bind fun txHash _ =>
    (ReadsWhole.quantity64 row.blockNumber).bind fun blockNumber _ =>
    (ReadsWhole.quantity64 row.gasUsed).bind fun gasUsed _ =>
    (ReadsWhole.ifPresent ReadsWhole.address row.contract).bind fun contract _ =>
    ReadsWhole.pure (⟨txHash, blockNumber, row.blockHash, gasUsed, contract, row.logs⟩ : Receipt)
  refine parts.congr fun r => ⟨?_, ?_⟩
  · rintro ⟨txHash, h, blockNumber, n, gasUsed, g, contract, c, rfl⟩
    exact ⟨h, n, rfl, g, c, rfl⟩
  · rintro ⟨h, n, blockHash, g, c, logs⟩
    refine ⟨_, h, _, n, _, g, _, c, ?_⟩
    rw [← blockHash, ← logs]

/-! ## What is written -/

structure EventLog.WrittenAs (l : EventLog) (v : Json) : Prop where
  tidy : v.IsTidy
  emitter : v.Says "address" (· = l.emitter)
  topics : v.Lists "topics" (fun topic item => item = .str topic) l.topics
  data : v.Says "data" (· = l.data)

structure ChainTransaction.WrittenAs (tx : ChainTransaction) (v : Json) : Prop where
  tidy : v.IsTidy
  hash : v.Says "hash" tx.hash.SpelledBy
  sender : v.Says "from" tx.sender.SpelledBy
  recipient : v.SaysIfAny "to" Address.SpelledBy tx.recipient
  value : v.Says "value" (Quantity.SpelledBy tx.value)
  /-- A price of zero may also be left out. -/
  gasPrice : ∃ price, v.SaysIfAny "gasPrice" Quantity.SpelledBy price ∧ tx.gasPrice = price.getD 0
  blockNumber : v.SaysIfAny "blockNumber" Quantity.SpelledBy64 tx.blockNumber

structure Block.WrittenAs (b : Block) (v : Json) : Prop where
  tidy : v.IsTidy
  number : v.Says "number" (Quantity.SpelledBy64 b.number)
  hash : v.Says "hash" (· = b.hash)
  timestamp : v.Says "timestamp" (Quantity.SpelledBy64 b.timestamp)
  /-- No transactions may also be left out. -/
  transactions : v.Lists "transactions" ChainTransaction.WrittenAs b.transactions ∨
    v.member? "transactions" = none ∧ b.transactions = []

structure Receipt.WrittenAs (r : Receipt) (v : Json) : Prop where
  tidy : v.IsTidy
  txHash : v.Says "transactionHash" r.txHash.SpelledBy
  blockNumber : v.Says "blockNumber" (Quantity.SpelledBy64 r.blockNumber)
  blockHash : v.Says "blockHash" (· = r.blockHash)
  gasUsed : v.Says "gasUsed" (Quantity.SpelledBy64 r.gasUsed)
  contract : v.SaysIfAny "contractAddress" Address.SpelledBy r.contract
  logs : v.Lists "logs" EventLog.WrittenAs r.logs

theorem EventLog.WrittenAs.ofJson {l : EventLog} {v : Json} (written : l.WrittenAs v) :
    EventLog.ofJson v = .ok l := by
  obtain ⟨w, topics, found, gotTopics, same⟩ :=
    written.topics.read (Q := Eq) Json.readText fun s _ item => ⟨s, item ▸ rfl, rfl⟩
  rw [List.forall₂_eq_eq_eq] at same
  subst same
  have serves : ∀ f ∈ fields, v.Serves f := by
    simp only [fields, List.forall_mem_cons]
    exact ⟨written.emitter.serves, .of_check found (congrArg (Except.map _) gotTopics),
      written.data.serves, nofun⟩
  obtain ⟨r, read, value⟩ := written.tidy.exists_readRecord serves
  simp only [fields, List.forall_mem_cons] at value
  obtain ⟨emitterValue, topicsValue, dataValue, -⟩ := value
  obtain ⟨emitter, gotEmitter, rfl⟩ := written.emitter.get emitterValue
  obtain ⟨data, gotData, rfl⟩ := written.data.get dataValue
  have gotTopics : r.get "topics" (Json.readList Json.readText) = .ok l.topics :=
    (Json.Record.get_of_value? (topicsValue.trans found) _).trans gotTopics
  exact bind_eq_ok_iff.2 ⟨r, read, bind_eq_ok_iff.2 ⟨_, gotEmitter, bind_eq_ok_iff.2 ⟨_, gotTopics,
    bind_eq_ok_iff.2 ⟨_, gotData, rfl⟩⟩⟩⟩

theorem ChainTransaction.WrittenAs.exists_row {tx : ChainTransaction} {v : Json}
    (written : tx.WrittenAs v) : ∃ row, TransactionRow.ofJson v = .ok row ∧ row.ReadsAs tx := by
  obtain ⟨price, writtenPrice, isPrice⟩ := written.gasPrice
  have serves : ∀ f ∈ TransactionRow.fields, v.Serves f := by
    simp only [TransactionRow.fields, List.forall_mem_cons]
    exact ⟨written.hash.serves, written.sender.serves, written.recipient.serves, written.value.serves,
      writtenPrice.serves, written.blockNumber.serves, nofun⟩
  obtain ⟨r, read, value⟩ := written.tidy.exists_readRecord serves
  simp only [TransactionRow.fields, List.forall_mem_cons] at value
  obtain ⟨hashValue, senderValue, recipientValue, valueValue, priceValue, numberValue, -⟩ := value
  obtain ⟨hash, gotHash, hashReads⟩ := written.hash.get hashValue
  obtain ⟨sender, gotSender, senderReads⟩ := written.sender.get senderValue
  obtain ⟨recipient, gotRecipient, recipientReads⟩ :=
    written.recipient.getD (fun _ _ spelled => spelled.parse) recipientValue
  obtain ⟨amount, gotAmount, amountReads⟩ := written.value.get valueValue
  obtain ⟨gasPrice, gotPrice, priceReads⟩ :=
    writtenPrice.getD (fun _ _ spelled => spelled.parse) priceValue
  obtain ⟨blockNumber, gotNumber, numberReads⟩ :=
    written.blockNumber.getD (fun _ _ spelled => spelled.parse64) numberValue
  refine ⟨⟨hash, sender, recipient, amount, gasPrice, blockNumber⟩, ?_, hashReads.parse,
    senderReads.parse, recipientReads, amountReads.parse, ⟨price, priceReads, isPrice⟩, numberReads⟩
  exact bind_eq_ok_iff.2 ⟨r, read, bind_eq_ok_iff.2 ⟨_, gotHash, bind_eq_ok_iff.2 ⟨_, gotSender,
    bind_eq_ok_iff.2 ⟨_, gotRecipient, bind_eq_ok_iff.2 ⟨_, gotAmount, bind_eq_ok_iff.2 ⟨_, gotPrice,
    bind_eq_ok_iff.2 ⟨_, gotNumber, rfl⟩⟩⟩⟩⟩⟩⟩

theorem Block.WrittenAs.exists_row {b : Block} {v : Json} (written : b.WrittenAs v) :
    ∃ row, BlockRow.ofJson v = .ok row ∧ row.ReadsAs b := by
  -- Transactions may be left out; both ways serve the field and are read as the same list.
  have listed : v.Serves (Json.trailingField "transactions" (Json.readList TransactionRow.ofJson)) ∧
      ∃ rows, List.Forall₂ TransactionRow.ReadsAs rows b.transactions ∧
        ∀ r : Json.Record, r.value? "transactions" = v.member? "transactions" →
          r.getD "transactions" [] (Json.readList TransactionRow.ofJson) = .ok rows := by
    rcases written.transactions with listed | ⟨absent, none⟩
    · obtain ⟨w, rows, found, got, all⟩ := listed.read TransactionRow.ofJson fun _ _ tx => tx.exists_row
      exact ⟨.of_check found (congrArg (Except.map _) got), rows, all, fun r value =>
        (Json.Record.getD_of_value? (value.trans found) _ _).trans got⟩
    · exact ⟨.of_absent absent nofun, [], none ▸ .nil, fun r value =>
        Json.Record.getD_of_value?_eq_none (value.trans absent) _ _⟩
  obtain ⟨transactionsServe, rows, all, gotRows⟩ := listed
  have serves : ∀ f ∈ BlockRow.fields, v.Serves f := by
    simp only [BlockRow.fields, List.forall_mem_cons]
    exact ⟨written.number.serves, written.hash.serves, written.timestamp.serves, transactionsServe, nofun⟩
  obtain ⟨r, read, value⟩ := written.tidy.exists_readRecord serves
  simp only [BlockRow.fields, List.forall_mem_cons] at value
  obtain ⟨numberValue, hashValue, timestampValue, transactionsValue, -⟩ := value
  obtain ⟨number, gotNumber, numberReads⟩ := written.number.get numberValue
  obtain ⟨hash, gotHash, isHash⟩ := written.hash.get hashValue
  obtain ⟨timestamp, gotTimestamp, timestampReads⟩ := written.timestamp.get timestampValue
  refine ⟨⟨number, hash, timestamp, rows⟩, ?_, numberReads.parse64, isHash.symm, timestampReads.parse64,
    all⟩
  exact bind_eq_ok_iff.2 ⟨r, read, bind_eq_ok_iff.2 ⟨_, gotNumber, bind_eq_ok_iff.2 ⟨_, gotHash,
    bind_eq_ok_iff.2 ⟨_, gotTimestamp, bind_eq_ok_iff.2 ⟨_, gotRows r transactionsValue, rfl⟩⟩⟩⟩⟩

theorem Receipt.WrittenAs.exists_row {receipt : Receipt} {v : Json} (written : receipt.WrittenAs v) :
    ∃ row, ReceiptRow.ofJson v = .ok row ∧ row.ReadsAs receipt := by
  obtain ⟨w, logs, found, gotLogs, same⟩ :=
    written.logs.read (Q := Eq) EventLog.ofJson fun l _ item => ⟨l, item.ofJson, rfl⟩
  rw [List.forall₂_eq_eq_eq] at same
  have serves : ∀ f ∈ ReceiptRow.fields, v.Serves f := by
    simp only [ReceiptRow.fields, List.forall_mem_cons]
    exact ⟨written.txHash.serves, written.blockNumber.serves, written.blockHash.serves,
      written.gasUsed.serves, written.contract.serves,
      .of_check found (congrArg (Except.map _) gotLogs), nofun⟩
  obtain ⟨r, read, value⟩ := written.tidy.exists_readRecord serves
  simp only [ReceiptRow.fields, List.forall_mem_cons] at value
  obtain ⟨txHashValue, numberValue, blockHashValue, gasValue, contractValue, logsValue, -⟩ := value
  obtain ⟨txHash, gotTxHash, txHashReads⟩ := written.txHash.get txHashValue
  obtain ⟨number, gotNumber, numberReads⟩ := written.blockNumber.get numberValue
  obtain ⟨blockHash, gotBlockHash, isBlockHash⟩ := written.blockHash.get blockHashValue
  obtain ⟨gas, gotGas, gasReads⟩ := written.gasUsed.get gasValue
  obtain ⟨contract, gotContract, contractReads⟩ :=
    written.contract.getD (fun _ _ spelled => spelled.parse) contractValue
  have gotLogs : r.get "logs" (Json.readList EventLog.ofJson) = .ok logs :=
    (Json.Record.get_of_value? (logsValue.trans found) _).trans gotLogs
  refine ⟨⟨txHash, number, blockHash, gas, contract, logs⟩, ?_, txHashReads.parse, numberReads.parse64,
    isBlockHash.symm, gasReads.parse64, contractReads, same.symm⟩
  exact bind_eq_ok_iff.2 ⟨r, read, bind_eq_ok_iff.2 ⟨_, gotTxHash, bind_eq_ok_iff.2 ⟨_, gotNumber,
    bind_eq_ok_iff.2 ⟨_, gotBlockHash, bind_eq_ok_iff.2 ⟨_, gotGas, bind_eq_ok_iff.2 ⟨_, gotContract,
    bind_eq_ok_iff.2 ⟨_, gotLogs, rfl⟩⟩⟩⟩⟩⟩⟩

/-! ## Answers -/

namespace Answer

theorem object?_of_ok {α : Type} {what : String} {read : Json → Except Refusal α} {v : Json} {x : α}
    (there : v ≠ .null) (got : read v = .ok x) :
    object? what read v = .ok (some x) := by
  cases v with
  | null => exact absurd rfl there
  | _ => simp only [object?, got]

theorem object?_readsWhole {α : Type} {what : String} {read : Json → Except Refusal α} {v : Json}
    (there : v ≠ .null) :
    ReadsWhole (object? what read v) fun o => ∃ x, o = some x ∧ read v = .ok x := by
  cases got : read v with
  | ok x =>
      rw [object?_of_ok there got]
      refine (ReadsWhole.pure (some x)).congr fun o => ⟨?_, ?_⟩
      · rintro rfl
        exact ⟨x, rfl, rfl⟩
      · rintro ⟨_, rfl, same⟩
        rw [Except.ok.inj same]
  | error e =>
      have refused : object? what read v =
          .error (.invalidResponse ("Failed to parse " ++ what ++ ": not a " ++ what)) := by
        cases v with
        | null => exact absurd rfl there
        | _ => simp only [object?, got]
      rw [refused]
      refine ⟨fun o => iff_of_false nofun ?_, fun _ failed => ⟨_, (Except.error.inj failed).symm⟩⟩
      rintro ⟨_, -, ok⟩
      cases ok

theorem block_readsWhole {v : Json} (missing : String) (there : v ≠ .null) :
    ReadsWhole (block missing v) fun b => ∃ row, BlockRow.ofJson v = .ok row ∧ row.ReadsAs b := by
  refine ((object?_readsWhole there).bind (Q := fun o b => ∃ row ∈ o, row.ReadsAs b) ?_).congr ?_
  · rintro _ ⟨row, rfl, -⟩
    exact row.readsWhole.congr fun b => by simp
  · simp

theorem transaction_readsWhole {v : Json} (there : v ≠ .null) :
    ReadsWhole (transaction v) fun o =>
      ∃ row tx, TransactionRow.ofJson v = .ok row ∧ row.ReadsAs tx ∧ o = some tx := by
  refine ((object?_readsWhole there).bind
    (Q := fun o tx => ∃ row ∈ o, ∃ x, TransactionRow.ReadsAs row x ∧ tx = some x) ?_).congr ?_
  · rintro _ ⟨row, rfl, -⟩
    exact (row.readsWhole.map some).congr fun b => by simp
  · simp

theorem receipt_readsWhole {v : Json} (hash : TxHash) (there : v ≠ .null) :
    ReadsWhole (receipt hash v) fun r => ∃ row, ReceiptRow.ofJson v = .ok row ∧ row.ReadsAs r := by
  refine ((object?_readsWhole there).bind (Q := fun o b => ∃ row ∈ o, row.ReadsAs b) ?_).congr ?_
  · rintro _ ⟨row, rfl, -⟩
    exact row.readsWhole.congr fun b => by simp
  · simp

/-- A transaction, a block and a receipt are read back from the objects that they are `WrittenAs`.
Reading is all or nothing (`ReadsWhole`): either the row and all its texts can be read, or the response
is invalid. -/
theorem readsWhole_transaction_block_receipt :
    ((∀ (tx : ChainTransaction) (v : Json), tx.WrittenAs v → transaction v = .ok (some tx)) ∧
      (∀ (b : Block) (v : Json) (missing : String), b.WrittenAs v → block missing v = .ok b) ∧
      ∀ (r : Receipt) (v : Json) (hash : TxHash), r.WrittenAs v → receipt hash v = .ok r) ∧
    ((∀ row : TransactionRow, ReadsWhole row.toTransaction row.ReadsAs) ∧
      (∀ row : BlockRow, ReadsWhole row.toBlock row.ReadsAs) ∧
      ∀ row : ReceiptRow, ReadsWhole row.toReceipt row.ReadsAs) ∧
    ∀ v : Json, v ≠ .null →
      (ReadsWhole (transaction v) fun o =>
        ∃ row tx, TransactionRow.ofJson v = .ok row ∧ row.ReadsAs tx ∧ o = some tx) ∧
      (∀ missing, ReadsWhole (block missing v) fun b =>
        ∃ row, BlockRow.ofJson v = .ok row ∧ row.ReadsAs b) ∧
      ∀ hash, ReadsWhole (receipt hash v) fun r =>
        ∃ row, ReceiptRow.ofJson v = .ok row ∧ row.ReadsAs r := by
  refine ⟨⟨?_, ?_, ?_⟩, ⟨TransactionRow.readsWhole, BlockRow.readsWhole, ReceiptRow.readsWhole⟩,
    fun v there => ⟨transaction_readsWhole there, fun missing => block_readsWhole missing there,
      fun hash => receipt_readsWhole hash there⟩⟩
  · intro tx v written
    obtain ⟨row, got, reads⟩ := written.exists_row
    exact ((transaction_readsWhole written.tidy.ne_null).1 _).2 ⟨row, tx, got, reads, rfl⟩
  · intro b v missing written
    exact ((block_readsWhole missing written.tidy.ne_null).1 b).2 written.exists_row
  · intro r v hash written
    exact ((receipt_readsWhole hash written.tidy.ne_null).1 r).2 written.exists_row

theorem readsWhole_transaction_block_receipt_created_contract :
    block "block" (.obj [
        ("transactions", .array [.obj [
          ("value", .str "0xDe0b6B3a7640000"), ("to", .null), ("input", .str "0x60"),
          ("from", .str "0xDEADbeefdeadBEEFDEADbeefdeadBEEFDEADbeef"),
          ("hash", .str "0x00000000000000000000000000000000000000000000000000000000000000aB")]]),
        ("timestamp", .str "0x65A0bC00"), ("hash", .str "0xB10c"), ("miner", .null),
        ("number", .str "0x1B4")]) =
      .ok ⟨436, "0xB10c", 1705032704, [⟨⟨.ofNat 171⟩, .ofNat 0xdeadbeefdeadbeefdeadbeefdeadbeefdeadbeef, none,
        1000000000000000000, 0, none⟩]⟩ ∧
    receipt ⟨.ofNat 171⟩ (.obj [
        ("logs", .array [
          .obj [("address", .str "0xAb"), ("topics", .array [.str "0x01", .str "0X02"]), ("data", .str "0x")],
          .obj [("data", .str "FF"), ("logIndex", .str "0x1"), ("topics", .array []), ("address", .str "")]]),
        ("gasUsed", .str "0x5208"), ("blockHash", .str "0xB10c"), ("blockNumber", .str "0X1b4"),
        ("contractAddress", .str "0xDEADbeefdeadBEEFDEADbeefdeadBEEFDEADbeef"),
        ("transactionHash", .str "0x00000000000000000000000000000000000000000000000000000000000000Ab")]) =
      .ok ⟨⟨.ofNat 171⟩, 436, "0xB10c", 21000, some (.ofNat 0xdeadbeefdeadbeefdeadbeefdeadbeefdeadbeef),
        [⟨"0xAb", ["0x01", "0X02"], "0x"⟩, ⟨"", [], "FF"⟩]⟩ ∧
    ∃ e, block "block" (.obj [("number", .str "0x1B4")]) = .error e ∧ ∃ text, e = .invalidResponse text := by
  obtain ⟨⟨-, blocks, receipts⟩, -, parts⟩ := readsWhole_transaction_block_receipt
  refine ⟨blocks _ _ _ ?_, receipts _ _ _ ?_, ?_⟩
  · refine ⟨.of_obj (by decide) (by decide), ⟨_, rfl, by decide⟩, ⟨_, rfl, rfl⟩, ⟨_, rfl, by decide⟩,
      .inl ⟨_, rfl, .cons ⟨.of_obj (by decide) (by decide), ⟨_, rfl, by decide⟩, ⟨_, rfl, by decide⟩, .inr rfl,
        ⟨_, rfl, by decide⟩, ⟨none, .inl rfl, rfl⟩, .inl rfl⟩ .nil⟩⟩
  · refine ⟨.of_obj (by decide) (by decide), ⟨_, rfl, by decide⟩, ⟨_, rfl, by decide⟩, ⟨_, rfl, rfl⟩,
      ⟨_, rfl, by decide⟩, ⟨_, rfl, by decide⟩, ⟨_, rfl, .cons ?_ (.cons ?_ .nil)⟩⟩
    · exact ⟨.of_obj (by decide) (by decide), ⟨_, rfl, rfl⟩, ⟨_, rfl, .cons rfl (.cons rfl .nil)⟩, ⟨_, rfl, rfl⟩⟩
    · exact ⟨.of_obj (by decide) (by decide), ⟨_, rfl, rfl⟩, ⟨_, rfl, .nil⟩, ⟨_, rfl, rfl⟩⟩
  · refine ⟨_, rfl, ((parts (.obj [("number", .str "0x1B4")]) nofun).2.1 "block").2 _ rfl⟩

end Answer

end WalletWatch
