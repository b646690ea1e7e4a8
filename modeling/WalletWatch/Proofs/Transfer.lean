import WalletWatch.Proofs.Json.Record
import WalletWatch.Transfer

/-!
# Notifications are read back

A transfer, a transaction record and a notification are read back from their own documents. The variants
with `spelled` have other numerals for the amounts and the gas price; `Exact` says that such a text is taken
exactly if these have digits only, and is then written again.
-/

namespace WalletWatch

namespace Json

def setMember (v : Json) (key : String) (value : Json) : Json :=
  match v with
  | object members => object (members.map fun m => if m.1 = some key then (m.1, value) else m)
  | v => v

theorem setMember_obj (members : List (String × Json)) (key : String) (value : Json) :
    (obj members).setMember key value =
      obj (members.map fun m => if m.1 = key then (m.1, value) else m) := by
  simp only [setMember, obj, List.map_map, object.injEq]
  refine List.map_congr_left fun m _ => ?_
  by_cases name : m.1 = key <;> simp [name]

end Json

namespace Transfer

def Fits (t : Transfer) : Prop :=
  Width.fitsSigned64 t.logIndex = true

def toJsonWith (t : Transfer) (amount : String) : Json :=
  t.toJson.setMember "value" (.number amount)

/-- The document of a transfer whose amount is spelled as the numeral `l`. -/
def spelled (t : Transfer) (l : Json.Numeral) : Json :=
  t.toJsonWith (String.ofList l.text)

theorem toJsonWith_eq (t : Transfer) (amount : String) : t.toJsonWith amount =
    .obj [("tx_hash", t.txHash.toJson), ("from", t.sender.toJson), ("to", t.recipient.toJson),
      ("value", .number amount), ("token_symbol", .str t.symbol), ("token_address", t.token.toJson),
      ("log_index", .int t.logIndex)] := by
  simp [toJsonWith, toJson, Json.setMember_obj]

theorem toJsonWith_amount (t : Transfer) : t.toJsonWith (toString t.amount) = t.toJson :=
  t.toJsonWith_eq _

theorem ofJson_toJsonWith (t : Transfer) (fits : t.Fits) (amount : String) :
    ofJson (t.toJsonWith amount) = (Json.amountOfLiteral amount).map fun n => { t with amount := n } := by
  have logIndex := Json.readInt64_int fits
  rw [toJsonWith_eq, ofJson, Json.readRecord_obj (by decide) rfl]
  cases value : Json.amountOfLiteral amount with
  | error e =>
      simp [Json.checkAll, fields, Json.field, Json.readAmount, value, bind, Except.bind, Except.map]
  | ok n =>
      simp [Json.checkAll, fields, Json.field, Json.readAmount, value, logIndex, Json.Record.get, bind,
        Except.bind, pure, Except.pure, Except.map]

theorem taken_spelled (t : Transfer) (l : Json.Numeral) (fits : t.Fits) :
    Json.TakenIf ofJson toJson (t.spelled l) (l.isPlain = true)
    { t with amount := Decimal.value l.whole.text } := by
  refine ⟨t.toJsonWith (String.ofList l.kept), ?_, fun plain => ⟨?_, ?_⟩, fun other => ?_⟩
  · rw [spelled, toJsonWith_eq, toJsonWith_eq]
    exact .obj (.cons ⟨rfl, .str _⟩ (.cons ⟨rfl, .str _⟩ (.cons ⟨rfl, .str _⟩ (.cons ⟨rfl, .number l⟩
      (.cons ⟨rfl, .str _⟩ (.cons ⟨rfl, .str _⟩ (.cons ⟨rfl, .int _⟩ .nil)))))))
  · rw [ofJson_toJsonWith t fits, Json.amountOfLiteral_kept, if_pos plain]
    rfl
  · rw [← toJsonWith_amount, l.toString_value plain, spelled, toJsonWith_eq, toJsonWith_eq]
  · rw [ofJson_toJsonWith t fits, Json.amountOfLiteral_kept, if_neg other]
    exact ⟨_, rfl⟩

theorem spelled_amount (t : Transfer) : t.spelled (.ofNat t.amount) = t.toJson := by
  rw [spelled, ← Json.Numeral.toString_nat, toJsonWith_amount]

end Transfer

abbrev SpelledTransfers := List (Transfer × Json.Numeral)

namespace SpelledTransfers

def toJson (ts : SpelledTransfers) : Json :=
  .array (ts.map fun p => p.1.spelled p.2)

def values (ts : SpelledTransfers) : List Transfer :=
  ts.map fun p => { p.1 with amount := Decimal.value p.2.whole.text }

def ofTransfers (transfers : List Transfer) : SpelledTransfers :=
  transfers.map fun t => (t, .ofNat t.amount)

theorem values_ofTransfers (transfers : List Transfer) : (ofTransfers transfers).values = transfers := by
  have amounts : ∀ t ∈ transfers,
      { t with amount := Decimal.value (Json.Numeral.ofNat t.amount).whole.text } = t := by
    intro t _
    rw [Json.Numeral.value_ofNat]
  rw [values, ofTransfers, List.map_map]
  exact (List.map_congr_left amounts).trans (List.map_id' _)

theorem toJson_ofTransfers (transfers : List Transfer) :
    (ofTransfers transfers).toJson = .array (transfers.map Transfer.toJson) := by
  rw [toJson, ofTransfers, List.map_map]
  exact congrArg Json.array (List.map_congr_left fun t _ => t.spelled_amount)

theorem fits_ofTransfers {transfers : List Transfer} (fits : ∀ t ∈ transfers, t.Fits) :
    ∀ p ∈ ofTransfers transfers, p.1.Fits := by
  intro p hp
  obtain ⟨t, ht, rfl⟩ := List.mem_map.1 hp
  exact fits t ht

theorem isPlain_ofTransfers (transfers : List Transfer) :
    ∀ p ∈ ofTransfers transfers, p.2.isPlain = true := by
  intro p hp
  obtain ⟨t, -, rfl⟩ := List.mem_map.1 hp
  rfl

theorem taken (ts : SpelledTransfers) (fits : ∀ p ∈ ts, p.1.Fits) :
    Json.TakenIf (Json.readList Transfer.ofJson) (fun xs => .array (xs.map Transfer.toJson)) ts.toJson
      (∀ p ∈ ts, p.2.isPlain = true) ts.values :=
  .list fun p hp => p.1.taken_spelled p.2 (fits p hp)

end SpelledTransfers

namespace TransactionRecord

structure Fits (r : TransactionRecord) : Prop where
  blockNumber : Width.fits64 r.blockNumber = true
  gasUsed : Width.fits64 r.gasUsed = true
  transfers : ∀ t ∈ r.transfers, t.Fits

/-- The document of a record with another literal for the gas price and other transfers. -/
def toJsonWith (r : TransactionRecord) (gasPrice : String) (transfers : Json) : Json :=
  (r.toJson.setMember "gas_price" (.number gasPrice)).setMember "transfers" transfers

/-- The document of a record whose gas price and amounts are spelled as some numerals. -/
def spelled (r : TransactionRecord) (l : Json.Numeral) (ts : SpelledTransfers) : Json :=
  r.toJsonWith (String.ofList l.text) ts.toJson

theorem toJsonWith_eq (r : TransactionRecord) (gasPrice : String) (transfers : Json) :
    r.toJsonWith gasPrice transfers =
    .obj [("hash", r.hash.toJson), ("from", r.sender.toJson), ("to", Address.toJson? r.recipient),
      ("block_number", .nat r.blockNumber), ("timestamp", r.time.toJson), ("gas_used", .nat r.gasUsed),
      ("gas_price", .number gasPrice), ("transfers", transfers)] := by
  simp [toJsonWith, toJson, Json.setMember_obj]

theorem ofJson_toJsonWith (r : TransactionRecord) (fits : r.Fits) (gasPrice : String) (transfers : Json) :
    ofJson (r.toJsonWith gasPrice transfers) = do
      let n ← Json.amountOfLiteral gasPrice
      let xs ← Json.readList Transfer.ofJson transfers
      return { r with gasPrice := n, transfers := xs } := by
  have blockNumber := Json.readNat64_nat fits.blockNumber
  have gasUsed := Json.readNat64_nat fits.gasUsed
  rw [toJsonWith_eq, ofJson, Json.readRecord_obj (by decide) rfl]
  cases price : Json.amountOfLiteral gasPrice with
  | error e =>
      simp [Json.checkAll, fields, Json.field, Json.readAmount, price, blockNumber, gasUsed, bind,
        Except.bind, Except.map]
  | ok n =>
      cases items : Json.readList Transfer.ofJson transfers with
      | error e =>
          simp [Json.checkAll, fields, Json.field, Json.readAmount, price, items, blockNumber, gasUsed,
            bind, Except.bind, Except.map]
      | ok xs =>
          simp [Json.checkAll, fields, Json.field, Json.readAmount, price, items, blockNumber, gasUsed,
            Json.Record.get, bind, Except.bind, pure, Except.pure, Except.map]

theorem taken_spelled (r : TransactionRecord) (l : Json.Numeral) (ts : SpelledTransfers) (fits : r.Fits)
    (parts : ∀ p ∈ ts, p.1.Fits) :
    Json.TakenIf ofJson toJson (r.spelled l ts) (l.isPlain = true ∧ ∀ p ∈ ts, p.2.isPlain = true)
      { r with gasPrice := Decimal.value l.whole.text, transfers := ts.values } := by
  obtain ⟨w, rereads, taken, refused⟩ := ts.taken parts
  refine ⟨r.toJsonWith (String.ofList l.kept) w, ?_, fun ⟨plain, plains⟩ => ⟨?_, ?_⟩, fun other => ?_⟩
  · rw [spelled, toJsonWith_eq, toJsonWith_eq]
    exact .obj (.cons ⟨rfl, .str _⟩ (.cons ⟨rfl, .str _⟩ (.cons ⟨rfl, .str _⟩ (.cons ⟨rfl, .nat _⟩
      (.cons ⟨rfl, .str _⟩ (.cons ⟨rfl, .nat _⟩ (.cons ⟨rfl, .number l⟩ (.cons ⟨rfl, rereads⟩ .nil))))))))
  · rw [ofJson_toJsonWith r fits, Json.amountOfLiteral_kept, if_pos plain, (taken plains).1]
    rfl
  · rw [spelled, toJsonWith_eq, ← (taken plains).2, ← l.toString_value plain]
    rfl
  · rw [ofJson_toJsonWith r fits, Json.amountOfLiteral_kept]
    split
    · next plain =>
        obtain ⟨e, he⟩ := refused fun plains => other ⟨plain, plains⟩
        rw [he]
        exact ⟨e, rfl⟩
    · exact ⟨_, rfl⟩

theorem spelled_amounts (r : TransactionRecord) :
    r.spelled (.ofNat r.gasPrice) (.ofTransfers r.transfers) = r.toJson := by
  rw [spelled, SpelledTransfers.toJson_ofTransfers, ← Json.Numeral.toString_nat, toJsonWith_eq]
  rfl

end TransactionRecord

namespace Notification

structure Fits (n : Notification) : Prop where
  transaction : n.transaction.Fits
  transfers : ∀ t ∈ n.transfers, t.Fits
  subscribers : ∀ u ∈ n.subscribers, Width.fitsSigned64 u = true

/-- The document of a notification with other documents for the transaction and the transfers. -/
def toJsonWith (n : Notification) (transaction transfers : Json) : Json :=
  (n.toJson.setMember "transaction" transaction).setMember "transfers" transfers

/-- The document of a notification whose gas price and amounts are spelled as some numerals. -/
def spelled (n : Notification) (l : Json.Numeral) (ts us : SpelledTransfers) : Json :=
  n.toJsonWith (n.transaction.spelled l ts) us.toJson

theorem toJsonWith_eq (n : Notification) (transaction transfers : Json) :
    n.toJsonWith transaction transfers =
    .obj [("wallet_address", n.address.toJson), ("transaction", transaction), ("transfers", transfers),
      ("subscribers", .array (n.subscribers.map .int)), ("timestamp", n.time.toJson)] := by
  simp [toJsonWith, toJson, Json.setMember_obj]

theorem ofJson_toJsonWith (n : Notification) (fits : n.Fits) (transaction transfers : Json) :
    ofJson (n.toJsonWith transaction transfers) = do
      let r ← TransactionRecord.ofJson transaction
      let xs ← Json.readList Transfer.ofJson transfers
      return { n with transaction := r, transfers := xs } := by
  have subscribers : Json.readList Json.readInt64 (.array (n.subscribers.map .int)) = .ok n.subscribers := by
    have read := Json.readItemsWith_map id fun u hu => Json.readInt64_int (fits.subscribers u hu)
    rwa [List.map_id] at read
  rw [toJsonWith_eq, ofJson, Json.readRecord_obj (by decide) rfl]
  cases record : TransactionRecord.ofJson transaction with
  | error e => simp [Json.checkAll, fields, Json.field, record, bind, Except.bind, Except.map]
  | ok r =>
      cases items : Json.readList Transfer.ofJson transfers with
      | error e =>
          simp [Json.checkAll, fields, Json.field, record, items, bind, Except.bind, Except.map]
      | ok xs =>
          simp [Json.checkAll, fields, Json.field, record, items, subscribers, Json.Record.get, bind,
            Except.bind, pure, Except.pure, Except.map]

theorem taken_spelled (n : Notification) (l : Json.Numeral) (ts us : SpelledTransfers) (fits : n.Fits)
    (parts : ∀ p ∈ ts, p.1.Fits) (others : ∀ p ∈ us, p.1.Fits) :
    Json.TakenIf ofJson toJson (n.spelled l ts us)
      (l.isPlain = true ∧ (∀ p ∈ ts, p.2.isPlain = true) ∧ ∀ p ∈ us, p.2.isPlain = true)
      { n with
        transaction :=
          { n.transaction with gasPrice := Decimal.value l.whole.text, transfers := ts.values }
        transfers := us.values } := by
  obtain ⟨v, record, taken, refused⟩ := n.transaction.taken_spelled l ts fits.transaction parts
  obtain ⟨w, items, taken', refused'⟩ := us.taken others
  refine ⟨n.toJsonWith v w, ?_, fun ⟨plain, plains, plains'⟩ => ⟨?_, ?_⟩, fun other => ?_⟩
  · have subscribers : List.Forall₂ Json.Rereads (n.subscribers.map Json.int) (n.subscribers.map Json.int) :=
      List.forall₂_same.2 fun u hu => by
        obtain ⟨_, _, rfl⟩ := List.mem_map.1 hu
        exact .int _
    rw [spelled, toJsonWith_eq, toJsonWith_eq]
    exact .obj (.cons ⟨rfl, .str _⟩ (.cons ⟨rfl, record⟩ (.cons ⟨rfl, items⟩
      (.cons ⟨rfl, .array subscribers⟩ (.cons ⟨rfl, .str _⟩ .nil)))))
  · rw [ofJson_toJsonWith n fits, (taken ⟨plain, plains⟩).1, (taken' plains').1]
    rfl
  · rw [spelled, toJsonWith_eq, ← (taken ⟨plain, plains⟩).2, ← (taken' plains').2]
    rfl
  · rw [ofJson_toJsonWith n fits]
    by_cases holds : l.isPlain = true ∧ ∀ p ∈ ts, p.2.isPlain = true
    · obtain ⟨e, he⟩ := refused' fun plains' => other ⟨holds.1, holds.2, plains'⟩
      rw [(taken holds).1, he]
      exact ⟨e, rfl⟩
    · obtain ⟨e, he⟩ := refused holds
      rw [he]
      exact ⟨e, rfl⟩

theorem spelled_amounts (n : Notification) : n.spelled (.ofNat n.transaction.gasPrice)
    (.ofTransfers n.transaction.transfers) (.ofTransfers n.transfers) = n.toJson := by
  rw [spelled, SpelledTransfers.toJson_ofTransfers, TransactionRecord.spelled_amounts, toJsonWith_eq]
  rfl

end Notification

/-- `decode` takes `text` exactly under `condition`, and `encode` writes what was taken as `text` again. -/
structure Exact {α : Type} (decode : String → Except Refusal α) (encode : α → String) (text : String)
    (condition : Prop) : Prop where
  taken : (∃ x, decode text = .ok x) ↔ condition
  again : ∀ x, decode text = .ok x → encode x = text

theorem Json.TakenIf.exact {α : Type} {read : Json → Except Refusal α} {write : α → Json} {v : Json}
    {condition : Prop} {x : α} (h : TakenIf read write v condition x) :
    Exact (readDocument read) (fun x => (write x).compact) v.compact condition := by
  refine ⟨h.readDocument_eq_ok_iff, fun y hy => ?_⟩
  obtain ⟨read, same⟩ := h.readDocument_eq_ok (h.readDocument_eq_ok_iff.1 ⟨y, hy⟩)
  rw [read] at hy
  cases hy
  exact same

namespace Json.Numeral

end Json.Numeral

theorem Transfer.decode_encode (t : Transfer) (fits : t.Fits) : decode t.encode = .ok t := by
  have taken := (t.taken_spelled (.ofNat t.amount) fits).readDocument_eq_ok rfl
  rw [spelled_amount, Json.Numeral.value_ofNat] at taken
  exact taken.1

theorem TransactionRecord.decode_encode (r : TransactionRecord) (fits : r.Fits) :
    decode r.encode = .ok r := by
  have taken := (r.taken_spelled (.ofNat r.gasPrice) (.ofTransfers r.transfers) fits
    (SpelledTransfers.fits_ofTransfers fits.transfers)).readDocument_eq_ok
      ⟨rfl, SpelledTransfers.isPlain_ofTransfers _⟩
  rw [spelled_amounts, Json.Numeral.value_ofNat, SpelledTransfers.values_ofTransfers] at taken
  exact taken.1

theorem Notification.decode_encode (n : Notification) (fits : n.Fits) : decode n.encode = .ok n := by
  have taken := (n.taken_spelled (.ofNat n.transaction.gasPrice) (.ofTransfers n.transaction.transfers)
    (.ofTransfers n.transfers) fits (SpelledTransfers.fits_ofTransfers fits.transaction.transfers)
    (SpelledTransfers.fits_ofTransfers fits.transfers)).readDocument_eq_ok
      ⟨rfl, SpelledTransfers.isPlain_ofTransfers _, SpelledTransfers.isPlain_ofTransfers _⟩
  rw [spelled_amounts, Json.Numeral.value_ofNat, SpelledTransfers.values_ofTransfers,
    SpelledTransfers.values_ofTransfers] at taken
  exact taken.1

namespace Notification

end Notification

end WalletWatch
