import WalletWatch.Chain.Extraction
import WalletWatch.Proofs.Chain.TransferEvent

/-!
# Parties of a transaction

`isInvolved` and the extraction of transfers find the parties of a transaction in two ways. The filter reads
topics leniently and takes the recipient as it stands; the extraction reads topics strictly and credits a
created contract. The lenient reader agrees with the strict one where that succeeds, so the filter misses no
token transfer, and a native one only if the transaction has no recipient (`paidAtCreation`).
-/

namespace WalletWatch

theorem isInvolved_of_event {tx : ChainTransaction} {receipt : Receipt} {a : Address} {l : EventLog}
    {e : TransferEvent} (hl : l ∈ receipt.logs) (he : TransferEvent.decode l = .ok e)
    (party : e.sender = a ∨ e.recipient = a) : isInvolved tx receipt a = true := by
  obtain ⟨shape, first, second, third, rest, topics, sender, recipient⟩ :=
    TransferEvent.topics_of_decode he
  simp only [isInvolved, Bool.or_eq_true, List.any_eq_true, Bool.and_eq_true]
  refine .inr ⟨l, hl, shape, ?_⟩
  simp only [topics, sender, recipient, Bool.or_eq_true, decide_eq_true_eq]
  exact party

theorem not_party_of_not_involved {tx : ChainTransaction} {receipt : Receipt} {a : Address}
    (h : isInvolved tx receipt a = false) : tx.sender ≠ a ∧ tx.recipient ≠ some a := by
  simp only [isInvolved, Bool.or_eq_false_iff, decide_eq_false_iff_not] at h
  exact h.1

def Transfer.parties (t : Transfer) : Address × Address :=
  (t.sender, t.recipient)

theorem Transfer.narrow_isEmpty (transfers : List Transfer) (a : Address) :
    (narrow transfers a).isEmpty =
      (transfers.map parties).all fun p => !(p.1 = a || p.2 = a) := by
  rw [Bool.eq_iff_iff]
  simp only [narrow, List.isEmpty_iff, List.filter_eq_nil_iff, List.all_eq_true, List.forall_mem_map,
    Bool.not_eq_true', Bool.not_eq_true]
  rfl

namespace Extraction

theorem tokenTransfers_cons_of_error (d : Token.Directory) (nodes : Nat → Node) (hash : TxHash)
    (place : Nat) {l : EventLog} (ls : List EventLog) (s : Session) {fault : EventFault}
    (he : TransferEvent.decode l = .error fault) :
    tokenTransfers d nodes hash place (l :: ls) s = tokenTransfers d nodes hash (place + 1) ls
      (if TransferEvent.isTransfer l then s.log (skipped hash place fault) else s) := by
  simp only [tokenTransfers, he]
  split <;> rfl

theorem tokenTransfers_cons_of_ok (d : Token.Directory) (nodes : Nat → Node) (hash : TxHash)
    (place : Nat) {l : EventLog} (ls : List EventLog) (s : Session) {e : TransferEvent}
    (he : TransferEvent.decode l = .ok e) :
    tokenTransfers d nodes hash place (l :: ls) s =
      let (symbol, s) := s.resolve d (nodes place) e.token
      let (transfers, s) := tokenTransfers d nodes hash (place + 1) ls s
      (e.toTransfer hash symbol place :: transfers, s) := by
  simp only [tokenTransfers, he]
  cases shape : TransferEvent.isTransfer l with
  | true => rfl
  | false =>
      rw [TransferEvent.decode_of_not_isTransfer shape] at he
      cases he

theorem exists_event_of_mem {d : Token.Directory} {nodes : Nat → Node} {hash : TxHash} {place : Nat}
    {ls : List EventLog} {s : Session} {t : Transfer}
    (ht : t ∈ (tokenTransfers d nodes hash place ls s).1) :
    t.isNative = false ∧ ∃ l ∈ ls, ∃ e, TransferEvent.decode l = .ok e ∧
      t.sender = e.sender ∧ t.recipient = e.recipient := by
  induction ls generalizing place s with
  | nil => simp [tokenTransfers] at ht
  | cons l ls ih =>
      have later : ∀ {place s}, t ∈ (tokenTransfers d nodes hash place ls s).1 →
          t.isNative = false ∧ ∃ l' ∈ l :: ls, ∃ e, TransferEvent.decode l' = .ok e ∧
            t.sender = e.sender ∧ t.recipient = e.recipient := fun ht => by
        obtain ⟨native, l', hl', e, rest⟩ := ih ht
        exact ⟨native, l', .tail _ hl', e, rest⟩
      cases he : TransferEvent.decode l with
      | error fault =>
          rw [tokenTransfers_cons_of_error d nodes hash place ls s he] at ht
          exact later ht
      | ok e =>
          rw [tokenTransfers_cons_of_ok d nodes hash place ls s he] at ht
          rcases List.mem_cons.1 ht with rfl | ht
          · refine ⟨?_, l, .head _, e, he, rfl, rfl⟩
            simp [Transfer.isNative, TransferEvent.toTransfer, Transfer.nativeIndex]
          · exact later ht

theorem map_parties_tokenTransfers (d : Token.Directory) (nodes : Nat → Node) (hash : TxHash) (place : Nat)
    (ls : List EventLog) (s : Session) :
    (tokenTransfers d nodes hash place ls s).1.map Transfer.parties =
      ls.filterMap fun l => match TransferEvent.decode l with
        | .ok e => some (e.sender, e.recipient)
        | .error _ => none := by
  induction ls generalizing place s with
  | nil => rfl
  | cons l ls ih =>
      cases he : TransferEvent.decode l with
      | error fault =>
          rw [tokenTransfers_cons_of_error d nodes hash place ls s he, ih,
            List.filterMap_cons_none (by simp [he])]
      | ok e =>
          rw [tokenTransfers_cons_of_ok d nodes hash place ls s he,
            List.filterMap_cons_some (b := (e.sender, e.recipient)) (by simp [he]), List.map_cons, ih]
          rfl

/-- Symbols and sessions do not decide whether `narrow` leaves a transfer. -/
theorem narrow_isEmpty_eq (d : Token.Directory) (node : Node) (tx : ChainTransaction)
    (receipt : Receipt) (a : Address) (s s' : Session) :
    (Transfer.narrow (transfers d node tx receipt s).1 a).isEmpty =
      (Transfer.narrow (transfers d node tx receipt s').1 a).isEmpty := by
  simp only [Transfer.narrow_isEmpty, transfers, transfersBy, List.map_append, map_parties_tokenTransfers]

end Extraction

/-- Whether `a` takes part only by being paid the native amount of a transaction without a recipient: as
the created contract, or as the zero address if there is none. -/
def paidAtCreation (tx : ChainTransaction) (receipt : Receipt) (a : Address) : Bool :=
  tx.recipient.isNone && tx.value ≠ 0 && tx.beneficiary receipt = a && !isInvolved tx receipt a

theorem paidAtCreation_eq_true_iff {tx : ChainTransaction} {receipt : Receipt} {a : Address} :
    paidAtCreation tx receipt a = true ↔
      tx.recipient = none ∧ tx.value ≠ 0 ∧ tx.beneficiary receipt = a ∧
        isInvolved tx receipt a = false := by
  simp [paidAtCreation, and_assoc]

theorem isInvolved_of_involves {d : Token.Directory} {node : Node} {tx : ChainTransaction}
    {receipt : Receipt} {s : Session} {a : Address} {t : Transfer}
    (ht : t ∈ (Extraction.transfers d node tx receipt s).1) (party : t.involves a = true) :
    isInvolved tx receipt a = true ∨ paidAtCreation tx receipt a = true ∧ t.isNative = true := by
  simp only [Transfer.involves, Bool.or_eq_true, decide_eq_true_eq] at party
  rcases List.mem_append.1 ht with ht | ht
  · rw [Option.mem_toList, ChainTransaction.nativeTransfer?] at ht
    split at ht
    · cases ht
    · next value =>
        cases ht
        cases involved : isInvolved tx receipt a with
        | true => exact .inl rfl
        | false =>
            obtain ⟨sender, recipient⟩ := not_party_of_not_involved involved
            have paid : tx.beneficiary receipt = a := party.resolve_left sender
            refine .inr ⟨paidAtCreation_eq_true_iff.2 ⟨?_, value, paid, involved⟩, rfl⟩
            cases hr : tx.recipient with
            | none => rfl
            | some b =>
                rw [ChainTransaction.beneficiary, hr] at paid
                exact absurd (hr.trans (congrArg some paid)) recipient
  · obtain ⟨-, l, hl, e, he, sender, recipient⟩ := Extraction.exists_event_of_mem ht
    rw [sender, recipient] at party
    exact .inl (isInvolved_of_event hl he party)

theorem exists_transfer_of_paidAtCreation {tx : ChainTransaction} {receipt : Receipt} {a : Address}
    (d : Token.Directory) (node : Node) (s : Session) (paid : paidAtCreation tx receipt a = true) :
    ∃ t ∈ (Extraction.transfers d node tx receipt s).1, t.involves a = true := by
  obtain ⟨-, value, rfl, -⟩ := paidAtCreation_eq_true_iff.1 paid
  rw [Extraction.transfers, Extraction.transfersBy, ChainTransaction.nativeTransfer?, if_neg value]
  exact ⟨_, .head _, by simp [Transfer.involves]⟩

theorem not_isInvolved_and_involves_iff (d : Token.Directory) (node : Node) (tx : ChainTransaction)
    (receipt : Receipt) (s : Session) (a : Address) :
    (isInvolved tx receipt a = false ∧
        ∃ t ∈ (Extraction.transfers d node tx receipt s).1, t.involves a = true) ↔
      paidAtCreation tx receipt a = true := by
  constructor
  · rintro ⟨involved, t, ht, party⟩
    rcases isInvolved_of_involves ht party with passed | ⟨paid, -⟩
    · rw [involved] at passed
      cases passed
    · exact paid
  · intro paid
    exact ⟨(paidAtCreation_eq_true_iff.1 paid).2.2.2, exists_transfer_of_paidAtCreation d node s paid⟩

end WalletWatch
