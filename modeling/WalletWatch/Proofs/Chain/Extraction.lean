import WalletWatch.Proofs.Chain.Reference

/-!
# The transfers of a receipt

`events` are the transfer events of some logs that can be decoded, with their places, and
`Session.resolveAll` looks up some tokens one after the other. `tokenTransfers` does both at once; the
lemmas take it apart into reading all events and then looking up their tokens. `filter_tokenTransfers` and
`map_withSymbol_filter_set` say what stands at one place and at all others.
-/

namespace WalletWatch

namespace TransferEvent

/-- The event of a log, if it can be decoded. -/
def read? (l : EventLog) : Option TransferEvent :=
  (decode l).toOption

theorem read?_of_ok {l : EventLog} {e : TransferEvent} (h : decode l = .ok e) : read? l = some e := by
  rw [read?, h]
  rfl

theorem read?_of_error {l : EventLog} {fault : EventFault} (h : decode l = .error fault) :
    read? l = none := by
  rw [read?, h]
  rfl

@[simp]
theorem logIndex_toTransfer (e : TransferEvent) (hash : TxHash) (symbol : String) (place : Nat) :
    (e.toTransfer hash symbol place).logIndex = place := rfl

end TransferEvent

open TransferEvent (read? read?_of_ok read?_of_error)

namespace Extraction

/-- The events that can be decoded in the logs from `place` on, with their places. -/
def events (place : Nat) (ls : List EventLog) : List (Nat × TransferEvent) :=
  (ls.zipIdx place).filterMap fun p => (read? p.1).map (p.2, ·)

theorem events_cons_of_some {l : EventLog} {e : TransferEvent} (place : Nat) (ls : List EventLog)
    (h : read? l = some e) :
    events place (l :: ls) = (place, e) :: events (place + 1) ls := by
  simp [events, List.zipIdx_cons, h]

theorem events_cons_of_none {l : EventLog} (place : Nat) (ls : List EventLog) (h : read? l = none) :
    events place (l :: ls) = events (place + 1) ls := by
  simp [events, List.zipIdx_cons, h]

theorem places_sublist (place : Nat) (ls : List EventLog) :
    ((events place ls).map Prod.fst).Sublist (List.range' place ls.length) := by
  induction ls generalizing place with
  | nil => exact .slnil
  | cons l ls ih =>
      rw [List.length_cons, List.range'_succ]
      cases read : read? l with
      | none =>
          rw [events_cons_of_none place ls read]
          exact (ih (place + 1)).cons place
      | some e =>
          rw [events_cons_of_some place ls read]
          exact (ih (place + 1)).cons_cons place

theorem places_increase (place : Nat) (ls : List EventLog) : (events place ls).Pairwise (·.1 < ·.1) :=
  List.pairwise_map.1 (.sublist (places_sublist place ls) List.pairwise_lt_range')

theorem le_of_mem_events (place : Nat) (ls : List EventLog) {p : Nat × TransferEvent}
    (h : p ∈ events place ls) : place ≤ p.1 :=
  (List.mem_range'_1.1 ((places_sublist place ls).subset (List.mem_map_of_mem h))).1

theorem filter_events_set (place : Nat) (ls : List EventLog) (i : Nat) (l : EventLog) :
    (events place (ls.set i l)).filter (fun p => p.1 ≠ place + i) =
      (events place ls).filter (fun p => p.1 ≠ place + i) := by
  induction ls generalizing place i with
  | nil => rfl
  | cons l' ls ih =>
      cases i with
      | zero =>
          have skip (l : EventLog) : (events place (l :: ls)).filter (fun p => p.1 ≠ place + 0) =
              (events (place + 1) ls).filter (fun p => p.1 ≠ place + 0) := by
            cases read : read? l with
            | none => rw [events_cons_of_none place ls read]
            | some e => rw [events_cons_of_some place ls read, List.filter_cons_of_neg (by simp)]
          rw [List.set_cons_zero, skip l, skip l']
      | succ i =>
          have rest := ih (place + 1) i
          rw [show place + 1 + i = place + (i + 1) by omega] at rest
          rw [List.set_cons_succ]
          cases read : read? l' with
          | none => rw [events_cons_of_none place _ read, events_cons_of_none place _ read, rest]
          | some e =>
              rw [events_cons_of_some place _ read, events_cons_of_some place _ read,
                List.filter_cons_of_pos (by simp), List.filter_cons_of_pos (by simp), rest]

end Extraction

namespace Transfer

def withSymbol (symbol : String) (t : Transfer) : Transfer :=
  { t with symbol := symbol }

@[simp]
theorem logIndex_withSymbol (symbol : String) (t : Transfer) :
    (t.withSymbol symbol).logIndex = t.logIndex := rfl

end Transfer

open Transfer (withSymbol)

namespace Session

/-- Looks up the symbols of some tokens one after the other, each with the answers of its own node. -/
def resolveAll (d : Token.Directory) : List (Node × Address) → Session → List String × Session
  | [], s => ([], s)
  | (node, token) :: asks, s =>
    let (symbol, s) := s.resolve d node token
    let (symbols, s) := resolveAll d asks s
    (symbol :: symbols, s)

/-- Sessions that differ in nothing but their logs. -/
structure Alike (s s' : Session) : Prop where
  cache : s.cache = s'.cache
  receipts : s.receipts = s'.receipts
  calls : s.calls = s'.calls

theorem Alike.refl {s : Session} : Alike s s := ⟨rfl, rfl, rfl⟩

theorem Alike.log {s s' : Session} (h : Alike s s') (e : LogEntry) : Alike (s.log e) s' :=
  ⟨h.cache, h.receipts, h.calls⟩

theorem Alike.resolve {s s' : Session} (h : Alike s s') (d : Token.Directory) (node : Node)
    (token : Address) :
    (s.resolve d node token).1 = (s'.resolve d node token).1 ∧
      Alike (s.resolve d node token).2 (s'.resolve d node token).2 := by
  obtain ⟨cache, receipts, calls⟩ := h
  refine ⟨?_, ?_, receipts, ?_⟩ <;> simp only [Session.resolve, cache, calls]

theorem resolveAll_symbols (d : Token.Directory) (node : Node) (tokens : List Address) (s : Session) :
    (s.resolveAll d (tokens.map fun token => (node, token))).1 = tokens.map (s.shown d node) := by
  induction tokens generalizing s with
  | nil => rfl
  | cons token tokens ih =>
      calc (s.resolveAll d ((token :: tokens).map fun token => (node, token))).1
          = s.shown d node token :: ((s.resolve d node token).2.resolveAll d
              (tokens.map fun token => (node, token))).1 := rfl
        _ = (token :: tokens).map (s.shown d node) := by
            rw [ih, (kept_resolve token).shown, List.map_cons]

end Session

open Session (Alike)

namespace Extraction

def asks (nodes : Nat → Node) (found : List (Nat × TransferEvent)) : List (Node × Address) :=
  found.map fun p => (nodes p.1, p.2.token)

/-- The transfers of some events with their symbols. -/
def transfersOf (hash : TxHash) (found : List (Nat × TransferEvent)) (symbols : List String) :
    List Transfer :=
  found.zipWith (fun p symbol => p.2.toTransfer hash symbol p.1) symbols

/-- `tokenTransfers` reads the `events`, looks up their tokens in order, and otherwise only writes to the
log. -/
theorem tokenTransfers_eq_resolveAll (d : Token.Directory) (nodes : Nat → Node) (hash : TxHash)
    (place : Nat) (ls : List EventLog) {s s' : Session} (h : Alike s s') :
    (tokenTransfers d nodes hash place ls s).1 = transfersOf hash (events place ls)
        (s'.resolveAll d (asks nodes (events place ls))).1 ∧
      Alike (tokenTransfers d nodes hash place ls s).2
        (s'.resolveAll d (asks nodes (events place ls))).2 := by
  induction ls generalizing place s s' with
  | nil => exact ⟨rfl, h⟩
  | cons l ls ih =>
      cases he : TransferEvent.decode l with
      | error fault =>
          rw [tokenTransfers_cons_of_error d nodes hash place ls s he,
            events_cons_of_none place ls (read?_of_error he)]
          split
          · exact ih (place + 1) (h.log _)
          · exact ih (place + 1) h
      | ok e =>
          obtain ⟨symbol, alike⟩ := h.resolve d (nodes place) e.token
          obtain ⟨found, after⟩ := ih (place + 1) alike
          rw [tokenTransfers_cons_of_ok d nodes hash place ls s he,
            events_cons_of_some place ls (read?_of_ok he)]
          refine ⟨?_, after⟩
          exact congrArg₂ (fun symbol transfers => e.toTransfer hash symbol place :: transfers) symbol found

theorem map_withSymbol_tokenTransfers (d : Token.Directory) (nodes : Nat → Node) (hash : TxHash)
    (place : Nat) (ls : List EventLog) (s : Session) (symbol : String) :
    (tokenTransfers d nodes hash place ls s).1.map (withSymbol symbol) =
      (events place ls).map fun p => p.2.toTransfer hash symbol p.1 := by
  induction ls generalizing place s with
  | nil => rfl
  | cons l ls ih =>
      cases he : TransferEvent.decode l with
      | error fault =>
          rw [tokenTransfers_cons_of_error d nodes hash place ls s he, ih,
            events_cons_of_none place ls (read?_of_error he)]
      | ok e =>
          rw [tokenTransfers_cons_of_ok d nodes hash place ls s he, List.map_cons, ih,
            events_cons_of_some place ls (read?_of_ok he)]
          rfl

theorem le_logIndex_of_mem {d : Token.Directory} {nodes : Nat → Node} {hash : TxHash} {place : Nat}
    {ls : List EventLog} {s : Session} {t : Transfer}
    (ht : t ∈ (tokenTransfers d nodes hash place ls s).1) : (place : Int) ≤ t.logIndex := by
  have mem := List.mem_map_of_mem (f := withSymbol "") ht
  rw [map_withSymbol_tokenTransfers] at mem
  obtain ⟨p, hp, same⟩ := List.mem_map.1 mem
  have index : (p.1 : Int) = t.logIndex := congrArg Transfer.logIndex same
  rw [← index]
  exact Int.ofNat_le.2 (le_of_mem_events place ls hp)

/-- At each place there is the transfer of its log, with the symbol of its token in the session after the
logs before it. -/
theorem filter_tokenTransfers (d : Token.Directory) (nodes : Nat → Node) (hash : TxHash)
    (place i : Nat) (ls : List EventLog) (s : Session) :
    (tokenTransfers d nodes hash place ls s).1.filter (fun t => t.logIndex = ((place + i : Nat) : Int)) =
      ((ls[i]?.bind read?).map fun e => e.toTransfer hash
        ((tokenTransfers d nodes hash place (ls.take i) s).2.resolve d (nodes (place + i)) e.token).1
        (place + i)).toList := by
  induction ls generalizing place i s with
  | nil => rfl
  | cons l ls ih =>
      -- The other logs stand at later places, so nothing of theirs is left for the first place.
      have later (s : Session) : (tokenTransfers d nodes hash (place + 1) ls s).1.filter
          (fun t => t.logIndex = ((place + 0 : Nat) : Int)) = [] := by
        rw [List.filter_eq_nil_iff]
        intro t ht
        have := le_logIndex_of_mem ht
        simp only [decide_eq_true_eq]
        omega
      have shift (i : Nat) : place + (i + 1) = place + 1 + i := by omega
      cases he : TransferEvent.decode l with
      | error fault =>
          rw [tokenTransfers_cons_of_error d nodes hash place ls s he]
          cases i with
          | zero =>
              rw [later, List.getElem?_cons_zero, Option.bind_some, read?_of_error he]
              rfl
          | succ i =>
              rw [List.take_succ_cons, tokenTransfers_cons_of_error d nodes hash place _ s he, shift]
              exact ih (place + 1) i _
      | ok e =>
          rw [tokenTransfers_cons_of_ok d nodes hash place ls s he]
          cases i with
          | zero =>
              rw [List.filter_cons_of_pos (by simp), later, List.getElem?_cons_zero,
                Option.bind_some, read?_of_ok he]
              rfl
          | succ i =>
              have other : ¬ ((place : Int) = ((place + 1 + i : Nat) : Int)) := by omega
              rw [List.take_succ_cons, tokenTransfers_cons_of_ok d nodes hash place _ s he, shift,
                List.filter_cons_of_neg (by rwa [decide_eq_true_eq])]
              exact ih (place + 1) i _

theorem native_toList (tx : ChainTransaction) (receipt : Receipt) (symbol : String) :
    (tx.nativeTransfer? receipt symbol).toList = if tx.value = 0 then [] else
      [⟨tx.hash, tx.sender, tx.beneficiary receipt, tx.value, symbol, .zero, -1⟩] := by
  unfold ChainTransaction.nativeTransfer?
  split <;> rfl

theorem logIndex_of_mem_native {tx : ChainTransaction} {receipt : Receipt} {symbol : String}
    {t : Transfer} (ht : t ∈ (tx.nativeTransfer? receipt symbol).toList) : t.logIndex = -1 := by
  rw [native_toList] at ht
  split at ht
  · cases ht
  · rw [List.mem_singleton.1 ht]

theorem filter_native_eq_nil (tx : ChainTransaction) (receipt : Receipt) (symbol : String) (i : Nat) :
    (tx.nativeTransfer? receipt symbol).toList.filter (fun t => t.logIndex = (i : Int)) = [] := by
  rw [List.filter_eq_nil_iff]
  intro t ht
  rw [logIndex_of_mem_native ht]
  simp

theorem filter_transfersBy (d : Token.Directory) (nodes : Nat → Node) (tx : ChainTransaction)
    (receipt : Receipt) (s : Session) (i : Nat) :
    (transfersBy d nodes tx receipt s).1.filter (fun t => t.logIndex = (i : Int)) =
      ((receipt.logs[i]?.bind read?).map fun e => e.toTransfer tx.hash
        ((transfersBy d nodes tx { receipt with logs := receipt.logs.take i } s).2.resolve d (nodes i)
          e.token).1 i).toList := by
  have found := filter_tokenTransfers d nodes tx.hash 0 i receipt.logs s
  rw [Nat.zero_add] at found
  rw [transfersBy, List.filter_append, filter_native_eq_nil, List.nil_append, found]
  rfl

theorem map_withSymbol_transfersBy (d : Token.Directory) (nodes : Nat → Node) (tx : ChainTransaction)
    (receipt : Receipt) (s : Session) (symbol : String) :
    (transfersBy d nodes tx receipt s).1.map (withSymbol symbol) =
      (tx.nativeTransfer? receipt d.native).toList.map (withSymbol symbol) ++
        (events 0 receipt.logs).map fun p => p.2.toTransfer tx.hash symbol p.1 := by
  rw [transfersBy, List.map_append, map_withSymbol_tokenTransfers]

theorem logIndex_increases (d : Token.Directory) (nodes : Nat → Node) (tx : ChainTransaction)
    (receipt : Receipt) (s : Session) :
    ((transfersBy d nodes tx receipt s).1.map (·.logIndex)).Pairwise (· < ·) := by
  have places : (transfersBy d nodes tx receipt s).1.map (·.logIndex) =
      ((transfersBy d nodes tx receipt s).1.map (withSymbol "")).map (·.logIndex) := by
    rw [List.map_map]
    rfl
  rw [places, map_withSymbol_transfersBy, List.pairwise_map, List.pairwise_append]
  refine ⟨?_, ?_, ?_⟩
  · rw [native_toList]
    split <;> simp
  · rw [List.pairwise_map]
    exact (places_increase 0 receipt.logs).imp Int.ofNat_lt.2
  · intro t ht t' ht'
    obtain ⟨native, found, rfl⟩ := List.mem_map.1 ht
    obtain ⟨p, -, rfl⟩ := List.mem_map.1 ht'
    rw [Transfer.logIndex_withSymbol, logIndex_of_mem_native found, TransferEvent.logIndex_toTransfer]
    omega

theorem not_isNative_of_mem_tail {d : Token.Directory} {nodes : Nat → Node} {tx : ChainTransaction}
    {receipt : Receipt} {s : Session} {t : Transfer} (ht : t ∈ (transfersBy d nodes tx receipt s).1.tail) :
    t.isNative = false := by
  have token : t ∈ (tokenTransfers d nodes tx.hash 0 receipt.logs s).1 := by
    simp only [transfersBy, native_toList] at ht
    split at ht
    · exact List.mem_of_mem_tail ht
    · exact ht
  exact (exists_event_of_mem token).1

/-- Another log at one place changes at most symbols at other places. -/
theorem map_withSymbol_filter_set (d : Token.Directory) (nodes : Nat → Node) (tx : ChainTransaction)
    (receipt : Receipt) (s : Session) (symbol : String) (i : Nat) (l : EventLog) :
    ((transfersBy d nodes tx { receipt with logs := receipt.logs.set i l } s).1.filter
        (fun t => t.logIndex ≠ (i : Int))).map (withSymbol symbol) =
      ((transfersBy d nodes tx receipt s).1.filter (fun t => t.logIndex ≠ (i : Int))).map
        (withSymbol symbol) := by
  have swap (ts : List Transfer) : (ts.filter (fun t => t.logIndex ≠ (i : Int))).map (withSymbol symbol) =
      (ts.map (withSymbol symbol)).filter (fun t => t.logIndex ≠ (i : Int)) := by
    rw [List.filter_map]
    rfl
  have place (p : Nat × TransferEvent) :
      (p.2.toTransfer tx.hash symbol p.1).logIndex ≠ (i : Int) ↔ p.1 ≠ 0 + i := by
    rw [TransferEvent.logIndex_toTransfer, Nat.zero_add, Ne, Int.ofNat_inj]
  have others := filter_events_set 0 receipt.logs i l
  rw [swap, swap, map_withSymbol_transfersBy, map_withSymbol_transfersBy, List.filter_append,
    List.filter_append]
  simp only [List.filter_map, Function.comp_def, place, others]
  rfl

/-! ### A node that stays as it is -/

theorem transfers_eq_map (d : Token.Directory) (node : Node) (tx : ChainTransaction) (receipt : Receipt)
    (s : Session) :
    (transfers d node tx receipt s).1 = (tx.nativeTransfer? receipt d.native).toList ++
      (events 0 receipt.logs).map
        fun p => p.2.toTransfer tx.hash (s.shown d node p.2.token) p.1 := by
  obtain ⟨found, -⟩ :=
    tokenTransfers_eq_resolveAll d (fun _ => node) tx.hash 0 receipt.logs (.refl (s := s))
  have tokens : asks (fun _ => node) (events 0 receipt.logs) =
      ((events 0 receipt.logs).map (·.2.token)).map fun token => (node, token) :=
    (List.map_map ..).symm
  rw [tokens, Session.resolveAll_symbols, transfersOf, List.map_map, List.zipWith_map_right,
    List.zipWith_self] at found
  exact congrArg _ found

theorem symbol_of_mem_transfers {d : Token.Directory} {node : Node} {tx : ChainTransaction}
    {receipt : Receipt} {s : Session} {t : Transfer} (ht : t ∈ (transfers d node tx receipt s).1) :
    t.symbol = s.shown d node t.token := by
  rw [transfers_eq_map] at ht
  rcases List.mem_append.1 ht with native | token
  · rw [native_toList] at native
    split at native
    · cases native
    · rw [List.mem_singleton.1 native, Session.shown_zero]
  · obtain ⟨p, -, rfl⟩ := List.mem_map.1 token
    rfl

theorem filter_isNative (d : Token.Directory) (node : Node) (tx : ChainTransaction) (receipt : Receipt)
    (s : Session) :
    (transfers d node tx receipt s).1.filter Transfer.isNative =
      (tx.nativeTransfer? receipt d.native).toList := by
  have native : (tx.nativeTransfer? receipt d.native).toList.filter Transfer.isNative =
      (tx.nativeTransfer? receipt d.native).toList := by
    refine List.filter_eq_self.2 fun t ht => ?_
    rw [Transfer.isNative, logIndex_of_mem_native ht]
    rfl
  have token : (tokenTransfers d (fun _ => node) tx.hash 0 receipt.logs s).1.filter Transfer.isNative =
      [] := by
    rw [List.filter_eq_nil_iff]
    intro t ht
    simp [(exists_event_of_mem ht).1]
  rw [transfers, transfersBy, List.filter_append, native, token, List.append_nil]

theorem filter_transfers_set (d : Token.Directory) (node : Node) (tx : ChainTransaction)
    (receipt : Receipt) (s : Session) (i : Nat) (l : EventLog) :
    (transfers d node tx { receipt with logs := receipt.logs.set i l } s).1.filter
        (fun t => t.logIndex ≠ (i : Int)) =
      (transfers d node tx receipt s).1.filter (fun t => t.logIndex ≠ (i : Int)) := by
  have place (p : Nat × TransferEvent) (symbol : String) :
      (p.2.toTransfer tx.hash symbol p.1).logIndex ≠ (i : Int) ↔ p.1 ≠ 0 + i := by
    rw [TransferEvent.logIndex_toTransfer, Nat.zero_add, Ne, Int.ofNat_inj]
  rw [transfers_eq_map, transfers_eq_map, List.filter_append, List.filter_append, List.filter_map,
    List.filter_map]
  simp only [Function.comp_def, place]
  rw [filter_events_set]
  rfl

/-- `transfersBy` gives the native transfer first, exactly if the amount is not zero, and then one
transfer for each log that is a transfer event and can be decoded, at its own place, and none for any
other place. The node may answer every lookup differently. If it does not, a log does not even change
symbols at other places. -/
theorem transfersBy_eq_transfersOf_events (d : Token.Directory) (nodes : Nat → Node) (tx : ChainTransaction)
    (receipt : Receipt) (s : Session) :
    let found := (transfersBy d nodes tx receipt s).1
    let lookups := s.resolveAll d ((events 0 receipt.logs).map fun p => (nodes p.1, p.2.token))
    -- the whole list: the native transfer, and those of the events that can be read
    found =
        (if tx.value = 0 then [] else
          [{ txHash := tx.hash
             sender := tx.sender
             recipient := (tx.recipient.or receipt.contract).getD .zero
             amount := tx.value
             symbol := d.native
             token := .zero
             logIndex := -1 }]) ++
          transfersOf tx.hash (events 0 receipt.logs) lookups.1 ∧
      -- the resolver is asked for each of these events once, in order, and for nothing else
      (transfersBy d nodes tx receipt s).2.Alike lookups.2 ∧
      -- at each place there is what its log says, with the symbol that is looked up after those before
      (∀ i : Nat, found.filter (fun t => t.logIndex = (i : Int)) =
        match receipt.logs[i]? with
        | none => []
        | some l => match TransferEvent.isTransfer l, TransferEvent.decode l with
          | true, .ok e =>
            [{ txHash := tx.hash
               sender := e.sender
               recipient := e.recipient
               amount := e.amount
               symbol := ((transfersBy d nodes tx { receipt with logs := receipt.logs.take i } s).2.resolve
                 d (nodes i) e.token).1
               token := e.token
               logIndex := i }]
          | _, _ => []) ∧
      -- the places increase, and only the first transfer may be the native one
      (found.map (·.logIndex)).Pairwise (· < ·) ∧
      (∀ t ∈ found.tail, t.isNative = false) ∧
      -- a log changes no more than symbols at other places
      (∀ (i : Nat) (l : EventLog),
        ((transfersBy d nodes tx { receipt with logs := receipt.logs.set i l } s).1.filter
            (fun t => t.logIndex ≠ (i : Int))).map (withSymbol "") =
          (found.filter (fun t => t.logIndex ≠ (i : Int))).map (withSymbol "")) ∧
      -- and not even these if the node stays as it is
      ∀ node : Node,
        (∀ t ∈ (transfers d node tx receipt s).1, t.symbol = s.shown d node t.token) ∧
        ∀ (i : Nat) (l : EventLog),
          (transfers d node tx { receipt with logs := receipt.logs.set i l } s).1.filter
              (fun t => t.logIndex ≠ (i : Int)) =
            (transfers d node tx receipt s).1.filter (fun t => t.logIndex ≠ (i : Int)) := by
  intro found lookups
  obtain ⟨tokens, after⟩ :=
    tokenTransfers_eq_resolveAll d nodes tx.hash 0 receipt.logs (.refl (s := s))
  refine ⟨?_, after, fun i => ?_, logIndex_increases d nodes tx receipt s,
    fun t => not_isNative_of_mem_tail, map_withSymbol_filter_set d nodes tx receipt s "",
    fun node => ⟨fun t => symbol_of_mem_transfers, filter_transfers_set d node tx receipt s⟩⟩
  · calc found = (tx.nativeTransfer? receipt d.native).toList ++
            transfersOf tx.hash (events 0 receipt.logs) lookups.1 := congrArg _ tokens
      _ = _ := by rw [native_toList, ChainTransaction.beneficiary]
  · rw [filter_transfersBy]
    cases log : receipt.logs[i]? with
    | none => rfl
    | some l =>
        cases shape : TransferEvent.isTransfer l with
        | false => simp [read?_of_error (TransferEvent.decode_of_not_isTransfer shape), shape]
        | true =>
            cases read : TransferEvent.decode l with
            | error fault => simp [read?_of_error read, shape, read]
            | ok e => simp [read?_of_ok read, shape, read, TransferEvent.toTransfer]

/-- A contract is created and paid, and its token moves twice. Between the two logs there are one of
another event and one with bad data. The first lookup of the token fails, and the second one is answered. -/
theorem transfersBy_eq_transfersOf_events_four_logs :
    ∃ (nodes : Nat → Node) (tx : ChainTransaction) (receipt : Receipt),
      receipt.logs.map TransferEvent.isTransfer = [true, false, true, true] ∧
      ((transfersBy (.withNative "ETH") nodes tx receipt .start).1.map
        fun t => (t.logIndex, t.symbol, t.amount)) = [(-1, "ETH", 7), (0, "0x000000", 5), (3, "MKR", 6)] ∧
      (transfersBy (.withNative "ETH") nodes tx receipt .start).2.calls = [.ofNat 9, .ofNat 9] ∧
      (transfersBy (.withNative "ETH") nodes tx receipt .start).1.filter
        (fun t => t.logIndex = ((2 : Nat) : Int)) = [] ∧
      ∀ t ∈ (transfersBy (.withNative "ETH") nodes tx receipt .start).1.tail, t.isNative = false := by
  let log (signature data : String) : EventLog :=
    ⟨"0x0000000000000000000000000000000000000009", [signature,
      "0x0000000000000000000000000000000000000000000000000000000000000001",
      "0x0000000000000000000000000000000000000000000000000000000000000003"], data⟩
  let tx : ChainTransaction := ⟨default, .ofNat 1, none, 7, 0, none⟩
  let receipt : Receipt := ⟨default, 1, "0x1", 0, some (.ofNat 9), [log TransferEvent.signature "0x05",
    log "0x00" "0x05", log TransferEvent.signature "0x5z", log TransferEvent.signature "0x06"]⟩
  let nodes (place : Nat) : Node := {
    block := fun _ => .error (.timeout 10)
    transaction := fun _ => .ok (some tx)
    receipt := fun _ => .ok receipt
    call := fun _ _ => if place = 0 then .error (.timeout 10) else
      .ok "0x4d4b520000000000000000000000000000000000000000000000000000000000" }
  obtain ⟨-, -, place, -, rest, -⟩ := transfersBy_eq_transfersOf_events (.withNative "ETH") nodes tx receipt .start
  obtain ⟨unread, shapes, found, calls⟩ : TransferEvent.decode (log TransferEvent.signature "0x5z") =
        .error (.data "0x5z" (.badDigit 'z' 1)) ∧
      receipt.logs.map TransferEvent.isTransfer = [true, false, true, true] ∧
      ((transfersBy (.withNative "ETH") nodes tx receipt .start).1.map
        fun t => (t.logIndex, t.symbol, t.amount)) = [(-1, "ETH", 7), (0, "0x000000", 5), (3, "MKR", 6)] ∧
      (transfersBy (.withNative "ETH") nodes tx receipt .start).2.calls = [.ofNat 9, .ofNat 9] := by
    decide +kernel
  refine ⟨nodes, tx, receipt, shapes, found, calls, ?_, rest⟩
  rw [place 2]
  simp only [receipt, List.getElem?_cons_succ, List.getElem?_cons_zero, unread]
  cases TransferEvent.isTransfer (log TransferEvent.signature "0x5z") <;> rfl

end Extraction

end WalletWatch
