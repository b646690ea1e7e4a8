import WalletWatch.Proofs.Chain.Agreement
import WalletWatch.Proofs.Tracker.Publication

/-!
# Notifications agree with queries

Listeners of different addresses scan the same block at different times, with a cache that the others have
changed. They still report the same record of a transaction, since each of them is the record that a query
finds.
-/

namespace WalletWatch

namespace Tracker

/-- If a scan ends in this moment with success, it was one of a block that the node `Indexes`, in a
session that can be `Reached`. -/
def Moment.Served (sc : Scanner) (node : Node) (m : Moment) : Prop :=
  ∀ i l found header publish queue, m.event = .listener i (.scanned (.ok found)) →
    m.before.listeners[i]? = some l → l.phase = .running (.scanning header) publish queue →
    ∃ block s, node.Indexes header.hash block ∧ s.Reached sc node ∧
      (sc.scan node header.hash l.address s).1 = .ok found

theorem Runs.details_of_publish {sc : Scanner} {node : Node} {capacity : Nat} {h : List Moment}
    {t : Tracker} {m : Moment} {n : Notification} {s : Session} (run : Runs (start capacity) h t)
    (served : ∀ m ∈ h, m.Served sc node) (hm : m ∈ h) (hn : .publish n ∈ m.effects)
    (reached : s.Reached sc node) :
    (sc.details node n.transaction.hash s).1 = .ok n.transaction ∧
      (sc.transfersFor node n.transaction.hash n.address s).1 = .ok n.transfers := by
  obtain ⟨h₁, h₂, hh⟩ := List.append_of_mem hm
  obtain ⟨before, now, -⟩ := Machine.Runs.split_step? run hh
  obtain ⟨i, l, scan, queue, -, hl, hp⟩ := cleared_of_publish_mem now hn
  obtain ⟨m', hm', l', found, header, publish, queue', event, hl', phase, same, hx⟩ :=
    Runs.scanned_of_cleared before hl hp
  have mem : m' ∈ h := by
    rw [hh]
    exact List.mem_append_left _ hm'
  obtain ⟨block, s', indexed, reached', scanned⟩ :=
    served m' mem i l' found header publish queue' event hl' phase
  rw [same] at scanned
  exact Scanner.details_of_scan indexed reached' scanned hx reached

/-- If the answers of the node do not change and it `Indexes` a block, `details` and `transfersFor` find
the very record and the very transfers that a scan of the block reports, in all sessions that can be
`Reached`. So a published notification agrees with the queries, and two notifications of one transaction
have the same record. -/
theorem details_transfersFor_eq_scan (sc : Scanner) (node : Node) :
    (∀ hash block a s s' found, node.Indexes hash block → s.Reached sc node → s'.Reached sc node →
      (sc.scan node hash a s).1 = .ok found → ∀ x ∈ found,
        (sc.details node x.transaction.hash s').1 = .ok x.transaction ∧
          (sc.transfersFor node x.transaction.hash a s').1 = .ok x.transfers) ∧
    (∀ capacity (h : List Moment) t, Runs (start capacity) h t → (∀ m ∈ h, m.Served sc node) →
      (∀ m ∈ h, ∀ n s, .publish n ∈ m.effects → s.Reached sc node →
        (sc.details node n.transaction.hash s).1 = .ok n.transaction ∧
          (sc.transfersFor node n.transaction.hash n.address s).1 = .ok n.transfers) ∧
      ∀ m ∈ h, ∀ m' ∈ h, ∀ n n', .publish n ∈ m.effects → .publish n' ∈ m'.effects →
        n.transaction.hash = n'.transaction.hash → n.transaction = n'.transaction) := by
  refine ⟨fun hash block a s s' found indexed reached reached' scanned x hx => ?_, ?_⟩
  · exact Scanner.details_of_scan indexed reached scanned hx reached'
  · intro capacity h t run served
    refine ⟨fun m hm n s hn reached => Runs.details_of_publish run served hm hn reached, ?_⟩
    intro m hm m' hm' n n' hn hn' same
    have found := (run.details_of_publish served hm hn .start).1
    rw [same, (run.details_of_publish served hm' hn' .start).1] at found
    exact (Except.ok.inj found).symm

/-- The only transaction of a block moves a token. The scans for its two parties report the same record,
the second one with the cache that the first one left, and this record is published. -/
theorem details_transfersFor_eq_scan_token_transfer :
    ∃ (sc : Scanner) (node : Node) (a b : Address) (s : Session) (x y : Activity) (h : List Moment)
      (t : Tracker) (m : Moment) (n : Notification),
      (sc.scan node "0x1" a .start).1 = .ok [x] ∧
      (sc.scan node "0x1" b s).1 = .ok [y] ∧
      (x.transaction.transfers.map fun t => t.symbol) = ["ETH", "MKR"] ∧
      x.transaction = y.transaction ∧
      Runs (start 1) h t ∧ (∀ m ∈ h, m.Served sc node) ∧ m ∈ h ∧ .publish n ∈ m.effects ∧
      (sc.details node n.transaction.hash s).1 = .ok n.transaction := by
  let a : Address := .ofNat 1
  let b : Address := .ofNat 3
  let tx : ChainTransaction := ⟨default, a, some b, 7, 0, none⟩
  let block : Block := ⟨1, "0x1", 0, [tx]⟩
  let log : EventLog := ⟨"0x0000000000000000000000000000000000000009", [TransferEvent.signature,
    "0x0000000000000000000000000000000000000000000000000000000000000001",
    "0x0000000000000000000000000000000000000000000000000000000000000003"], "0x05"⟩
  let node : Node := {
    block := fun _ => .ok block
    transaction := fun _ => .ok (some { tx with blockNumber := some 1 })
    receipt := fun hash => .ok ⟨hash, 1, "0x1", 0, none, [log]⟩
    call := fun _ _ => .ok "0x4d4b520000000000000000000000000000000000000000000000000000000000" }
  let sc : Scanner := ⟨.withNative "ETH", 1⟩
  let s : Session := (sc.scan node "0x1" a .start).2
  have indexed : node.Indexes "0x1" block := by
    constructor
    case found => rfl
    case transactions =>
      intro tx' mem
      rw [List.mem_singleton.1 mem]
      exact ⟨1, rfl⟩
    case receipts =>
      intro tx' mem receipt hr
      cases hr
      exact ⟨rfl, rfl⟩
  have reached : s.Reached sc node := Session.Reached.start.scan "0x1" a
  let gist (x : Activity) : TxHash × List String :=
    (x.transaction.hash, x.transaction.transfers.map fun t => t.symbol)
  have single {r : Except Failure (List Activity)}
      (hr : r.toOption.map (fun found => found.map gist) = some [(default, ["ETH", "MKR"])]) :
      ∃ x, r = .ok [x] ∧ gist x = (default, ["ETH", "MKR"]) := by
    obtain ⟨found, ok, gists⟩ := Option.map_eq_some_iff.1 hr
    obtain ⟨x, rfl, same⟩ := List.map_eq_singleton_iff.1 gists
    cases r with
    | error e => cases ok
    | ok found' =>
        cases ok
        exact ⟨x, rfl, same⟩
  obtain ⟨x, scanned, told⟩ := single
    (show (sc.scan node "0x1" a .start).1.toOption.map _ = _ by decide +kernel)
  obtain ⟨y, scanned', told'⟩ := single
    (show (sc.scan node "0x1" b s).1.toOption.map _ = _ by decide +kernel)
  have hash : x.transaction.hash = y.transaction.hash :=
    congrArg Prod.fst (told.trans told'.symm)
  obtain ⟨found, delivered⟩ := details_transfersFor_eq_scan sc node
  have one : x.transaction = y.transaction := by
    have byx := (found "0x1" block a .start s [x] indexed .start reached scanned x (.head _)).1
    have byy := (found "0x1" block b s s [y] indexed reached reached scanned' y (.head _)).1
    rw [hash, byy] at byx
    exact (Except.ok.inj byx).symm
  obtain ⟨h, t, m, n, run, served, hm, hn⟩ : ∃ (h : List Moment) (t : Tracker) (m : Moment)
      (n : Notification), Runs (start 1) h t ∧ (∀ m ∈ h, m.Served sc node) ∧ m ∈ h ∧
        .publish n ∈ m.effects := by
    have hr := Option.some_get (x := Machine.replay? next? (start 1) [.add a 5,
      .listener 0 (.subscribed (.ok ())), .listener 0 (.receive (some (.ok ⟨1, "0x1"⟩))),
      .listener 0 (.scanned (.ok [x])), .listener 0 .take, .listener 0 (.prepare default),
      .listener 0 .clear, .listener 0 .publish]) rfl
    have run := Machine.runs_of_replay? hr.symm
    change Runs _ ([_, _, _, _, _, _, _] ++ [_]) _ at run
    refine ⟨_, _, _, _, run, ?_, List.mem_append_right _ (.head _), .head _⟩
    intro m hm i l found header publish queue he hl hp
    rcases hm with _ | ⟨_, _ | ⟨_, _ | ⟨_, _ | ⟨_, _ | ⟨_, _ | ⟨_, _ | ⟨_, _ | ⟨_, hm⟩⟩⟩⟩⟩⟩⟩⟩
    case tail.tail.tail.head =>
      cases he
      cases hl
      cases hp
      exact ⟨block, .start, indexed, .start, scanned⟩
    all_goals first | cases he | cases hm
  exact ⟨sc, node, a, b, s, x, y, h, t, m, n, scanned, scanned', congrArg Prod.snd told, one, run,
    served, hm, hn, ((delivered 1 h t run served).1 m hm n s hn reached).1⟩

end Tracker

end WalletWatch
