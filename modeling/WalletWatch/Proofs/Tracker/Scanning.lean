import WalletWatch.Proofs.Chain.Narrowing
import WalletWatch.Proofs.Chain.TimedSweep
import WalletWatch.Proofs.Tracker.Publication
import WalletWatch.Tracker.Scanning

/-!
# Notifications and the scans behind them

The tracker in a run of a `ScanningTracker` has a run of its own (`Runs.tracker`), so all that holds of
these holds here. `Suited` is the invariant about the scans: every sweep is for the address of its listener,
and what it found concerns this address, with any answers of the node.
-/

namespace WalletWatch

namespace ScanningTracker

theorem join_sweeps_put (w : ScanningTracker) (i j : Nat) (scan? : Option (Search × Sweep)) :
    (w.put i scan?).sweeps[j]?.join = if j = i then scan? else w.sweeps[j]?.join := by
  have inside : i < (w.sweeps ++ List.replicate (i + 1 - w.sweeps.length) none).length := by
    rw [List.length_append, List.length_replicate]
    omega
  unfold put
  by_cases hj : j = i
  · rw [hj, if_pos rfl, List.getElem?_set_self inside, Option.join_some]
  · rw [if_neg hj, List.getElem?_set_ne (Ne.symm hj)]
    by_cases old : j < w.sweeps.length
    · rw [List.getElem?_append_left old]
    · rw [List.getElem?_append_right (Nat.not_lt.1 old), List.getElem?_eq_none (Nat.not_lt.1 old),
        List.getElem?_replicate]
      split <;> rfl

theorem join_sweeps_drop {w : ScanningTracker} {e : Tracker.Event} {j : Nat} {scan : Search × Sweep}
    (h : (w.drop e).sweeps[j]?.join = some scan) : w.sweeps[j]?.join = some scan := by
  unfold drop at h
  split at h
  · rw [join_sweeps_put] at h
    split at h
    · cases h
    · exact h
  · rw [join_sweeps_put] at h
    split at h
    · cases h
    · exact h
  · exact h

theorem sweep?_eq_some_iff {w : ScanningTracker} {i : Nat} {q : Search} {v : Sweep} :
    w.sweep? i = some (q, v) ↔
      ∃ v', w.sweeps[i]?.join = some (q, v') ∧ v = { v' with session := w.session } := by
  constructor
  · intro h
    obtain ⟨⟨q', v'⟩, held, same⟩ := Option.map_eq_some_iff.1 h
    cases same
    exact ⟨v', held, rfl⟩
  · rintro ⟨v', held, rfl⟩
    rw [sweep?, held, Option.map_some]

inductive Step (w : ScanningTracker) : Event → ScanningTracker → List Effect → Prop
  | tracker {e : Event} {e' : Tracker.Event} {t : Tracker} {effects : List Effect} :
      w.happens? e = some e' → w.tracker.step? e' = some (t, effects) →
      Step w e { w.drop e' with tracker := t } effects
  | fetched {i : Nat} {node : Node} {scan : Search × Sweep} : w.happens? (.fetched i node) = none →
      w.fetch? i node = some (.ok scan) → Step w (.fetched i node) (w.put i (some scan)) []
  | sweep {i : Nat} {e : Sweep.Event} {q : Search} {v v' : Sweep} : w.sweep? i = some (q, v) →
      Sweep.Step q v e v' →
      Step w (.sweep i e)
        { w.put i (some (q, v')) with session := { v'.session with entries := [] } }
        (v'.session.entries.map .log)

theorem Step.of_step? {w w' : ScanningTracker} {e : Event} {effects : List Effect}
    (h : w.step? e = some (w', effects)) : Step w e w' effects := by
  unfold step? at h
  split at h
  · next e' happens =>
      obtain ⟨⟨t, effects⟩, hs, same⟩ := Option.map_eq_some_iff.1 h
      cases same
      exact .tracker happens hs
  · next happens =>
      unfold move? at h
      split at h
      · split at h
        · next fetch =>
            cases h
            exact .fetched happens fetch
        · cases h
      · split at h
        · next sweep =>
            obtain ⟨v', hs, same⟩ := Option.map_eq_some_iff.1 h
            cases same
            exact .sweep sweep (Sweep.step?_eq_some_iff.1 hs)
        · cases h
      · cases h

theorem happens?_fetched_ne_ok {w : ScanningTracker} {i j : Nat} {node : Node} {found : List Activity} :
    w.happens? (.fetched i node) ≠ some (.listener j (.scanned (.ok found))) := by
  intro h
  simp only [happens?] at h
  split at h <;> cases h

theorem exists_of_happens?_scanned {w : ScanningTracker} {e : Event} {i : Nat} {found : List Activity}
    (h : w.happens? e = some (.listener i (.scanned (.ok found)))) :
    ∃ q v, w.sweeps[i]?.join = some (q, v) ∧ v.found = found := by
  cases e with
  | tracker e =>
      simp only [happens?] at h
      split at h
      · cases h
      · next other =>
          cases h
          exact absurd rfl (other _ _)
  | fetched j node => exact absurd h happens?_fetched_ne_ok
  | sweep j e => cases h
  | swept j =>
      obtain ⟨found', told, same⟩ := Option.map_eq_some_iff.1 h
      cases same
      obtain ⟨⟨q, v⟩, sweep, ended⟩ := Option.bind_eq_some_iff.1 told
      obtain ⟨v', held, rfl⟩ := sweep?_eq_some_iff.1 sweep
      exact ⟨q, v', held, (Sweep.result?_eq_some_iff.1 ended).2⟩

theorem exists_step {w w' : ScanningTracker} {e : Event} (h : w.next? e = some w') :
    ∃ effects, Step w e w' effects :=
  ⟨_, Step.of_step? (Machine.step?_of_next? h)⟩

/-- The `history` of a run is a run of the tracker. -/
theorem Runs.tracker {w u : ScanningTracker} {h : List Moment} (run : Runs w h u) :
    Tracker.Runs w.tracker (history h) u.tracker :=
  Machine.Runs.history run fun v e v' hs => by
    obtain ⟨effects, step⟩ := exists_step hs
    cases step with
    | tracker happens now => exact .inr ⟨_, happens, Machine.next?_eq_some now⟩
    | fetched happens _ => exact .inl ⟨happens, rfl⟩
    | sweep => exact .inl ⟨rfl, rfl⟩

/-- A sweep of the `i`-th listener is for its address, and what it found concerns the address. -/
structure Suits (t : Tracker) (i : Nat) (q : Search) (v : Sweep) : Prop where
  address : ∃ l, t.listeners[i]? = some l ∧ l.address = q.address
  concerns : ∀ x ∈ v.found, x.Concerns q.address

def Suited (w : ScanningTracker) : Prop :=
  ∀ i q v, w.sweeps[i]?.join = some (q, v) → Suits w.tracker i q v

theorem exists_listener_of_step? {t t' : Tracker} {e : Tracker.Event} {effects : List Effect} {i : Nat}
    {l : Listener} (h : t.step? e = some (t', effects)) (hl : t.listeners[i]? = some l) :
    ∃ l', t'.listeners[i]? = some l' ∧ l'.address = l.address := by
  rcases Tracker.step?_listener i h with
    ⟨l₁, e', l₂, hl₁, hl₂, step, -⟩ | ⟨-, -, same | cancelled | ⟨unborn, -⟩⟩
  · cases hl.symm.trans hl₁
    exact ⟨l₂, hl₂, step.address⟩
  · exact ⟨l, same.trans hl, rfl⟩
  · rw [hl] at cancelled
    exact ⟨l.cancel, cancelled, rfl⟩
  · cases hl.symm.trans unborn

theorem suits_of_fetch? {w : ScanningTracker} {i : Nat} {node : Node} {q : Search} {v : Sweep}
    (h : w.fetch? i node = some (.ok (q, v))) : Suits w.tracker i q v := by
  unfold fetch? at h
  split at h
  · next l hl _ =>
      split at h
      · obtain ⟨block, time, -, -, rfl, rfl⟩ := Scanner.exists_of_sweep_eq_ok (Option.some.inj h)
        exact ⟨⟨l, hl, rfl⟩, List.forall_mem_nil _⟩
      · cases h
  · cases h

theorem Suited.step {w w' : ScanningTracker} {e : Event} {effects : List Effect} (suited : Suited w)
    (step : Step w e w' effects) : Suited w' := by
  intro j q v held
  cases step with
  | tracker happens now =>
      -- The event may remove a sweep but starts none, and no listener changes its address.
      obtain ⟨⟨l, hl, same⟩, concerns⟩ := suited j q v (join_sweeps_drop held)
      obtain ⟨l', hl', kept⟩ := exists_listener_of_step? now hl
      exact ⟨⟨l', hl', kept.trans same⟩, concerns⟩
  | fetched happens fetch =>
      rw [join_sweeps_put] at held
      split at held
      · next same =>
          obtain rfl := Option.some.inj held
          have suits := suits_of_fetch? fetch
          rw [same]
          exact suits
      · exact suited j q v held
  | @sweep i e q' v₁ v₂ sweep step =>
      change (w.put i (some (q', v₂))).sweeps[j]?.join = some (q, v) at held
      rw [join_sweeps_put] at held
      split at held
      · next same =>
          obtain ⟨rfl, rfl⟩ := Prod.mk.inj (Option.some.inj held)
          obtain ⟨v₀, before, rfl⟩ := sweep?_eq_some_iff.1 sweep
          obtain ⟨address, concerns⟩ := suited i q' v₀ before
          rw [same]
          exact ⟨address, step.concerns concerns⟩
      · exact suited j q v held

theorem suited_start (capacity : Nat) (sc : Scanner) : Suited (start capacity sc) := by
  intro i q v held
  cases held

theorem Runs.suited {w u : ScanningTracker} {h : List Moment} (run : Runs w h u) (suited : Suited w) :
    Suited u := by
  refine Machine.Runs.invariant run Suited suited fun m _ hs before => ?_
  obtain ⟨effects, step⟩ := exists_step hs
  exact before.step step

/-- What a listener gets from its sweep concerns its address. -/
theorem Runs.concerns {w u : ScanningTracker} {h : List Moment} {m : Tracker.Moment} {i : Nat}
    {l : Listener} {found : List Activity} (run : Runs w h u) (suited : Suited w) (hm : m ∈ history h)
    (he : m.event = .listener i (.scanned (.ok found))) (hl : m.before.listeners[i]? = some l) :
    ∀ x ∈ found, x.Concerns l.address := by
  obtain ⟨m', mem, e, happens, rfl⟩ := Machine.mem_history.1 hm
  obtain rfl : e = _ := he
  obtain ⟨h₁, h₂, hh⟩ := List.append_of_mem mem
  have before : Suited m'.before := Runs.suited (Machine.Runs.split run hh).1 suited
  obtain ⟨q, v, held, rfl⟩ := exists_of_happens?_scanned happens
  obtain ⟨⟨l', hl', address⟩, concerns⟩ := before i q v held
  obtain rfl := Option.some.inj (hl'.symm.trans hl)
  rw [address]
  exact concerns

theorem event_of_happens? {w : ScanningTracker} {e : Event} {e' : Tracker.Event}
    (h : w.happens? e = some e') (other : ∀ i r, e' ≠ .listener i (.scanned r)) : e = .tracker e' := by
  cases e with
  | tracker e =>
      simp only [happens?] at h
      split at h
      · cases h
      · cases h
        rfl
  | fetched i node =>
      simp only [happens?] at h
      split at h
      · cases h
        exact absurd rfl (other _ _)
      · cases h
  | sweep i e => cases h
  | swept i =>
      obtain ⟨found, -, rfl⟩ := Option.map_eq_some_iff.1 h
      exact absurd rfl (other _ _)

theorem Step.cleared_of_publish_mem {w w' : ScanningTracker} {e : Event} {effects : List Effect}
    {n : Notification} (step : Step w e w' effects) (hn : .publish n ∈ effects) :
    ∃ i l scan queue, e = .tracker (.listener i .publish) ∧ w.tracker.listeners[i]? = some l ∧
      l.phase = .running scan (.cleared n) queue := by
  cases step with
  | tracker happens now =>
      obtain ⟨i, l, scan, queue, rfl, hl, hp⟩ := Tracker.cleared_of_publish_mem now hn
      exact ⟨i, l, scan, queue, event_of_happens? happens (by simp), hl, hp⟩
  | fetched => cases hn
  | sweep => simp at hn

theorem mem_history {h : List Moment} {m : Moment} {e : Tracker.Event} (hm : m ∈ h)
    (he : m.event = .tracker e) (other : ∀ i r, e ≠ .listener i (.scanned r)) :
    ⟨m.before.tracker, e, m.after.tracker⟩ ∈ history h := by
  have happens : m.before.happens? m.event = some e := by
    rw [he, happens?]
    exact other
  exact Machine.mem_history.2 ⟨m, hm, e, happens, rfl⟩

open Tracker (Grounds)

/-- In every run of a tracker and its scans, with any answers of the node, a notification `n` is
published only on `Grounds`: at its look for subscribers the listener was registered for `n.address` and
not cancelled, and `n` names the subscribers of that moment, at least one. Its transfers are
`Transfer.narrow` of those of its transaction, and not empty. A listener that is `Listener.Barred` never
publishes again, and a listener that finds no subscribers is cancelled already. -/
theorem grounds_of_publish {capacity : Nat} {sc : Scanner} {h : List Moment} {w : ScanningTracker}
    (run : Runs (start capacity sc) h w) :
    (∀ h₁ m h₂ n, h = h₁ ++ m :: h₂ → .publish n ∈ Machine.effects step? m →
      ∃ i g₁ look g₂ check g₃, m.event = .tracker (.listener i .publish) ∧
        history h₁ = (g₁ ++ look :: g₂) ++ check :: g₃ ∧ Grounds i n look check ∧
        (∀ m' ∈ g₂ ++ g₃, ∀ now, m'.event ≠ .listener i (.prepare now)) ∧
        n.transfers = Transfer.narrow n.transaction.transfers n.address ∧ n.transfers ≠ []) ∧
    (∀ h₁ m h₂ i l, h = h₁ ++ m :: h₂ → m.before.tracker.listeners[i]? = some l → l.Barred →
      ∀ m' ∈ m :: h₂, m'.event ≠ .tracker (.listener i .publish)) ∧
    (∀ m ∈ h, ∀ i now l, m.event = .tracker (.listener i (.prepare now)) →
      m.before.tracker.listeners[i]? = some l → m.before.tracker.subscribersOf l.address = [] →
      l.cancelled = true) := by
  refine ⟨fun h₁ m h₂ n hh hn => ?_, fun h₁ m h₂ i l hh hl barred m' hm' publish => ?_,
    fun m hm i now l _ hl none => ?_⟩
  · obtain ⟨before, now, -⟩ := Machine.Runs.split_step? run hh
    obtain ⟨i, l, scan, queue, publish, hl, hp⟩ := (Step.of_step? now).cleared_of_publish_mem hn
    have watched : Tracker.Runs (.start capacity) (history h₁) m.before.tracker := Runs.tracker before
    obtain ⟨g₁, look, g₂, check, g₃, hg, grounds, none⟩ := watched.grounds hl hp
    obtain ⟨m', hm', l', found, header, half, queue', event, hl', -, same, hx⟩ :=
      watched.scanned_of_cleared hl hp
    have concerns := Runs.concerns before (suited_start capacity sc) hm' event hl' _ hx
    rw [same] at concerns
    exact ⟨i, g₁, look, g₂, check, g₃, publish, hg, grounds, none, concerns.narrowed, concerns.nonempty⟩
  · obtain ⟨-, now, behind⟩ := Machine.Runs.split run hh
    have watched : Tracker.Runs m.before.tracker (history (m :: h₂)) w.tracker :=
      Runs.tracker (behind.cons now)
    exact watched.silent_of_barred hl barred _ (mem_history hm' publish (by simp)) rfl
  · obtain ⟨h₁, h₂, hh⟩ := List.append_of_mem hm
    have watched : Tracker.Runs (.start capacity) (history h₁) m.before.tracker :=
      Runs.tracker (Machine.Runs.split run hh).1
    exact watched.cancelled_of_unaddressed hl none

/-- Two logs are of one token. Its first call fails, and the second one is answered, so the notification
names the token in two ways. -/
theorem grounds_of_publish_two_answers :
    ∃ (sc : Scanner) (h : List Moment) (w : ScanningTracker) (m : Moment) (n : Notification),
      Runs (start 1 sc) h w ∧ m ∈ h ∧ .publish n ∈ Machine.effects step? m ∧ n.subscribers = [5] ∧
        n.transfers.map (fun t => t.symbol) = ["ETH", "0x000000", "MKR"] ∧
        n.transfers = Transfer.narrow n.transaction.transfers n.address ∧ n.transfers ≠ [] := by
  let log : EventLog := ⟨"0x0000000000000000000000000000000000000009", [TransferEvent.signature,
    "0x0000000000000000000000000000000000000000000000000000000000000001",
    "0x0000000000000000000000000000000000000000000000000000000000000003"], "0x05"⟩
  let receipt : Receipt := ⟨default, 1, "0x1", 0, none, [log, log]⟩
  let symbol := "0x4d4b520000000000000000000000000000000000000000000000000000000000"
  let node : Node := {
    block := fun _ => .ok ⟨1, "0x1", 0, [⟨default, .ofNat 1, some (.ofNat 3), 7, 0, some 1⟩]⟩
    transaction := fun _ => .ok none
    receipt := fun _ => .error (.timeout 10)
    call := fun _ _ => .error (.timeout 10) }
  let events : List Event := [.tracker (.add (.ofNat 1) 5), .tracker (.listener 0 (.subscribed (.ok ()))),
    .tracker (.listener 0 (.receive (some (.ok ⟨1, "0x1"⟩)))), .fetched 0 node, .sweep 0 .request,
    .sweep 0 (.answer 0 (.ok receipt)), .sweep 0 .take, .sweep 0 .read,
    .sweep 0 (.told (.error (.timeout 10))), .sweep 0 .read, .sweep 0 (.told (.ok symbol)),
    .sweep 0 .settle, .sweep 0 .finish, .swept 0, .tracker (.listener 0 .take),
    .tracker (.listener 0 (.prepare default)), .tracker (.listener 0 .clear),
    .tracker (.listener 0 .publish)]
  let sc : Scanner := ⟨.withNative "ETH", 1⟩
  let published (h : List Moment) : List Notification :=
    (h.flatMap (Machine.effects step?)).filterMap Effect.notification?
  have shown : (Machine.replay? next? (start 1 sc) events).map
      (fun r => (published r.1).map fun n => (n.subscribers, n.transfers.map fun t => t.symbol)) =
        some [([5], ["ETH", "0x000000", "MKR"])] := by decide +kernel
  obtain ⟨⟨h, w⟩, replayed, one⟩ := Option.map_eq_some_iff.1 shown
  obtain ⟨n, listed, same⟩ := List.map_eq_singleton_iff.1 one
  obtain ⟨subscribers, symbols⟩ := Prod.mk.inj same
  have run := Machine.runs_of_replay? replayed
  obtain ⟨effect, done, handed⟩ := List.mem_filterMap.1
    (show n ∈ published h from listed ▸ List.mem_singleton_self n)
  obtain ⟨m, hm, mem⟩ := List.mem_flatMap.1 done
  obtain ⟨h₁, h₂, hh⟩ := List.append_of_mem hm
  have hn : .publish n ∈ Machine.effects step? m := by
    cases effect <;> cases handed
    exact mem
  obtain ⟨i, g₁, look, g₂, check, g₃, -, -, -, -, narrowed, nonempty⟩ :=
    (grounds_of_publish run).1 h₁ m h₂ n hh hn
  exact ⟨sc, h, w, m, n, run, hm, hn, subscribers, symbols, narrowed, nonempty⟩

end ScanningTracker

end WalletWatch
