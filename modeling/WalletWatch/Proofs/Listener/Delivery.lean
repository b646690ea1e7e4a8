import WalletWatch.Proofs.Listener.Progress

/-!
# From headers to notifications

`Orderly` holds of every listener: its queue is bounded, the activities of a block are handed off together
with the newest dropped first, and they are published in the order in which they were found. `Lossless`
holds as long as it is not cancelled: all that was found is attempted, dropped with a record, or still
waits.
-/

open scoped List

namespace WalletWatch

namespace Listener

def Event.isLast : Event → Bool
  | .subscribed (.error _) | .receive (some (.error _)) | .receive none => true
  | _ => false

/-- Holds of every listener with a queue for `n` activities that did `h` and came to `l`. -/
structure Orderly (n : Nat) (h : List Moment) (l : Listener) : Prop where
  /-- The queue holds at most `n` activities. -/
  bounded : l.queue.length ≤ n
  /-- Blocks are scanned in the order in which their headers were delivered. -/
  scanned : (scans h).map Prod.fst <+ delivered h
  /-- Of the activities of a block, those are queued that the queue has room for; the rest, which are the
  newest, are given up with one record each. -/
  handedOff : ∀ m ∈ h, ∀ activities, m.event = .scanned (.ok activities) →
    let room := min (n - m.before.queue.length) activities.length
    m.after.queue = m.before.queue ++ activities.take room ∧
      m.effects = (activities.drop room).map fun activity =>
        .log (m.before.givenUp activity "notification buffer full")
  /-- What is attempted was found, in the same order and as often. -/
  attempted : (attempts h).map Notification.activity <+ found h
  /-- An attempt begins when all earlier ones have been answered. -/
  single : ∀ h₁ m h₂, h = h₁ ++ m :: h₂ → m.event = .publish →
    (attempts h₁).length = (answers h₁).length

/-- Holds also, as long as the listener is not cancelled. -/
structure Lossless (h : List Moment) (l : Listener) : Prop where
  /-- No header is skipped. -/
  scanned : (scans h).map Prod.fst ++ l.scanning = delivered h
  /-- What was found is attempted, given up with a record, in hand, or waits. -/
  counted : (attempts h).length + (drops h).length + l.inHand.length + l.queue.length =
    (found h).length
  /-- When the listener has ended, everything that waited at some moment has been attempted since. -/
  drained : l.ended = true → ∀ h₁ m h₂, h = h₁ ++ m :: h₂ →
    m.before.inHand ++ m.before.queue <+: (attempts (m :: h₂)).map Notification.activity
  /-- When the listener has ended, every activity was attempted or given up with a record. -/
  complete : l.ended = true → (attempts h).length + (drops h).length = (found h).length
  /-- The listener ends only when no header can come any more. -/
  last : l.ended = true → ∃ m ∈ h, m.event.isLast = true

theorem publishesOn_start (a : Address) (closed : Bool) : PublishesOn (start a closed) := by
  intro scan queue hp
  cases hp

/-- During a hand-off the publishing half has not ended, so only room can be missing. -/
theorem Step.handedOff {capacity : Nat} {subscribers : List UserId} {l l' : Listener}
    {found : List Activity} {effects : List Effect}
    (step : Step capacity subscribers l (.scanned (.ok found)) l' effects)
    (on : l.cancelled = false → PublishesOn l) :
    l'.queue = l.queue ++ found.take (min (capacity - l.queue.length) found.length) ∧
      effects = (found.drop (min (capacity - l.queue.length) found.length)).map
        fun activity => .log (l.givenUp activity "notification buffer full") := by
  rw [← List.take_eq_take_min, ← List.drop_eq_drop_min]
  cases step with
  | @scanned header publish queue _ hp live =>
      have opened : publish ≠ .ended := by
        rintro rfl
        cases (on live _ _ hp).1
      have room : l.queue = queue := by simp [Listener.queue, hp]
      rw [room, decide_eq_false opened, handOff_of_open, List.map_map]
      exact ⟨rfl, rfl⟩

theorem Step.single {capacity : Nat} {subscribers : List UserId} {l l' : Listener}
    {effects : List Effect} (step : Step capacity subscribers l .publish l' effects) :
    l.publishEnded = false ∧ l.outstanding = 0 := by
  cases step with
  | publish hp => simp [publishEnded, Listener.outstanding, hp, PublishHalf.outstanding]

theorem Trace.orderly {capacity : Nat} {a : Address} {closed : Bool} {l : Listener} {h : List Moment}
    (trace : Trace capacity (start a closed) h l) : Orderly capacity h l where
  bounded := trace.queue_length_le (Nat.zero_le _)
  scanned := (List.sublist_append_left _ _).trans trace.scans_sublist
  handedOff m hm activities he := by
    obtain ⟨h₁, h₂, rfl⟩ := List.append_of_mem hm
    have step := trace.step_of_mem hm
    rw [he] at step
    exact step.handedOff fun live =>
      (trace.split rfl).1.publishesOn (publishesOn_start a closed) live
  attempted := by
    have carried := trace.carried_sublist
    rw [List.append_assoc] at carried
    exact ((List.sublist_append_left _ _).trans carried).trans trace.queued_found.1
  single h₁ m h₂ hh he := by
    have step := trace.step_of_mem (hh ▸ List.mem_append_right h₁ (.head h₂))
    rw [he] at step
    obtain ⟨goes, none⟩ := step.single
    have settled := (trace.split hh).1.outstanding goes
    rwa [none] at settled

theorem PublishesOn.empty_of_ended {l : Listener} (on : PublishesOn l) (ended : l.ended = true) :
    l.inHand = [] ∧ l.queue = [] := by
  unfold Listener.ended at ended
  split at ended
  · cases ended
  · next scan publish queue hp =>
      simp only [Bool.and_eq_true, decide_eq_true_eq] at ended
      obtain ⟨-, rfl⟩ := ended
      obtain ⟨-, rfl⟩ := on _ _ hp
      exact ⟨by simp [inHand, hp, PublishHalf.inHand], by simp [Listener.queue, hp]⟩
  · next hp => exact ⟨by simp [inHand, hp], by simp [Listener.queue, hp]⟩

theorem readsNoMore_of_ended {l : Listener} (ended : l.ended = true) : l.readsNoMore = true := by
  unfold Listener.ended at ended
  unfold readsNoMore
  split at ended <;> simp_all

theorem Step.isLast {capacity : Nat} {subscribers : List UserId} {l l' : Listener} {e : Event}
    {effects : List Effect} (step : Step capacity subscribers l e l' effects)
    (live : l.cancelled = false) (past : l'.readsNoMore = true) :
    l.readsNoMore = true ∨ e.isLast = true := by
  cases step with
  | quit _ hc | stopScan _ hc | stopPublish _ hc => simp [live] at hc
  | _ => simp_all [readsNoMore, Event.isLast]

/-- A listener that is not cancelled stops reading only at the end of the headers. -/
theorem Trace.exists_isLast {capacity : Nat} {a : Address} {closed : Bool} {l : Listener}
    {h : List Moment} (trace : Trace capacity (start a closed) h l) (live : l.cancelled = false)
    (past : l.readsNoMore = true) : ∃ m ∈ h, m.event.isLast = true := by
  induction trace with
  | nil => cases past
  | cancel => cases live
  | snoc _ step ih =>
      rw [step.cancelled] at live
      rcases step.isLast live past with past | last
      · obtain ⟨m, hm, last⟩ := ih live past
        exact ⟨m, List.mem_append_left _ hm, last⟩
      · exact ⟨_, List.mem_append_right _ (.head _), last⟩

theorem Trace.lossless {capacity : Nat} {a : Address} {closed : Bool} {l : Listener} {h : List Moment}
    (trace : Trace capacity (start a closed) h l) (live : l.cancelled = false)
    (addressed : Addressed h) : Lossless h l := by
  have counted : (attempts h).length + (drops h).length + l.inHand.length + l.queue.length =
      (found h).length := by
    have carried := congrArg List.length (trace.carried_eq live addressed)
    have split := trace.queued_found.2
    simp [start, inHand, Listener.queue] at carried
    simp only [Listener.inHand, Listener.queue]
    omega
  have on : PublishesOn l := trace.publishesOn (publishesOn_start a closed) live
  constructor
  case scanned => simpa [start, scanning] using trace.scans_eq live
  case counted => exact counted
  case drained =>
    intro ended h₁ m h₂ hh
    -- In the end nothing is in hand or queued, so what was carried since then was all handed out.
    obtain ⟨none, empty⟩ := on.empty_of_ended ended
    have rest := (trace.split hh).2
    have carried := rest.carried_eq live fun m' hm' =>
      addressed m' (hh ▸ List.mem_append_right h₁ hm')
    rw [none, empty, List.append_nil, List.append_nil] at carried
    rw [carried]
    exact List.prefix_append _ _
  case complete =>
    intro ended
    obtain ⟨none, empty⟩ := on.empty_of_ended ended
    simpa [none, empty] using counted
  case last => exact fun ended => trace.exists_isLast live (readsNoMore_of_ended ended)

end Listener

end WalletWatch
