import WalletWatch.Proofs.Listener.Delivery
import WalletWatch.Proofs.Tracker.Projection

/-!
# Delivery

What the listeners of a tracker deliver in every run. An uncancelled listener always finds subscribers,
which is a fact about the tracker; the rest holds of each listener by itself and is transported by
`Runs.trace`.
-/

open scoped List

namespace WalletWatch

namespace Tracker

/-- What the `i`-th listener, now at `l`, can do next without help of other listeners. -/
structure GoesOn (t : Tracker) (i : Nat) (l : Listener) : Prop where
  /-- With any answers of the publisher, everything in hand or queued can be attempted. -/
  publishes : ∀ replies : List (Except ChannelError Unit),
    replies.length = l.outstanding + l.inHand.length + l.queue.length →
    ∃ h u l', Runs t h u ∧ u.listeners[i]? = some l' ∧ l'.inHand = [] ∧ l'.queue = [] ∧
      Listener.answers (own i h) = replies ∧
      (Listener.attempts (own i h)).map Notification.activity = l.inHand ++ l.queue
  /-- Unless the headers have ended, every further block can be scanned, with any results. -/
  scans : l.readsNoMore = false → ∀ blocks : List (Header × Except Failure (List Activity)),
    l.scanning <+: blocks.map Prod.fst →
    ∃ h u l', Runs t h u ∧ u.listeners[i]? = some l' ∧ l'.readsNoMore = false ∧
      Listener.scans (own i h) = blocks

theorem Runs.goesOn {capacity : Nat} {h : List Moment} {t : Tracker} {i : Nat} {l : Listener}
    (run : Runs (start capacity) h t) (hl : t.listeners[i]? = some l) (live : l.cancelled = false) :
    GoesOn t i l := by
  have watched : t.subscribersOf l.address ≠ [] :=
    ((consistent_start capacity).runs run).subscribersOf_ne_nil hl live
  obtain ⟨a, closed, trace⟩ := run.trace_start hl
  have on : Listener.PublishesOn l := trace.publishesOn (Listener.publishesOn_start a closed) live
  constructor
  case publishes =>
    intro replies enough
    obtain ⟨l', reaches, live', none, empty⟩ :=
      @Listener.exists_reaches_published t.capacity _ l default replies live on watched enough
    obtain ⟨h', u, run', hl', hp, hr, -⟩ := exists_runs_of_reaches hl reaches live'
    exact ⟨h', u, l', run', hl', none, empty, hr, hp⟩
  case scans =>
    intro reads blocks begun
    obtain ⟨l', reaches, live', reads'⟩ :=
      @Listener.exists_reaches_scanned t.capacity (t.subscribersOf l.address) l blocks live reads begun
    obtain ⟨h', u, run', hl', -, -, hs⟩ := exists_runs_of_reaches hl reaches live'
    exact ⟨h', u, l', run', hl', reads', hs⟩

/-- In every run from the start, a listener is `Listener.Orderly`: its queue is bounded, the activities
of a block are handed off together, and it publishes a part of what it found, in order and one at a time.
While it is not cancelled it is also `Listener.Lossless`: what it found was attempted, dropped with a
record, or is still on its way. It `GoesOn` after refused notifications and failed scans. -/
theorem orderly_lossless_of_runs {capacity : Nat} {h : List Moment} {t : Tracker} {i : Nat} {l : Listener}
    (run : Runs (start capacity) h t) (hl : t.listeners[i]? = some l) :
    Listener.Orderly (max capacity 1) (own i h) l ∧
      (l.cancelled = false → Listener.Lossless (own i h) l ∧ GoesOn t i l) := by
  obtain ⟨a, closed, trace⟩ := run.trace_start hl
  refine ⟨trace.orderly, fun live => ⟨trace.lossless live ?_, run.goesOn hl live⟩⟩
  exact run.addressed (consistent_start capacity) hl live

/-- A queue for one activity is offered two, so one is dropped. The publisher refuses the other, the scan
of the next block fails, and the listener ends with the headers. -/
theorem orderly_lossless_of_runs_full_queue :
    ∃ h t l, Runs (start 1) h t ∧ t.listeners[0]? = some l ∧ l.cancelled = false ∧ l.ended = true ∧
      (Listener.attempts (own 0 h)).length = 1 ∧ (Listener.drops (own 0 h)).length = 1 ∧
      Listener.Orderly (max 1 1) (own 0 h) l ∧ Listener.Lossless (own 0 h) l ∧ GoesOn t 0 l := by
  let record : TransactionRecord := ⟨default, .zero, none, 1, default, 0, 0, []⟩
  let refusal : Except ChannelError Unit := .error (.serialization "refused")
  have hr := Option.some_get (x := Machine.replay? next? (start 1) [.add .zero 5,
    .listener 0 (.subscribed (.ok ())), .listener 0 (.receive (some (.ok ⟨1, "0x1"⟩))),
    .listener 0 (.scanned (.ok [⟨record, []⟩, ⟨record, []⟩])), .listener 0 .take,
    .listener 0 (.prepare default), .listener 0 .clear, .listener 0 .publish,
    .listener 0 (.published refusal), .listener 0 (.receive (some (.ok ⟨2, "0x2"⟩))),
    .listener 0 (.scanned (.error (.node (.timeout 10)))), .listener 0 (.receive none),
    .listener 0 .drained]) rfl
  have run := Machine.runs_of_replay? hr.symm
  obtain ⟨orderly, lossless⟩ := orderly_lossless_of_runs (i := 0) run rfl
  refine ⟨_, _, _, run, rfl, rfl, rfl, ?attempted, ?dropped, orderly, lossless rfl⟩
  case attempted => decide +kernel
  case dropped => decide +kernel

end Tracker

end WalletWatch
