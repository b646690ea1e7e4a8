import WalletWatch.Proofs.Listener.Trace

/-!
# The queue of a listener

Between the two halves of a listener activities get lost only if the queue is full or the listener is
cancelled. The lemmas compare what a trace attempted, what is in hand and what waits in the queue with all
that was queued: the first three are a sublist of the last in the same order, and all of it as long as the
listener is not cancelled.
-/

open scoped List

namespace WalletWatch

namespace Listener

theorem handOff_of_open (capacity : Nat) (queue found : List Activity) :
    handOff capacity false queue found =
      (queue ++ found.take (capacity - queue.length),
        (found.drop (capacity - queue.length)).map fun activity =>
          (activity, "notification buffer full")) := by
  induction found generalizing queue with
  | nil => simp [handOff]
  | cons activity found ih =>
      by_cases room : queue.length < capacity
      · have less : capacity - queue.length = capacity - (queue ++ [activity]).length + 1 := by
          rw [List.length_append, List.length_singleton]
          omega
        simp only [handOff, offer, Bool.false_eq_true, if_false, if_pos room]
        rw [ih, less]
        simp
      · have full : capacity - queue.length = 0 := by omega
        simp only [handOff, offer, Bool.false_eq_true, if_false, if_neg room]
        rw [ih, full]
        simp

theorem handOff_of_closed (capacity : Nat) (queue found : List Activity) :
    handOff capacity true queue found =
      (queue, found.map fun activity => (activity, "notification consumer stopped")) := by
  induction found generalizing queue with
  | nil => simp [handOff]
  | cons activity found ih => simp [handOff, offer, ih]

/-- A hand-off appends an initial part of the activities to the queue and drops the rest. -/
theorem handOff_eq (capacity : Nat) (closed : Bool) (queue found : List Activity) :
    ∃ k reason, handOff capacity closed queue found =
      (queue ++ found.take k, (found.drop k).map fun activity => (activity, reason)) ∧
      (queue.length ≤ capacity → (queue ++ found.take k).length ≤ capacity) := by
  cases closed with
  | false =>
      refine ⟨_, _, handOff_of_open capacity queue found, fun fits => ?_⟩
      rw [List.length_append, List.length_take]
      omega
  | true => exact ⟨0, _, by simpa using handOff_of_closed capacity queue found, by simp⟩

theorem Step.attempts_eq_nil {capacity : Nat} {subscribers : List UserId} {l l' : Listener}
    {e : Event} {effects : List Effect} (step : Step capacity subscribers l e l' effects)
    (other : e ≠ .publish) : attempts [⟨l, subscribers, e, effects, l'⟩] = [] := by
  cases step with
  | publish => exact absurd rfl other
  | _ => simp [attempts, Effect.notification?]

theorem Step.handsOff {capacity : Nat} {subscribers : List UserId} {l l' : Listener}
    {found : List Activity} {effects : List Effect}
    (step : Step capacity subscribers l (.scanned (.ok found)) l' effects) :
    ∃ k reason, l'.queue = l.queue ++ found.take k ∧ l'.inHand = l.inHand ∧
      effects = (found.drop k).map (fun activity => .log (l.givenUp activity reason)) ∧
      (l.queue.length ≤ capacity → l'.queue.length ≤ capacity) := by
  cases step with
  | @scanned header publish queue _ hp =>
      obtain ⟨k, reason, hk, fits⟩ := handOff_eq capacity (publish = .ended) queue found
      refine ⟨k, reason, ?_, ?_, ?_, ?_⟩
      · simp [Listener.queue, hp, hk]
      · simp [inHand, hp]
      · rw [hk, List.map_map]
        rfl
      · simpa [Listener.queue, hp, hk] using fits

theorem Step.queue_length_le {capacity : Nat} {subscribers : List UserId} {l l' : Listener}
    {e : Event} {effects : List Effect} (step : Step capacity subscribers l e l' effects)
    (fits : l.queue.length ≤ capacity) : l'.queue.length ≤ capacity := by
  have whole := step
  cases step with
  | scanned =>
      obtain ⟨k, reason, -, -, -, bound⟩ := whole.handsOff
      exact bound fits
  | take hp =>
      simp only [Listener.queue, hp, List.length_cons] at fits
      simp only [Listener.queue]
      omega
  | _ => simp_all [Listener.queue]

theorem Trace.queue_length_le {capacity : Nat} {l₀ l : Listener} {h : List Moment}
    (trace : Trace capacity l₀ h l) (fits : l₀.queue.length ≤ capacity) :
    l.queue.length ≤ capacity := by
  induction trace with
  | nil => exact fits
  | cancel _ ih => exact ih
  | snoc _ step ih => exact step.queue_length_le ih

/-- If the publishing half has ended, so have the headers, and the queue is empty. -/
def PublishesOn (l : Listener) : Prop :=
  ∀ scan queue, l.phase = .running scan .ended queue → scan = .ended ∧ queue = []

theorem Step.publishesOn {capacity : Nat} {subscribers : List UserId} {l l' : Listener}
    {e : Event} {effects : List Effect} (step : Step capacity subscribers l e l' effects)
    (live : l.cancelled = false) (on : PublishesOn l) : PublishesOn l' := by
  intro scan' queue' hp'
  cases step with
  | received hp | failed hp | finished hp | unscanned hp | scanned hp =>
      cases hp'
      cases (on _ _ hp).1
  | stopScan _ hc | stopPublish _ hc => simp [live] at hc
  | drained hp =>
      cases hp'
      exact ⟨rfl, rfl⟩
  | _ => cases hp'

theorem Trace.publishesOn {capacity : Nat} {l₀ l : Listener} {h : List Moment}
    (trace : Trace capacity l₀ h l) (on : PublishesOn l₀) (live : l.cancelled = false) :
    PublishesOn l := by
  induction trace with
  | nil => exact on
  | cancel => cases live
  | snoc _ step ih =>
      rw [step.cancelled] at live
      exact step.publishesOn live (ih live)

/-- A step of a listener that goes on publishing and finds subscribers moves activities from the queue to
the hand and from there to the publisher, and loses none. -/
theorem Step.carried_eq {capacity : Nat} {subscribers : List UserId} {l l' : Listener} {e : Event}
    {effects : List Effect} (step : Step capacity subscribers l e l' effects)
    (goes : e ≠ .stopPublish) (addressed : ∀ now, e = .prepare now → subscribers ≠ []) :
    (attempts [⟨l, subscribers, e, effects, l'⟩]).map Notification.activity ++ l'.inHand ++ l'.queue =
      l.inHand ++ l.queue ++ queued [⟨l, subscribers, e, effects, l'⟩] := by
  have whole := step
  cases step with
  | stopPublish => exact absurd rfl goes
  | unaddressed _ hs => exact absurd hs (addressed _ rfl)
  | scanned =>
      obtain ⟨k, reason, hq, hi, -⟩ := whole.handsOff
      have silent := whole.attempts_eq_nil Event.noConfusion
      rw [silent, hi, List.map_nil, List.nil_append]
      simp [queued, hq]
  | take hp | drained hp | prepare hp | clear hp | publish hp | published hp =>
      simp [attempts, queued, inHand, Listener.queue, hp, PublishHalf.inHand, notification,
        Notification.activity]
  | quit hp | subscribed hp | refused hp | received hp | failed hp | finished hp | unscanned hp
  | stopScan hp =>
      rw [whole.attempts_eq_nil Event.noConfusion]
      simp [queued, inHand, Listener.queue, hp, PublishHalf.inHand]

/-- A step can lose what is in hand or queued, but keeps the order of the rest. -/
theorem Step.carried_sublist {capacity : Nat} {subscribers : List UserId} {l l' : Listener}
    {e : Event} {effects : List Effect} (step : Step capacity subscribers l e l' effects) :
    (attempts [⟨l, subscribers, e, effects, l'⟩]).map Notification.activity ++ l'.inHand ++ l'.queue <+
      l.inHand ++ l.queue ++ queued [⟨l, subscribers, e, effects, l'⟩] := by
  have whole := step
  cases step with
  | stopPublish hp =>
      rw [whole.attempts_eq_nil Event.noConfusion]
      simp [queued, inHand, Listener.queue, hp, PublishHalf.inHand]
  | unaddressed hp =>
      rw [whole.attempts_eq_nil Event.noConfusion]
      simp [queued, inHand, Listener.queue, hp, PublishHalf.inHand]
  | prepare _ hs =>
      have same := whole.carried_eq Event.noConfusion fun _ _ => hs
      simp only [same, List.Sublist.refl]
  | _ =>
      have same := whole.carried_eq Event.noConfusion fun _ h => Event.noConfusion h
      simp only [same, List.Sublist.refl]

theorem Trace.carried_sublist {capacity : Nat} {l₀ l : Listener} {h : List Moment}
    (trace : Trace capacity l₀ h l) :
    (attempts h).map Notification.activity ++ l.inHand ++ l.queue <+
      l₀.inHand ++ l₀.queue ++ queued h := by
  induction trace with
  | nil => simp [attempts, queued]
  | cancel _ ih => exact ih
  | @snoc h l l' subscribers e effects _ step ih =>
      rw [attempts_append, queued_append, List.map_append]
      calc _ = (attempts h).map Notification.activity ++
            ((attempts [⟨l, subscribers, e, effects, l'⟩]).map Notification.activity ++ l'.inHand ++
              l'.queue) := by simp only [List.append_assoc]
        _ <+ (attempts h).map Notification.activity ++
            (l.inHand ++ l.queue ++ queued [⟨l, subscribers, e, effects, l'⟩]) :=
          step.carried_sublist.append_left _
        _ = ((attempts h).map Notification.activity ++ l.inHand ++ l.queue) ++
            queued [⟨l, subscribers, e, effects, l'⟩] := by simp only [List.append_assoc]
        _ <+ (l₀.inHand ++ l₀.queue ++ queued h) ++ queued [⟨l, subscribers, e, effects, l'⟩] :=
          ih.append_right _
        _ = _ := List.append_assoc _ _ _

def Addressed (h : List Moment) : Prop :=
  ∀ m ∈ h, ∀ now, m.event = .prepare now → m.subscribers ≠ []

theorem Trace.carried_eq {capacity : Nat} {l₀ l : Listener} {h : List Moment}
    (trace : Trace capacity l₀ h l) (live : l.cancelled = false) (addressed : Addressed h) :
    (attempts h).map Notification.activity ++ l.inHand ++ l.queue =
      l₀.inHand ++ l₀.queue ++ queued h := by
  induction trace with
  | nil => simp [attempts, queued]
  | cancel => cases live
  | @snoc h l l' subscribers e effects _ step ih =>
      rw [step.cancelled] at live
      have before := ih live fun m hm => addressed m (List.mem_append_left _ hm)
      have goes : e ≠ .stopPublish := by
        rintro rfl
        cases step with
        | stopPublish _ hc => simp [live] at hc
      have carried := step.carried_eq goes (addressed _ (List.mem_append_right _ (.head _)))
      rw [attempts_append, queued_append, List.map_append, ← List.append_assoc, ← before]
      simp only [List.append_assoc] at carried ⊢
      rw [carried]

theorem Step.queued_found {capacity : Nat} {subscribers : List UserId} {l l' : Listener} {e : Event}
    {effects : List Effect} (step : Step capacity subscribers l e l' effects) :
    queued [⟨l, subscribers, e, effects, l'⟩] <+ found [⟨l, subscribers, e, effects, l'⟩] ∧
      (queued [⟨l, subscribers, e, effects, l'⟩]).length +
        (drops [⟨l, subscribers, e, effects, l'⟩]).length =
          (found [⟨l, subscribers, e, effects, l'⟩]).length := by
  have whole := step
  cases step with
  | @scanned header publish queue activities hp =>
      obtain ⟨k, reason, hq, -, he, -⟩ := whole.handsOff
      rw [he] at whole ⊢
      simp [queued, drops, found, scans, hp, hq, List.take_sublist]
      omega
  | unscanned hp => simp [queued, drops, found, scans, hp]
  | _ => simp [queued, drops, found, scans]

theorem Trace.queued_found {capacity : Nat} {l₀ l : Listener} {h : List Moment}
    (trace : Trace capacity l₀ h l) :
    queued h <+ found h ∧ (queued h).length + (drops h).length = (found h).length := by
  induction trace with
  | nil => simp [queued, drops, found, scans]
  | cancel _ ih => exact ih
  | snoc _ step ih =>
      rw [queued_append, drops_append, found_append]
      refine ⟨ih.1.append step.queued_found.1, ?_⟩
      simp only [List.length_append]
      have := ih.2
      have := step.queued_found.2
      omega

end Listener

end WalletWatch
