import WalletWatch.Proofs.Listener.Queue

/-!
# The two looks before a publication

A notification is made at a look for subscribers and published after a look for a cancellation. `Prepared n
h` says that the last look for subscribers in `h` made `n`, and `Checked n h` that the listener saw
afterwards that it was not cancelled. A cancelled listener that has not passed the second look is `Barred`,
and publishes nothing any more.
-/

namespace WalletWatch

namespace Listener

/-- A look for subscribers that made the notification `n`. -/
structure Makes (m : Moment) (n : Notification) : Prop where
  event : m.event = .prepare n.time
  address : n.address = m.before.address
  subscribers : n.subscribers = m.subscribers
  nonempty : m.subscribers ≠ []

def NoLook (h : List Moment) : Prop :=
  ∀ m ∈ h, ∀ now, m.event ≠ .prepare now

def Prepared (n : Notification) (h : List Moment) : Prop :=
  ∃ h₁ m h₂, h = h₁ ++ m :: h₂ ∧ Makes m n ∧ NoLook h₂

/-- After it made the notification the listener saw that it was not cancelled. -/
def Checked (n : Notification) (h : List Moment) : Prop :=
  ∃ h₁ m h₂, h = h₁ ++ m :: h₂ ∧ Prepared n h₁ ∧ m.event = .clear ∧ m.before.cancelled = false ∧
    NoLook h₂

theorem NoLook.snoc {h : List Moment} {m : Moment} (none : NoLook h)
    (other : ∀ now, m.event ≠ .prepare now) : NoLook (h ++ [m]) := by
  intro m' hm' now
  rcases List.mem_append.1 hm' with hm' | hm'
  · exact none m' hm' now
  · rw [List.mem_singleton.1 hm']
    exact other now

theorem Prepared.snoc {n : Notification} {h : List Moment} {m : Moment} (prepared : Prepared n h)
    (other : ∀ now, m.event ≠ .prepare now) : Prepared n (h ++ [m]) := by
  obtain ⟨h₁, m₁, h₂, rfl, makes, none⟩ := prepared
  exact ⟨h₁, m₁, h₂ ++ [m], by simp, makes, none.snoc other⟩

theorem Checked.snoc {n : Notification} {h : List Moment} {m : Moment} (checked : Checked n h)
    (other : ∀ now, m.event ≠ .prepare now) : Checked n (h ++ [m]) := by
  obtain ⟨h₁, m₁, h₂, rfl, prepared, event, live, none⟩ := checked
  exact ⟨h₁, m₁, h₂ ++ [m], by simp, prepared, event, live, none.snoc other⟩

/-- A listener gets ready for a notification only by the look that makes it. -/
theorem Step.ready {capacity : Nat} {subscribers : List UserId} {l l' : Listener} {e : Event}
    {effects : List Effect} {scan : ScanHalf} {n : Notification} {queue : List Activity}
    (step : Step capacity subscribers l e l' effects) (hp : l'.phase = .running scan (.ready n) queue) :
    Makes ⟨l, subscribers, e, effects, l'⟩ n ∨
      (∀ now, e ≠ .prepare now) ∧ ∃ scan queue, l.phase = .running scan (.ready n) queue := by
  cases step with
  | prepare _ some =>
      cases hp
      exact .inl ⟨rfl, rfl, rfl, some⟩
  | received hp' | failed hp' | finished hp' | scanned hp' | unscanned hp' | stopScan hp' =>
      cases hp
      exact .inr ⟨fun _ => Event.noConfusion, _, _, hp'⟩
  | _ => cases hp

theorem Step.cleared {capacity : Nat} {subscribers : List UserId} {l l' : Listener} {e : Event}
    {effects : List Effect} {scan : ScanHalf} {n : Notification} {queue : List Activity}
    (step : Step capacity subscribers l e l' effects)
    (hp : l'.phase = .running scan (.cleared n) queue) :
    (∀ now, e ≠ .prepare now) ∧
      (e = .clear ∧ l.cancelled = false ∧ (∃ scan queue, l.phase = .running scan (.ready n) queue) ∨
        ∃ scan queue, l.phase = .running scan (.cleared n) queue) := by
  cases step with
  | clear hp' live =>
      cases hp
      exact ⟨fun _ => Event.noConfusion, .inl ⟨rfl, live, _, _, hp'⟩⟩
  | received hp' | failed hp' | finished hp' | scanned hp' | unscanned hp' | stopScan hp' =>
      cases hp
      exact ⟨fun _ => Event.noConfusion, .inr ⟨_, _, hp'⟩⟩
  | _ => cases hp

theorem Trace.prepared {capacity : Nat} {a : Address} {closed : Bool} {l : Listener} {h : List Moment}
    {scan : ScanHalf} {n : Notification} {queue : List Activity}
    (trace : Trace capacity (start a closed) h l) (hp : l.phase = .running scan (.ready n) queue) :
    Prepared n h := by
  induction trace generalizing scan queue with
  | nil => cases hp
  | cancel _ ih => exact ih hp
  | snoc _ step ih =>
      rcases step.ready hp with makes | ⟨other, _, _, hp'⟩
      · exact ⟨_, _, [], rfl, makes, by simp [NoLook]⟩
      · exact (ih hp').snoc other

theorem Trace.checked {capacity : Nat} {a : Address} {closed : Bool} {l : Listener} {h : List Moment}
    {scan : ScanHalf} {n : Notification} {queue : List Activity}
    (trace : Trace capacity (start a closed) h l) (hp : l.phase = .running scan (.cleared n) queue) :
    Checked n h := by
  induction trace generalizing scan queue with
  | nil => cases hp
  | cancel _ ih => exact ih hp
  | snoc trace step ih =>
      obtain ⟨other, ⟨rfl, live, _, _, hp'⟩ | ⟨_, _, hp'⟩⟩ := step.cleared hp
      · exact ⟨_, _, [], rfl, trace.prepared hp', rfl, live, by simp [NoLook]⟩
      · exact (ih hp').snoc other

theorem Trace.found_of_cleared {capacity : Nat} {a : Address} {closed : Bool} {l : Listener}
    {h : List Moment} {scan : ScanHalf} {n : Notification} {queue : List Activity}
    (trace : Trace capacity (start a closed) h l) (hp : l.phase = .running scan (.cleared n) queue) :
    n.address = a ∧ n.activity ∈ found h := by
  constructor
  · obtain ⟨h₁, m, h₂, hh, ⟨_, look, _, rfl, makes, -⟩, -⟩ := trace.checked hp
    rw [makes.address]
    exact ((trace.split hh).1.split rfl).1.address
  · have carried := trace.carried_sublist.trans (by simpa [start, inHand, Listener.queue] using
      trace.queued_found.1)
    refine carried.subset ?_
    simp [inHand, hp, PublishHalf.inHand]

theorem Step.publishes {capacity : Nat} {subscribers : List UserId} {l l' : Listener}
    {effects : List Effect} (step : Step capacity subscribers l .publish l' effects) :
    ∃ scan n queue, l.phase = .running scan (.cleared n) queue ∧ effects = [.publish n] := by
  cases step with
  | publish hp => exact ⟨_, _, _, hp, rfl⟩

/-- A cancelled listener that has not passed its look for a cancellation. -/
def Barred (l : Listener) : Prop :=
  l.cancelled = true ∧ ∀ scan n queue, l.phase ≠ .running scan (.cleared n) queue

theorem Step.barred {capacity : Nat} {subscribers : List UserId} {l l' : Listener} {e : Event}
    {effects : List Effect} (step : Step capacity subscribers l e l' effects) (barred : Barred l) :
    e ≠ .publish ∧ Barred l' := by
  obtain ⟨cancelled, passed⟩ := barred
  constructor
  · rintro rfl
    obtain ⟨_, _, _, hp, -⟩ := step.publishes
    exact passed _ _ _ hp
  · refine ⟨step.cancelled ▸ cancelled, fun scan n queue hp => ?_⟩
    obtain ⟨-, ⟨-, live, -⟩ | ⟨_, _, hp'⟩⟩ := step.cleared hp
    · rw [cancelled] at live
      cases live
    · exact passed _ _ _ hp'

/-- A `Barred` listener never publishes. -/
theorem Trace.barred {capacity : Nat} {l₀ l : Listener} {h : List Moment}
    (trace : Trace capacity l₀ h l) (barred : Barred l₀) :
    Barred l ∧ ∀ m ∈ h, m.event ≠ .publish := by
  induction trace with
  | nil => exact ⟨barred, by simp⟩
  | cancel _ ih => exact ⟨⟨rfl, ih.1.2⟩, ih.2⟩
  | snoc _ step ih =>
      obtain ⟨silent, barred'⟩ := step.barred ih.1
      refine ⟨barred', fun m hm => ?_⟩
      rcases List.mem_append.1 hm with hm | hm
      · exact ih.2 m hm
      · rw [List.mem_singleton.1 hm]
        exact silent

end Listener

end WalletWatch
