import WalletWatch.Proofs.Listener.Trace

/-!
# The header subscription of a listener

A listener asks for headers once, and holds the subscription until its scanning half ends: with the headers,
or when it sees that it was cancelled. `Tally` gives the requests, grants and releases in every phase. A
listener without a step of its own holds a subscription exactly if it was granted one, is not cancelled and
its headers did not break off, and `left` bounds the steps until then.
-/

namespace WalletWatch

def Effect.isSubscribe : Effect → Bool
  | .subscribe => true
  | .log _ | .unsubscribe | .publish _ => false

def Effect.isUnsubscribe : Effect → Bool
  | .unsubscribe => true
  | .log _ | .subscribe | .publish _ => false

def ScanHalf.left : ScanHalf → Nat
  | .reading | .scanning _ => 1
  | .ended => 0

/-- The steps that the publishing half has left, without those of the next activity. -/
def PublishHalf.left : PublishHalf → Nat
  | .holding _ => 4
  | .ready _ => 3
  | .cleared _ => 2
  | .idle | .publishing _ => 1
  | .ended => 0

namespace Listener

/-- Whether an event ends a request for headers that may or may not have been sent. -/
def Event.cutsOff : Event → Bool
  | .quit => true
  | _ => false

def Event.grants : Event → Bool
  | .subscribed (.ok ()) => true
  | _ => false

def Event.breaks : Event → Bool
  | .receive none | .receive (some (.error _)) => true
  | _ => false

/-- Whether a listener takes a step by itself, without an answer from outside. -/
def Event.own : Event → Bool
  | .subscribed _ | .receive _ | .scanned _ | .published _ => false
  | .quit | .stopScan | .take | .prepare _ | .clear | .publish | .stopPublish | .drained => true

/-- The requests for headers, grants and releases of a listener, and whether its headers broke off. -/
structure Books where
  /-- How often it asked for headers, requests that were cut off included. -/
  calls : Nat
  /-- How many subscriptions it was granted. -/
  granted : Nat
  /-- How many subscriptions it released. -/
  released : Nat
  /-- Whether its headers ended or failed. -/
  broken : Bool

def Books.add (b : Books) (m : Moment) : Books where
  calls := b.calls + m.effects.countP Effect.isSubscribe + m.event.cutsOff.toNat
  granted := b.granted + m.event.grants.toNat
  released := b.released + m.effects.countP Effect.isUnsubscribe
  broken := b.broken || m.event.breaks

theorem Books.add_eq_self {b : Books} {m : Moment} (call : m.effects.countP Effect.isSubscribe = 0)
    (finish : m.event.cutsOff = false) (grant : m.event.grants = false) (whole : m.event.breaks = false)
    (release : m.effects.countP Effect.isUnsubscribe = 0) : b.add m = b := by
  simp [add, call, finish, grant, whole, release]

def books (h : List Moment) : Books :=
  h.foldl Books.add ⟨0, 0, 0, false⟩

theorem books_snoc (h : List Moment) (m : Moment) : books (h ++ [m]) = (books h).add m := by
  rw [books, List.foldl_append]
  rfl

/-- The books of a listener in each phase. -/
inductive Tally (cancelled : Bool) : Books → Phase → Prop
  | starting : Tally cancelled ⟨0, 0, 0, false⟩ .starting
  | subscribed {scan : ScanHalf} {publish : PublishHalf} {queue : List Activity} : scan ≠ .ended →
      Tally cancelled ⟨1, 1, 0, false⟩ (.running scan publish queue)
  | ended {publish : PublishHalf} {queue : List Activity} {broken : Bool} :
      (broken = true ∨ cancelled = true) →
      Tally cancelled ⟨1, 1, 1, broken⟩ (.running .ended publish queue)
  | stopped : Tally cancelled ⟨1, 0, 0, false⟩ .stopped

theorem Tally.cancel {b : Books} {cancelled : Bool} {p : Phase} (tally : Tally cancelled b p) :
    Tally true b p := by
  cases tally with
  | starting => exact .starting
  | subscribed reads => exact .subscribed reads
  | ended _ => exact .ended (.inr rfl)
  | stopped => exact .stopped

theorem Tally.running {b : Books} {cancelled : Bool} {scan scan' : ScanHalf}
    {publish publish' : PublishHalf} {queue queue' : List Activity}
    (tally : Tally cancelled b (.running scan publish queue)) (same : scan' = .ended ↔ scan = .ended) :
    Tally cancelled b (.running scan' publish' queue') := by
  cases tally with
  | subscribed reads => exact .subscribed fun ended => reads (same.1 ended)
  | ended why =>
      rw [same.2 rfl]
      exact .ended why

theorem countP_log {α : Type} (entry : α → LogEntry) (xs : List α) :
    (xs.map fun x => Effect.log (entry x)).countP Effect.isSubscribe = 0 ∧
      (xs.map fun x => Effect.log (entry x)).countP Effect.isUnsubscribe = 0 := by
  simp [List.countP_map, Function.comp_def, Effect.isSubscribe, Effect.isUnsubscribe]

theorem Tally.snoc {capacity : Nat} {subscribers : List UserId} {l l' : Listener} {e : Event}
    {effects : List Effect} {b : Books} (tally : Tally l.cancelled b l.phase)
    (step : Step capacity subscribers l e l' effects) :
    Tally l'.cancelled (b.add ⟨l, subscribers, e, effects, l'⟩) l'.phase := by
  cases step with
  | quit hp _ | refused hp =>
      rw [hp] at tally
      cases tally
      exact .stopped
  | subscribed hp =>
      rw [hp] at tally
      cases tally
      exact .subscribed nofun
  | failed hp _ | finished hp _ =>
      rw [hp] at tally
      cases tally
      exact .ended (.inl rfl)
  | stopScan hp told reads =>
      rw [hp] at tally
      cases tally with
      | subscribed => exact .ended (.inr told)
      | ended => exact absurd rfl reads
  | received hp _ | unscanned hp _ =>
      rw [hp] at tally
      rw [Books.add_eq_self rfl rfl rfl rfl rfl]
      exact tally.running ⟨nofun, nofun⟩
  | scanned hp _ =>
      rw [hp] at tally
      rw [Books.add_eq_self (countP_log _ _).1 rfl rfl rfl (countP_log _ _).2]
      exact tally.running ⟨nofun, nofun⟩
  | take hp _ | unaddressed hp _ | prepare hp _ | clear hp _ | publish hp | published hp _
  | stopPublish hp _ _ | drained hp =>
      rw [hp] at tally
      rw [Books.add_eq_self rfl rfl rfl rfl rfl]
      exact tally.running .rfl

theorem Trace.tally {capacity : Nat} {l : Listener} {h : List Moment} {a : Address} {closed : Bool}
    (trace : Trace capacity (start a closed) h l) :
    Tally l.cancelled (books h) l.phase := by
  induction trace with
  | nil => exact .starting
  | cancel _ ih => exact ih.cancel
  | snoc _ step ih =>
      rw [books_snoc]
      exact ih.snoc step

theorem Step.subscribed_add_grants {capacity : Nat} {subscribers : List UserId} {l l' : Listener}
    {e : Event} {effects : List Effect} (step : Step capacity subscribers l e l' effects) :
    l.subscribed.toNat + e.grants.toNat = l'.subscribed.toNat + effects.countP Effect.isUnsubscribe := by
  cases step with
  | scanned hp _ =>
      rw [(countP_log _ _).2]
      simp [Listener.subscribed, hp, Event.grants]
  | stopScan hp _ reads => simp [Listener.subscribed, hp, Event.grants, reads, Effect.isUnsubscribe]
  | quit hp _ | subscribed hp | refused hp | received hp _ | failed hp _ | finished hp _ | unscanned hp _
  | take hp _ | unaddressed hp _ | prepare hp _ | clear hp _ | publish hp | published hp _
  | stopPublish hp _ _ | drained hp =>
      simp [Listener.subscribed, hp, Event.grants, Effect.isUnsubscribe]

def Books.held (b : Books) : Nat :=
  b.granted - b.released

def Books.good (b : Books) : Bool :=
  b.granted ≠ 0 && !b.broken

theorem Tally.bounds {b : Books} {cancelled : Bool} {p : Phase} (tally : Tally cancelled b p) :
    b.calls ≤ 1 ∧ b.granted ≤ b.calls ∧ b.released ≤ b.granted := by
  cases tally <;> simp

/-- A listener without a step of its own holds one subscription if it was granted one, is not cancelled
and its headers did not break off, and none otherwise. -/
theorem Tally.quiet {capacity : Nat} {subscribers : List UserId} {l : Listener} {b : Books}
    (tally : Tally l.cancelled b l.phase)
    (quiet : ∀ e, e.own = true → l.step? capacity subscribers e = none) :
    b.held = l.subscribed.toNat ∧ l.subscribed = (!l.cancelled && b.good) := by
  obtain ⟨a, cancelled, p⟩ := l
  dsimp only at tally quiet ⊢
  cases tally with
  | starting | stopped => simp [Books.held, Books.good, Listener.subscribed]
  | subscribed reads =>
      cases cancelled with
      | true =>
          have stops := quiet .stopScan rfl
          simp [step?, reads] at stops
      | false => simp [Books.held, Books.good, Listener.subscribed, reads]
  | ended why => rcases why with rfl | rfl <;> simp [Books.held, Books.good, Listener.subscribed]

def left (l : Listener) : Nat :=
  match l.phase with
  | .starting => 1
  | .running scan publish queue => scan.left + publish.left + 4 * queue.length
  | .stopped => 0

theorem Step.left_lt {capacity : Nat} {subscribers : List UserId} {l l' : Listener} {e : Event}
    {effects : List Effect} (step : Step capacity subscribers l e l' effects) (own : e.own = true) :
    l'.left < l.left := by
  cases step with
  | subscribed | refused | received | failed | finished | scanned | unscanned | published => cases own
  | @stopScan scan _ _ hp _ reads => cases scan <;> simp_all [left, ScanHalf.left]
  | @stopPublish _ publish _ hp _ heeds =>
      cases publish <;> simp_all [left, PublishHalf.left, PublishHalf.heeds]
  | quit hp _ | unaddressed hp _ | prepare hp _ | clear hp _ | publish hp | drained hp =>
      simp [left, hp, PublishHalf.left]
  | take hp _ =>
      simp only [left, hp, PublishHalf.left, List.length_cons]
      omega

end Listener

end WalletWatch
