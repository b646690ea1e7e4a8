import WalletWatch.Proofs.Listener.Queue

/-!
# Progress of a listener

Headers are scanned in the order in which they are delivered, and activities are published one at a time,
since every attempt waits for the answers to all earlier ones. While a listener is not cancelled, it
`Reaches` a stage in which everything in hand or queued is published, with any answers of the publisher, and
one in which all further blocks are scanned, with any results.
-/

open scoped List

namespace WalletWatch

def PublishHalf.outstanding : PublishHalf → Nat
  | .publishing _ => 1
  | .idle | .holding _ | .ready _ | .cleared _ | .ended => 0

namespace Listener

def outstanding (l : Listener) : Nat :=
  match l.phase with
  | .running _ publish _ => publish.outstanding
  | _ => 0

def publishEnded (l : Listener) : Bool :=
  match l.phase with
  | .running _ publish _ => publish = .ended
  | _ => false

def readsNoMore (l : Listener) : Bool :=
  match l.phase with
  | .starting => false
  | .running scan _ _ => scan = .ended
  | .stopped => true

theorem Step.scans_sublist {capacity : Nat} {subscribers : List UserId} {l l' : Listener} {e : Event}
    {effects : List Effect} (step : Step capacity subscribers l e l' effects) :
    (scans [⟨l, subscribers, e, effects, l'⟩]).map Prod.fst ++ l'.scanning <+
      l.scanning ++ delivered [⟨l, subscribers, e, effects, l'⟩] := by
  cases step with
  | stopScan => simp [scans, delivered, scanning, ScanHalf.headers]
  | _ => simp_all [scans, delivered, scanning, ScanHalf.headers]

theorem Trace.scans_sublist {capacity : Nat} {l₀ l : Listener} {h : List Moment}
    (trace : Trace capacity l₀ h l) :
    (scans h).map Prod.fst ++ l.scanning <+ l₀.scanning ++ delivered h := by
  induction trace with
  | nil => simp [scans, delivered]
  | cancel _ ih => exact ih
  | snoc _ step ih =>
      rw [scans_append, delivered_append, List.map_append, List.append_assoc]
      refine (step.scans_sublist.append_left _).trans ?_
      rw [← List.append_assoc, ← List.append_assoc]
      exact ih.append_right _

theorem Step.scans_eq {capacity : Nat} {subscribers : List UserId} {l l' : Listener} {e : Event}
    {effects : List Effect} (step : Step capacity subscribers l e l' effects)
    (live : l.cancelled = false) :
    (scans [⟨l, subscribers, e, effects, l'⟩]).map Prod.fst ++ l'.scanning =
      l.scanning ++ delivered [⟨l, subscribers, e, effects, l'⟩] := by
  cases step with
  | stopScan _ hc => simp [live] at hc
  | _ => simp_all [scans, delivered, scanning, ScanHalf.headers]

theorem Trace.scans_eq {capacity : Nat} {l₀ l : Listener} {h : List Moment}
    (trace : Trace capacity l₀ h l) (live : l.cancelled = false) :
    (scans h).map Prod.fst ++ l.scanning = l₀.scanning ++ delivered h := by
  induction trace with
  | nil => simp [scans, delivered]
  | cancel => cases live
  | snoc _ step ih =>
      rw [step.cancelled] at live
      rw [scans_append, delivered_append, List.map_append, List.append_assoc, step.scans_eq live,
        ← List.append_assoc, ih live, List.append_assoc]

/-- An attempt makes one answer outstanding, and its answer settles it. -/
theorem Step.outstanding {capacity : Nat} {subscribers : List UserId} {l l' : Listener} {e : Event}
    {effects : List Effect} (step : Step capacity subscribers l e l' effects)
    (goes : l'.publishEnded = false) :
    l.publishEnded = false ∧
      (attempts [⟨l, subscribers, e, effects, l'⟩]).length + l.outstanding =
        (answers [⟨l, subscribers, e, effects, l'⟩]).length + l'.outstanding := by
  have whole := step
  cases step with
  | publish hp => simp_all [attempts, answers, Listener.outstanding, publishEnded,
      PublishHalf.outstanding]
  | _ =>
      rw [whole.attempts_eq_nil Event.noConfusion]
      simp_all [answers, Listener.outstanding, publishEnded, PublishHalf.outstanding]

theorem Trace.outstanding {capacity : Nat} {l₀ l : Listener} {h : List Moment}
    (trace : Trace capacity l₀ h l) (goes : l.publishEnded = false) :
    (attempts h).length + l₀.outstanding = (answers h).length + l.outstanding := by
  induction trace with
  | nil => simp [attempts, answers]
  | cancel _ ih => exact ih goes
  | snoc _ step ih =>
      obtain ⟨goes, settled⟩ := step.outstanding goes
      have before := ih goes
      rw [attempts_append, answers_append, List.length_append, List.length_append]
      omega

/-- With the same subscribers and without a cancellation, the listener can get from `l` to `l'` while it
attempts some activities, gets some answers and scans some blocks. -/
def Reaches (capacity : Nat) (subscribers : List UserId) (l : Listener) (published : List Activity)
    (replies : List (Except ChannelError Unit))
    (scanned : List (Header × Except Failure (List Activity))) (l' : Listener) : Prop :=
  ∃ h, Trace capacity l h l' ∧ (∀ m ∈ h, m.subscribers = subscribers) ∧
    (attempts h).map Notification.activity = published ∧ answers h = replies ∧ scans h = scanned

theorem Reaches.refl (capacity : Nat) (subscribers : List UserId) (l : Listener) :
    Reaches capacity subscribers l [] [] [] l :=
  ⟨[], .nil, by simp, rfl, rfl, rfl⟩

theorem Reaches.step {capacity : Nat} {subscribers : List UserId} {l l' l'' : Listener} {e : Event}
    {effects : List Effect} {published : List Activity} {replies : List (Except ChannelError Unit)}
    {scanned : List (Header × Except Failure (List Activity))}
    (step : Step capacity subscribers l e l' effects)
    (rest : Reaches capacity subscribers l' published replies scanned l'') :
    Reaches capacity subscribers l
      ((attempts [⟨l, subscribers, e, effects, l'⟩]).map Notification.activity ++ published)
      (answers [⟨l, subscribers, e, effects, l'⟩] ++ replies)
      (scans [⟨l, subscribers, e, effects, l'⟩] ++ scanned) l'' := by
  obtain ⟨h, trace, seen, rfl, rfl, rfl⟩ := rest
  refine ⟨_, .cons step trace, ?_, ?_, ?_, ?_⟩
  · rintro m (_ | ⟨_, hm⟩)
    · rfl
    · exact seen m hm
  · rw [← List.map_append, ← attempts_append, List.singleton_append]
  · rw [← answers_append, List.singleton_append]
  · rw [← scans_append, List.singleton_append]

theorem Reaches.answer {capacity : Nat} {subscribers : List UserId} {l l' : Listener}
    {scan : ScanHalf} {n : Notification} {queue published : List Activity}
    {replies : List (Except ChannelError Unit)} (reply : Except ChannelError Unit)
    (hp : l.phase = .running scan (.publishing n) queue) (live : l.cancelled = false)
    (rest : Reaches capacity subscribers { l with phase := .running scan .idle queue } published
      replies [] l') :
    Reaches capacity subscribers l published (reply :: replies) [] l' := by
  have answered : Step capacity subscribers l (.published reply) _ _ := .published hp live
  exact .step answered rest

theorem Reaches.attempt {capacity : Nat} {subscribers : List UserId} {l l' : Listener}
    {scan : ScanHalf} {n : Notification} {queue published : List Activity}
    {replies : List (Except ChannelError Unit)} (reply : Except ChannelError Unit)
    (hp : l.phase = .running scan (.cleared n) queue) (live : l.cancelled = false)
    (rest : Reaches capacity subscribers { l with phase := .running scan .idle queue } published
      replies [] l') :
    Reaches capacity subscribers l (n.activity :: published) (reply :: replies) [] l' :=
  .step (.publish hp) (.answer reply rfl live rest)

theorem Reaches.attempt_of_ready {capacity : Nat} {subscribers : List UserId} {l l' : Listener}
    {scan : ScanHalf} {n : Notification} {queue published : List Activity}
    {replies : List (Except ChannelError Unit)} (reply : Except ChannelError Unit)
    (hp : l.phase = .running scan (.ready n) queue) (live : l.cancelled = false)
    (rest : Reaches capacity subscribers { l with phase := .running scan .idle queue } published
      replies [] l') :
    Reaches capacity subscribers l (n.activity :: published) (reply :: replies) [] l' :=
  .step (.clear hp live) (.attempt reply rfl live rest)

theorem Reaches.attempt_of_holding {capacity : Nat} {subscribers : List UserId} {l l' : Listener}
    {scan : ScanHalf} {activity : Activity} {queue published : List Activity}
    {replies : List (Except ChannelError Unit)} (now : Instant) (reply : Except ChannelError Unit)
    (hp : l.phase = .running scan (.holding activity) queue) (live : l.cancelled = false)
    (some : subscribers ≠ [])
    (rest : Reaches capacity subscribers { l with phase := .running scan .idle queue } published
      replies [] l') :
    Reaches capacity subscribers l (activity :: published) (reply :: replies) [] l' := by
  have prepared : Step capacity subscribers l (.prepare now) _ _ := .prepare hp some
  exact .step prepared (.attempt_of_ready (n := l.notification activity subscribers now) reply rfl live
    rest)

theorem reaches_of_idle {capacity : Nat} {subscribers : List UserId} {l : Listener} {scan : ScanHalf}
    {queue : List Activity} (now : Instant) (replies : List (Except ChannelError Unit))
    (hp : l.phase = .running scan .idle queue) (live : l.cancelled = false) (some : subscribers ≠ [])
    (enough : replies.length = queue.length) :
    Reaches capacity subscribers l queue replies [] { l with phase := .running scan .idle [] } := by
  induction queue generalizing l replies with
  | nil =>
      rw [List.length_eq_zero_iff.1 enough, ← hp]
      exact .refl capacity subscribers l
  | cons activity queue ih =>
      cases replies with
      | nil => cases enough
      | cons reply replies =>
          have rest := ih (l := { l with phase := .running scan .idle queue }) replies rfl live
            (Nat.succ.inj enough)
          exact .step (.take hp live) (.attempt_of_holding now reply rfl live some rest)

theorem reaches_of_running {capacity : Nat} {subscribers : List UserId} {l : Listener}
    {scan : ScanHalf} {publish : PublishHalf} {queue : List Activity} (now : Instant)
    (replies : List (Except ChannelError Unit)) (hp : l.phase = .running scan publish queue)
    (goes : publish ≠ .ended) (live : l.cancelled = false) (some : subscribers ≠ [])
    (enough : replies.length = publish.outstanding + publish.inHand.length + queue.length) :
    Reaches capacity subscribers l (publish.inHand ++ queue) replies []
      { l with phase := .running scan .idle [] } := by
  have idle : ∀ replies : List (Except ChannelError Unit), replies.length = queue.length →
      Reaches capacity subscribers { l with phase := .running scan .idle queue } queue replies []
        { l with phase := .running scan .idle [] } := fun replies enough =>
    reaches_of_idle now replies rfl live some enough
  cases publish with
  | ended => exact absurd rfl goes
  | idle =>
      refine reaches_of_idle now replies hp live some ?_
      simpa [PublishHalf.outstanding, PublishHalf.inHand] using enough
  | holding | ready | cleared | publishing =>
      cases replies with
      | nil =>
          simp only [PublishHalf.outstanding, PublishHalf.inHand, List.length_cons,
            List.length_nil] at enough
          omega
      | cons reply replies =>
          have rest := idle replies (by
            simp only [PublishHalf.outstanding, PublishHalf.inHand, List.length_cons,
              List.length_nil] at enough
            omega)
          first
          | exact .attempt_of_holding now reply hp live some rest
          | exact .attempt_of_ready reply hp live rest
          | exact .attempt reply hp live rest
          | exact .answer reply hp live rest

theorem Reaches.scanned {capacity : Nat} {subscribers : List UserId} {l : Listener} {header : Header}
    {publish : PublishHalf} {queue : List Activity} (result : Except Failure (List Activity))
    (hp : l.phase = .running (.scanning header) publish queue) (live : l.cancelled = false) :
    ∃ queue', ∀ {blocks : List (Header × Except Failure (List Activity))} {l' : Listener},
      Reaches capacity subscribers { l with phase := .running .reading publish queue' } [] [] blocks
        l' → Reaches capacity subscribers l [] [] ((header, result) :: blocks) l' := by
  cases result with
  | ok found =>
      have scanned : Step capacity subscribers l (.scanned (.ok found)) _ _ := .scanned hp live
      refine ⟨(handOff capacity (publish = .ended) queue found).1, fun rest => ?_⟩
      have whole := Reaches.step scanned rest
      rw [scanned.attempts_eq_nil Event.noConfusion] at whole
      simpa [scans, answers, hp] using whole
  | error e =>
      have unscanned : Step capacity subscribers l (.scanned (.error e)) _ _ := .unscanned hp live
      refine ⟨queue, fun rest => ?_⟩
      have whole := Reaches.step unscanned rest
      rw [unscanned.attempts_eq_nil Event.noConfusion] at whole
      simpa [scans, answers, hp] using whole

theorem reaches_of_reading {capacity : Nat} {subscribers : List UserId} {l : Listener}
    {publish : PublishHalf} {queue : List Activity}
    (blocks : List (Header × Except Failure (List Activity)))
    (hp : l.phase = .running .reading publish queue) (live : l.cancelled = false) :
    ∃ queue', Reaches capacity subscribers l [] [] blocks
      { l with phase := .running .reading publish queue' } := by
  induction blocks generalizing l queue with
  | nil =>
      refine ⟨queue, ?_⟩
      rw [← hp]
      exact .refl capacity subscribers l
  | cons block blocks ih =>
      have received : Step capacity subscribers l (.receive (some (.ok block.1))) _ _ :=
        .received hp live
      obtain ⟨between, scanned⟩ := @Reaches.scanned capacity subscribers
        { l with phase := .running (.scanning block.1) publish queue } _ _ _ block.2 rfl live
      obtain ⟨queue', rest⟩ := ih (l := { l with phase := .running .reading publish between }) rfl live
      exact ⟨queue', .step received (scanned rest)⟩

/-- With any answers of the publisher, everything in hand and in the queue can be published. -/
theorem exists_reaches_published {capacity : Nat} {subscribers : List UserId} {l : Listener}
    (now : Instant) (replies : List (Except ChannelError Unit)) (live : l.cancelled = false)
    (on : PublishesOn l) (some : subscribers ≠ [])
    (enough : replies.length = l.outstanding + l.inHand.length + l.queue.length) :
    ∃ l', Reaches capacity subscribers l (l.inHand ++ l.queue) replies [] l' ∧
      l'.cancelled = false ∧ l'.inHand = [] ∧ l'.queue = [] := by
  cases hp : l.phase with
  | starting | stopped =>
      obtain rfl : replies = [] := by
        simpa [Listener.outstanding, inHand, Listener.queue, hp] using enough
      have here := Reaches.refl capacity subscribers l
      exact ⟨l, by simpa [inHand, Listener.queue, hp] using here, live, by simp [inHand, hp],
        by simp [Listener.queue, hp]⟩
  | running scan publish queue =>
      by_cases ended : publish = .ended
      · subst ended
        obtain ⟨-, rfl⟩ := on _ _ hp
        obtain rfl : replies = [] := by
          simpa [Listener.outstanding, inHand, Listener.queue, hp, PublishHalf.outstanding,
            PublishHalf.inHand] using enough
        have here := Reaches.refl capacity subscribers l
        have none : l.inHand = [] := by simp [inHand, hp, PublishHalf.inHand]
        have empty : l.queue = [] := by simp [Listener.queue, hp]
        exact ⟨l, by simpa [none, empty] using here, live, none, empty⟩
      · have whole := @reaches_of_running capacity _ _ _ _ _ now replies hp ended live some
          (by simpa [Listener.outstanding, inHand, Listener.queue, hp] using enough)
        have carried : l.inHand ++ l.queue = publish.inHand ++ queue := by
          simp [inHand, Listener.queue, hp]
        rw [carried]
        exact ⟨_, whole, live, rfl, rfl⟩

/-- As long as headers can come, every block can be scanned, the current one first. -/
theorem exists_reaches_scanned {capacity : Nat} {subscribers : List UserId} {l : Listener}
    (blocks : List (Header × Except Failure (List Activity))) (live : l.cancelled = false)
    (reads : l.readsNoMore = false) (begun : l.scanning <+: blocks.map Prod.fst) :
    ∃ l', Reaches capacity subscribers l [] [] blocks l' ∧
      l'.cancelled = false ∧ l'.readsNoMore = false := by
  cases hp : l.phase with
  | stopped => simp [readsNoMore, hp] at reads
  | starting =>
      have opened : Step capacity subscribers l (.subscribed (.ok ())) _ _ := .subscribed hp
      obtain ⟨queue', rest⟩ := @reaches_of_reading capacity subscribers
        { l with phase := .running .reading .idle [] } _ _ blocks rfl live
      exact ⟨_, .step opened rest, live, rfl⟩
  | running scan publish queue =>
      cases scan with
      | ended => simp [readsNoMore, hp] at reads
      | reading =>
          obtain ⟨queue', rest⟩ := @reaches_of_reading capacity subscribers _ _ _ blocks hp live
          exact ⟨_, rest, live, rfl⟩
      | scanning header =>
          cases blocks with
          | nil => simp [scanning, hp, ScanHalf.headers] at begun
          | cons block blocks =>
              obtain ⟨between, scanned⟩ := @Reaches.scanned capacity subscribers _ _ _ _ block.2 hp live
              obtain ⟨queue', rest⟩ := @reaches_of_reading capacity subscribers
                { l with phase := .running .reading publish between } _ _ blocks rfl live
              obtain rfl : header = block.1 := by simpa [scanning, hp, ScanHalf.headers] using begun
              exact ⟨_, scanned rest, live, rfl⟩

end Listener

end WalletWatch
