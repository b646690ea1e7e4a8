import WalletWatch.Tracker.Listener

/-!
# The steps of a listener

`Step capacity subscribers l e l' effects` lists what a listener can do, one constructor for each
transition with the condition under which it can be taken. `step?_eq_some_iff` says that the function
`Listener.step?` takes these transitions and no others, so that whatever a step preserves is proved by
cases on the relation and the function is not opened again.
-/

namespace WalletWatch

namespace Listener

inductive Step (capacity : Nat) (subscribers : List UserId) (l : Listener) :
    Event → Listener → List Effect → Prop
  | quit : l.phase = .starting → l.cancelled = true →
      Step capacity subscribers l .quit { l with phase := .stopped } []
  | subscribed : l.phase = .starting →
      Step capacity subscribers l (.subscribed (.ok ()))
        { l with phase := .running .reading .idle [] } [.subscribe]
  | refused {e : NodeError} : l.phase = .starting →
      Step capacity subscribers l (.subscribed (.error e))
        { l with phase := .stopped } [.subscribe, .log (l.refused e)]
  | received {publish : PublishHalf} {queue : List Activity} {header : Header} :
      l.phase = .running .reading publish queue → l.cancelled = false →
      Step capacity subscribers l (.receive (some (.ok header)))
        { l with phase := .running (.scanning header) publish queue } []
  | failed {publish : PublishHalf} {queue : List Activity} {e : NodeError} :
      l.phase = .running .reading publish queue → l.cancelled = false →
      Step capacity subscribers l (.receive (some (.error e)))
        { l with phase := .running .ended publish queue } [.log (l.failed e), .unsubscribe]
  | finished {publish : PublishHalf} {queue : List Activity} :
      l.phase = .running .reading publish queue → l.cancelled = false →
      Step capacity subscribers l (.receive none)
        { l with phase := .running .ended publish queue } [.log l.finished, .unsubscribe]
  | scanned {header : Header} {publish : PublishHalf} {queue found : List Activity} :
      l.phase = .running (.scanning header) publish queue → l.cancelled = false →
      Step capacity subscribers l (.scanned (.ok found))
        { l with phase :=
            .running .reading publish (handOff capacity (publish = .ended) queue found).1 }
        ((handOff capacity (publish = .ended) queue found).2.map fun (activity, reason) =>
          .log (l.givenUp activity reason))
  | unscanned {header : Header} {publish : PublishHalf} {queue : List Activity} {e : Failure} :
      l.phase = .running (.scanning header) publish queue → l.cancelled = false →
      Step capacity subscribers l (.scanned (.error e))
        { l with phase := .running .reading publish queue } [.log (l.unscanned header e)]
  | stopScan {scan : ScanHalf} {publish : PublishHalf} {queue : List Activity} :
      l.phase = .running scan publish queue → l.cancelled = true → scan ≠ .ended →
      Step capacity subscribers l .stopScan
        { l with phase := .running .ended publish queue } [.unsubscribe]
  | take {scan : ScanHalf} {activity : Activity} {queue : List Activity} :
      l.phase = .running scan .idle (activity :: queue) → l.cancelled = false →
      Step capacity subscribers l .take
        { l with phase := .running scan (.holding activity) queue } []
  | unaddressed {scan : ScanHalf} {activity : Activity} {queue : List Activity} {now : Instant} :
      l.phase = .running scan (.holding activity) queue → subscribers = [] →
      Step capacity subscribers l (.prepare now)
        { l with phase := .running scan .idle queue } [.log l.unaddressed]
  | prepare {scan : ScanHalf} {activity : Activity} {queue : List Activity} {now : Instant} :
      l.phase = .running scan (.holding activity) queue → subscribers ≠ [] →
      Step capacity subscribers l (.prepare now)
        { l with phase := .running scan (.ready (l.notification activity subscribers now)) queue } []
  | clear {scan : ScanHalf} {n : Notification} {queue : List Activity} :
      l.phase = .running scan (.ready n) queue → l.cancelled = false →
      Step capacity subscribers l .clear
        { l with phase := .running scan (.cleared n) queue } []
  | publish {scan : ScanHalf} {n : Notification} {queue : List Activity} :
      l.phase = .running scan (.cleared n) queue →
      Step capacity subscribers l .publish
        { l with phase := .running scan (.publishing n) queue } [.publish n]
  | published {scan : ScanHalf} {n : Notification} {queue : List Activity}
      {reply : Except ChannelError Unit} :
      l.phase = .running scan (.publishing n) queue → l.cancelled = false →
      Step capacity subscribers l (.published reply)
        { l with phase := .running scan .idle queue } [.log (l.answered n reply)]
  | stopPublish {scan : ScanHalf} {publish : PublishHalf} {queue : List Activity} :
      l.phase = .running scan publish queue → l.cancelled = true → publish.heeds = true →
      Step capacity subscribers l .stopPublish
        { l with phase := .running scan .ended queue } []
  | drained : l.phase = .running .ended .idle [] →
      Step capacity subscribers l .drained { l with phase := .running .ended .ended [] } []

theorem step?_eq_some_iff {capacity : Nat} {subscribers : List UserId} {l l' : Listener} {e : Event}
    {effects : List Effect} :
    l.step? capacity subscribers e = some (l', effects) ↔
      Step capacity subscribers l e l' effects := by
  constructor
  · intro h
    cases e with
    | quit =>
        simp only [step?] at h
        split at h
        · next hp =>
          split at h
          · next hc =>
            cases h
            exact .quit hp hc
          · cases h
        · cases h
    | subscribed reply =>
        simp only [step?] at h
        split at h
        · next hp =>
          split at h
          · cases h
            exact .subscribed hp
          · cases h
            exact .refused hp
        · cases h
    | receive item =>
        simp only [step?] at h
        split at h
        · next hp =>
          split at h
          · cases h
          · next hc =>
            rw [Bool.not_eq_true] at hc
            split at h
            · cases h
              exact .received hp hc
            · cases h
              exact .failed hp hc
            · cases h
              exact .finished hp hc
        · cases h
    | scanned result =>
        simp only [step?] at h
        split at h
        · next hp =>
          split at h
          · cases h
          · next hc =>
            rw [Bool.not_eq_true] at hc
            split at h
            · cases h
              exact .scanned hp hc
            · cases h
              exact .unscanned hp hc
        · cases h
    | stopScan =>
        simp only [step?] at h
        split at h
        · next hp =>
          split at h
          · next hc =>
            simp only [Bool.and_eq_true, decide_eq_true_eq] at hc
            cases h
            exact .stopScan hp hc.1 hc.2
          · cases h
        · cases h
    | take =>
        simp only [step?] at h
        split at h
        · next hp =>
          split at h
          · cases h
          · next hc =>
            cases h
            exact .take hp (Bool.not_eq_true _ ▸ hc)
        · cases h
    | prepare now =>
        simp only [step?] at h
        split at h
        · next hp =>
          split at h
          · next hs =>
            cases h
            exact .unaddressed hp (List.isEmpty_iff.1 hs)
          · next hs =>
            cases h
            exact .prepare hp fun hn => hs (List.isEmpty_iff.2 hn)
        · cases h
    | clear =>
        simp only [step?] at h
        split at h
        · next hp =>
          split at h
          · cases h
          · next hc =>
            cases h
            exact .clear hp (Bool.not_eq_true _ ▸ hc)
        · cases h
    | publish =>
        simp only [step?] at h
        split at h
        · next hp =>
          cases h
          exact .publish hp
        · cases h
    | published reply =>
        simp only [step?] at h
        split at h
        · next hp =>
          split at h
          · cases h
          · next hc =>
            cases h
            exact .published hp (Bool.not_eq_true _ ▸ hc)
        · cases h
    | stopPublish =>
        simp only [step?] at h
        split at h
        · next hp =>
          split at h
          · next hc =>
            rw [Bool.and_eq_true] at hc
            cases h
            exact .stopPublish hp hc.1 hc.2
          · cases h
        · cases h
    | drained =>
        simp only [step?] at h
        split at h
        · next hp =>
          cases h
          exact .drained hp
        · cases h
  · intro h
    cases h <;> simp_all [step?]

theorem Step.address {capacity : Nat} {subscribers : List UserId} {l l' : Listener} {e : Event}
    {effects : List Effect} (h : Step capacity subscribers l e l' effects) :
    l'.address = l.address := by
  cases h <;> rfl

theorem Step.cancelled {capacity : Nat} {subscribers : List UserId} {l l' : Listener} {e : Event}
    {effects : List Effect} (h : Step capacity subscribers l e l' effects) :
    l'.cancelled = l.cancelled := by
  cases h <;> rfl

end Listener

end WalletWatch
