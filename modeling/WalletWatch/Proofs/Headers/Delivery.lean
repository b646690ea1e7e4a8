import WalletWatch.Proofs.Headers.Pump

/-!
# The items of a subscription

`expected` are the items that the messages of a socket should give: the headers that are announced before
the first failure, and this failure. `Balanced` is the invariant of a pump whose reader keeps its
subscription: what was received, what waits in the channel and what is in hand are exactly what is expected
of the messages so far. A pump that cannot go on has delivered everything, and finitely many messages allow
finitely many moments.
-/

namespace WalletWatch

namespace Headers

/-! ## Announcements -/

/-- `Announces id s header`: the text `s` is a notification of the subscription `id` whose result has the
hash and the number of `header`. -/
def Announces (id s : String) (header : Header) : Prop :=
  ∃ v params result number, Json.parseValue? s = some v ∧
    textMember? v "method" = some "eth_subscription" ∧ v.member? "params" = some params ∧
    textMember? params "subscription" = some id ∧ params.member? "result" = some result ∧
    textMember? result "hash" = some header.hash ∧ textMember? result "number" = some number ∧
    Quantity.parse64 number = .ok header.number

theorem headerOf_eq_ok_iff {result : Json} {header : Header} :
    headerOf result = .ok header ↔ ∃ number, textMember? result "hash" = some header.hash ∧
      textMember? result "number" = some number ∧ Quantity.parse64 number = .ok header.number := by
  unfold headerOf
  cases number : textMember? result "number" with
  | none => simp [bind, Except.bind]
  | some n =>
      cases hash : textMember? result "hash" with
      | none => simp [bind, Except.bind]
      | some text =>
          obtain ⟨k, wanted⟩ := header
          cases read : Quantity.parse64 n <;> simp [bind, Except.bind, pure, Except.pure, and_comm, read]

theorem notification?_eq_ok_iff {id s : String} {header : Header} :
    notification? id s = some (.ok header) ↔ Announces id s header := by
  unfold notification?
  constructor
  · intro h
    obtain ⟨v, value, h⟩ := Option.bind_eq_some_iff.1 h
    split at h
    · cases h
    · next method =>
        obtain ⟨params, named, h⟩ := Option.bind_eq_some_iff.1 h
        split at h
        · cases h
        · next own =>
            split at h
            · next result found =>
                obtain ⟨number, hash, text, read⟩ := headerOf_eq_ok_iff.1 (Option.some.inj h)
                exact ⟨v, params, result, number, value, Classical.not_not.1 method, named,
                  Classical.not_not.1 own, found, hash, text, read⟩
            · cases h
  · rintro ⟨v, params, result, number, value, method, named, own, found, hash, text, read⟩
    have header := headerOf_eq_ok_iff.2 ⟨number, hash, text, read⟩
    simp [value, method, named, own, found, header]

def headerIn? (id : String) : Message → Option Header
  | .text s => match notification? id s with
    | some (.ok header) => some header
    | _ => none
  | _ => none

theorem headerIn?_eq_some_iff {id : String} {m : Message} {header : Header} :
    headerIn? id m = some header ↔ ∃ s, m = .text s ∧ Announces id s header := by
  cases m with
  | text s =>
      simp only [← notification?_eq_ok_iff, Message.text.injEq, exists_eq_left', headerIn?]
      split
      · next found => simp [found]
      · next none => simpa using none header
  | _ => simp [headerIn?]

def survives (m : Message) : Bool :=
  (failure? m).isNone

theorem survives_eq_false_iff {m : Message} : survives m = false ↔
    (∃ frame, m = .close frame) ∨ (∃ why, m = .failed why) ∨ m = .ended := by
  cases m <;> simp [survives, failure?]

/-- The items that the messages of a socket should give to a reader: the headers announced before the
first failure, and this failure. -/
def expected (id : String) (ms : List Message) : List Item :=
  ((ms.takeWhile survives).filterMap (headerIn? id)).map .ok ++ (ms.findSome? failure?).toList.map .error

theorem expected_of_failure {m : Message} {e : NodeError} (id : String) (h : failure? m = some e)
    (rest : List Message) : expected id (m :: rest) = [.error e] := by
  simp [expected, survives, h]

theorem expected_append {ms : List Message} (id : String) (h : ∀ m ∈ ms, survives m = true)
    (rest : List Message) :
    expected id (ms ++ rest) = (ms.filterMap (headerIn? id)).map .ok ++ expected id rest := by
  have none : ms.findSome? failure? = none :=
    List.findSome?_eq_none_iff.2 fun m hm => Option.isNone_iff_eq_none.1 (h m hm)
  simp only [expected, List.takeWhile_append_of_pos h, List.findSome?_append, none, Option.none_or,
    List.filterMap_append, List.map_append, List.append_assoc]

theorem expected_of_survives {ms : List Message} (id : String) (h : ∀ m ∈ ms, survives m = true) :
    expected id ms = (ms.filterMap (headerIn? id)).map .ok := by
  have whole := expected_append id h []
  rwa [List.append_nil, show expected id [] = [] from rfl, List.append_nil] at whole

def Stage.inHand : Stage → List Item
  | .sending item _ => [item]
  | _ => []

theorem Stage.inHand_listening : Stage.listening.inHand = [] := rfl

namespace Pump

/-! ## Histories -/

def Effect.received? : Effect → Option Item
  | .received item => some item
  | _ => none

def Event.message? : Event → Option Message
  | .arrive m => some m
  | _ => none

def receivedAt (m : Machine.Moment Pump Event) : List Item :=
  (Machine.effects step? m).filterMap Effect.received?

def received (h : History) : List Item :=
  h.flatMap receivedAt

def arrivals (h : History) : List Message :=
  h.filterMap fun m => m.event.message?

theorem received_snoc {h : History} {p p' : Pump} {e : Event} {effects : List Effect}
    (step : Step p e p' effects) :
    received (h ++ [⟨p, e, p'⟩]) = received h ++ effects.filterMap Effect.received? := by
  simp [received, receivedAt, Machine.effects_eq (step?_eq_some step)]

theorem arrivals_snoc (h : History) (m : Machine.Moment Pump Event) :
    arrivals (h ++ [m]) = arrivals h ++ m.event.message?.toList := by
  cases message : m.event.message? <;> simp [arrivals, message]

/-! ## What is under way -/

def EndsInFailure (ms : List Message) : Prop :=
  ∃ front m e, ms = front ++ [m] ∧ (∀ m' ∈ front, survives m' = true) ∧ failure? m = some e

theorem EndsInFailure.expected_append {ms : List Message} (failed : EndsInFailure ms) (id : String)
    (rest : List Message) : expected id (ms ++ rest) = expected id ms := by
  obtain ⟨front, m, e, rfl, all, failure⟩ := failed
  rw [List.append_assoc, Headers.expected_append id all, Headers.expected_append id all,
    expected_of_failure id failure, List.cons_append, expected_of_failure id failure]

inductive Reaches (ms : List Message) : Stage → Prop
  | listening : (∀ m ∈ ms, survives m = true) → Reaches ms .listening
  | passing {header : Header} : (∀ m ∈ ms, survives m = true) → Reaches ms (.sending (.ok header) false)
  | failing {e : NodeError} : EndsInFailure ms → Reaches ms (.sending (.error e) true)
  | stopped : EndsInFailure ms → Reaches ms .stopped

theorem Reaches.cases {ms : List Message} {stage : Stage} (reaches : Reaches ms stage) :
    (∀ m ∈ ms, survives m = true) ∨ EndsInFailure ms := by
  cases reaches with
  | listening all | passing all => exact .inl all
  | failing failed | stopped failed => exact .inr failed

/-- The state of a pump whose reader keeps its subscription. -/
structure Balanced (id : String) (h : History) (p : Pump) : Prop where
  id_eq : p.id = id
  room : 0 < p.capacity
  going : p.cancelled = false
  held : p.closed = false
  reaches : Reaches (arrivals h) p.stage
  /-- What the reader got, what waits for it and what is in hand is what it should get. -/
  items : received h ++ (p.channel ++ p.stage.inHand) = expected id (arrivals h)
  /-- A message has three moments at most: it arrives, its item is delivered, and it is taken. -/
  moments : h.length + 2 * p.stage.inHand.length + p.channel.length ≤ 3 * (arrivals h).length

namespace Balanced

theorem start (id : String) (capacity : Nat) : Balanced id [] (start id capacity) where
  id_eq := rfl
  room := Nat.lt_of_lt_of_le Nat.one_pos (Nat.le_max_right capacity 1)
  going := rfl
  held := rfl
  reaches := .listening nofun
  items := rfl
  moments := Nat.le_refl 0

theorem survived {id : String} {h : History} {p : Pump} (b : Balanced id h p)
    (listening : p.stage = .listening) :
    ∀ m ∈ arrivals h, survives m = true := by
  have reaches := b.reaches
  rw [listening] at reaches
  cases reaches with
  | listening all => exact all

theorem arrive {id : String} {h : History} {p : Pump} {m : Message} {effects : List Effect}
    (b : Balanced id h p) (stage : Stage) (listening : p.stage = .listening)
    (step : Step p (.arrive m) { p with stage := stage } effects)
    (quiet : effects.filterMap Effect.received? = []) (inHand : stage.inHand = expected id [m])
    (reaches : Reaches (arrivals h ++ [m]) stage) :
    Balanced id (h ++ [⟨p, .arrive m, { p with stage := stage }⟩]) { p with stage := stage } := by
  have all := b.survived listening
  have items := b.items
  have moments := b.moments
  have few : stage.inHand.length ≤ 1 := by cases stage <;> simp [Stage.inHand]
  rw [listening, Stage.inHand_listening, List.append_nil, expected_of_survives id all] at items
  rw [listening, Stage.inHand_listening, List.length_nil] at moments
  refine ⟨b.id_eq, b.room, b.going, b.held, ?_, ?_, ?_⟩
  · rwa [arrivals_snoc]
  · rw [received_snoc step, quiet, arrivals_snoc, List.append_nil, Event.message?, Option.toList_some,
      expected_append id all, ← items, ← inHand, List.append_assoc]
  · rw [arrivals_snoc, List.length_append, List.length_append, Event.message?, Option.toList_some,
      List.length_singleton, List.length_singleton]
    show h.length + 1 + 2 * stage.inHand.length + p.channel.length ≤ _
    omega

theorem ignore {id : String} {h : History} {p : Pump} {m : Message} {effects : List Effect}
    (b : Balanced id h p) (listening : p.stage = .listening) (step : Step p (.arrive m) p effects)
    (quiet : effects.filterMap Effect.received? = []) (fine : survives m = true)
    (silent : headerIn? id m = none) : Balanced id (h ++ [⟨p, .arrive m, p⟩]) p := by
  refine b.arrive p.stage listening step quiet ?_ ?_
  · rw [listening, expected_of_survives id (by simpa using fine)]
    simp [Stage.inHand, silent]
  · rw [listening]
    exact .listening (by simpa [or_imp, forall_and, fine] using b.survived listening)

/-- Every event but a cancellation keeps the balance. -/
theorem snoc {id : String} {h : History} {p p' : Pump} {e : Event} (b : Balanced id h p)
    (next : p.next? e = some p') (kept : e ≠ .cancel) :
    Balanced id (h ++ [⟨p, e, p'⟩]) p' := by
  obtain ⟨effects, step, -⟩ := exists_step next
  have taken := step
  obtain rfl := b.id_eq
  cases step with
  | @fail m e listening _ failure =>
      refine b.arrive _ listening taken rfl (expected_of_failure _ failure []).symm (.failing ?_)
      exact ⟨_, m, e, rfl, b.survived listening, failure⟩
  | @header s header listening _ read =>
      refine b.arrive _ listening taken rfl ?_ (.passing ?_)
      · rw [expected_of_survives p.id (by simp [survives, failure?])]
        simp [headerIn?, read, Stage.inHand]
      · simpa [or_imp, forall_and, survives, failure?] using b.survived listening
  | malformed listening _ read => exact b.ignore listening taken rfl rfl (by simp [headerIn?, read])
  | @passOver m listening _ open_ silent =>
      refine b.ignore listening taken rfl (by simp [survives, open_]) ?_
      cases m with
      | text s => simp [headerIn?, silent s rfl]
      | _ => rfl
  | @deliver item last waiting _ space =>
      obtain ⟨-, room, going, held, reaches, items, moments⟩ := b
      rw [waiting] at reaches items moments
      refine ⟨rfl, room, going, held, ?_, ?_, ?_⟩
      · rw [arrivals_snoc]
        simp only [Event.message?, Option.toList_none, List.append_nil]
        cases reaches with
        | passing all => exact .listening all
        | failing failed => exact .stopped failed
      · rw [received_snoc taken, arrivals_snoc]
        cases last <;> simpa [Stage.inHand, Event.message?] using items
      · rw [arrivals_snoc]
        cases last <;> simp [Stage.inHand, Event.message?] at moments ⊢ <;> omega
  -- Neither the channel is closed nor is the pump told to stop, as long as there is no `cancel`.
  | giveUp _ closed =>
      rw [b.held] at closed
      cases closed
  | notice _ told =>
      rw [b.going] at told
      cases told
  | take first _ =>
      obtain ⟨-, room, going, held, reaches, items, moments⟩ := b
      refine ⟨rfl, room, going, held, ?_, ?_, ?_⟩
      · simpa [arrivals_snoc, Event.message?] using reaches
      · rw [received_snoc taken, arrivals_snoc]
        simpa [first, Effect.received?, Event.message?] using items
      · rw [arrivals_snoc]
        simp [first, Event.message?] at moments ⊢
        omega
  | cancel => exact absurd rfl kept
  | close told =>
      rw [b.going] at told
      cases told

theorem of_runs {id : String} {h : History} {p : Pump} {capacity : Nat}
    (run : Runs (Pump.start id capacity) h p) (kept : ∀ m ∈ h, m.event ≠ .cancel) : Balanced id h p := by
  induction run with
  | nil => exact start id capacity
  | snoc e _ next ih =>
      have before := ih fun m hm => kept m (List.mem_append_left _ hm)
      exact before.snoc next (kept _ (List.mem_append_right _ (.head _)))

theorem expected_prefix {id : String} {h : History} {p : Pump} (b : Balanced id h p) (rest : List Message) :
    expected id (arrivals h) <+: expected id (arrivals h ++ rest) := by
  rcases b.reaches.cases with all | failed
  · rw [expected_append id all, expected_of_survives id all]
    exact List.prefix_append _ _
  · exact ⟨[], by rw [List.append_nil, failed.expected_append id rest]⟩

end Balanced

/-- The reader has come to the end of the channel. -/
def AtEnd (p : Pump) : Prop :=
  p.stage = .stopped ∧ p.channel = []

/-- Nothing can happen any more, if the socket still brings `rest` and the reader does not cancel. -/
def Settled (p : Pump) (rest : List Message) : Prop :=
  ∀ e, e ≠ .cancel → (∀ m, e.message? = some m → rest.head? = some m) → p.next? e = none

namespace Balanced

theorem atEnd {id : String} {h : History} {p : Pump} (b : Balanced id h p) (atEnd : AtEnd p) :
    received h = expected id (arrivals h) ∧ EndsInFailure (arrivals h) := by
  obtain ⟨stopped, taken⟩ := atEnd
  have items := b.items
  have reaches := b.reaches
  rw [stopped] at reaches items
  rw [taken] at items
  cases reaches with
  | stopped failed => exact ⟨by simpa [Stage.inHand] using items, failed⟩

/-- A pump that cannot go on is at the end of its channel, or listens with nothing left to arrive or to
take. -/
theorem settled {id : String} {h : History} {p : Pump} {rest : List Message} (b : Balanced id h p)
    (settled : Settled p rest) :
    AtEnd p ∨ p.stage = .listening ∧ p.channel = [] ∧ rest = [] := by
  have stuck : ∀ {e p' effects}, Step p e p' effects → e ≠ .cancel →
      ¬∀ m, e.message? = some m → rest.head? = some m := by
    intro e p' effects step kept next
    cases (settled e kept next).symm.trans (Machine.next?_eq_some (step?_eq_some step))
  have taken : p.channel = [] := by
    cases channel : p.channel with
    | nil => rfl
    | cons item more => exact absurd (by simp [Event.message?]) (stuck (.take channel b.held) (by simp))
  cases stage : p.stage with
  | stopped => exact .inl ⟨stage, taken⟩
  | sending item last =>
      have space : p.channel.length < p.capacity := by
        rw [taken]
        exact b.room
      exact absurd (by simp [Event.message?]) (stuck (.deliver stage b.held space) (by simp))
  | listening =>
      refine .inr ⟨rfl, taken, ?_⟩
      cases rest with
      | nil => rfl
      | cons m later =>
          exact absurd (by simp [Event.message?]) (stuck (.receive stage b.going m) (by simp))

end Balanced

theorem Balanced.settled_of_atEnd {id : String} {h : History} {p : Pump} (b : Balanced id h p)
    (atEnd : AtEnd p) (rest : List Message) : Settled p rest := by
  obtain ⟨stopped, taken⟩ := atEnd
  intro e kept _
  rw [Option.eq_none_iff_forall_ne_some]
  intro p' next
  obtain ⟨effects, step, -⟩ := exists_step next
  cases step with
  | fail stage | header stage | malformed stage | passOver stage | deliver stage | giveUp stage
  | notice stage =>
      rw [stopped] at stage
      cases stage
  | take first =>
      rw [taken] at first
      cases first
  | cancel => exact kept rfl
  | close told =>
      rw [b.going] at told
      cases told

/-- As long as the reader keeps its subscription, what it has `received` is a prefix of what is
`expected` of the messages, for every capacity of the channel. At the end of the channel it has received
all of it, with a failure as its last item, and the pump is `Settled`. There are at most three moments
for each message. A settled pump has delivered everything, and is at the end of the channel exactly if a
message is a failure. -/
theorem received_prefix_expected (id : String) (capacity : Nat) (h : History) (p : Pump)
    (run : Runs (start id capacity) h p) (kept : ∀ m ∈ h, m.event ≠ .cancel) (rest : List Message) :
    received h <+: expected id (arrivals h ++ rest) ∧
    (AtEnd p → received h = expected id (arrivals h ++ rest) ∧
      (∃ e, (received h).getLast? = some (.error e)) ∧ Settled p rest) ∧
    h.length ≤ 3 * (arrivals h ++ rest).length ∧
    (Settled p rest → received h = expected id (arrivals h ++ rest) ∧
      (AtEnd p ↔ ∃ m ∈ arrivals h ++ rest, survives m = false)) ∧
    (∀ m header, headerIn? id m = some header ↔ ∃ s, m = .text s ∧ Announces id s header) ∧
    ∀ m, survives m = false ↔
      (∃ frame, m = .close frame) ∨ (∃ why, m = .failed why) ∨ m = .ended := by
  have b := Balanced.of_runs run kept
  have finished (atEnd : AtEnd p) : received h = expected id (arrivals h ++ rest) := by
    obtain ⟨all, failed⟩ := b.atEnd atEnd
    rw [failed.expected_append id rest, all]
  refine ⟨?inOrder, ?atEnd, ?bounded, ?settled, fun _ _ => headerIn?_eq_some_iff,
    fun _ => survives_eq_false_iff⟩
  case inOrder =>
    have now : received h <+: expected id (arrivals h) := b.items ▸ List.prefix_append _ _
    exact now.trans (b.expected_prefix rest)
  case atEnd =>
    intro atEnd
    obtain ⟨all, front, m, e, arrived, survived, failure⟩ := b.atEnd atEnd
    refine ⟨finished atEnd, ⟨e, ?_⟩, b.settled_of_atEnd atEnd rest⟩
    rw [all, arrived, expected_append id survived, expected_of_failure id failure,
      List.getLast?_append, List.getLast?_singleton]
    rfl
  case bounded =>
    have moments := b.moments
    rw [List.length_append]
    omega
  case settled =>
    intro settled
    rcases b.settled settled with atEnd | ⟨listening, taken, rfl⟩
    · refine ⟨finished atEnd, iff_of_true atEnd ?_⟩
      obtain ⟨-, front, m, e, arrived, -, failure⟩ := b.atEnd atEnd
      exact ⟨m, by simp [arrived], by simp [survives, failure]⟩
    · have all := b.survived listening
      have items := b.items
      rw [listening, taken, Stage.inHand_listening, List.append_nil, List.append_nil] at items
      rw [List.append_nil]
      refine ⟨items, iff_of_false ?_ ?_⟩
      · rintro ⟨stopped, -⟩
        rw [listening] at stopped
        cases stopped
      · rintro ⟨m, hm, failed⟩
        rw [all m hm] at failed
        cases failed

/-- A channel of one item that is read late. Between two headers there is a malformed one, and then the
socket is closed. -/
theorem received_prefix_expected_two_headers :
    ∃ h p, Runs (start "0x9ce5" 1) h p ∧ (∀ m ∈ h, m.event ≠ .cancel) ∧ AtEnd p ∧
      received h = [.ok ⟨16, "0xaa"⟩, .ok ⟨17, "0xbb"⟩,
        .error (.subscriptionClosed "server closed the socket: None")] ∧
      ∀ rest, Settled p rest := by
  -- The texts are any that are read so, which keeps them from being read again at every step.
  obtain ⟨s, first⟩ : ∃ s, notification? "0x9ce5" s = some (.ok ⟨16, "0xaa"⟩) :=
    ⟨_, notification?_compact "0x9ce5" "0x10" "0xaa"⟩
  obtain ⟨t, second⟩ : ∃ t, notification? "0x9ce5" t = some (.ok ⟨17, "0xbb"⟩) :=
    ⟨_, notification?_compact "0x9ce5" "0x11" "0xbb"⟩
  obtain ⟨x, e, malformed⟩ : ∃ x e, notification? "0x9ce5" x = some (.error e) :=
    ⟨_, .invalidResponse "Failed to parse hex '0xzz' to u64: invalid digit found in string",
      notification?_compact "0x9ce5" "0xzz" "0xcc"⟩
  let events : List Event := [.arrive (.text s), .deliver, .arrive .other, .arrive (.text x),
    .arrive (.text t), .take, .deliver, .arrive (.close "None"), .take, .deliver, .take]
  obtain ⟨h, p, replayed, atEnd⟩ : ∃ h p,
      Machine.replay? next? (start "0x9ce5" 1) events = some (h, p) ∧ AtEnd p := by
    simp [events, Machine.replay?, Machine.next?, step?, start, receive, failure?, first, second, malformed, AtEnd]
  have happened := Machine.map_event_of_replay? replayed
  have kept : ∀ m ∈ h, m.event ≠ .cancel := by
    intro m hm cancel
    have listed : Event.cancel ∈ events := happened ▸ cancel ▸ List.mem_map_of_mem hm
    simp [events] at listed
  have arrived : arrivals h = [.text s, .other, .text x, .text t, .close "None"] := by
    have listed : arrivals h = (h.map (·.event)).filterMap Event.message? := by
      rw [arrivals, List.filterMap_map]
      rfl
    rw [listed, happened]
    rfl
  have run := Machine.runs_of_replay? replayed
  have ended rest := (received_prefix_expected "0x9ce5" 1 h p run kept rest).2.1 atEnd
  refine ⟨h, p, run, kept, atEnd, (ended []).1.trans ?_, fun rest => (ended rest).2.2⟩
  rw [arrived]
  simp [expected, List.takeWhile_cons, List.findSome?_cons, List.filterMap_cons, survives, failure?,
    headerIn?, first, second, malformed]

end Pump

end Headers

end WalletWatch
