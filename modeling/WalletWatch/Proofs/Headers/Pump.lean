import WalletWatch.Headers.Pump
import WalletWatch.Proofs.Machine
import WalletWatch.Proofs.Json.RoundTrip

/-!
# How a pump stops

`Step` lists what a pump can do. It sends nothing before it stops, and stops for one of three reasons: it
sees that it was told to and unsubscribes, the socket ends (`Failed`), or its reader is gone while it has a
header to send (`Stranded`). In the last case the subscription stays open although the socket does, and
although the pump was told to stop.
-/

namespace WalletWatch

namespace Headers

namespace Pump

inductive Step (p : Pump) : Event → Pump → List Effect → Prop
  | fail {m : Message} {e : NodeError} :
      p.stage = .listening → p.cancelled = false → failure? m = some e →
      Step p (.arrive m) { p with stage := .sending (.error e) true }
        [.log (p.context.warn ("Header subscription failed: " ++ e.message))]
  | header {s : String} {header : Header} :
      p.stage = .listening → p.cancelled = false → notification? p.id s = some (.ok header) →
      Step p (.arrive (.text s)) { p with stage := .sending (.ok header) false } []
  | malformed {s : String} {e : NodeError} :
      p.stage = .listening → p.cancelled = false → notification? p.id s = some (.error e) →
      Step p (.arrive (.text s)) p
        [.log (p.context.warn ("Ignoring malformed header notification: " ++ e.message))]
  | passOver {m : Message} :
      p.stage = .listening → p.cancelled = false → failure? m = none →
      (∀ s, m = .text s → notification? p.id s = none) → Step p (.arrive m) p []
  | deliver {item : Item} {last : Bool} :
      p.stage = .sending item last → p.closed = false → p.channel.length < p.capacity →
      Step p .deliver
        { p with stage := if last then .stopped else .listening, channel := p.channel ++ [item] } []
  | giveUp {item : Item} {last : Bool} :
      p.stage = .sending item last → p.closed = true → Step p .giveUp { p with stage := .stopped } []
  | notice :
      p.stage = .listening → p.cancelled = true →
      Step p .notice { p with stage := .stopped } [.send (unsubscribeRequest p.id)]
  | take {item : Item} {rest : List Item} :
      p.channel = item :: rest → p.closed = false →
      Step p .take { p with channel := rest } [.received item]
  | cancel : p.cancelled = false → Step p .cancel { p with cancelled := true } []
  | close :
      p.cancelled = true → p.closed = false → Step p .close { p with closed := true, channel := [] } []

theorem Step.receive {p : Pump} (listening : p.stage = .listening) (going : p.cancelled = false)
    (m : Message) : Step p (.arrive m) (p.receive m).1 (p.receive m).2 := by
  cases m with
  | text s =>
      cases read : notification? p.id s with
      | none =>
          have step : Step p (.arrive (.text s)) p [] := by
            refine .passOver listening going rfl ?_
            rintro _ ⟨⟩
            exact read
          simpa [Pump.receive, failure?, read] using step
      | some result =>
          cases result with
          | error e => simpa [Pump.receive, failure?, read] using Step.malformed listening going read
          | ok header => simpa [Pump.receive, failure?, read] using Step.header listening going read
  | other => exact .passOver listening going rfl nofun
  | close frame => exact .fail listening going rfl
  | failed why => exact .fail listening going rfl
  | ended => exact .fail listening going rfl

theorem receive_of_failure {p : Pump} {m : Message} {e : NodeError} (h : failure? m = some e) :
    p.receive m = ({ p with stage := .sending (.error e) true },
      [.log (p.context.warn ("Header subscription failed: " ++ e.message))]) := by
  cases m <;> cases h <;> rfl

theorem Step.of_step? {p p' : Pump} {e : Event} {effects : List Effect}
    (h : p.step? e = some (p', effects)) : Step p e p' effects := by
  cases e with
  | arrive m =>
      simp only [step?] at h
      split at h
      · next listening =>
        split at h
        · cases h
        · next going =>
          rw [Bool.not_eq_true] at going
          have step := Step.receive listening going m
          rwa [Option.some.inj h] at step
      · cases h
  | deliver =>
      simp only [step?] at h
      split at h
      · next waiting =>
        split at h
        · cases h
        · next room =>
          cases h
          simp only [Bool.or_eq_true, decide_eq_true_eq, not_or, Bool.not_eq_true, Nat.not_le] at room
          exact .deliver waiting room.1 room.2
      · cases h
  | giveUp =>
      simp only [step?] at h
      split at h
      · next waiting =>
        split at h
        · next closed =>
          cases h
          exact .giveUp waiting closed
        · cases h
      · cases h
  | notice =>
      simp only [step?] at h
      split at h
      · next listening =>
        split at h
        · next told =>
          cases h
          exact .notice listening told
        · cases h
      · cases h
  | take =>
      simp only [step?] at h
      split at h
      · next first =>
        split at h
        · cases h
        · next held =>
          cases h
          exact .take first (Bool.not_eq_true _ ▸ held)
      · cases h
  | cancel =>
      simp only [step?] at h
      split at h
      · cases h
      · next going =>
        cases h
        exact .cancel (Bool.not_eq_true _ ▸ going)
  | close =>
      simp only [step?] at h
      split at h
      · next told =>
        cases h
        simp only [Bool.and_eq_true, Bool.not_eq_true'] at told
        exact .close told.1 told.2
      · cases h

theorem step?_eq_some {p p' : Pump} {e : Event} {effects : List Effect} (h : Step p e p' effects) :
    p.step? e = some (p', effects) := by
  cases h with
  | fail listening going failure => simp [step?, listening, going, receive_of_failure failure]
  | header listening going read => simp [step?, listening, going, receive, failure?, read]
  | malformed listening going read => simp [step?, listening, going, receive, failure?, read]
  | @passOver m listening going open_ read =>
      cases m with
      | text s => simp [step?, listening, going, receive, failure?, read s rfl]
      | other => simp [step?, listening, going, receive, failure?]
      | _ => cases open_
  | deliver waiting held room => simp [step?, waiting, held, Nat.not_le.2 room]
  | giveUp waiting closed => simp [step?, waiting, closed]
  | notice listening told => simp [step?, listening, told]
  | take first held => simp [step?, first, held]
  | cancel going => simp [step?, going]
  | close told held => simp [step?, told, held]

abbrev next? := Machine.next? step?

abbrev History := List (Machine.Moment Pump Event)

abbrev Runs := Machine.Runs next?

def Effect.sent? : Effect → Option String
  | .send text => some text
  | _ => none

def sentAt (m : Machine.Moment Pump Event) : List String :=
  (Machine.effects step? m).filterMap Effect.sent?

def sent (h : History) : List String :=
  h.flatMap sentAt

theorem exists_step {p p' : Pump} {e : Event} (h : p.next? e = some p') :
    ∃ effects, Step p e p' effects ∧ sentAt ⟨p, e, p'⟩ = effects.filterMap Effect.sent? := by
  exact ⟨_, Step.of_step? (Machine.step?_of_next? h), rfl⟩

/-- The socket came to its end before the pump was told to stop. -/
def Failed (h : History) : Prop :=
  ∃ m ∈ h, ∃ message e, m.event = .arrive message ∧ failure? message = some e ∧ m.before.cancelled = false

/-- The pump gave up a header that it wanted to send when its reader had closed the channel. -/
def Stranded (h : History) : Prop :=
  ∃ m ∈ h, m.event = .giveUp ∧ m.before.closed = true ∧
    ∃ header, m.before.stage = .sending (.ok header) false

theorem Failed.append {h : History} (failed : Failed h) (h' : History) : Failed (h ++ h') := by
  obtain ⟨m, hm, rest⟩ := failed
  exact ⟨m, List.mem_append_left _ hm, rest⟩

theorem Stranded.append {h : History} (stranded : Stranded h) (h' : History) : Stranded (h ++ h') := by
  obtain ⟨m, hm, rest⟩ := stranded
  exact ⟨m, List.mem_append_left _ hm, rest⟩

/-- What a pump has sent, by its stage, and why it stopped. -/
inductive Account (id : String) (h : History) : Stage → Prop
  | listening : sent h = [] → Account id h .listening
  | passing {header : Header} : sent h = [] → Account id h (.sending (.ok header) false)
  | failing {e : NodeError} : sent h = [] → Failed h → Account id h (.sending (.error e) true)
  | unsubscribed : sent h = [unsubscribeRequest id] → Account id h .stopped
  | failed : sent h = [] → Failed h → Account id h .stopped
  | stranded : sent h = [] → Stranded h → Account id h .stopped

namespace Account

theorem append {id : String} {h h' : History} {stage : Stage} (account : Account id h stage)
    (silent : sent h' = []) :
    Account id (h ++ h') stage := by
  have total : sent (h ++ h') = sent h := by
    rw [sent, List.flatMap_append, ← sent, ← sent, silent, List.append_nil]
  cases account with
  | listening none => exact .listening (total.trans none)
  | passing none => exact .passing (total.trans none)
  | failing none failed => exact .failing (total.trans none) (failed.append _)
  | unsubscribed once => exact .unsubscribed (total.trans once)
  | failed none failed => exact .failed (total.trans none) (failed.append _)
  | stranded none stranded => exact .stranded (total.trans none) (stranded.append _)

theorem sent_of_ne_stopped {id : String} {h : History} {stage : Stage} (account : Account id h stage)
    (working : stage ≠ .stopped) : sent h = [] := by
  cases account with
  | listening none | passing none | failing none _ => exact none
  | unsubscribed _ | failed _ _ | stranded _ _ => exact absurd rfl working

theorem snoc {h : History} {p p' : Pump} {e : Event} (account : Account p.id h p.stage)
    (step : p.next? e = some p') :
    Account p'.id (h ++ [⟨p, e, p'⟩]) p'.stage := by
  obtain ⟨effects, step, now⟩ := exists_step step
  have total : sent (h ++ [⟨p, e, p'⟩]) = sent h ++ effects.filterMap Effect.sent? := by
    simp [sent, now]
  have silent : effects.filterMap Effect.sent? = [] → sent [⟨p, e, p'⟩] = [] := by
    simp [sent, now]
  have here : (⟨p, e, p'⟩ : Machine.Moment Pump Event) ∈ h ++ [⟨p, e, p'⟩] := by simp
  cases step with
  | @fail m e listening going failure =>
      rw [listening] at account
      have none := account.sent_of_ne_stopped nofun
      exact .failing (by rw [total, none]; rfl) ⟨_, here, m, e, rfl, failure, going⟩
  | header listening _ _ =>
      rw [listening] at account
      have none := account.sent_of_ne_stopped nofun
      exact .passing (by rw [total, none]; rfl)
  | malformed | passOver => exact account.append (silent rfl)
  | deliver waiting _ _ =>
      rw [waiting] at account
      cases account with
      | passing none => exact .listening (by rw [total, none]; rfl)
      | failing none failed => exact .failed (by rw [total, none]; rfl) (failed.append _)
  | giveUp waiting closed =>
      rw [waiting] at account
      cases account with
      | @passing header none =>
          exact .stranded (by rw [total, none]; rfl) ⟨_, here, rfl, closed, header, waiting⟩
      | failing none failed => exact .failed (by rw [total, none]; rfl) (failed.append _)
  | notice listening _ =>
      rw [listening] at account
      have none := account.sent_of_ne_stopped nofun
      exact .unsubscribed (by rw [total, none]; rfl)
  | take | cancel | close => exact account.append (silent rfl)

end Account

theorem Step.id_eq {p p' : Pump} {e : Event} {effects : List Effect} (step : Step p e p' effects) :
    p'.id = p.id := by
  cases step <;> rfl

theorem account {id : String} {capacity : Nat} {h : History} {p : Pump}
    (run : Runs (start id capacity) h p) : p.id = id ∧ Account id h p.stage := by
  induction run with
  | nil => exact ⟨rfl, .listening rfl⟩
  | snoc e _ next ih =>
      obtain ⟨rfl, account⟩ := ih
      obtain ⟨_, step, -⟩ := exists_step next
      have name := step.id_eq
      exact ⟨name, name ▸ account.snoc next⟩

/-- A pump that listens when it is told to stop gets no further message and can only stop by
unsubscribing. -/
theorem Runs.heeds {p u : Pump} {h : History} (run : Runs p h u) (listening : p.stage = .listening)
    (told : p.cancelled = true) :
    (u.id = p.id ∧ u.cancelled = true) ∧
      (u.stage = .listening ∧ sent h = [] ∨ u.stage = .stopped ∧ sent h = [unsubscribeRequest p.id]) := by
  induction run with
  | nil => exact ⟨⟨rfl, told⟩, .inl ⟨listening, rfl⟩⟩
  | @snoc h v v' e _ next ih =>
      obtain ⟨⟨name, told⟩, so⟩ := ih
      obtain ⟨effects, step, now⟩ := exists_step next
      have total : sent (h ++ [⟨v, e, v'⟩]) = sent h ++ effects.filterMap Effect.sent? := by
        simp [sent, now]
      have same : effects.filterMap Effect.sent? = [] → sent (h ++ [⟨v, e, v'⟩]) = sent h := fun none => by
        rw [total, none, List.append_nil]
      cases step with
      | fail _ going _ | header _ going _ | malformed _ going _ | passOver _ going _ _ | cancel going =>
          rw [told] at going
          cases going
      | deliver waiting _ _ | giveUp waiting _ =>
          rw [waiting] at so
          obtain ⟨⟨⟩, -⟩ | ⟨⟨⟩, -⟩ := so
      | notice here _ =>
          rw [here] at so
          obtain ⟨-, none⟩ | ⟨⟨⟩, -⟩ := so
          exact ⟨⟨name, told⟩, .inr ⟨rfl, by rw [total, none, name]; rfl⟩⟩
      | take _ _ | close _ _ =>
          rw [same rfl]
          exact ⟨⟨name, told⟩, so⟩

def Event.own : Event → Bool
  | .arrive _ | .deliver | .giveUp | .notice => true
  | .take | .cancel | .close => false

/-- A pump without a reader has exactly one step left. -/
theorem exists_last_step {p : Pump} (told : p.cancelled = true) (closed : p.closed = true)
    (working : p.stage ≠ .stopped) :
    (∃ e p', e.own = true ∧ p.next? e = some p') ∧
      ∀ e p', e.own = true → p.next? e = some p' → p'.stage = .stopped := by
  constructor
  · cases stage : p.stage with
    | listening => exact ⟨.notice, _, rfl, Machine.next?_eq_some (step?_eq_some (.notice stage told))⟩
    | sending item last =>
        exact ⟨.giveUp, _, rfl, Machine.next?_eq_some (step?_eq_some (.giveUp stage closed))⟩
    | stopped => exact absurd stage working
  · intro e p' own next
    obtain ⟨effects, step, -⟩ := exists_step next
    cases step with
    | fail _ going _ | header _ going _ | malformed _ going _ | passOver _ going _ _ =>
        rw [told] at going
        cases going
    | deliver _ held _ =>
        rw [closed] at held
        cases held
    | giveUp | notice => rfl
    | take | cancel | close => cases own

def notification (id number hash : String) : Json :=
  .obj [("method", .str "eth_subscription"), ("params", .obj [("subscription", .str id),
    ("result", .obj [("number", .str number), ("hash", .str hash)])])]

theorem notification?_compact (id number hash : String) :
    notification? id (notification id number hash).compact =
      some (headerOf (.obj [("hash", .str hash), ("number", .str number)])) := by
  have rereads : Json.Rereads (notification id number hash) (notification id number hash) :=
    .obj (.cons ⟨rfl, .str _⟩ (.cons ⟨rfl, .obj (.cons ⟨rfl, .str _⟩ (.cons ⟨rfl,
      .obj (.cons ⟨rfl, .str _⟩ (.cons ⟨rfl, .str _⟩ .nil))⟩ .nil))⟩ .nil))
  have value : Json.parseValue? (notification id number hash).compact =
      some (.obj [("method", .str "eth_subscription"),
        ("params", .obj [("result", .obj [("hash", .str hash), ("number", .str number)]),
          ("subscription", .str id)])]) := by
    rw [Json.parseValue?, Json.parseEmbedded?, Json.Document.read_compact rereads]
    simp only [notification, Json.obj, Json.str, List.map_cons, List.map_nil, Json.maxDepth, Json.toValueWith?,
      Nat.reduceLeDiff, ↓reduceIte, Json.numberKey, Option.some.injEq, String.reduceEq, Json.documentKey,
      Json.membersToValue?, Nat.add_one_sub_one, Json.insertMember, String.reduceLT, Option.bind_eq_bind,
      Option.bind_some, Option.map_some]
  simp [notification?, value, textMember?, Json.member?, Json.obj, Json.str, Json.text?]

theorem notification?_first : notification? "0x9ce5" (notification "0x9ce5" "0x10" "0xaa").compact =
    some (.ok ⟨16, "0xaa"⟩) :=
  notification?_compact ..

/-- A pump sends nothing before it stops. When it stops it sends `unsubscribeRequest`, unless the socket
came to its end before the pump was told to stop (`Failed`), or its reader went away while it waited to
send a header (`Stranded`). So a pump that listens when it is told to stop always unsubscribes, and a
pump without a reader stops with its next step. -/
theorem sent_unsubscribeRequest_or_stranded (id : String) (capacity : Nat) (h : History) (p : Pump)
    (run : Runs (start id capacity) h p) :
    (p.stage ≠ .stopped → sent h = []) ∧
    (p.stage = .stopped →
      sent h = [unsubscribeRequest id] ∨ sent h = [] ∧ (Failed h ∨ Stranded h)) ∧
    (p.stage = .listening → p.cancelled = true →
      ∀ h' u, Runs p h' u → u.stage = .stopped → sent h' = [unsubscribeRequest id]) ∧
    (p.cancelled = true → p.closed = true → p.stage ≠ .stopped →
      (∃ e p', e.own = true ∧ p.next? e = some p') ∧
        ∀ e p', e.own = true → p.next? e = some p' → p'.stage = .stopped) := by
  obtain ⟨name, account⟩ := account run
  refine ⟨account.sent_of_ne_stopped, fun stopped => ?_, fun listening told h' u later stopped => ?_,
    exists_last_step⟩
  · rw [stopped] at account
    cases account with
    | unsubscribed once => exact .inl once
    | failed none failed => exact .inr ⟨none, .inl failed⟩
    | stranded none stranded => exact .inr ⟨none, .inr stranded⟩
  · obtain ⟨-, ⟨listening, -⟩ | ⟨-, once⟩⟩ := later.heeds listening told
    · rw [listening] at stopped
      cases stopped
    · rw [once, name]

/-- A pump that has sent a header and listens when its reader goes away. -/
theorem sent_unsubscribeRequest_or_stranded_waiting :
    ∃ h p, Runs (start "0x9ce5" 1) h p ∧ (p.stage = .listening ∧ p.cancelled = true ∧ p.closed = true) ∧
      sent h = [] ∧
      (∃ e p', e.own = true ∧ p.next? e = some p' ∧ p'.stage = .stopped) ∧
      ∀ h' u, Runs p h' u → u.stage = .stopped → sent h' = [unsubscribeRequest "0x9ce5"] := by
  have replayed : ∃ h p, Machine.replay? next? (start "0x9ce5" 1)
      [.arrive (.text (notification "0x9ce5" "0x10" "0xaa").compact), .deliver, .cancel, .close] =
        some (h, p) ∧ p.stage = .listening ∧ p.cancelled = true ∧ p.closed = true := by
    simp [Machine.replay?, Machine.next?, step?, start, receive, failure?, notification?_first]
  obtain ⟨h, p, replayed, listening, told, closed⟩ := replayed
  have run := Machine.runs_of_replay? replayed
  obtain ⟨silent, -, heeds, last⟩ := sent_unsubscribeRequest_or_stranded "0x9ce5" 1 h p run
  have working : p.stage ≠ .stopped := by simp [listening]
  obtain ⟨⟨e, p', own, next⟩, stops⟩ := last told closed working
  exact ⟨h, p, run, ⟨listening, told, closed⟩, silent working, ⟨e, p', own, next, stops e p' own next⟩,
    heeds listening told⟩

/-- A pump with a channel of one item, of which a second header arrives before its reader goes away. -/
def fullChannel : List Event :=
  [.arrive (.text (notification "0x9ce5" "0x10" "0xaa").compact), .deliver,
    .arrive (.text (notification "0x9ce5" "0x11" "0xbb").compact), .cancel, .close, .giveUp]

theorem replay?_fullChannel :
    ∃ h p, Machine.replay? next? (start "0x9ce5" 1) fullChannel = some (h, p) ∧ p.cancelled = true ∧
      p.closed = true ∧ p.stage = .stopped ∧ sent h = [] := by
  have second : notification? "0x9ce5" (notification "0x9ce5" "0x11" "0xbb").compact =
      some (.ok ⟨17, "0xbb"⟩) := notification?_compact ..
  simp [fullChannel, Machine.replay?, Machine.next?, Machine.effects, step?, start, receive, failure?,
    notification?_first, second, sent, sentAt]

/-- A pump that was told to stop may stop without unsubscribing, although its socket is open. -/
theorem not_unsubscribeRequest_mem_sent : ¬ ∀ id capacity h p, Runs (start id capacity) h p →
    p.cancelled = true → p.closed = true → p.stage = .stopped → ¬ Failed h →
    unsubscribeRequest id ∈ sent h := by
  intro always
  obtain ⟨h, p, replayed, told, closed, stopped, none⟩ := replay?_fullChannel
  have events := Machine.map_event_of_replay? replayed
  have open_ : ¬ Failed h := by
    rintro ⟨m, hm, message, e, arrives, failure, -⟩
    have listed : Event.arrive message ∈ fullChannel := events ▸ arrives ▸ List.mem_map_of_mem hm
    simp only [fullChannel, List.mem_cons, Event.arrive.injEq, reduceCtorEq, List.not_mem_nil, or_false,
      false_or] at listed
    obtain rfl | rfl := listed <;> cases failure
  have sent := always _ _ h p (Machine.runs_of_replay? replayed) told closed stopped open_
  rw [none] at sent
  cases sent

end Pump

end Headers

end WalletWatch
