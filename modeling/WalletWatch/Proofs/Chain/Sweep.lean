import WalletWatch.Proofs.Chain.Latency
import WalletWatch.Proofs.Chain.Reference

/-!
# Sweeps agree with scans

The steps of a sweep may come in any order that the window allows, so receipts may be answered in any order
and other lookups may happen in between. `Sound` is the invariant: what was found, together with the outcome
of the current task, is the report on the receipts that were taken. It gives `Conforms` for every run of a
sweep.
-/

namespace WalletWatch

open Session (Kept kept_log)

namespace Extraction

theorem tokenTransfersWith_cons (symbol : Address → String) (hash : TxHash) (place : Nat)
    (l : EventLog) (ls : List EventLog) :
    tokenTransfersWith symbol hash place (l :: ls) =
      ((TransferEvent.decode l).toOption.map fun e =>
          e.toTransfer hash (symbol e.token) place).toList ++
        tokenTransfersWith symbol hash (place + 1) ls := by
  rw [tokenTransfersWith]
  cases TransferEvent.decode l <;> rfl

end Extraction

namespace Draft

def complete (w : Draft) (symbol : Address → String) : Draft :=
  { w with
    transfers := w.transfers ++ Extraction.tokenTransfersWith symbol w.tx.hash w.place w.logs
    logs := [] }

theorem complete_of_nil {w : Draft} {symbol : Address → String} (h : w.logs = []) :
    w.complete symbol = w := by
  obtain ⟨tx, receipt, transfers, place, logs⟩ := w
  obtain rfl : logs = [] := h
  simp [complete, Extraction.tokenTransfersWith]

theorem skip_complete {q : Search} {w : Draft} {l : EventLog} {ls : List EventLog}
    {symbol : Address → String} {fault : EventFault} (h : w.logs = l :: ls)
    (unreadable : TransferEvent.decode l = .error fault) :
    Search.activity? q (w.skip.complete symbol) = Search.activity? q (w.complete symbol) := by
  simp only [Search.activity?, complete, skip, h, Extraction.tokenTransfersWith_cons, unreadable]
  rfl

theorem push_complete {q : Search} {w : Draft} {l : EventLog} {ls : List EventLog}
    {symbol : Address → String} {e : TransferEvent} (h : w.logs = l :: ls)
    (event : TransferEvent.decode l = .ok e) :
    Search.activity? q ((w.push e (symbol e.token)).complete symbol) =
      Search.activity? q (w.complete symbol) := by
  simp only [Search.activity?, complete, push, skip, h, Extraction.tokenTransfersWith_cons, event]
  simp [Except.toOption]

end Draft

namespace Search

def outcome (q : Search) (symbol : Address → String) : Task → Option Activity
  | .idle | .ended => none
  | .reading w | .asking w _ => q.activity? (w.complete symbol)

def report (q : Search) (symbol : Address → String)
    (fetches : List (ChainTransaction × Except NodeError Receipt)) : List Activity :=
  Scanner.report symbol q.blockNumber q.time q.address fetches

end Search

namespace Sweep

theorem result?_eq_some_iff {v : Sweep} {found : List Activity} :
    v.result? = some found ↔ v.task = .ended ∧ v.found = found := by
  unfold result?
  cases v.task <;> simp

inductive Step (q : Search) (v : Sweep) : Event → Sweep → Prop
  | request {tx : ChainTransaction} {txs : List ChainTransaction} : v.task = .idle →
      v.window.waiting = tx :: txs → v.window.pending.length < q.scanner.windowSize →
      Step q v .request { v with
        window := { v.window with waiting := txs, pending := v.window.pending ++ [(tx, none)] }
        session := v.session.askReceipts [tx.hash] }
  | answer {i : Nat} {tx : ChainTransaction} {reply : Except NodeError Receipt} :
      v.window.pending[i]? = some (tx, none) →
      Step q v (.answer i reply) { v with
        window := { v.window with pending := v.window.pending.set i (tx, some reply) } }
  | take {tx : ChainTransaction} {reply : Except NodeError Receipt}
      {rest : List (ChainTransaction × Option (Except NodeError Receipt))} : v.task = .idle →
      v.window.pending = (tx, some reply) :: rest →
      Step q v .take { v with
        window := { v.window with pending := rest, taken := v.window.taken ++ [(tx, reply)] }
        task := (takeUp q tx reply v.session).1
        session := (takeUp q tx reply v.session).2 }
  | read {w : Draft} {l : EventLog} {ls : List EventLog} : v.task = .reading w → w.logs = l :: ls →
      Step q v .read { v with
        task := (w.read q.scanner.directory l v.session).1
        session := (w.read q.scanner.directory l v.session).2 }
  | told {w : Draft} {e : TransferEvent} {reply : Except NodeError String} : v.task = .asking w e →
      Step q v (.told reply) { v with
        task := .reading (w.push e (Token.read e.token reply))
        session := note e.token reply v.session }
  | settle {w : Draft} : v.task = .reading w → w.logs = [] →
      Step q v .settle { v with task := .idle, found := v.found ++ (q.activity? w).toList }
  | finish : v.task = .idle → v.window.pending = [] → v.window.waiting = [] →
      Step q v .finish { v with
        task := .ended
        session := v.session.log (Log.blockScanned q.address.text q.blockNumber v.found.length 0) }
  | elsewhere {token : Address} {reply : Except NodeError String} :
      q.scanner.directory.fixed? token = none →
      Step q v (.elsewhere token reply) { v with
        session := { v.session with cache := (Token.store v.session.cache token reply).1 } }

theorem step?_eq_some_iff {q : Search} {v v' : Sweep} {e : Event} :
    v.step? q e = some v' ↔ Step q v e v' := by
  constructor
  · intro h
    cases e with
    | request =>
        simp only [step?, Window.step?] at h
        split at h
        · next tx txs idle waiting =>
            rw [waiting] at h
            dsimp only at h
            split at h
            · next room =>
                cases h
                exact .request idle waiting room
            · cases h
        · cases h
    | answer i reply =>
        simp only [step?, Window.step?] at h
        split at h
        · next tx pending =>
            cases h
            exact .answer pending
        · cases h
    | take =>
        simp only [step?, Window.step?] at h
        split at h
        · next tx reply rest idle pending =>
            rw [pending] at h
            cases h
            exact .take idle pending
        · cases h
    | read =>
        simp only [step?] at h
        split at h
        · next w reading =>
            split at h
            · next l ls logs =>
                cases h
                exact .read reading logs
            · cases h
        · cases h
    | told reply =>
        simp only [step?] at h
        split at h
        · next w e asking =>
            cases h
            rw [Token.store_symbol]
            exact .told asking
        · cases h
    | settle =>
        simp only [step?] at h
        split at h
        · next w reading =>
            split at h
            · next logs =>
                cases h
                exact .settle reading logs
            · cases h
        · cases h
    | finish =>
        simp only [step?] at h
        split at h
        · next idle pending waiting =>
            cases h
            exact .finish idle pending waiting
        · cases h
    | elsewhere token reply =>
        simp only [step?] at h
        split at h
        · next unfixed =>
            cases h
            exact .elsewhere (Option.isNone_iff_eq_none.1 unfixed)
        · cases h
  · intro h
    cases h with
    | request idle waiting room => simp [step?, Window.step?, idle, waiting, room]
    | answer pending => simp [step?, Window.step?, pending]
    | take idle pending => simp [step?, Window.step?, idle, pending]
    | read reading logs => simp [step?, reading, logs]
    | told asking => simp [step?, asking, Token.store_symbol]
    | settle reading logs => simp [step?, reading, logs]
    | finish idle pending waiting => simp [step?, idle, pending, waiting]
    | elsewhere unfixed => simp [step?, unfixed]

def uses : Except NodeError Receipt → Nat
  | .ok receipt => 2 * receipt.logs.length + 1
  | .error _ => 0

/-- The number of steps that a task still takes. The end of the sweep is a part of every other task. -/
def taskLeft : Task → Nat
  | .idle => 1
  | .reading w => 2 * w.logs.length + 2
  | .asking w _ => 2 * w.logs.length + 1
  | .ended => 0

@[simp] theorem taskLeft_idle : taskLeft .idle = 1 := rfl

@[simp] theorem taskLeft_reading (w : Draft) : taskLeft (.reading w) = 2 * w.logs.length + 2 := rfl

@[simp] theorem taskLeft_asking (w : Draft) (e : TransferEvent) :
    taskLeft (.asking w e) = 2 * w.logs.length + 1 := rfl

@[simp] theorem taskLeft_ended : taskLeft .ended = 0 := rfl

abbrev symbols (q : Search) (node : Node) (s : Session) : Address → String :=
  s.shown q.scanner.directory node

def Asks (node : Node) (symbol : Address → String) (w : Draft) (e : TransferEvent) : Prop :=
  symbol e.token = Token.read e.token (node.answerOf e.token) ∧
    ∃ l ls, w.logs = l :: ls ∧ TransferEvent.decode l = .ok e

/-- The result of a step of a task: nothing that is shown changes, the outcome stays `result`, and at
most `steps` steps are left. -/
structure Advances (q : Search) (node : Node) (symbol : Address → String) (s : Session)
    (result : Option Activity) (steps : Nat) (next : Task × Session) : Prop where
  kept : Kept q.scanner.directory node s next.2
  outcome : q.outcome symbol next.1 = result
  asks : ∀ w e, next.1 = .asking w e → Asks node symbol w e
  on : next.1 ≠ .ended
  steps : taskLeft next.1 ≤ steps

theorem advances_to_idle {q : Search} {node : Node} {s : Session} {symbol : Address → String} {steps : Nat}
    {s' : Session} (kept : Kept q.scanner.directory node s s') (enough : 1 ≤ steps) :
    Advances q node symbol s none steps (.idle, s') where
  kept := kept
  outcome := rfl
  asks := nofun
  on := nofun
  steps := enough

theorem advances_to_reading {q : Search} {node : Node} {s : Session} {symbol : Address → String}
    {result : Option Activity} {steps : Nat} {s' : Session} {w : Draft}
    (kept : Kept q.scanner.directory node s s') (outcome : q.activity? (w.complete symbol) = result)
    (enough : taskLeft (.reading w) ≤ steps) :
    Advances q node symbol s result steps (.reading w, s') where
  kept := kept
  outcome := outcome
  asks := nofun
  on := nofun
  steps := enough

theorem advances_read {q : Search} {node : Node} {s : Session} {symbol : Address → String}
    (hs : symbols q node s = symbol) {w : Draft} {l : EventLog} {ls : List EventLog}
    (h : w.logs = l :: ls) :
    Advances q node symbol s (q.outcome symbol (.reading w)) (2 * w.logs.length + 1)
      (w.read q.scanner.directory l s) := by
  subst hs
  have skips : taskLeft (.reading w.skip) ≤ 2 * w.logs.length + 1 := by
    simp only [taskLeft_reading, Draft.skip, h, List.tail_cons, List.length_cons]
    omega
  unfold Draft.read
  cases shape : TransferEvent.isTransfer l with
  | false =>
      have unreadable := TransferEvent.decode_of_not_isTransfer shape
      exact advances_to_reading .refl (Draft.skip_complete h unreadable) skips
  | true =>
      cases event : TransferEvent.decode l with
      | error fault => exact advances_to_reading (kept_log _) (Draft.skip_complete h event) skips
      | ok e =>
          rcases Token.look_cases q.scanner.directory s.cache e.token with asking | ⟨symbol, done⟩
          · simp only [asking, if_true]
            refine ⟨⟨rfl, id, rfl⟩, rfl, ?_, nofun, Nat.le_refl _⟩
            rintro _ _ ⟨⟩
            exact ⟨Token.shown_of_look_eq_asking asking, l, ls, h, event⟩
          · simp only [done, if_true]
            have same : symbols q node s e.token = symbol := Token.shown_of_look_eq_done done
            rw [← same]
            exact advances_to_reading .refl (Draft.push_complete h event) skips

theorem takeUp_of_involved {q : Search} {s : Session} {tx : ChainTransaction} {receipt : Receipt}
    (involved : isInvolved tx receipt q.address = true) :
    takeUp q tx (.ok receipt) s = (.reading (.start q.scanner.directory tx receipt), s) := by
  simp [takeUp, involved]

theorem takeUp_of_not_involved {q : Search} {s : Session} {tx : ChainTransaction} {receipt : Receipt}
    (aside : isInvolved tx receipt q.address = false) :
    takeUp q tx (.ok receipt) s = (.idle, s) := by
  simp [takeUp, aside]

theorem advances_takeUp {q : Search} {node : Node} {s : Session} {symbol : Address → String}
    (hs : symbols q node s = symbol) (tx : ChainTransaction) (reply : Except NodeError Receipt) :
    Advances q node symbol s
      (Scanner.outcomeWith symbol q.blockNumber q.time q.address (tx, reply))
      (uses reply + 1) (takeUp q tx reply s) := by
  subst hs
  cases reply with
  | error e => exact advances_to_idle (kept_log _) (Nat.le_refl _)
  | ok receipt =>
      rw [Scanner.outcomeWith, Scanner.activityWith]
      cases involved : isInvolved tx receipt q.address with
      | false =>
          rw [takeUp_of_not_involved involved]
          exact advances_to_idle .refl (Nat.le_add_left 1 _)
      | true =>
          rw [takeUp_of_involved involved]
          refine advances_to_reading .refl ?_ (Nat.le_refl _)
          have native : symbols q node s .zero = q.scanner.directory.native := s.shown_zero _ node
          rw [Extraction.transfersWith, native]
          rfl

/-- A sweep that began in the session `s` agrees with the answers `fetches`. -/
structure Sound (q : Search) (node : Node) (s : Session)
    (fetches : List (ChainTransaction × Except NodeError Receipt)) (v : Sweep) : Prop where
  follows : v.window.Follows fetches
  bounded : v.window.pending.length ≤ q.scanner.windowSize
  shown : symbols q node v.session = symbols q node s
  receipts : v.session.receipts = s.receipts ++
    (v.window.taken.map (fun fetch => fetch.1.hash) ++ v.window.pending.map fun p => p.1.hash)
  found : v.found ++ (q.outcome (symbols q node s) v.task).toList =
    q.report (symbols q node s) v.window.taken
  asks : ∀ w e, v.task = .asking w e → Asks node (symbols q node s) w e
  ended : v.task = .ended → v.window.pending = [] ∧ v.window.waiting = []

theorem sound_start (q : Search) (node : Node) (s : Session)
    (fetches : List (ChainTransaction × Except NodeError Receipt)) :
    Sound q node s fetches (start (fetches.map (·.1)) s) where
  follows := Window.follows_start fetches
  bounded := Nat.zero_le _
  shown := rfl
  receipts := by simp [start, Window.start]
  found := rfl
  asks := nofun
  ended := nofun

theorem symbols_store {q : Search} {node : Node} {s : Session} {s' : Session} {token : Address}
    {reply : Except NodeError String} (stored : s'.cache = (Token.store s.cache token reply).1)
    (answered : reply = node.answerOf token)
    (same : symbols q node s token = Token.read token (node.answerOf token)) :
    symbols q node s' = symbols q node s := by
  subst answered
  funext b
  rw [symbols, Session.shown, stored]
  exact Token.shown_store same b

theorem Sound.goOn {fetches : List (ChainTransaction × Except NodeError Receipt)} {q : Search} {node : Node}
    {s : Session} {v : Sweep} {task : Task} {found : List Activity} {s' : Session}
    (h : Sound q node s fetches v) (receipts : s'.receipts = v.session.receipts)
    (shown : symbols q node s' = symbols q node v.session)
    (outcome : found ++ (q.outcome (symbols q node s) task).toList =
      v.found ++ (q.outcome (symbols q node s) v.task).toList)
    (asks : ∀ w e, task = .asking w e → Asks node (symbols q node s) w e)
    (ended : task = .ended → v.window.pending = [] ∧ v.window.waiting = []) :
    Sound q node s fetches { v with task := task, found := found, session := s' } where
  follows := h.follows
  bounded := h.bounded
  shown := shown.trans h.shown
  receipts := receipts.trans h.receipts
  found := outcome.trans h.found
  asks := asks
  ended := ended

theorem Sound.step {fetches : List (ChainTransaction × Except NodeError Receipt)} {q : Search} {node : Node}
    {s : Session} {v v' : Sweep} {e : Event} (h : Sound q node s fetches v) (step : Step q v e v')
    (answered : AnsweredBy node s fetches ⟨v, e, v'⟩) : Sound q node s fetches v' := by
  cases step with
  | @request tx txs idle waiting room =>
      constructor
      case follows => exact h.follows.request waiting
      case bounded => simpa using Nat.succ_le_of_lt room
      case shown => exact h.shown
      case receipts => simp [Session.askReceipts, h.receipts]
      case found => exact h.found
      case asks => exact h.asks
      case ended => simp [idle]
  | @answer i tx reply pending =>
      constructor
      case follows => exact h.follows.answer pending answered
      case bounded => simpa using h.bounded
      case shown => exact h.shown
      case receipts =>
        have asked := Machine.map_set_of_eq (fun p : ChainTransaction × Option (Except NodeError Receipt) =>
          p.1.hash) (y := (tx, some reply)) pending rfl
        rw [h.receipts, ← asked]
      case found => exact h.found
      case asks => exact h.asks
      case ended =>
        intro ended
        rw [(h.ended ended).1] at pending
        cases pending
  | @take tx reply rest idle pending =>
      have next := advances_takeUp h.shown tx reply
      constructor
      case follows => exact h.follows.take pending
      case bounded =>
        have bounded := h.bounded
        rw [pending, List.length_cons] at bounded
        exact Nat.le_of_succ_le bounded
      case shown => exact next.kept.shown.trans h.shown
      case receipts => simp [next.kept.receipts, h.receipts, pending]
      case found =>
        have before : v.found = q.report (symbols q node s) v.window.taken := by
          rw [← h.found, idle]
          exact (List.append_nil _).symm
        rw [next.outcome, before, Search.report, Search.report, Scanner.report_append,
          Scanner.report_cons]
        exact congrArg _ (List.append_nil _).symm
      case asks => exact next.asks
      case ended => exact fun ended => absurd ended next.on
  | @read w l ls reading logs =>
      have next := advances_read h.shown logs
      refine h.goOn next.kept.receipts next.kept.shown ?_ next.asks fun ended => absurd ended next.on
      rw [next.outcome, reading]
  | @told w e reply asking =>
      -- The token was not stored when it was asked for, so its symbol is what this answer says.
      obtain ⟨same, l, ls, logs, event⟩ := h.asks w e asking
      have reply : reply = node.answerOf e.token := answered w e asking
      refine h.goOn rfl ?shown ?outcome nofun nofun
      case shown =>
        rw [← h.shown] at same
        exact symbols_store rfl reply same
      case outcome =>
        rw [reply, ← same, asking]
        exact congrArg (fun found => v.found ++ Option.toList found) (Draft.push_complete logs event)
  | @settle w reading logs =>
      refine h.goOn rfl rfl ?_ nofun nofun
      rw [reading, Search.outcome, Search.outcome, Draft.complete_of_nil logs]
      exact List.append_nil _
  | finish idle pending waiting =>
      refine h.goOn rfl rfl ?_ nofun fun _ => ⟨pending, waiting⟩
      rw [idle]
      rfl
  | @elsewhere token reply unfixed =>
      -- The other lookup stores what a lookup of this sweep would have been answered.
      obtain ⟨absent, reply⟩ : s.cache.get? token = none ∧ reply = node.answerOf token := answered
      refine h.goOn rfl ?_ rfl h.asks h.ended
      have same : symbols q node s token = Token.read token (node.answerOf token) :=
        Token.shown_of_look_eq_asking (Token.look_eq_asking_iff.2 ⟨unfixed, absent⟩)
      rw [← h.shown] at same
      exact symbols_store rfl reply same

theorem Sound.runs {fetches : List (ChainTransaction × Except NodeError Receipt)} {q : Search} {node : Node}
    {s : Session} {v u : Sweep} {h : List Moment} (first : Sound q node s fetches v) (run : Runs q v h u)
    (answered : ∀ m ∈ h, AnsweredBy node s fetches m) : Sound q node s fetches u :=
  run.invariant _ first fun m hm hs before =>
    before.step (step?_eq_some_iff.1 hs) (answered m hm)

def openLeft (p : ChainTransaction × Option (Except NodeError Receipt)) : Nat :=
  if p.2.isNone then 2 else 1

def left (fetches : List (ChainTransaction × Except NodeError Receipt)) (v : Sweep) : Nat :=
  3 * v.window.waiting.length + (v.window.pending.map openLeft).sum +
    ((fetches.drop v.window.taken.length).map fun fetch => uses fetch.2).sum + taskLeft v.task

/-- A step of the sweep itself lowers `left`, and no other step raises it. -/
theorem Sound.left_step {fetches : List (ChainTransaction × Except NodeError Receipt)} {q : Search}
    {node : Node} {s : Session} {v v' : Sweep} {e : Event} (h : Sound q node s fetches v)
    (step : Step q v e v') :
    left fetches v' + (if e.isOwn then 1 else 0) ≤ left fetches v := by
  cases step with
  | request idle waiting room =>
      simp only [left, Event.isOwn, waiting, List.map_append, List.sum_append, List.length_cons,
        List.map_cons, List.map_nil, List.sum_cons, List.sum_nil, openLeft, Option.isNone_none, if_true]
      omega
  | @answer i tx reply pending =>
      have fewer := Machine.sum_map_set_lt openLeft pending
        (show openLeft (tx, some reply) < openLeft (tx, none) from Nat.lt_succ_self 1)
      simp only [left, Event.isOwn, if_true]
      omega
  | @take tx reply rest idle pending =>
      -- The receipt at the front of the window is the next one that is not taken yet.
      have here : fetches[v.window.taken.length]? = some (tx, reply) :=
        h.follows.answered 0 tx reply (by rw [pending]; rfl)
      obtain ⟨inside, same⟩ := List.getElem?_eq_some_iff.1 here
      have next := (advances_takeUp h.shown tx reply).steps
      simp only [left, Event.isOwn, if_true, idle, pending, List.map_cons, List.sum_cons,
        List.length_append, List.length_singleton, List.drop_eq_getElem_cons inside, same, openLeft,
        Option.isNone_some, taskLeft_idle, Bool.false_eq_true, if_false]
      omega
  | @read w l ls reading logs =>
      have next := (advances_read h.shown logs).steps
      simp only [left, Event.isOwn, if_true, reading, taskLeft_reading]
      omega
  | @told w e reply asking =>
      obtain ⟨-, l, ls, logs, -⟩ := h.asks w e asking
      simp only [left, Event.isOwn, if_true, asking, taskLeft_reading, taskLeft_asking, Draft.push,
        Draft.skip, logs, List.tail_cons, List.length_cons]
      omega
  | settle reading logs =>
      simp only [left, Event.isOwn, if_true, reading, taskLeft_reading, taskLeft_idle, logs,
        List.length_nil]
      omega
  | finish idle pending waiting =>
      simp only [left, Event.isOwn, if_true, idle, taskLeft_idle, taskLeft_ended]
      omega
  | elsewhere => exact Nat.le_refl _

theorem Sound.ownSteps_le {fetches : List (ChainTransaction × Except NodeError Receipt)} {q : Search}
    {node : Node} {s : Session} {v u : Sweep} {h : List Moment} (first : Sound q node s fetches v)
    (run : Runs q v h u) (answered : ∀ m ∈ h, AnsweredBy node s fetches m) :
    ownSteps h + left fetches u ≤ left fetches v := by
  induction run with
  | nil => simp [ownSteps]
  | @snoc h u u' e run hs ih =>
      have before : ∀ m ∈ h, AnsweredBy node s fetches m := fun m hm =>
        answered m (List.mem_append_left _ hm)
      have fewer := (first.runs run before).left_step (step?_eq_some_iff.1 hs)
      have so_far := ih before
      simp only [ownSteps, List.countP_append, List.countP_singleton]
      rw [ownSteps] at so_far
      omega

/-- A sweep that has not ended can take a step, whatever the node answers. -/
theorem Sound.ended_or_step {fetches : List (ChainTransaction × Except NodeError Receipt)} {q : Search}
    {node : Node} {s : Session} {v : Sweep} (h : Sound q node s fetches v) :
    v.task = .ended ∨ ∃ e v', v.step? q e = some v' ∧ e.isOwn = true ∧
      AnsweredBy node s fetches ⟨v, e, v'⟩ := by
  cases task : v.task with
  | ended => exact .inl rfl
  | reading w =>
      right
      cases logs : w.logs with
      | nil => exact ⟨.settle, _, step?_eq_some_iff.2 (.settle task logs), rfl, trivial⟩
      | cons l ls => exact ⟨.read, _, step?_eq_some_iff.2 (.read task logs), rfl, trivial⟩
  | asking w e =>
      refine .inr ⟨.told (node.answerOf e.token), _, step?_eq_some_iff.2 (.told task), rfl, ?_⟩
      intro w' e' asking
      rw [task] at asking
      cases asking
      rfl
  | idle =>
      right
      cases pending : v.window.pending with
      | cons p rest =>
          obtain ⟨tx, _ | reply⟩ := p
          · have first : v.window.pending[0]? = some (tx, none) := by rw [pending]; rfl
            obtain ⟨reply, here⟩ := h.follows.getElem?_pending first
            refine ⟨.answer 0 reply, _, step?_eq_some_iff.2 (.answer first), rfl, ?_⟩
            intro fetch same
            rw [here] at same
            cases same
            rfl
          · exact ⟨.take, _, step?_eq_some_iff.2 (.take task pending), rfl, trivial⟩
      | nil =>
          cases waiting : v.window.waiting with
          | nil => exact ⟨.finish, _, step?_eq_some_iff.2 (.finish task pending waiting), rfl, trivial⟩
          | cons tx txs =>
              have room : v.window.pending.length < q.scanner.windowSize := by
                rw [pending]
                exact q.scanner.windowSize_pos
              exact ⟨.request, _, step?_eq_some_iff.2 (.request task waiting room), rfl, trivial⟩

/-- What a run of a sweep guarantees, if the requests for receipts are answered by `fetches`. -/
structure Conforms (sc : Scanner) (node : Node) (s : Session) (block : Block) (time : Instant)
    (a : Address) (fetches : List (ChainTransaction × Except NodeError Receipt)) (h : List Moment)
    (q : Search) (u : Sweep) : Prop where
  /-- Only as many receipts are on their way as are fetched at a time. -/
  inFlight : u.window.inFlight ≤ max sc.batchSize 1
  /-- Receipts are asked for in the order of the block. -/
  requested : ∃ n, u.session.receipts =
    s.receipts ++ (block.transactions.take n).map fun tx => tx.hash
  /-- The sweep takes three steps for each receipt and two for each log, and few others. -/
  bounded : ownSteps h ≤ 3 * fetches.length + (fetches.map fun fetch => uses fetch.2).sum + 1
  goesOn : u.task = .ended ∨ ∃ e u', u.step? q e = some u' ∧ e.isOwn = true ∧
    AnsweredBy node s fetches ⟨u, e, u'⟩
  /-- In the end every receipt was asked for once, and everything was found. -/
  complete : u.task = .ended →
    u.found = Scanner.report (s.shown sc.directory node) block.number time a fetches ∧
      u.session.receipts = s.receipts ++ block.transactions.map fun tx => tx.hash
  /-- Where a receipt cannot be fetched, this transaction is missing and no other. -/
  failed : ∀ i tx e, u.task = .ended → fetches[i]? = some (tx, .error e) →
    u.found = Scanner.report (s.shown sc.directory node) block.number time a (fetches.eraseIdx i)

theorem Sound.requested {fetches : List (ChainTransaction × Except NodeError Receipt)} {q : Search}
    {node : Node} {s : Session} {v : Sweep} (h : Sound q node s fetches v) :
    v.session.receipts = s.receipts ++
      ((fetches.map (·.1)).take (v.window.taken.length + v.window.pending.length)).map
        fun tx => tx.hash := by
  rw [h.receipts, ← h.follows.order, List.take_left' (by simp)]
  simp [Function.comp_def]

theorem left_start (fetches : List (ChainTransaction × Except NodeError Receipt)) (s : Session) :
    left fetches (start (fetches.map (·.1)) s) =
      3 * fetches.length + (fetches.map fun fetch => uses fetch.2).sum + 1 := by
  simp [left, start, Window.start]

/-- Every run of a sweep conforms, in whatever order its events come. -/
theorem conforms {fetches : List (ChainTransaction × Except NodeError Receipt)} {node : Node} {s : Session}
    {u : Sweep} {h : List Moment} {sc : Scanner} {block : Block} {time : Instant} {a : Address}
    (same : fetches.map (·.1) = block.transactions)
    (run : Runs ⟨sc, block.number, time, a⟩ (start block.transactions s) h u)
    (answered : ∀ m ∈ h, AnsweredBy node s fetches m) :
    Conforms sc node s block time a fetches h ⟨sc, block.number, time, a⟩ u := by
  rw [← same] at run
  have first := sound_start ⟨sc, block.number, time, a⟩ node s fetches
  have sound := first.runs run answered
  have complete (ended : u.task = .ended) :
      u.found = Scanner.report (s.shown sc.directory node) block.number time a fetches := by
    obtain ⟨pending, waiting⟩ := sound.ended ended
    have found := sound.found
    rw [ended, sound.follows.eq_of_empty pending waiting] at found
    rw [← List.append_nil u.found]
    exact found
  constructor
  case inFlight => exact List.countP_le_length.trans sound.bounded
  case requested => exact ⟨_, same ▸ sound.requested⟩
  case bounded =>
    have steps := first.ownSteps_le run answered
    rw [left_start] at steps
    omega
  case goesOn => exact sound.ended_or_step
  case complete =>
    intro ended
    obtain ⟨pending, waiting⟩ := sound.ended ended
    refine ⟨complete ended, ?_⟩
    rw [sound.requested, sound.follows.eq_of_empty pending waiting, pending, ← same,
      List.take_of_length_le (by simp)]
  case failed =>
    intro i tx e ended failure
    rw [complete ended, Scanner.report_of_error failure]

end Sweep

namespace Scanner

/-- If a block cannot be fetched or dated, `scan` fails and asks for no receipt. Else it gives the
`report` on the transactions of the block, asks for each receipt once, in the order of the block, and
never has more than `batchSize` requests open. Every run of the `sweep` of the block `Conforms`, in
whatever order the answers arrive and other lookups happen: it ends after a bounded number of steps with
the report on the answers. -/
theorem scan_report_sweep_conforms (sc : Scanner) (node : Node) (hash : String) (a : Address)
    (s : Session) :
    (∀ e, node.block hash = .error e →
      sc.scan node hash a s = (.error (.node e), s) ∧ sc.sweep node hash a s = .error (.node e)) ∧
    (∀ block e, node.block hash = .ok block → block.time = .error e →
      sc.scan node hash a s = (.error (.data e), s) ∧ sc.sweep node hash a s = .error (.data e)) ∧
    (∀ block time, node.block hash = .ok block → block.time = .ok time →
      (sc.scan node hash a s).1 =
          .ok (report (s.shown sc.directory node) block.number time a (fetches node block)) ∧
      (sc.scan node hash a s).2.receipts =
          s.receipts ++ block.transactions.map (fun tx => tx.hash) ∧
      (∀ l, sc.peak node l hash a s ≤ max sc.batchSize 1) ∧
      ∃ q v, sc.sweep node hash a s = .ok (q, v) ∧
        ∀ fetches h u, fetches.map (·.1) = block.transactions → Sweep.Runs q v h u →
          (∀ m ∈ h, Sweep.AnsweredBy node s fetches m) →
          Sweep.Conforms sc node s block time a fetches h q u) := by
  have unswept {e : Failure} (h : datedBlock node hash = .error e) :
      sc.scan node hash a s = (.error e, s) ∧ sc.sweep node hash a s = .error e := by
    refine ⟨scan_eq_of_error sc a s h, ?_⟩
    rw [sweep, h]
    rfl
  refine ⟨fun e hb => unswept (datedBlock_eq_error hb),
    fun block e hb ht => unswept (datedBlock_eq_error_of_time hb ht), ?_⟩
  intro block time hb ht
  obtain ⟨found, -, receipts⟩ := scan_eq sc a s hb ht
  refine ⟨found, receipts, fun l => sc.peak_le node l hash a s,
    ⟨sc, block.number, time, a⟩, .start block.transactions s, ?_, ?_⟩
  · rw [sweep, datedBlock_eq_ok_iff.2 ⟨hb, ht⟩]
    rfl
  · intro fetches h u same run answered
    exact Sweep.conforms same run answered

/-- Two of three receipts are answered in the other order, one of them with a failure, and the third is
requested when there is room. The sweep ends with the other two transactions. For a block whose time is
out of range, and for one that is not found, no receipt is requested. -/
theorem scan_report_sweep_conforms_three_transactions :
    ∃ (sc : Scanner) (node : Node) (a : Address) (block : Block) (time : Instant) (q : Search)
      (v u : Sweep) (fetches : List (ChainTransaction × Except NodeError Receipt))
      (h : List Sweep.Moment), block.time = .ok time ∧ sc.sweep node "0x1" a .start = .ok (q, v) ∧
      Sweep.Runs q v h u ∧ (∀ m ∈ h, Sweep.AnsweredBy node .start fetches m) ∧
      Sweep.Conforms sc node .start block time a fetches h q u ∧ u.task = .ended ∧
      (u.found.map fun x => x.transaction.gasUsed) = [5, 7] ∧
      (∃ e, sc.scan node "0x2" a .start = (.error (.data e), .start)) ∧
      ∃ e, sc.scan node "0x3" a .start = (.error (.node e), .start) := by
  let a : Address := .ofNat 1
  let tx (n : Nat) : ChainTransaction := ⟨⟨.ofNat n⟩, a, some (.ofNat 3), n, 0, none⟩
  let receipt (n gas : Nat) : Receipt := ⟨⟨.ofNat n⟩, 1, "0x1", gas, none, []⟩
  let block : Block := ⟨1, "0x1", 0, [tx 1, tx 2, tx 3]⟩
  let refusal : NodeError := .timeout 10
  let node : Node := {
    block := fun hash => if hash = "0x1" then .ok block
      else if hash = "0x2" then .ok { block with timestamp := 2 ^ 62 } else .error refusal
    transaction := fun _ => .ok none
    receipt := fun _ => .error refusal
    call := fun _ _ => .error refusal }
  let sc : Scanner := ⟨.withNative "ETH", 2⟩
  let fetches : List (ChainTransaction × Except NodeError Receipt) :=
    [(tx 1, .ok (receipt 1 5)), (tx 2, .error refusal), (tx 3, .ok (receipt 3 7))]
  let events : List Sweep.Event := [.request, .request, .answer 1 (.error refusal),
    .elsewhere (.ofNat 9) (.error refusal), .answer 0 (.ok (receipt 1 5)), .take, .settle, .request,
    .take, .answer 0 (.ok (receipt 3 7)), .take, .settle, .finish]
  obtain ⟨time, early⟩ : ∃ time, Instant.ofUnix? (Width.signed64 0) = some time := ⟨_, rfl⟩
  have ht : block.time = .ok time := Block.time_eq_ok_iff.2 early
  obtain ⟨-, -, q, v, begins, conforms⟩ :=
    ((scan_report_sweep_conforms sc node "0x1" a .start).2.2 block time rfl ht).2
  have qv : (q, v) = (⟨sc, 1, time, a⟩, .start block.transactions .start) := by
    have same := begins
    rw [sweep, datedBlock_eq_ok_iff.2 ⟨rfl, ht⟩] at same
    exact (Except.ok.inj same).symm
  cases qv
  obtain ⟨h, u, hr, ended, gas, answered⟩ : ∃ h u, Machine.replay? (Sweep.step? ⟨sc, 1, time, a⟩)
      (.start block.transactions .start) events = some (h, u) ∧ u.task = .ended ∧
      (u.found.map fun x => x.transaction.gasUsed) = [5, 7] ∧
      ∀ m ∈ h, Sweep.AnsweredBy node .start fetches m := by
    refine ⟨[_, _, _, _, _, _, _, _, _, _, _, _, _], _, rfl, rfl, rfl, ?_⟩
    simp only [List.forall_mem_cons]
    refine ⟨trivial, trivial, ?second, ⟨rfl, rfl⟩, ?first, trivial, trivial, trivial, trivial, ?third,
      trivial, trivial, trivial, List.forall_mem_nil _⟩
    case first => rintro _ ⟨⟩; rfl
    case second => rintro _ ⟨⟩; rfl
    case third => rintro _ ⟨⟩; rfl
  have run := Machine.runs_of_replay? hr
  obtain ⟨e, late⟩ : ∃ e, Block.time { block with timestamp := 2 ^ 62 } = .error e := by
    rw [Block.time, show Instant.ofUnix? (Width.signed64 (2 ^ 62)) = none from rfl]
    exact ⟨_, rfl⟩
  have undated := ((scan_report_sweep_conforms sc node "0x2" a .start).2.1 _ e rfl late).1
  have unfound := ((scan_report_sweep_conforms sc node "0x3" a .start).1 refusal rfl).1
  exact ⟨sc, node, a, block, time, _, _, u, fetches, h, ht, begins, run, answered,
    conforms fetches h u rfl run answered, ended, gas, ⟨e, undated⟩, ⟨refusal, unfound⟩⟩

end Scanner

end WalletWatch
