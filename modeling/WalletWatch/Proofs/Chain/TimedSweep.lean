import Mathlib.Logic.Relation
import WalletWatch.Chain.TimedSweep
import WalletWatch.Proofs.Chain.Sweep

/-!
# Timed sweeps are sweeps

A timed sweep takes steps of its sweep, and its node answers the questions. So all that holds of sweeps in
any order holds of it, and it finds what a scan finds, with any latencies.
-/

namespace WalletWatch

open Scanner (fetches)

theorem Scanner.map_fst_fetches (node : Node) (block : Block) :
    (fetches node block).map (·.1) = block.transactions := by
  simp [fetches, Function.comp_def]

namespace TimedSweep

/-- One event of a timed sweep, with some latency and at some time. -/
def Goes (node : Node) (v v' : TimedSweep) : Prop :=
  ∃ (l : Latency) (now : Nat) (e : Sweep.Event) (sweep : Sweep), v.nextEvent? node now = some e ∧
    v.sweep.step? v.search e = some sweep ∧
    v' = { v.await l now e with search := v.search, sweep := sweep }

def start (q : Search) (sweep : Sweep) : TimedSweep :=
  { search := q, sweep := sweep }

theorem answeredBy_of_mem_answers {node : Node} {s : Session} {block : Block} {v : TimedSweep}
    {e : Sweep.Event} {now : Nat} {sweep : Sweep} (follows : v.sweep.window.Follows (fetches node block))
    (he : e ∈ v.answers node now) :
    Sweep.AnsweredBy node s (fetches node block) ⟨v.sweep, e, sweep⟩ := by
  rcases List.mem_append.1 he with receipt | symbol
  · obtain ⟨⟨i, time⟩, -, hi⟩ := List.mem_filterMap.1 receipt
    obtain ⟨⟨tx, reply?⟩, pending, rfl⟩ := Option.map_eq_some_iff.1 hi
    intro fetch hf
    obtain ⟨reply, same⟩ := follows.getElem?_pending pending
    obtain ⟨tx', -, rfl⟩ := List.mem_map.1 (List.mem_of_getElem? hf)
    cases hf.symm.trans same
    rfl
  · split at symbol
    · next w event asking =>
        split at symbol
        · obtain rfl := List.mem_singleton.1 symbol
          intro w' event' asking'
          cases asking.symm.trans asking'
          rfl
        · cases symbol
    · cases symbol

/-- Without its timetable, a timed sweep is a run of a sweep. -/
theorem exists_runs {node : Node} {q : Search} {s : Session} {block : Block} {v : TimedSweep}
    (goes : Relation.ReflTransGen (Goes node) (start q (.start block.transactions s)) v) :
    v.search = q ∧ ∃ h, Sweep.Runs q (.start block.transactions s) h v.sweep ∧
      ∀ m ∈ h, Sweep.AnsweredBy node s (fetches node block) m := by
  induction goes with
  | refl => exact ⟨rfl, [], .nil, List.forall_mem_nil _⟩
  | @tail v v' _ step ih =>
      obtain ⟨search, h, run, answered⟩ := ih
      obtain ⟨l, now, e, sweep, next, hs, rfl⟩ := step
      refine ⟨search, _, run.snoc e (search ▸ hs), ?_⟩
      rw [List.forall_mem_append, List.forall_mem_singleton]
      refine ⟨answered, ?_⟩
      rcases List.mem_append.1 (List.mem_of_find?_eq_some next) with answer | own
      · have first := Sweep.sound_start q node s (fetches node block)
        rw [Scanner.map_fst_fetches] at first
        exact answeredBy_of_mem_answers (first.runs run answered).follows answer
      · simp only [List.mem_cons, List.not_mem_nil, or_false] at own
        rcases own with rfl | rfl | rfl | rfl | rfl <;> trivial

end TimedSweep

theorem Scanner.exists_of_sweep_eq_ok {sc : Scanner} {node : Node} {hash : String} {a : Address}
    {s : Session} {q : Search} {sweep : Sweep} (h : sc.sweep node hash a s = .ok (q, sweep)) :
    ∃ block time, node.block hash = .ok block ∧ block.time = .ok time ∧
      q = ⟨sc, block.number, time, a⟩ ∧ sweep = .start block.transactions s := by
  unfold Scanner.sweep at h
  cases dated : datedBlock node hash with
  | error e =>
      rw [dated] at h
      cases h
  | ok found =>
      rw [dated] at h
      cases h
      obtain ⟨hb, ht⟩ := datedBlock_eq_ok_iff.1 dated
      exact ⟨_, _, hb, ht, rfl, rfl⟩

/-- With any latencies, a timed sweep of a block finds what the scan finds, and asks for the same
receipts. -/
theorem Scanner.scan_eq_of_timedSweep {sc : Scanner} {node : Node} {hash : String} {a : Address}
    {s : Session} {q : Search} {sweep : Sweep} {v : TimedSweep} {found : List Activity}
    (begins : sc.sweep node hash a s = .ok (q, sweep))
    (goes : Relation.ReflTransGen (TimedSweep.Goes node) (.start q sweep) v)
    (ended : v.sweep.result? = some found) :
    (sc.scan node hash a s).1 = .ok found ∧
      v.sweep.session.receipts = (sc.scan node hash a s).2.receipts := by
  obtain ⟨block, time, hb, ht, rfl, rfl⟩ := exists_of_sweep_eq_ok begins
  obtain ⟨-, h, run, answered⟩ := TimedSweep.exists_runs goes
  have conforms := Sweep.conforms (map_fst_fetches node block) run answered
  obtain ⟨scanned, -, receipts⟩ := scan_eq sc a s hb ht
  obtain ⟨task, rfl⟩ := Sweep.result?_eq_some_iff.1 ended
  obtain ⟨report, asked⟩ := conforms.complete task
  exact ⟨scanned.trans (congrArg _ report.symm), asked.trans receipts.symm⟩

end WalletWatch
