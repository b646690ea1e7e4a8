import Mathlib.Data.List.Basic
import Mathlib.Data.Nat.Find
import WalletWatch.Retry.Run

/-!
# Retries

Apart from its log, a run attempts its operation and waits. `alternation` is the sequence of some attempts
with one wait between any two, and `Ends` finds the number of attempts: the first answer that `settles` the
run, or the limit of the policy.
-/

namespace WalletWatch

namespace Retry

/-- Whether an answer ends a run: a success, or a failure that is not recoverable. -/
def settles {α : Type} : Except Failure α → Bool
  | .ok _ => true
  | .error e => !e.isRecoverable

theorem settles_eq_false_iff {α : Type} {x : Except Failure α} :
    settles x = false ↔ ∃ e, x = .error e ∧ e.isRecoverable = true := by
  cases x <;> simp [settles]

def Step.isEntry : Step → Bool
  | .log _ => true
  | _ => false

def Run.acts {α : Type} (r : Run α) : List Step :=
  r.steps.filter fun s => !s.isEntry

/-- The acts of `calls` attempts, the first of which is the `first`-th, with a wait between any two. -/
def alternation (wait : Nat → Span) : (first calls : Nat) → List Step
  | _, 0 => []
  | _, 1 => [.attempt]
  | first, calls + 2 => .attempt :: .wait (wait first) :: alternation wait (first + 1) (calls + 1)

/-! ## Attempts and waits of a plan -/

namespace Run

theorem attempts_acts {α : Type} (r : Run α) : attempts (α := α) ⟨r.acts, r.result⟩ = r.attempts := by
  rw [attempts, attempts, acts, List.countP_filter]
  refine List.countP_congr fun s _ => ?_
  cases s <;> simp [Step.isEntry]

theorem waits_acts {α : Type} (r : Run α) : waits (α := α) ⟨r.acts, r.result⟩ = r.waits := by
  rw [waits, waits, acts, List.filterMap_filter]
  refine List.filterMap_congr fun s _ => ?_
  cases s <;> simp [Step.isEntry]

theorem attempts_alternation {α : Type} {wait : Nat → Span} {first calls : Nat}
    (result : Option (Except Failure α)) :
    attempts ⟨alternation wait first calls, result⟩ = calls := by
  fun_induction alternation wait first calls with
  | case1 => rfl
  | case2 => rfl
  | case3 first calls ih =>
      rw [attempts] at ih
      simp [attempts, ih]

theorem waits_alternation {α : Type} {wait : Nat → Span} {first calls : Nat}
    (result : Option (Except Failure α)) :
    waits ⟨alternation wait first calls, result⟩ = (List.range' first (calls - 1)).map wait := by
  fun_induction alternation wait first calls with
  | case1 => rfl
  | case2 => rfl
  | case3 first calls ih =>
      rw [waits] at ih
      simp [waits, ih, List.range'_succ]

theorem attempts_of_acts {α : Type} {r : Run α} {wait : Nat → Span} {first calls : Nat}
    (h : r.acts = alternation wait first calls) : r.attempts = calls := by
  rw [← attempts_acts, h, attempts_alternation]

theorem waits_of_acts {α : Type} {r : Run α} {wait : Nat → Span} {first calls : Nat}
    (h : r.acts = alternation wait first calls) :
    r.waits = (List.range' first (calls - 1)).map wait := by
  rw [← waits_acts, h, waits_alternation]

theorem acts_prepend {α : Type} (steps : List Step) (r : Run α) :
    (r.prepend steps).acts = steps.filter (fun s => !s.isEntry) ++ r.acts :=
  List.filter_append ..

end Run

/-! ## How many attempts there are -/

/-- Of the answers from the `first`-th on, at most `left` of them, the `calls`-th is the last one of a
run. -/
structure Ends {α : Type} (answer : Nat → Except Failure α) (first left calls : Nat) : Prop where
  some : 0 < calls
  allowed : calls ≤ left
  goesOn : ∀ i, i + 1 < calls → settles (answer (first + i)) = false
  last : settles (answer (first + calls - 1)) = true ∨ calls = left

namespace Ends

theorem tail {α : Type} {answer : Nat → Except Failure α} {first left calls : Nat}
    (ends : Ends answer first (left + 1) (calls + 2)) :
    Ends answer (first + 1) left (calls + 1) where
  some := Nat.succ_pos calls
  allowed := Nat.le_of_succ_le_succ ends.allowed
  goesOn i hi := by
    have later := ends.goesOn (i + 1) (Nat.succ_lt_succ hi)
    rwa [Nat.add_left_comm, Nat.add_comm] at later
  last := by
    rw [show first + 1 + (calls + 1) - 1 = first + (calls + 2) - 1 by omega]
    exact ends.last.imp_right Nat.succ.inj

theorem of_settles {α : Type} {answer : Nat → Except Failure α} {k m : Nat} (one : 1 ≤ k) (allowed : k ≤ m)
    (settled : settles (answer k) = true) (goesOn : ∀ i, 1 ≤ i → i < k → settles (answer i) = false) :
    Ends answer 1 m k where
  some := one
  allowed := allowed
  goesOn i hi := goesOn (1 + i) (Nat.le_add_right 1 i) (by omega)
  last := .inl (by rwa [Nat.add_sub_cancel_left])

theorem of_exhausted {α : Type} {answer : Nat → Except Failure α} {m : Nat} (one : 1 ≤ m)
    (goesOn : ∀ i, 1 ≤ i → i ≤ m → settles (answer i) = false) :
    Ends answer 1 m m where
  some := one
  allowed := Nat.le_refl m
  goesOn i hi := goesOn (1 + i) (Nat.le_add_right 1 i) (by omega)
  last := .inr rfl

theorem exists_ends {α : Type} {m : Nat} (answer : Nat → Except Failure α) (one : 1 ≤ m) :
    ∃ k, Ends answer 1 m k := by
  by_cases some : ∃ k, (1 ≤ k ∧ k ≤ m) ∧ settles (answer k) = true
  · classical
    obtain ⟨⟨one, allowed⟩, settled⟩ := Nat.find_spec some
    refine ⟨_, of_settles one allowed settled fun i low before => Bool.eq_false_iff.2 fun holds => ?_⟩
    exact Nat.find_min some before ⟨⟨low, by omega⟩, holds⟩
  · push Not at some
    exact ⟨m, of_exhausted one fun i low high => Bool.eq_false_iff.2 (some i ⟨low, high⟩)⟩

end Ends

theorem runFrom_of_ends {α : Type} {delay? : Nat → Option Span} {wait : Nat → Span}
    {answer : Nat → Except Failure α} (operation : String) (maxAttempts : Nat) {first left calls : Nat}
    (ends : Ends answer first left calls)
    (spans : ∀ i, first ≤ i → i + 1 < first + calls → delay? i = some (wait i)) :
    (runFrom operation maxAttempts delay? answer left first).acts = alternation wait first calls ∧
      (runFrom operation maxAttempts delay? answer left first).result =
        some (answer (first + calls - 1)) := by
  induction calls generalizing first left with
  | zero => exact absurd ends.some (Nat.lt_irrefl 0)
  | succ calls ih =>
      obtain ⟨left, rfl⟩ := Nat.exists_eq_add_one_of_ne_zero
        (Nat.ne_of_gt (Nat.lt_of_lt_of_le ends.some ends.allowed))
      cases calls with
      | zero =>
          -- The only attempt: it settles the run, or it is the last that is allowed.
          rw [runFrom, Nat.zero_add, Nat.add_sub_cancel]
          have last := ends.last
          rw [Nat.zero_add, Nat.add_sub_cancel] at last
          cases got : answer first with
          | ok x =>
              dsimp only
              split <;> simp [Run.acts, Step.isEntry, alternation]
          | error e =>
              rw [got, settles] at last
              dsimp only
              split
              · simp [Run.acts, Step.isEntry, alternation]
              · next recoverable =>
                  have none : left = 0 := by
                    rcases last with settled | allowed
                    · exact absurd settled recoverable
                    · exact (Nat.succ.inj allowed).symm
                  rw [if_pos none]
                  simp [Run.acts, Step.isEntry, alternation]
      | succ calls =>
          obtain ⟨e, got, recoverable⟩ := settles_eq_false_iff.1 (ends.goesOn 0 (by omega))
          have more : left ≠ 0 := by
            have := ends.allowed
            omega
          have pause : delay? first = some (wait first) := spans first (Nat.le_refl _) (by omega)
          obtain ⟨acts, result⟩ := ih ends.tail fun i low high => spans i (by omega) (by omega)
          rw [Nat.add_zero] at got
          rw [runFrom]
          simp only [got, recoverable, Bool.not_true, Bool.false_eq_true, if_false, more, pause]
          refine ⟨?_, ?_⟩
          · rw [Run.acts_prepend, acts]
            simp [Step.isEntry, alternation]
          · rw [Run.prepend, result, show first + 1 + (calls + 1) - 1 = first + (calls + 2) - 1 by omega]

theorem acts_run {α : Type} {operation : String} {delay? : Nat → Option Span}
    {answer : Nat → Except Failure α} {p : Policy} :
    (run operation p delay? answer).acts =
      (runFrom operation p.maxAttempts delay? answer p.maxAttempts 1).acts := by
  rw [run]
  cases (runFrom operation p.maxAttempts delay? answer p.maxAttempts 1).result with
  | none => rfl
  | some x => simp [Run.acts, Step.isEntry]

theorem result_run {α : Type} {operation : String} {delay? : Nat → Option Span}
    {answer : Nat → Except Failure α} {p : Policy} :
    (run operation p delay? answer).result =
      (runFrom operation p.maxAttempts delay? answer p.maxAttempts 1).result := by
  rw [run]
  cases result : (runFrom operation p.maxAttempts delay? answer p.maxAttempts 1).result with
  | none => exact result
  | some x => rfl

/-- A run attempts the operation up to the first answer that `settles` it and gives this answer back, or,
if there is none, up to `maxAttempts` and gives the last one back, or an exhausted retry if no attempt is
allowed. Its waits are the first ones of the policy, one fewer than its attempts, and each stands between
two of these (`alternation`). Only the delays of the policy are assumed to be spans of time. -/
theorem attempts_result_waits_run {α : Type} (operation : String) (p : Policy) (chance : Nat → Float)
    (wait : Nat → Span) (answer : Nat → Except Failure α)
    (spans : ∀ i, 1 ≤ i → i < p.maxAttempts → p.delay? (chance i) i = some (wait i)) :
    let r := run operation p (fun i => p.delay? (chance i) i) answer
    (∀ k, 1 ≤ k → k ≤ p.maxAttempts → settles (answer k) = true →
      (∀ i, 1 ≤ i → i < k → settles (answer i) = false) →
      r.attempts = k ∧ r.result = some (answer k)) ∧
    ((∀ i, 1 ≤ i → i ≤ p.maxAttempts → settles (answer i) = false) →
      r.attempts = p.maxAttempts ∧
      r.result = some (if p.maxAttempts = 0 then
          .error (.system (.retriesExhausted (operation ++ " was attempted zero times")))
        else answer p.maxAttempts)) ∧
    r.waits = (List.range' 1 (r.attempts - 1)).map wait ∧
    r.acts = alternation wait 1 r.attempts := by
  intro r
  -- Which attempt is the last one decides everything else, unless no attempt is allowed at all.
  have ended {k : Nat} (ends : Ends answer 1 p.maxAttempts k) :
      r.acts = alternation wait 1 k ∧ r.result = some (answer k) := by
    have spanned : ∀ i, 1 ≤ i → i + 1 < 1 + k → p.delay? (chance i) i = some (wait i) := by
      intro i low high
      have allowed := ends.allowed
      exact spans i low (by omega)
    obtain ⟨acts, result⟩ := runFrom_of_ends operation p.maxAttempts ends spanned
    rw [Nat.add_sub_cancel_left] at result
    exact ⟨acts_run.trans acts, result_run.trans result⟩
  have unasked : p.maxAttempts = 0 →
      r.acts = alternation wait 1 0 ∧ r.result = some (.error (exhausted operation)) := by
    intro none
    rw [acts_run, result_run, none]
    exact ⟨rfl, rfl⟩
  have planned : ∃ calls, r.acts = alternation wait 1 calls := by
    rcases Nat.eq_zero_or_pos p.maxAttempts with none | one
    · exact ⟨0, (unasked none).1⟩
    · obtain ⟨k, ends⟩ := Ends.exists_ends answer one
      exact ⟨k, (ended ends).1⟩
  obtain ⟨calls, acts⟩ := planned
  have attempts := Run.attempts_of_acts acts
  have waits := Run.waits_of_acts acts
  rw [← attempts] at acts waits
  refine ⟨fun k one allowed settled goesOn => ?_, fun goesOn => ?_, waits, acts⟩
  · obtain ⟨acts, result⟩ := ended (.of_settles one allowed settled goesOn)
    exact ⟨Run.attempts_of_acts acts, result⟩
  · rcases Nat.eq_zero_or_pos p.maxAttempts with none | one
    · obtain ⟨acts, result⟩ := unasked none
      rw [if_pos none, none]
      exact ⟨Run.attempts_of_acts acts, result⟩
    · obtain ⟨acts, result⟩ := ended (.of_exhausted one goesOn)
      rw [if_neg (Nat.ne_of_gt one)]
      exact ⟨Run.attempts_of_acts acts, result⟩

/-- Four attempts are allowed, with waits of two and of three seconds. Two calls time out, and the third
one fails with an unknown method, which ends the run. -/
theorem attempts_result_waits_run_three_attempts :
    ∃ (p : Policy) (chance : Nat → Float) (wait : Nat → Span) (answer : Nat → Except Failure Nat),
      p.maxAttempts = 4 ∧
      (∀ i, 1 ≤ i → i < p.maxAttempts → p.delay? (chance i) i = some (wait i)) ∧
      let r := run "ping" p (fun i => p.delay? (chance i) i) answer
      r.attempts = 3 ∧ r.result = some (.error (.node (.method (-32601) "no such method"))) ∧
      r.waits = [⟨2000000000⟩, ⟨3000000000⟩] ∧
      r.acts = [.attempt, .wait ⟨2000000000⟩, .attempt, .wait ⟨3000000000⟩, .attempt] := by
  let p : Policy := ⟨4, 2, 3, 2.0, false⟩
  let wait (i : Nat) : Span := if i = 1 then ⟨2000000000⟩ else ⟨3000000000⟩
  let answer (i : Nat) : Except Failure Nat :=
    if i < 3 then .error (.node (.timeout 10)) else .error (.node (.method (-32601) "no such method"))
  have spans : ∀ i, 1 ≤ i → i < p.maxAttempts → p.delay? 0.5 i = some (wait i) := by
    intro i low high
    have three : i = 1 ∨ i = 2 ∨ i = 3 := by
      have few : i < 4 := high
      omega
    rcases three with rfl | rfl | rfl <;> decide +kernel
  obtain ⟨settled, -, waits, acts⟩ :=
    attempts_result_waits_run "ping" p (fun _ => 0.5) wait answer spans
  obtain ⟨attempts, result⟩ := settled 3 (by decide) (by decide) rfl fun i _ before => by
    simp [answer, before, settles, Failure.isRecoverable]
  rw [attempts] at waits acts
  exact ⟨p, fun _ => 0.5, wait, answer, rfl, spans, attempts, result, waits, acts⟩

end Retry

end WalletWatch
