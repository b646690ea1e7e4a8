import Mathlib.Algebra.BigOperators.Group.List.Basic
import WalletWatch.Proofs.Machine
import WalletWatch.Proofs.Token.Resolution
import WalletWatch.Token.Run

/-!
# Lookups side by side

A lookup that asks does not see what others store while it waits, so one token may be asked and stored many
times. If the answers of the node do not change this makes no difference. `Sound` is the invariant: every
cached symbol, every answer that is not stored yet and every result agree with the answers of the node.
-/

namespace WalletWatch

namespace Token

namespace Lookups

inductive Step (s : Lookups) : Event → Lookups → Prop
  | known {i : Nat} {token : Address} {symbol : String} :
      s.lookups[i]? = some ⟨token, .waiting⟩ → look s.directory s.cache token = .done symbol →
      Step s (.look i) { s with lookups := s.lookups.set i ⟨token, .done symbol⟩ }
  | ask {i : Nat} {token : Address} :
      s.lookups[i]? = some ⟨token, .waiting⟩ → look s.directory s.cache token = .asking →
      Step s (.look i)
        { s with lookups := s.lookups.set i ⟨token, .asking⟩, asked := s.asked ++ [token] }
  | answer {i : Nat} {token : Address} {reply : Except NodeError String} :
      s.lookups[i]? = some ⟨token, .asking⟩ →
      Step s (.answer i reply) { s with lookups := s.lookups.set i ⟨token, .answered reply⟩ }
  | store {i : Nat} {token : Address} {reply : Except NodeError String} :
      s.lookups[i]? = some ⟨token, .answered reply⟩ →
      Step s (.store i)
        { s with
          lookups := s.lookups.set i ⟨token, .done (read token reply)⟩
          cache := (Token.store s.cache token reply).1 }

theorem step?_eq_some_iff {s s' : Lookups} {e : Event} : s.step? e = some s' ↔ Step s e s' := by
  constructor
  · intro h
    cases e with
    | look i =>
        simp only [step?] at h
        split at h
        · next token hl =>
            rcases look_cases s.directory s.cache token with asking | ⟨symbol, done⟩
            · rw [asking] at h
              cases h
              exact .ask hl asking
            · rw [done] at h
              cases h
              exact .known hl done
        · cases h
    | answer i reply =>
        simp only [step?] at h
        split at h
        · next token hl =>
            cases h
            exact .answer hl
        · cases h
    | store i =>
        simp only [step?] at h
        split at h
        · next token reply hl =>
            cases h
            rw [store_symbol]
            exact .store hl
        · cases h
  · intro h
    cases h with
    | known hl done => simp [step?, hl, done, advance]
    | ask hl asking => simp [step?, hl, asking, advance]
    | answer hl => simp [step?, hl, advance]
    | store hl => simp [step?, hl, advance, store_symbol]

end Lookups

/-- The progress of a lookup agrees with the cache and the answers of the node. -/
def Lookup.Sound (d : Directory) (ask : Address → Except NodeError String) (c : Cache) (l : Lookup) :
    Prop :=
  match l.progress with
  | .waiting => True
  | .asking => d.fixed? l.token = none
  | .answered reply => d.fixed? l.token = none ∧ reply = ask l.token
  | .done symbol => symbol = shown d ask .empty l.token ∧
      (d.fixed? l.token = none → c.get? l.token = (symbolOf (ask l.token)).toOption)

theorem Lookup.Sound.store {d : Directory} {ask : Address → Except NodeError String} {c : Cache}
    {l : Lookup} (h : l.Sound d ask c) (token : Address) :
    l.Sound d ask (Token.store c token (ask token)).1 := by
  obtain ⟨b, progress⟩ := l
  cases progress with
  | waiting => trivial
  | asking => exact h
  | answered reply => exact h
  | done symbol =>
      refine ⟨h.1, fun unfixed => ?_⟩
      have cached := h.2 unfixed
      rw [get?_store]
      split
      · next same =>
          subst same
          rw [cached, Option.or_self]
      · exact cached

namespace Lookups

/-- A step moves one lookup on. It asks only if the lookup has not started and its token is not cached. -/
theorem Step.advances {s s' : Lookups} {e : Event} (step : Step s e s') :
    ∃ token p p', s.lookups[e.place]? = some ⟨token, p⟩ ∧
      s'.lookups = s.lookups.set e.place ⟨token, p'⟩ ∧ p' ≠ .waiting ∧
      (s'.asked = s.asked ∨
        p = .waiting ∧ s.cache.get? token = none ∧ s'.asked = s.asked ++ [token]) := by
  cases step with
  | @known i token symbol hl done =>
      exact ⟨token, .waiting, .done symbol, hl, rfl, by simp, .inl rfl⟩
  | @ask i token hl asking =>
      have absent : s.cache.get? token = none := (look_eq_asking_iff.1 asking).2
      exact ⟨token, .waiting, .asking, hl, rfl, by simp, .inr ⟨rfl, absent, rfl⟩⟩
  | @answer i token reply hl =>
      exact ⟨token, .asking, .answered reply, hl, rfl, by simp, .inl rfl⟩
  | @store i token reply hl =>
      exact ⟨token, .answered reply, .done (read token reply), hl, rfl, by simp, .inl rfl⟩

def queried (s : Lookups) : List Address :=
  s.lookups.map (·.token)

theorem queried_start (d : Directory) (c : Cache) (tokens : List Address) :
    (start d c tokens).queried = tokens := by
  simp [Lookups.queried, start, Function.comp_def]

theorem Step.queried {s s' : Lookups} {e : Event} (step : Step s e s') : s'.queried = s.queried := by
  obtain ⟨token, p, p', before, after, -⟩ := step.advances
  rw [Lookups.queried, after]
  exact Machine.map_set_of_eq _ before rfl

theorem Step.looked {s s' : Lookups} {e : Event} {token : Address} {symbol : String} (step : Step s e s')
    (hc : s'.cache.get? token = some symbol) :
    s.cache.get? token = some symbol ∨ token ∈ s.queried := by
  cases step with
  | known | ask | answer => exact .inl hc
  | store hl =>
      rw [get?_store] at hc
      split at hc
      · next same =>
          subst same
          exact .inr (List.mem_map_of_mem (List.mem_of_getElem? hl))
      · exact .inl hc

theorem Runs.queried {s u : Lookups} {h : List Moment} (run : Runs s h u) : u.queried = s.queried :=
  run.invariant (fun v => v.queried = s.queried) rfl fun _ _ hs before =>
    (step?_eq_some_iff.1 hs).queried.trans before

theorem Runs.looked {s u : Lookups} {h : List Moment} {token : Address} {symbol : String} (run : Runs s h u)
    (hc : u.cache.get? token = some symbol) :
    s.cache.get? token = some symbol ∨ token ∈ s.queried := by
  induction run with
  | nil => exact .inl hc
  | snoc e run hs ih =>
      rcases (step?_eq_some_iff.1 hs).looked hc with hc | mem
      · exact ih hc
      · exact .inr (Runs.queried run ▸ mem)

/-- The lookups and the cache agree with the answers of the node. -/
structure Sound (d : Directory) (ask : Address → Except NodeError String) (s : Lookups) : Prop where
  directory : s.directory = d
  genuine : Cache.Genuine d ask s.cache
  lookup : ∀ l ∈ s.lookups, l.Sound d ask s.cache

theorem sound_start {d : Directory} {ask : Address → Except NodeError String} {c : Cache}
    (genuine : Cache.Genuine d ask c) (tokens : List Address) :
    Sound d ask (start d c tokens) where
  directory := rfl
  genuine := genuine
  lookup l hl := by
    obtain ⟨token, -, rfl⟩ := List.mem_map.1 hl
    trivial

theorem Sound.advance {d : Directory} {ask : Address → Except NodeError String} {s : Lookups} {i : Nat}
    {l : Lookup} {c : Cache} {asked : List Address} (h : Sound d ask s) (genuine : Cache.Genuine d ask c)
    (keeps : ∀ l : Lookup, l.Sound d ask s.cache → l.Sound d ask c) (now : l.Sound d ask c) :
    Sound d ask { s with lookups := s.lookups.set i l, cache := c, asked := asked } where
  directory := h.directory
  genuine := genuine
  lookup l' hl := by
    rcases List.mem_or_eq_of_mem_set hl with hl | rfl
    · exact keeps l' (h.lookup l' hl)
    · exact now

theorem Sound.step {d : Directory} {ask : Address → Except NodeError String} {s s' : Lookups} {e : Event}
    (h : Sound d ask s) (step : Step s e s') (answered : AnsweredBy ask ⟨s, e, s'⟩) : Sound d ask s' := by
  cases step with
  | @known i token symbol hl done =>
      refine h.advance h.genuine (fun _ => id) ⟨?_, fun unfixed => ?_⟩
      · rw [h.directory] at done
        rw [← h.genuine.shown_eq, shown_of_look_eq_done done]
      · rw [h.directory, look_eq_done_iff, unfixed, Option.none_or] at done
        exact h.genuine.get?_eq done
  | @ask i token hl asking =>
      rw [h.directory] at asking
      exact h.advance h.genuine (fun _ => id) (look_eq_asking_iff.1 asking).1
  | @answer i token reply hl =>
      have unfixed : d.fixed? token = none := h.lookup _ (List.mem_of_getElem? hl)
      exact h.advance h.genuine (fun _ => id) ⟨unfixed, answered i reply ⟨token, .asking⟩ rfl hl⟩
  | @store i token reply hl =>
      obtain ⟨unfixed, rfl⟩ : d.fixed? token = none ∧ reply = ask token :=
        h.lookup _ (List.mem_of_getElem? hl)
      refine h.advance (h.genuine.store unfixed) (fun l hs => hs.store token)
        ⟨?_, fun _ => h.genuine.get?_store_self token⟩
      rw [shown_eq, unfixed, AddressMap.get?_empty]
      rfl

theorem Sound.runs {d : Directory} {ask : Address → Except NodeError String} {s u : Lookups}
    {h : List Moment} (first : Sound d ask s) (run : Runs s h u) (answered : ∀ m ∈ h, AnsweredBy ask m) :
    Sound d ask u :=
  run.invariant _ first fun m hm hs before =>
    before.step (step?_eq_some_iff.1 hs) (answered m hm)

def stepsLeft (l : Lookup) : Nat :=
  match l.progress with
  | .waiting => 3
  | .asking => 2
  | .answered _ => 1
  | .done _ => 0

def left (s : Lookups) : Nat :=
  (s.lookups.map stepsLeft).sum

theorem left_start (d : Directory) (c : Cache) (tokens : List Address) :
    (start d c tokens).left = 3 * tokens.length := by
  simp only [left, start, List.map_map, Function.comp_def, stepsLeft, List.map_const',
    List.sum_replicate_nat, Nat.mul_comm]

theorem Step.left_lt {s s' : Lookups} {e : Event} (step : Step s e s') : s'.left < s.left := by
  cases step with
  | known hl => exact Machine.sum_map_set_lt stepsLeft hl (Nat.succ_pos 2)
  | ask hl => exact Machine.sum_map_set_lt stepsLeft hl (Nat.lt_succ_self 2)
  | answer hl => exact Machine.sum_map_set_lt stepsLeft hl (Nat.lt_succ_self 1)
  | store hl => exact Machine.sum_map_set_lt stepsLeft hl (Nat.lt_succ_self 0)

theorem Runs.length_le {s u : Lookups} {h : List Moment} (run : Runs s h u) :
    h.length + u.left ≤ s.left := by
  induction run with
  | nil => simp
  | snoc e _ hs ih =>
      have fewer := (step?_eq_some_iff.1 hs).left_lt
      rw [List.length_append, List.length_singleton]
      omega

theorem complete_or_step (ask : Address → Except NodeError String) (s : Lookups) :
    Complete s ∨ ∃ e s', s.step? e = some s' ∧ AnsweredBy ask ⟨s, e, s'⟩ := by
  by_cases complete : Complete s
  · exact .inl complete
  · right
    simp only [Complete, not_forall] at complete
    obtain ⟨⟨token, p⟩, hl, unfinished⟩ := complete
    obtain ⟨i, hi⟩ := List.mem_iff_getElem?.1 hl
    cases p with
    | waiting =>
        rcases look_cases s.directory s.cache token with asking | ⟨symbol, done⟩
        · exact ⟨.look i, _, step?_eq_some_iff.2 (.ask hi asking), fun _ _ _ he => by cases he⟩
        · exact ⟨.look i, _, step?_eq_some_iff.2 (.known hi done), fun _ _ _ he => by cases he⟩
    | asking =>
        refine ⟨.answer i (ask token), _, step?_eq_some_iff.2 (.answer hi), ?_⟩
        intro j reply l he hl
        cases he
        rw [hi] at hl
        cases hl
        rfl
    | answered reply =>
        exact ⟨.store i, _, step?_eq_some_iff.2 (.store hi), fun _ _ _ he => by cases he⟩
    | done symbol => exact absurd ⟨symbol, rfl⟩ unfinished

theorem askedBy_append (i : Nat) (h₁ h₂ : List Moment) :
    askedBy i (h₁ ++ h₂) = askedBy i h₁ ++ askedBy i h₂ :=
  List.flatMap_append

theorem Step.lookup {s s' : Lookups} {e : Event} (step : Step s e s') (i : Nat) :
    (s'.lookups[i]? = s.lookups[i]? ∧ askedBy i [⟨s, e, s'⟩] = []) ∨
    ∃ token p p', s.lookups[i]? = some ⟨token, p⟩ ∧ s'.lookups[i]? = some ⟨token, p'⟩ ∧
      p' ≠ .waiting ∧ (askedBy i [⟨s, e, s'⟩] = [] ∨
        p = .waiting ∧ s.cache.get? token = none ∧ askedBy i [⟨s, e, s'⟩] = [token]) := by
  obtain ⟨token, p, p', before, after, started, asked⟩ := step.advances
  by_cases own : e.place = i
  · subst own
    have inside := (List.getElem?_eq_some_iff.1 before).1
    refine .inr ⟨token, p, p', before, ?_, started, ?_⟩
    · rw [after, List.getElem?_set_self inside]
    · rcases asked with same | ⟨waiting, absent, more⟩
      · exact .inl (by simp [askedBy, same])
      · exact .inr ⟨waiting, absent, by simp [askedBy, more]⟩
  · refine .inl ⟨?_, by simp [askedBy, own]⟩
    rw [after, List.getElem?_set_ne own]

theorem Runs.unstarted {s u : Lookups} {h : List Moment} {i : Nat} {token : Address} (run : Runs s h u)
    (hu : u.lookups[i]? = some ⟨token, .waiting⟩) : askedBy i h = [] := by
  induction run with
  | nil => rfl
  | snoc e _ hs ih =>
      rw [askedBy_append]
      rcases (step?_eq_some_iff.1 hs).lookup i with ⟨same, silent⟩ | ⟨_, _, p', _, after, started, _⟩
      · rw [ih (same ▸ hu), silent, List.append_nil]
      · rw [after] at hu
        cases hu
        exact absurd rfl started

theorem Runs.started {s u : Lookups} {h : List Moment} {i : Nat} {l : Lookup} (run : Runs s h u)
    (hs : s.lookups[i]? = some l) (started : l.progress ≠ .waiting) :
    askedBy i h = [] ∧ ∃ l', u.lookups[i]? = some l' ∧ l'.progress ≠ .waiting := by
  induction run with
  | nil => exact ⟨rfl, l, hs, started⟩
  | snoc e _ hs ih =>
      obtain ⟨none, l', before, going⟩ := ih
      rw [askedBy_append, none, List.nil_append]
      rcases (step?_eq_some_iff.1 hs).lookup i with
        ⟨same, silent⟩ | ⟨token, p, p', before', after, started', asked⟩
      · exact ⟨silent, l', same ▸ before, going⟩
      · rw [before, Option.some.injEq] at before'
        subst before'
        rcases asked with silent | ⟨waiting, -, -⟩
        · exact ⟨silent, _, after, started'⟩
        · exact absurd waiting going

theorem Runs.asks_once {s u : Lookups} {h : List Moment} (run : Runs s h u) (i : Nat) :
    askedBy i h = [] ∨ ∃ token p, u.lookups[i]? = some ⟨token, p⟩ ∧ askedBy i h = [token] := by
  induction run with
  | nil => exact .inl rfl
  | snoc e run hs ih =>
      rw [askedBy_append]
      rcases (step?_eq_some_iff.1 hs).lookup i with
        ⟨same, silent⟩ | ⟨token, p, p', before, after, started, asked⟩
      · rw [silent, List.append_nil, same]
        exact ih
      · rcases asked with silent | ⟨rfl, -, asked⟩
        · rw [silent, List.append_nil]
          refine ih.imp_right fun ⟨b, q, hl, earlier⟩ => ⟨token, p', after, ?_⟩
          rw [before] at hl
          cases hl
          exact earlier
        · rw [Runs.unstarted run before, asked, List.nil_append]
          exact .inr ⟨token, p', after, rfl⟩

/-- A cached symbol may be replaced but is never lost. -/
theorem Step.cached {s s' : Lookups} {e : Event} {token : Address} (step : Step s e s')
    (hc : (s.cache.get? token).isSome = true) : (s'.cache.get? token).isSome = true := by
  cases step with
  | known | ask | answer => exact hc
  | store =>
      rw [get?_store]
      split
      · simp [hc]
      · exact hc

theorem Runs.cached {s u : Lookups} {h : List Moment} {token : Address} (run : Runs s h u)
    (hc : (s.cache.get? token).isSome = true) : (u.cache.get? token).isSome = true :=
  run.invariant (fun v => (v.cache.get? token).isSome = true) hc fun _ _ hs before =>
    (step?_eq_some_iff.1 hs).cached before

theorem Step.unstarted {s s' : Lookups} {i : Nat} (step : Step s (.look i) s') :
    ∃ token, s.lookups[i]? = some ⟨token, .waiting⟩ := by
  cases step with
  | known hl _ => exact ⟨_, hl⟩
  | ask hl _ => exact ⟨_, hl⟩

theorem Runs.asks_nothing {s u : Lookups} {i : Nat} {token : Address} {h₁ h₂ : List Moment} {v v' : Lookups}
    (run : Runs s (h₁ ++ ⟨v, .look i, v'⟩ :: h₂) u) (hl : ∀ l, v.lookups[i]? = some l → l.token = token)
    (hc : (v.cache.get? token).isSome = true) :
    askedBy i (h₁ ++ ⟨v, .look i, v'⟩ :: h₂) = [] := by
  obtain ⟨before, now, behind⟩ := Machine.Runs.split run rfl
  have step : Step v (.look i) v' := step?_eq_some_iff.1 now
  obtain ⟨b, waiting⟩ := step.unstarted
  obtain rfl : b = token := hl _ waiting
  obtain ⟨b', p, p', hv, after, started, asked⟩ := step.advances
  have silent : askedBy i [⟨v, .look i, v'⟩] = [] := by
    rw [Event.place, waiting] at hv
    cases hv
    rcases asked with same | ⟨-, absent, -⟩
    · simp [askedBy, same]
    · simp [absent] at hc
  have next : v'.lookups[i]? = some ⟨b', p'⟩ := by
    rw [after]
    exact List.getElem?_set_self (List.getElem?_eq_some_iff.1 waiting).1
  have later : askedBy i h₂ = [] := (Runs.started behind next started).1
  rw [List.append_cons, askedBy_append, askedBy_append, Runs.unstarted before waiting, silent, later]
  rfl

theorem Step.inserts {s s' : Lookups} {e : Event} {token : Address} (step : Step s e s')
    (inserts : Inserts token ⟨s, e, s'⟩) : (s'.cache.get? token).isSome = true := by
  obtain ⟨i, reply, symbol, rfl, hl, answer⟩ := inserts
  cases step with
  | @store _ b reply' hl' =>
      rw [hl] at hl'
      cases hl'
      rw [get?_store, if_pos rfl, answer]
      rfl

theorem Sound.symbols_eq {d : Directory} {ask : Address → Except NodeError String} {s : Lookups}
    (h : Sound d ask s) (complete : Complete s) :
    s.symbols = s.queried.map fun token => some (shown d ask .empty token) := by
  rw [Lookups.queried, List.map_map]
  refine List.map_congr_left fun l hl => ?_
  obtain ⟨token, p⟩ := l
  obtain ⟨symbol, done⟩ := complete _ hl
  obtain rfl : p = .done symbol := done
  exact congrArg some (h.lookup _ hl).1

theorem Sound.get?_of_mem {d : Directory} {ask : Address → Except NodeError String} {s : Lookups}
    (h : Sound d ask s) (complete : Complete s) {token : Address} {symbol : String}
    (looked : token ∈ s.queried) (unfixed : d.fixed? token = none)
    (answer : symbolOf (ask token) = .ok symbol) : s.cache.get? token = some symbol := by
  obtain ⟨⟨b, p⟩, hl, rfl⟩ := List.mem_map.1 looked
  obtain ⟨symbol', done⟩ := complete _ hl
  obtain rfl : p = .done symbol' := done
  have stored := (h.lookup _ hl).2 unfixed
  rw [answer] at stored
  exact stored

theorem Runs.held {d : Directory} {ask : Address → Except NodeError String} {tokens : List Address}
    {s : Lookups} {h : List Moment} (run : Runs (start d .empty tokens) h s)
    (answered : ∀ m ∈ h, AnsweredBy ask m) {token : Address} {symbol : String}
    (hc : s.cache.get? token = some symbol) :
    token ∈ tokens ∧ d.fixed? token = none ∧ symbolOf (ask token) = .ok symbol := by
  have sound : Sound d ask s := (sound_start Cache.genuine_empty tokens).runs run answered
  refine ⟨?_, sound.genuine.answered token symbol hc⟩
  rcases Runs.looked run hc with before | mem
  · simp [start] at before
  · rwa [queried_start] at mem

/-- In the end the cache holds exactly the symbols that were answered. -/
theorem Runs.get?_iff {d : Directory} {ask : Address → Except NodeError String} {tokens : List Address}
    {s : Lookups} {h : List Moment} (run : Runs (start d .empty tokens) h s)
    (answered : ∀ m ∈ h, AnsweredBy ask m) (complete : Complete s) {token : Address} {symbol : String} :
    s.cache.get? token = some symbol ↔
      token ∈ tokens ∧ d.fixed? token = none ∧ symbolOf (ask token) = .ok symbol := by
  have sound : Sound d ask s := (sound_start Cache.genuine_empty tokens).runs run answered
  refine ⟨Runs.held run answered, fun ⟨mem, unfixed, answer⟩ => ?_⟩
  refine sound.get?_of_mem complete ?_ unfixed answer
  rwa [Runs.queried run, queried_start]

/-- Lookups over an empty cache, in any interleaving, with one answer of the node for each token. They
take at most three steps each, and can go on until they are `Complete`. Then each gives the symbol that
`resolve` gives for its token alone, and the cache holds exactly the symbols that were answered, so
neither depends on the order. No lookup asks more than once, and none that starts after its token was
cached. -/
theorem symbols_cache_eq_resolve {d : Directory} {ask : Address → Except NodeError String}
    {tokens : List Address} {s : Lookups} {h : List Moment} (run : Runs (start d .empty tokens) h s)
    (answered : ∀ m ∈ h, AnsweredBy ask m) :
    h.length ≤ 3 * tokens.length ∧
    (Complete s ∨ ∃ e s', s.step? e = some s' ∧ AnsweredBy ask ⟨s, e, s'⟩) ∧
    (∀ token symbol, s.cache.get? token = some symbol →
      token ∈ tokens ∧ token.isZero = false ∧ (∀ e ∈ d.known, e.1 ≠ token) ∧
        symbolOf (ask token) = .ok symbol) ∧
    (Complete s →
      s.symbols = tokens.map (fun token => some (resolve d ask .empty token).symbol) ∧
      (∀ token symbol, s.cache.get? token = some symbol ↔
        token ∈ tokens ∧ token.isZero = false ∧ (∀ e ∈ d.known, e.1 ≠ token) ∧
          symbolOf (ask token) = .ok symbol) ∧
      ∀ h' s', Runs (start d .empty tokens) h' s' → (∀ m ∈ h', AnsweredBy ask m) → Complete s' →
        s'.symbols = s.symbols ∧ ∀ token, s'.cache.get? token = s.cache.get? token) ∧
    (∀ i, askedBy i h = [] ∨ ∃ token, tokens[i]? = some token ∧ askedBy i h = [token]) ∧
    (∀ h₁ m h₂ i token, h = h₁ ++ m :: h₂ → m.event = .look i → tokens[i]? = some token →
      (∃ m' ∈ h₁, Inserts token m') → askedBy i h = []) := by
  have same : s.queried = tokens := (Runs.queried run).trans (queried_start d .empty tokens)
  have sound : Sound d ask s := (sound_start Cache.genuine_empty tokens).runs run answered
  have fixed (token : Address) (symbol : String) :
      (token ∈ tokens ∧ token.isZero = false ∧ (∀ e ∈ d.known, e.1 ≠ token) ∧
        symbolOf (ask token) = .ok symbol) ↔
      token ∈ tokens ∧ d.fixed? token = none ∧ symbolOf (ask token) = .ok symbol := by
    rw [Directory.fixed?_eq_none_iff, and_assoc]
  refine ⟨?steps, complete_or_step ask s, ?held, ?final, ?once, ?never⟩
  case steps =>
    have steps := Runs.length_le run
    rw [left_start] at steps
    omega
  case held =>
    intro token symbol hc
    rw [fixed]
    exact Runs.held run answered hc
  case final =>
    intro complete
    refine ⟨?_, fun token symbol => ?_, fun h' s' run' answered' complete' => ?_⟩
    · rw [sound.symbols_eq complete, same]
      rfl
    · rw [fixed, Runs.get?_iff run answered complete]
    · have same' : s'.queried = tokens := (Runs.queried run').trans (queried_start d .empty tokens)
      have sound' : Sound d ask s' := (sound_start Cache.genuine_empty tokens).runs run' answered'
      refine ⟨?_, fun token => Option.ext fun symbol => ?_⟩
      · rw [sound.symbols_eq complete, sound'.symbols_eq complete', same, same']
      · rw [Runs.get?_iff run answered complete, Runs.get?_iff run' answered' complete']
  case once =>
    intro i
    refine (Runs.asks_once run i).imp_right fun ⟨token, p, hl, asked⟩ => ⟨token, ?_, asked⟩
    rw [← same, Lookups.queried, List.getElem?_map, hl]
    rfl
  case never =>
    rintro h₁ ⟨v, e, v'⟩ h₂ i token rfl rfl hi ⟨m', hm', inserts⟩
    -- What was stored before the look is still there at the look.
    obtain ⟨before, -, -⟩ := Machine.Runs.split run rfl
    obtain ⟨g₁, g₂, rfl⟩ := List.append_of_mem hm'
    obtain ⟨-, now, between⟩ := Machine.Runs.split before rfl
    have cached := Runs.cached between ((step?_eq_some_iff.1 now).inserts inserts)
    refine Runs.asks_nothing run (fun l hl => ?_) cached
    rw [← queried_start d .empty tokens, ← Runs.queried before, Lookups.queried, List.getElem?_map,
      hl] at hi
    exact Option.some.inj hi

/-- Two lookups of one token ask side by side, a third one starts when the first answer is stored, and a
fourth one is of the native asset. -/
theorem symbols_cache_eq_resolve_four_lookups :
    ∃ d ask token h s, Runs (start d .empty [token, token, .zero, token]) h s ∧
      (∀ m ∈ h, AnsweredBy ask m) ∧ Complete s ∧
      s.symbols = [some "MKR", some "MKR", some "ETH", some "MKR"] ∧
      s.cache.get? token = some "MKR" ∧ askedBy 0 h = [token] ∧ askedBy 1 h = [token] ∧
      askedBy 3 h = [] := by
  let reply : Except NodeError String :=
    .ok "0x4d4b520000000000000000000000000000000000000000000000000000000000"
  let ask : Address → Except NodeError String := fun _ => reply
  let token : Address := .ofNat 3
  let events : List Event := [.look 0, .look 1, .look 2, .answer 1 reply, .store 1, .look 3,
    .answer 0 reply, .store 0]
  have answer : symbolOf reply = .ok "MKR" := rfl
  obtain ⟨h₁, m, h₂, s, hr, look, ⟨m', hm', stored⟩, ends, asked₀, asked₁⟩ :
      ∃ h₁ m h₂ s, Machine.replay? step?
        (start (.withNative "ETH") .empty [token, token, .zero, token]) events =
          some (h₁ ++ m :: h₂, s) ∧ m.event = .look 3 ∧
        (∃ m' ∈ h₁, m'.event = .store 1 ∧ m'.before.lookups[1]? = some ⟨token, .answered reply⟩) ∧
        s.lookups = [⟨token, .done "MKR"⟩, ⟨token, .done "MKR"⟩, ⟨.zero, .done "ETH"⟩,
          ⟨token, .done "MKR"⟩] ∧
        askedBy 0 (h₁ ++ m :: h₂) = [token] ∧ askedBy 1 (h₁ ++ m :: h₂) = [token] :=
    ⟨[_, _, _, _, _], _, [_, _], _, rfl, rfl,
      ⟨_, .tail _ (.tail _ (.tail _ (.tail _ (.head _)))), rfl, rfl⟩, rfl, rfl, rfl⟩
  have run := Machine.runs_of_replay? hr
  have answered : ∀ n ∈ h₁ ++ m :: h₂, AnsweredBy ask n := by
    intro n hn i r l he _
    have mem : n.event ∈ events := by
      rw [← Machine.map_event_of_replay? hr]
      exact List.mem_map_of_mem hn
    rw [he] at mem
    simp only [events, List.mem_cons, Event.answer.injEq, reduceCtorEq, false_or, or_false,
      List.not_mem_nil] at mem
    rcases mem with ⟨-, rfl⟩ | ⟨-, rfl⟩ <;> rfl
  have complete : Complete s := by simp [Complete, ends]
  obtain ⟨-, -, -, final, -, never⟩ := symbols_cache_eq_resolve run answered
  have cached : s.cache.get? token = some "MKR" :=
    ((final complete).2.1 token "MKR").2 ⟨.head _, by decide, by decide +kernel, answer⟩
  have symbols : s.symbols = [some "MKR", some "MKR", some "ETH", some "MKR"] := by
    simp [Lookups.symbols, ends]
  exact ⟨_, ask, token, _, s, run, answered, complete, symbols, cached, asked₀, asked₁,
    never h₁ m h₂ 3 token rfl look rfl ⟨m', hm', 1, reply, "MKR", stored.1, stored.2, answer⟩⟩

end Lookups

end Token

end WalletWatch
