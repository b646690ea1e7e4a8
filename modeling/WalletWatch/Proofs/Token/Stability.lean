import WalletWatch.Proofs.Token.Concurrency

/-!
# Replaced symbols

A lookup that asked before its token was cached does not look again, and its answer replaces the cached one.
Lookups that start later find the token in the cache and never ask. So a cached symbol can be replaced only
by the lookups that were `UnderWay` when it was stored, by each of them at most once, and when none of them
is left it never changes again.
-/

namespace WalletWatch

namespace Token

def Progress.isUnderWay : Progress → Bool
  | .asking | .answered _ => true
  | .waiting | .done _ => false

namespace Lookups

/-- The `i`-th lookup asked for the token and has not ended. -/
def UnderWay (s : Lookups) (token : Address) (i : Nat) : Prop :=
  ∃ p, s.lookups[i]? = some ⟨token, p⟩ ∧ p.isUnderWay = true

/-- In this moment the `i`-th lookup stores an answer with a symbol of the token. -/
def Stores (token : Address) (i : Nat) (symbol : String) (m : Moment) : Prop :=
  m.event = .store i ∧ ∃ reply, m.before.lookups[i]? = some ⟨token, .answered reply⟩ ∧
    symbolOf reply = .ok symbol

/-- The steps of a single lookup. -/
inductive Moves (s : Lookups) (token : Address) (i : Nat) : Event → Progress → Progress → Prop
  | known {symbol : String} : look s.directory s.cache token = .done symbol →
      Moves s token i (.look i) .waiting (.done symbol)
  | ask : look s.directory s.cache token = .asking → Moves s token i (.look i) .waiting .asking
  | answer {reply : Except NodeError String} : Moves s token i (.answer i reply) .asking (.answered reply)
  | store {reply : Except NodeError String} :
      Moves s token i (.store i) (.answered reply) (.done (read token reply))

theorem Step.moves {s s' : Lookups} {e : Event} (step : Step s e s') (i : Nat) :
    s'.lookups[i]? = s.lookups[i]? ∨
      ∃ token p p', s.lookups[i]? = some ⟨token, p⟩ ∧ s'.lookups[i]? = some ⟨token, p'⟩ ∧
        Moves s token i e p p' := by
  obtain ⟨token, p, p', before, after, -⟩ := step.advances
  by_cases own : e.place = i
  · subst own
    have inside := (List.getElem?_eq_some_iff.1 before).1
    right
    cases step with
    | @known i token symbol hl done =>
        exact ⟨token, .waiting, .done symbol, hl, List.getElem?_set_self inside, .known done⟩
    | @ask i token hl asking =>
        exact ⟨token, .waiting, .asking, hl, List.getElem?_set_self inside, .ask asking⟩
    | @answer i token reply hl =>
        exact ⟨token, .asking, .answered reply, hl, List.getElem?_set_self inside, .answer⟩
    | @store i token reply hl =>
        exact ⟨token, .answered reply, .done (read token reply), hl, List.getElem?_set_self inside,
          .store⟩
  · left
    rw [after, List.getElem?_set_ne own]

theorem Step.directory {s s' : Lookups} {e : Event} (step : Step s e s') : s'.directory = s.directory := by
  cases step <;> rfl

theorem Step.underWay {s s' : Lookups} {e : Event} {token : Address} {i : Nat} (step : Step s e s')
    (under : s'.UnderWay token i) :
    s.UnderWay token i ∨ s.directory.fixed? token = none ∧ s.cache.get? token = none := by
  obtain ⟨p, after, asked⟩ := under
  rcases step.moves i with same | ⟨token', p₀, p', before, after', moves⟩
  · exact .inl ⟨p, same ▸ after, asked⟩
  · rw [after] at after'
    cases after'
    cases moves with
    | known => cases asked
    | ask asking => exact .inr (look_eq_asking_iff.1 asking)
    | answer => exact .inl ⟨.asking, before, rfl⟩
    | store => cases asked

/-- What the cache holds of a token it held before, or a lookup under way has just stored it. -/
theorem Step.replaced {s s' : Lookups} {e : Event} {token : Address} (step : Step s e s') {symbol : String}
    (hc : s'.cache.get? token = some symbol) :
    s.cache.get? token = some symbol ∨
      ∃ i, s.UnderWay token i ∧ Stores token i symbol ⟨s, e, s'⟩ := by
  cases step with
  | known | ask | answer => exact .inl hc
  | @store i b reply hl =>
      rw [get?_store] at hc
      split at hc
      · next same =>
          subst same
          cases answer : symbolOf reply with
          | error fault =>
              rw [answer] at hc
              exact .inl hc
          | ok symbol' =>
              rw [answer] at hc
              cases hc
              exact .inr ⟨i, ⟨_, hl, rfl⟩, rfl, reply, hl, answer⟩
      · exact .inl hc

/-- A token that is cached or asked for has no fixed symbol. -/
structure Unfixed (s : Lookups) : Prop where
  cached : ∀ token symbol, s.cache.get? token = some symbol → s.directory.fixed? token = none
  asked : ∀ token i, s.UnderWay token i → s.directory.fixed? token = none

theorem unfixed_start (d : Directory) (tokens : List Address) : Unfixed (start d .empty tokens) where
  cached _ _ h := by simp [start] at h
  asked token i h := by
    obtain ⟨p, hl, asked⟩ := h
    obtain ⟨token', -, same⟩ := List.mem_map.1 (List.mem_of_getElem? hl)
    cases same
    cases asked

theorem Unfixed.step {s s' : Lookups} {e : Event} (unfixed : Unfixed s) (step : Step s e s') :
    Unfixed s' where
  cached token symbol hc := by
    rw [step.directory]
    rcases step.replaced hc with same | ⟨i, under, -⟩
    · exact unfixed.cached token symbol same
    · exact unfixed.asked token i under
  asked token i under := by
    rw [step.directory]
    rcases step.underWay under with before | ⟨none, -⟩
    · exact unfixed.asked token i before
    · exact none

theorem Runs.unfixed {s u : Lookups} {h : List Moment} (run : Runs s h u) (unfixed : Unfixed s) :
    Unfixed u :=
  run.invariant Unfixed unfixed fun _ _ hs before => before.step (step?_eq_some_iff.1 hs)

theorem Runs.underWay {s u : Lookups} {h : List Moment} {token : Address} {i : Nat} (run : Runs s h u)
    (hc : (s.cache.get? token).isSome = true) (under : u.UnderWay token i) : s.UnderWay token i := by
  induction run with
  | nil => exact under
  | snoc e run hs ih =>
      rcases (step?_eq_some_iff.1 hs).underWay under with before | ⟨-, absent⟩
      · exact ih before
      · have cached := Runs.cached run hc
        rw [absent] at cached
        cases cached

theorem Runs.replaced {s u : Lookups} {h : List Moment} {token : Address} {symbol symbol' : String}
    (run : Runs s h u) (hc : s.cache.get? token = some symbol) (hc' : u.cache.get? token = some symbol') :
    symbol' = symbol ∨ ∃ i, s.UnderWay token i ∧ ∃ m ∈ h, Stores token i symbol' m := by
  have cached : (s.cache.get? token).isSome = true := by rw [hc]; rfl
  induction run with
  | nil => exact .inl (Option.some.inj (hc'.symm.trans hc))
  | @snoc h v v' e run hs ih =>
      rcases (step?_eq_some_iff.1 hs).replaced hc' with same | ⟨i, under, stores⟩
      · exact (ih same).imp_right fun ⟨i, under, m, hm, stores⟩ =>
          ⟨i, under, m, List.mem_append_left _ hm, stores⟩
      · exact .inr ⟨i, Runs.underWay run cached under, _, List.mem_append_right _ (.head _), stores⟩

theorem Runs.found {s u : Lookups} {h : List Moment} {token : Address} {i : Nat} (run : Runs s h u)
    (unfixed : Unfixed s) (hc : (s.cache.get? token).isSome = true)
    (hl : s.lookups[i]? = some ⟨token, .waiting⟩) :
    u.lookups[i]? = some ⟨token, .waiting⟩ ∨
      ∃ h₁ m h₂ symbol, h = h₁ ++ m :: h₂ ∧ m.event = .look i ∧
        m.before.cache.get? token = some symbol ∧ u.lookups[i]? = some ⟨token, .done symbol⟩ := by
  induction run with
  | nil => exact .inl hl
  | @snoc h v v' e run hs ih =>
      have step := step?_eq_some_iff.1 hs
      rcases ih with waiting | ⟨h₁, m, h₂, symbol, rfl, look, found, done⟩
      · rcases step.moves i with same | ⟨token', p, p', before, after, moves⟩
        · exact .inl (same.trans waiting)
        · rw [waiting] at before
          cases before
          obtain ⟨symbol, cached⟩ := Option.isSome_iff_exists.1 (Runs.cached run hc)
          have none : v.directory.fixed? token = none :=
            (Runs.unfixed run unfixed).cached token symbol cached
          cases moves with
          | known done =>
              rw [look_eq_done_iff, none, Option.none_or] at done
              exact .inr ⟨h, _, [], _, rfl, rfl, done, after⟩
          | ask asking =>
              rw [(look_eq_asking_iff.1 asking).2] at cached
              cases cached
      · refine .inr ⟨h₁, m, h₂ ++ [⟨v, e, v'⟩], symbol, by simp, look, found, ?_⟩
        rcases step.moves i with same | ⟨token', p, p', before, -, moves⟩
        · exact same.trans done
        · rw [done] at before
          cases before
          cases moves

/-- A lookup under way shows its own answer, whatever is cached by then. -/
theorem Runs.own_answer {s u : Lookups} {h : List Moment} {token : Address} {i : Nat} {p : Progress}
    (run : Runs s h u) (hl : s.lookups[i]? = some ⟨token, p⟩) (under : p.isUnderWay = true) :
    u.lookups[i]? = some ⟨token, p⟩ ∨
      ∃ reply, (p = .answered reply ∨ ∃ m ∈ h, m.event = .answer i reply) ∧
        (u.lookups[i]? = some ⟨token, .answered reply⟩ ∨
          u.lookups[i]? = some ⟨token, .done (read token reply)⟩) := by
  induction run with
  | nil => exact .inl hl
  | @snoc h v v' e run hs ih =>
      have step := step?_eq_some_iff.1 hs
      have longer {reply : Except NodeError String} :
          (p = .answered reply ∨ ∃ m ∈ h, m.event = .answer i reply) →
            p = .answered reply ∨ ∃ m ∈ h ++ [⟨v, e, v'⟩], m.event = .answer i reply :=
        Or.imp_right fun ⟨m, hm, answer⟩ => ⟨m, List.mem_append_left _ hm, answer⟩
      rcases step.moves i with same | ⟨token', q, q', before, after, moves⟩
      · rw [same]
        exact ih.imp_right fun ⟨reply, came, stage⟩ => ⟨reply, longer came, stage⟩
      · right
        rcases ih with as_before | ⟨reply, came, answered | done⟩
        · rw [as_before] at before
          cases before
          cases moves with
          | known | ask => cases under
          | @answer reply =>
              exact ⟨reply, .inr ⟨_, List.mem_append_right _ (.head _), rfl⟩, .inl after⟩
          | @store reply => exact ⟨reply, .inl rfl, .inr after⟩
        · rw [answered] at before
          cases before
          cases moves with
          | store => exact ⟨reply, longer came, .inr after⟩
        · rw [done] at before
          cases before
          cases moves

theorem Runs.token_eq {s u : Lookups} {h : List Moment} {i : Nat} {l l' : Lookup} (run : Runs s h u)
    (hs : s.lookups[i]? = some l) (hu : u.lookups[i]? = some l') : l'.token = l.token := by
  have same : u.queried[i]? = s.queried[i]? := by rw [Runs.queried run]
  rw [Lookups.queried, Lookups.queried, List.getElem?_map, List.getElem?_map, hs, hu] at same
  exact Option.some.inj same

/-- With any answers of the node and any interleaving of the lookups, a token that is cached stays
cached. Its symbol changes only to the answer of a lookup of the token that was `UnderWay`.

A lookup that starts when the token is cached asks nothing and gives the cached symbol, and one that was
under way gives its own answer. So while none is under way, the cached symbol does not change, and every
later lookup gives it. -/
theorem get?_cache_eq_or_underWay {d : Directory} {tokens : List Address} {s u : Lookups}
    {token : Address} {h₁ h₂ : List Moment} {symbol : String} (before : Runs (start d .empty tokens) h₁ s)
    (held : s.cache.get? token = some symbol) (run : Runs s h₂ u) :
    (∃ symbol', u.cache.get? token = some symbol' ∧
      (symbol' = symbol ∨ ∃ i, s.UnderWay token i ∧ ∃ m ∈ h₂, Stores token i symbol' m)) ∧
    (∀ (i : Nat) (symbol' : String), s.lookups[i]? = some ⟨token, .waiting⟩ →
      u.lookups[i]? = some ⟨token, .done symbol'⟩ →
      askedBy i h₂ = [] ∧ ∃ m ∈ h₂, m.event = .look i ∧ m.before.cache.get? token = some symbol') ∧
    (∀ (i : Nat) (p : Progress) (symbol' : String), s.lookups[i]? = some ⟨token, p⟩ →
      p.isUnderWay = true → u.lookups[i]? = some ⟨token, .done symbol'⟩ →
      ∃ reply, symbol' = read token reply ∧
        (p = .answered reply ∨ ∃ m ∈ h₂, m.event = .answer i reply)) ∧
    ((∀ i, ¬s.UnderWay token i) → u.cache.get? token = some symbol ∧
      ∀ (i : Nat) (symbol' : String), s.lookups[i]? = some ⟨token, .waiting⟩ →
        u.lookups[i]? = some ⟨token, .done symbol'⟩ → symbol' = symbol) := by
  have unfixed : Unfixed s := Runs.unfixed before (unfixed_start d tokens)
  have cached : (s.cache.get? token).isSome = true := by rw [held]; rfl
  have looked {i : Nat} {symbol' : String} (waiting : s.lookups[i]? = some ⟨token, .waiting⟩)
      (done : u.lookups[i]? = some ⟨token, .done symbol'⟩) :
      ∃ g₁ m g₂, h₂ = g₁ ++ m :: g₂ ∧ m.event = .look i ∧ m.before.cache.get? token = some symbol' := by
    rcases Runs.found run unfixed cached waiting with still | ⟨g₁, m, g₂, found, hh, look, hc, done'⟩
    · rw [done] at still
      cases still
    · rw [done] at done'
      cases done'
      exact ⟨g₁, m, g₂, hh, look, hc⟩
  refine ⟨?cache, ?later, ?underWay, ?stable⟩
  case cache =>
    obtain ⟨symbol', hc⟩ := Option.isSome_iff_exists.1 (Runs.cached run cached)
    exact ⟨symbol', hc, Runs.replaced run held hc⟩
  case later =>
    intro i symbol' waiting done
    obtain ⟨g₁, ⟨v, e, v'⟩, g₂, rfl, rfl, found⟩ := looked waiting done
    have first := (Machine.Runs.split run rfl).1
    refine ⟨Runs.asks_nothing run (fun l hl => Runs.token_eq first waiting hl) ?_, _,
      List.mem_append_right _ (.head _), rfl, found⟩
    rw [found]
    rfl
  case underWay =>
    intro i p symbol' hl under done
    rcases Runs.own_answer run hl under with still | ⟨reply, came, answered | done'⟩
    · rw [done] at still
      cases still
      cases under
    · rw [done] at answered
      cases answered
    · rw [done] at done'
      cases done'
      exact ⟨reply, rfl, came⟩
  case stable =>
    intro quiet
    -- Only a lookup that was under way already could have stored another symbol.
    have same {h : List Moment} {v : Lookups} {symbol' : String} (run : Runs s h v)
        (hc : v.cache.get? token = some symbol') : symbol' = symbol :=
      (Runs.replaced run held hc).resolve_right fun ⟨i, under, _⟩ => quiet i under
    refine ⟨?_, fun i symbol' waiting done => ?_⟩
    · obtain ⟨symbol', hc⟩ := Option.isSome_iff_exists.1 (Runs.cached run cached)
      rw [hc, same run hc]
    · obtain ⟨g₁, m, g₂, hh, -, found⟩ := looked waiting done
      exact same (Machine.Runs.split run hh).1 found

def maker : Except NodeError String :=
  .ok "0x4d4b520000000000000000000000000000000000000000000000000000000000"

def dai : Except NodeError String :=
  .ok "0x4441490000000000000000000000000000000000000000000000000000000000"

/-- Of four lookups of one token the first two ask side by side. The third one starts when the first has
stored `MKR`, the second one stores `DAI`, and then the fourth one starts. -/
theorem get?_cache_eq_or_underWay_four_lookups :
    ∃ (d : Directory) (token : Address) (h₁ h₂ h₃ : List Moment) (s u v : Lookups),
      Runs (start d .empty [token, token, token, token]) h₁ s ∧ Runs s h₂ u ∧ Runs u h₃ v ∧
      s.cache.get? token = some "MKR" ∧ u.cache.get? token = some "DAI" ∧
      (∃ i, s.UnderWay token i ∧ ∃ m ∈ h₂, Stores token i "DAI" m) ∧
      askedBy 2 h₂ = [] ∧ (∃ m ∈ h₂, m.event = .look 2 ∧ m.before.cache.get? token = some "MKR") ∧
      v.cache.get? token = some "DAI" ∧ v.symbols = [some "MKR", some "DAI", some "MKR", some "DAI"] := by
  let token : Address := .ofNat 3
  obtain ⟨h₁, s, h₂, u, h₃, v, hr₁, hr₂, hr₃, held, waiting, replaced, stages, symbols⟩ :
      ∃ h₁ s h₂ u h₃ v,
        Machine.replay? step? (start (.withNative "ETH") .empty [token, token, token, token])
          [.look 0, .look 1, .answer 0 maker, .store 0] = some (h₁, s) ∧
        Machine.replay? step? s [.look 2, .answer 1 dai, .store 1] = some (h₂, u) ∧
        Machine.replay? step? u [.look 3] = some (h₃, v) ∧
        s.cache.get? token = some "MKR" ∧ s.lookups[2]? = some ⟨token, .waiting⟩ ∧
        u.cache.get? token = some "DAI" ∧
        u.lookups =
          [⟨token, .done "MKR"⟩, ⟨token, .done "DAI"⟩, ⟨token, .done "MKR"⟩, ⟨token, .waiting⟩] ∧
        v.symbols = [some "MKR", some "DAI", some "MKR", some "DAI"] :=
    ⟨_, _, _, _, _, _, rfl, rfl, rfl, rfl, rfl, rfl, rfl, rfl⟩
  have run₁ : Runs _ h₁ s := Machine.runs_of_replay? hr₁
  have run₂ : Runs s h₂ u := Machine.runs_of_replay? hr₂
  have run₃ : Runs u h₃ v := Machine.runs_of_replay? hr₃
  obtain ⟨⟨symbol, now, origin⟩, later, -, -⟩ := get?_cache_eq_or_underWay run₁ held run₂
  obtain rfl : symbol = "DAI" := Option.some.inj (now.symm.trans replaced)
  obtain ⟨silent, found⟩ := later 2 "MKR" waiting (by rw [stages]; rfl)
  have quiet (i : Nat) : ¬u.UnderWay token i := by
    rintro ⟨p, hl, under⟩
    have mem := List.mem_of_getElem? hl
    rw [stages] at mem
    simp only [List.mem_cons, Lookup.mk.injEq, true_and, List.not_mem_nil, or_false] at mem
    rcases mem with rfl | rfl | rfl | rfl <;> cases under
  obtain ⟨-, -, -, stable⟩ := get?_cache_eq_or_underWay (run₁.trans run₂) replaced run₃
  exact ⟨_, token, h₁, h₂, h₃, s, u, v, run₁, run₂, run₃, held, replaced, origin.resolve_left (by decide),
    silent, found, (stable quiet).1, symbols⟩

/-- Two lookups of one token ask side by side and are answered differently. The later answer replaces the
cached symbol. -/
theorem exists_get?_cache_ne :
    ∃ (d : Directory) (token : Address) (h₁ h₂ : List Moment) (s u : Lookups),
      Runs (start d .empty [token, token]) h₁ s ∧ s.cache.get? token = some "MKR" ∧
      s.lookups[1]? = some ⟨token, .asking⟩ ∧ Runs s h₂ u ∧ u.cache.get? token = some "DAI" ∧
      u.lookups[1]? = some ⟨token, .done "DAI"⟩ := by
  let token : Address := .ofNat 3
  obtain ⟨h₁, s, h₂, u, hr₁, hr₂, held, asking, replaced, done⟩ : ∃ h₁ s h₂ u,
      Machine.replay? step? (start (.withNative "ETH") .empty [token, token])
        [.look 0, .look 1, .answer 0 maker, .store 0] = some (h₁, s) ∧
      Machine.replay? step? s [.answer 1 dai, .store 1] = some (h₂, u) ∧
      s.cache.get? token = some "MKR" ∧ s.lookups[1]? = some ⟨token, .asking⟩ ∧
      u.cache.get? token = some "DAI" ∧ u.lookups[1]? = some ⟨token, .done "DAI"⟩ :=
    ⟨_, _, _, _, rfl, rfl, rfl, rfl, rfl, rfl⟩
  exact ⟨_, token, h₁, h₂, s, u, Machine.runs_of_replay? hr₁, held, asking, Machine.runs_of_replay? hr₂,
    replaced, done⟩

end Lookups

end Token

end WalletWatch
