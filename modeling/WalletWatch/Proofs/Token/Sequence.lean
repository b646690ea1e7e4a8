import WalletWatch.Chain.Node
import WalletWatch.Proofs.Machine
import WalletWatch.Proofs.Token.Resolution
import WalletWatch.Proofs.Token.Symbol

/-!
# Lookups one after the other

The node may answer each of the lookups differently. A token is asked until it answers with a symbol and
never again, and an answer without one changes nothing but the number of calls. So the history of the
answers gives the cache, and the number of calls of each token.
-/

namespace WalletWatch

theorem AddressMap.size_insert {α : Type} {m : AddressMap α} {a : Address} (absent : m.get? a = none)
    (x : α) : (m.insert a x).size = m.size + 1 := by
  have kept : (m.erase a).entries = m.entries := by
    refine List.filter_eq_self.2 fun e he => decide_eq_true fun same => ?_
    have found := mem_entries_iff.1 (show (e.1, e.2) ∈ m.entries from he)
    rw [same, absent] at found
    cases found
  rw [size, insert, List.length_cons, kept, size]

namespace Token

/-- A lookup of a token, and the node at that time. -/
structure Question where
  node : Node
  token : Address

def Question.reply (q : Question) : Except NodeError String :=
  q.node.call q.token symbolCall

theorem fallback_front (token : Address) :
    ∃ rest, token.text.toList = (fallback token).toList ++ rest ∧
      Text.utf8Length (fallback token).toList = 8 := by
  have front : (fallback token).toList = '0' :: 'x' :: (Hex.digits 40 token.toNat).take 6 := by
    rw [fallback, Address.text, String.toList_ofList, String.toList_ofList, List.take_succ_cons,
      List.take_succ_cons]
  have digits : ∀ c ∈ (Hex.digits 40 token.toNat).take 6, Hex.isDigit c = true := fun c hc =>
    Hex.isDigit_of_mem_digits (List.mem_of_mem_take hc)
  have marker : 'x'.utf8Size = 1 ∧ '0'.utf8Size = 1 := by decide
  refine ⟨(Hex.digits 40 token.toNat).drop 6, ?_, ?_⟩
  · rw [front, Address.text, String.toList_ofList, List.cons_append, List.cons_append,
      List.take_append_drop]
  · rw [front, Text.utf8Length, Text.utf8Length, Hex.utf8Length_of_isDigit digits, List.length_take,
      Hex.length_digits, marker.1, marker.2]
    rfl

end Token

namespace Session

open Token

def shownTo (s : Session) (d : Directory) (q : Question) : String :=
  (s.resolve d q.node q.token).1

/-- The session after a lookup, which is always possible. -/
def lookUp? (d : Directory) (s : Session) (q : Question) : Option Session :=
  some (s.resolve d q.node q.token).2

abbrev Moment := Machine.Moment Session Question

abbrev Runs (d : Directory) := Machine.Runs (lookUp? d)

/-- The token was called in this moment. -/
def Asks (m : Moment) : Prop :=
  m.after.calls = m.before.calls ++ [m.event.token]

instance (m : Moment) : Decidable (Asks m) :=
  inferInstanceAs (Decidable (_ = _))

/-- The symbol that the token answered in this moment, if it was asked. -/
def answered? (token : Address) (m : Moment) : Option String :=
  if m.event.token = token ∧ Asks m then (symbolOf m.event.reply).toOption else none

/-- The token was called in this moment without success. -/
def Fails (token : Address) (m : Moment) : Prop :=
  m.event.token = token ∧ Asks m ∧ answered? token m = none

instance (token : Address) : DecidablePred (Fails token) := fun _ =>
  inferInstanceAs (Decidable (_ ∧ _ ∧ _))

/-! ## One lookup -/

/-- A lookup finds the symbol, or asks for it. -/
inductive Step (d : Directory) (m : Moment) : Prop
  | known {symbol : String} :
      (d.fixed? m.event.token).or (m.before.cache.get? m.event.token) = some symbol →
      m.before.shownTo d m.event = symbol → m.after.cache = m.before.cache →
      m.after.calls = m.before.calls → Step d m
  | asks : d.fixed? m.event.token = none → m.before.cache.get? m.event.token = none →
      m.before.shownTo d m.event = Token.read m.event.token m.event.reply →
      m.after.cache = (store m.before.cache m.event.token m.event.reply).1 →
      m.after.calls = m.before.calls ++ [m.event.token] → Step d m

theorem step_of_lookUp? {d : Directory} {m : Moment} (h : lookUp? d m.before m.event = some m.after) :
    Step d m := by
  obtain ⟨before, q, after⟩ := m
  obtain rfl : (before.resolve d q.node q.token).2 = after := Option.some.inj h
  rcases look_cases d before.cache q.token with asking | ⟨symbol, done⟩
  · obtain ⟨fixed, absent⟩ := look_eq_asking_iff.1 asking
    refine .asks fixed absent ?_ ?_ ?_
    all_goals simp only [shownTo, Session.resolve, Token.resolve, asking, if_true]
    · exact store_symbol before.cache q.token q.reply
    · rfl
  · refine .known (look_eq_done_iff.1 done) ?_ ?_ ?_
    all_goals simp [shownTo, Session.resolve, Token.resolve, done]

theorem Step.asks_iff {d : Directory} {m : Moment} (step : Step d m) :
    Asks m ↔ d.fixed? m.event.token = none ∧ m.before.cache.get? m.event.token = none := by
  rw [← Option.or_eq_none_iff]
  cases step with
  | known found _ _ calls => simp [Asks, found, calls]
  | asks fixed absent _ _ calls => simp [Asks, fixed, absent, calls]

theorem Step.calls_of_not_asks {d : Directory} {m : Moment} (step : Step d m) (h : ¬Asks m) :
    m.after.calls = m.before.calls := by
  cases step with
  | known _ _ _ calls => exact calls
  | asks _ _ _ _ calls => exact absurd calls h

theorem Step.get? {d : Directory} {m : Moment} (step : Step d m) (token : Address) :
    m.after.cache.get? token = (m.before.cache.get? token).or (answered? token m) := by
  cases step with
  | known found _ cache calls =>
      have quiet : ¬Asks m := by simp [Asks, calls]
      rw [cache, answered?, if_neg (mt And.right quiet), Option.or_none]
  | asks _ absent _ cache calls =>
      rw [cache, get?_store]
      by_cases own : token = m.event.token
      · subst own
        rw [if_pos rfl, absent, answered?, if_pos ⟨rfl, calls⟩, Option.or_none, Option.none_or]
      · rw [if_neg own, answered?, if_neg fun h => own h.1.symm, Option.or_none]

theorem Step.shownTo_eq {d : Directory} {m : Moment} (step : Step d m) :
    m.before.shownTo d m.event =
      ((d.fixed? m.event.token).or (m.after.cache.get? m.event.token)).getD
        (fallback m.event.token) := by
  cases step with
  | known found shown cache => rw [shown, cache, found, Option.getD_some]
  | asks fixed absent shown cache =>
      rw [shown, cache, get?_store, if_pos rfl, fixed, absent, Option.or_none, Option.none_or, Token.read]
      cases symbolOf m.event.reply <;> rfl

theorem Step.of_fails {d : Directory} {m : Moment} (step : Step d m) (h : Fails m.event.token m) :
    m.after.cache = m.before.cache ∧ m.before.shownTo d m.event = fallback m.event.token := by
  obtain ⟨-, asks, failed⟩ := h
  rw [answered?, if_pos ⟨rfl, asks⟩] at failed
  cases step with
  | known _ _ _ calls => exact absurd (asks.symm.trans calls) (by simp)
  | asks _ _ shown cache =>
      rw [shown, cache, store, Token.read]
      cases answer : symbolOf m.event.reply with
      | error e => exact ⟨rfl, rfl⟩
      | ok symbol =>
          rw [answer] at failed
          cases failed

/-- The calls of a token are its failed ones, and one more if its symbol is cached. -/
def Balanced (token : Address) (s : Session) (failures : Nat) : Prop :=
  s.calls.count token = failures + if (s.cache.get? token).isSome then 1 else 0

theorem Step.balanced {d : Directory} {token : Address} {m : Moment} (step : Step d m) {failures : Nat}
    (h : Balanced token m.before failures) :
    Balanced token m.after (failures + if Fails token m then 1 else 0) := by
  have cached := step.get? token
  unfold Balanced at *
  by_cases asks : Asks m
  · obtain ⟨-, absent⟩ := step.asks_iff.1 asks
    have calls : m.after.calls = m.before.calls ++ [m.event.token] := asks
    rw [calls, List.count_append, h, cached]
    by_cases own : m.event.token = token
    · subst own
      cases answer : answered? m.event.token m <;> simp [Fails, asks, answer, absent]
    · simp [Fails, answered?, own]
  · simp [step.calls_of_not_asks asks, h, cached, Fails, answered?, asks]

theorem Step.size {d : Directory} {m : Moment} (step : Step d m) :
    m.after.cache.size =
      m.before.cache.size + if (answered? m.event.token m).isSome then 1 else 0 := by
  cases step with
  | known _ _ cache calls =>
      have quiet : ¬Asks m := by simp [Asks, calls]
      simp [cache, answered?, quiet]
  | asks _ absent _ cache calls =>
      have answer : answered? m.event.token m = (symbolOf m.event.reply).toOption := if_pos ⟨rfl, calls⟩
      rw [cache, store, answer]
      cases symbolOf m.event.reply with
      | error e => rfl
      | ok symbol => exact AddressMap.size_insert absent symbol

/-! ## Many lookups -/

namespace Runs

theorem step {d : Directory} {s u : Session} {m : Moment} {h : List Moment} (run : Runs d s h u)
    (hm : m ∈ h) : Step d m := by
  obtain ⟨h₁, h₂, hh⟩ := List.append_of_mem hm
  exact step_of_lookUp? (Machine.Runs.split run hh).2.1

theorem get? {d : Directory} {s u : Session} {h : List Moment} (run : Runs d s h u) (token : Address) :
    u.cache.get? token = (s.cache.get? token).or (h.findSome? (answered? token)) := by
  induction run with
  | nil => rw [List.findSome?_nil, Option.or_none]
  | snoc q _ hs ih =>
      have last := (step_of_lookUp? (m := ⟨_, q, _⟩) hs).get? token
      simp only [] at last
      rw [last, ih, List.findSome?_append, Option.or_assoc, List.findSome?_singleton]

theorem balanced {d : Directory} {u : Session} {h : List Moment} (run : Runs d .start h u)
    (token : Address) : Balanced token u (h.countP (Fails token)) := by
  induction run with
  | nil => rfl
  | snoc q _ hs ih =>
      have last := (step_of_lookUp? (m := ⟨_, q, _⟩) hs).balanced ih
      simpa [List.countP_append, List.countP_singleton] using last

theorem size {d : Directory} {s u : Session} {h : List Moment} (run : Runs d s h u) :
    u.cache.size = s.cache.size + h.countP fun m => (answered? m.event.token m).isSome := by
  induction run with
  | nil => rfl
  | snoc q _ hs ih =>
      have last := (step_of_lookUp? (m := ⟨_, q, _⟩) hs).size
      simp only [] at last
      rw [last, ih, List.countP_append, List.countP_singleton, Nat.add_assoc]

theorem shownTo_eq {d : Directory} {u : Session} {m : Moment} {h : List Moment} {h₁ h₂ : List Moment}
    (run : Runs d .start h u) (hh : h = h₁ ++ m :: h₂) :
    m.before.shownTo d m.event =
      ((d.fixed? m.event.token).or ((h₁ ++ [m]).findSome? (answered? m.event.token))).getD
        (fallback m.event.token) := by
  obtain ⟨first, now, -⟩ := Machine.Runs.split run hh
  have upTo : Runs d .start (h₁ ++ [m]) m.after := first.snoc m.event now
  rw [(step_of_lookUp? now).shownTo_eq, upTo.get? m.event.token]
  rfl

theorem not_asks {d : Directory} {s u : Session} {token : Address} {m : Moment} {h : List Moment}
    {h₁ h₂ : List Moment} {m' : Moment} (run : Runs d s h u) (hh : h = h₁ ++ m :: h₂)
    (answered : (answered? token m).isSome) (hm' : m' ∈ h₂) (own : m'.event.token = token) :
    ¬Asks m' := by
  obtain ⟨-, now, later⟩ := Machine.Runs.split run hh
  obtain ⟨between, rest, rfl⟩ := List.append_of_mem hm'
  obtain ⟨until', then', -⟩ := Machine.Runs.split later rfl
  have cached := (step_of_lookUp? now).get? token
  have kept := Runs.get? until' token
  intro asks
  have absent := ((step_of_lookUp? then').asks_iff.1 asks).2
  rw [own, kept, cached] at absent
  obtain ⟨symbol, answer⟩ := Option.isSome_iff_exists.1 answered
  simp [answer] at absent

end Runs

theorem answered?_eq_some_iff {token : Address} {m : Moment} {symbol : String} :
    answered? token m = some symbol ↔ m.event.token = token ∧ Asks m ∧
      ∃ data, m.event.reply = .ok data ∧ decodeSymbol data = .ok symbol := by
  have answer : (symbolOf m.event.reply).toOption = some symbol ↔
      ∃ data, m.event.reply = .ok data ∧ decodeSymbol data = .ok symbol := by
    unfold symbolOf
    cases m.event.reply with
    | error e => simp [Except.toOption]
    | ok data => cases read : decodeSymbol data <;> simp [Except.toOption, read]
  rw [answered?, ← and_assoc, ← answer]
  split
  · next asked => simp [asked]
  · next silent => simp [silent]

/-- In a run of lookups with any answers, a lookup `Asks` exactly if its token has neither a fixed symbol
nor a cached one. The cache holds for each token the first symbol that was `answered?`. A lookup that
`Fails` leaves the cache and shows the `fallback`, the first eight bytes of the address. So a token is
called at most once more than it fails, and never after it was answered. What a lookup shows is the
native symbol, a known one, an answered one that is not blank, or the fallback. -/
theorem asks_iff_get?_cache_eq_none {d : Directory} {u : Session} {h : List Moment} (run : Runs d .start h u) :
    (∀ m ∈ h, (Asks m ↔ m.event.token.isZero = false ∧ (∀ e ∈ d.known, e.1 ≠ m.event.token) ∧
        m.before.cache.get? m.event.token = none) ∧
      (¬Asks m → m.after.calls = m.before.calls)) ∧
    (∀ token, u.cache.get? token = h.findSome? (answered? token)) ∧
    (u.cache.size = h.countP fun m => (answered? m.event.token m).isSome) ∧
    (∀ m ∈ h, Fails m.event.token m → m.after.cache = m.before.cache ∧
      m.before.shownTo d m.event = fallback m.event.token) ∧
    (∀ token, ∃ rest, token.text.toList = (fallback token).toList ++ rest ∧
      Text.utf8Length (fallback token).toList = 8) ∧
    (∀ token, u.calls.count token ≤ h.countP (Fails token) + 1) ∧
    (∀ h₁ m h₂, h = h₁ ++ m :: h₂ → ∀ token, (answered? token m).isSome →
      ∀ m' ∈ h₂, m'.event.token = token → ¬Asks m') ∧
    ∀ h₁ m h₂, h = h₁ ++ m :: h₂ →
      let symbol := m.before.shownTo d m.event
      m.event.token.isZero = true ∧ symbol = d.native ∨ (m.event.token, symbol) ∈ d.known ∨
        (∃ m' ∈ h₁ ++ [m], answered? m.event.token m' = some symbol ∧
          (∃ data, m'.event.reply = .ok data ∧ decodeSymbol data = .ok symbol) ∧
          Text.allBlank symbol.toList = false) ∨
        symbol = fallback m.event.token := by
  refine ⟨?asks, ?cached, ?size, ?fails, fallback_front, ?calls, ?silent, ?shown⟩
  case asks =>
    intro m hm
    have step := run.step hm
    refine ⟨?_, step.calls_of_not_asks⟩
    rw [step.asks_iff, Directory.fixed?_eq_none_iff, and_assoc]
  case cached =>
    intro token
    rw [run.get? token]
    exact Option.none_or
  case size =>
    rw [run.size]
    exact Nat.zero_add _
  case fails =>
    intro m hm failed
    exact (run.step hm).of_fails failed
  case calls =>
    intro token
    rw [run.balanced token]
    split <;> omega
  case silent =>
    intro h₁ m h₂ hh token answered m' hm' own
    exact run.not_asks hh answered hm' own
  case shown =>
    intro h₁ m h₂ hh symbol
    have shown : symbol = _ := run.shownTo_eq hh
    cases fixed : d.fixed? m.event.token with
    | some fixedSymbol =>
        rw [fixed] at shown
        unfold Directory.fixed? at fixed
        split at fixed
        · next zero => exact .inl ⟨zero, shown.trans (Option.some.inj fixed).symm⟩
        · obtain ⟨⟨a, listed⟩, found, rfl⟩ := Option.map_eq_some_iff.1 fixed
          have own : a = m.event.token := by simpa using List.find?_some found
          exact .inr (.inl (own ▸ shown ▸ List.mem_of_find?_eq_some found))
    | none =>
        rw [fixed, Option.none_or] at shown
        cases answer : (h₁ ++ [m]).findSome? (answered? m.event.token) with
        | none =>
            rw [answer] at shown
            exact .inr (.inr (.inr shown))
        | some first =>
            rw [answer] at shown
            obtain ⟨m', hm', answered⟩ := List.exists_of_findSome?_eq_some answer
            obtain rfl : symbol = first := shown
            obtain ⟨-, -, data, reply, read⟩ := answered?_eq_some_iff.1 answered
            obtain ⟨_, _, _, marks⟩ := decodeSymbol_eq_ok_iff.1 read
            exact .inr (.inr (.inl ⟨m', hm', answered, ⟨data, reply, read⟩, marks⟩))

/-- A token fails at first, then answers `MKR`, and would answer `DAI` after that. Another token answers
with a blank text. The native asset and the known token come last. -/
theorem asks_iff_get?_cache_eq_none_six_lookups :
    let d : Directory := .withNative "ETH"
    let listed : Address := .ofNat 0xa0b86a33e6ba0c74d75c9abfd35e5e0b1bcceb83
    ∃ h u, Runs d .start h u ∧
      h.map (fun m => (m.event.token, m.before.shownTo d m.event)) =
        [(.ofNat 3, "0x000000"), (.ofNat 3, "MKR"), (.ofNat 3, "MKR"), (.ofNat 4, "0x000000"),
          (.zero, "ETH"), (listed, "WXPL")] ∧
      u.calls = [.ofNat 3, .ofNat 3, .ofNat 4] ∧ u.cache.get? (.ofNat 3) = some "MKR" ∧
      u.cache.size = 1 ∧ h.countP (Fails (.ofNat 3)) = 1 ∧
      u.calls.count (.ofNat 3) ≤ h.countP (Fails (.ofNat 3)) + 1 := by
  intro d listed
  let answering (reply : Except NodeError String) : Node :=
    ⟨fun _ => .error (.timeout 1), fun _ => .error (.timeout 1), fun _ => .error (.timeout 1),
      fun _ _ => reply⟩
  let word (front : String) : Except NodeError String :=
    .ok ("0x" ++ front ++ "0000000000000000000000000000000000000000000000000000000000")
  obtain ⟨h, u, replayed, shown, calls, fails, first, answers⟩ : ∃ h u,
      Machine.replay? (lookUp? d) .start
        [⟨answering (.error (.timeout 1)), .ofNat 3⟩, ⟨answering (word "4d4b52"), .ofNat 3⟩,
          ⟨answering (word "444149"), .ofNat 3⟩, ⟨answering (word "202020"), .ofNat 4⟩,
          ⟨answering (.error (.timeout 1)), .zero⟩, ⟨answering (.error (.timeout 1)), listed⟩] =
        some (h, u) ∧
      h.map (fun m => (m.event.token, m.before.shownTo d m.event)) =
        [(.ofNat 3, "0x000000"), (.ofNat 3, "MKR"), (.ofNat 3, "MKR"), (.ofNat 4, "0x000000"),
          (.zero, "ETH"), (listed, "WXPL")] ∧
      u.calls = [.ofNat 3, .ofNat 3, .ofNat 4] ∧ h.countP (Fails (.ofNat 3)) = 1 ∧
      h.findSome? (answered? (.ofNat 3)) = some "MKR" ∧
      (h.countP fun m => (answered? m.event.token m).isSome) = 1 :=
    ⟨_, _, rfl, by decide +kernel, by decide +kernel, by decide +kernel, by decide +kernel,
      by decide +kernel⟩
  have run : Runs d .start h u := Machine.runs_of_replay? replayed
  obtain ⟨-, cached, size, -, -, bound, -⟩ := asks_iff_get?_cache_eq_none run
  exact ⟨h, u, run, shown, calls, (cached _).trans first, size.trans answers, fails, bound _⟩

end Session

end WalletWatch
