import WalletWatch.Token.Lookup

/-!
# What a lookup shows

`shown d ask c token` is the symbol that a lookup gives with the cache `c` if nothing happens between its
steps: the fixed symbol, else the cached one, else what the answer is `read` as. Storing an answer changes
nothing that is shown of other tokens. A cache is `Genuine` if it holds only symbols that the node answered.
-/

namespace WalletWatch

namespace Token

theorem Directory.fixed?_eq_none_iff {d : Directory} {token : Address} :
    d.fixed? token = none ↔ token.isZero = false ∧ ∀ e ∈ d.known, e.1 ≠ token := by
  unfold fixed?
  cases token.isZero <;> simp

theorem Directory.fixed?_zero {d : Directory} : d.fixed? .zero = some d.native := rfl

/-- The symbol in an answer, or `fallback` if there is none. -/
def read (token : Address) (reply : Except NodeError String) : String :=
  match symbolOf reply with
  | .ok symbol => symbol
  | .error _ => fallback token

theorem look_eq (d : Directory) (c : Cache) (token : Address) :
    look d c token = (((d.fixed? token).or (c.get? token)).map Progress.done).getD .asking := by
  unfold look
  cases d.fixed? token with
  | some symbol => rfl
  | none => cases c.get? token <;> rfl

theorem look_eq_asking_iff {d : Directory} {c : Cache} {token : Address} :
    look d c token = .asking ↔ d.fixed? token = none ∧ c.get? token = none := by
  rw [look_eq, ← Option.or_eq_none_iff]
  cases (d.fixed? token).or (c.get? token) <;> simp

theorem look_eq_done_iff {d : Directory} {c : Cache} {token : Address} {symbol : String} :
    look d c token = .done symbol ↔ (d.fixed? token).or (c.get? token) = some symbol := by
  rw [look_eq]
  cases (d.fixed? token).or (c.get? token) <;> simp

theorem look_cases (d : Directory) (c : Cache) (token : Address) :
    look d c token = .asking ∨ ∃ symbol, look d c token = .done symbol := by
  rw [look_eq]
  cases (d.fixed? token).or (c.get? token) with
  | none => exact .inl rfl
  | some symbol => exact .inr ⟨symbol, rfl⟩

theorem store_symbol (c : Cache) (token : Address) (reply : Except NodeError String) :
    (store c token reply).2 = read token reply := by
  unfold store read
  cases symbolOf reply <;> rfl

theorem get?_store (c : Cache) (token : Address) (reply : Except NodeError String) (b : Address) :
    (store c token reply).1.get? b =
      if b = token then (symbolOf reply).toOption.or (c.get? b) else c.get? b := by
  unfold store
  cases symbolOf reply with
  | ok symbol => simp [AddressMap.get?_insert, Except.toOption]
  | error e => simp [Except.toOption]

/-- The symbol that a lookup gives with the cache `c`, if nothing happens between its steps. -/
def shown (d : Directory) (ask : Address → Except NodeError String) (c : Cache) (token : Address) :
    String :=
  (resolve d ask c token).symbol

theorem shown_eq (d : Directory) (ask : Address → Except NodeError String) (c : Cache)
    (token : Address) :
    shown d ask c token =
      ((d.fixed? token).or (c.get? token)).getD (read token (ask token)) := by
  unfold shown resolve
  rw [look_eq]
  cases (d.fixed? token).or (c.get? token) with
  | some symbol => rfl
  | none => exact store_symbol c token (ask token)

theorem shown_zero {d : Directory} {ask : Address → Except NodeError String} {c : Cache} :
    shown d ask c .zero = d.native := by
  rw [shown_eq, Directory.fixed?_zero]
  rfl

theorem shown_of_look_eq_done {d : Directory} {ask : Address → Except NodeError String} {c : Cache}
    {token : Address} {symbol : String} (h : look d c token = .done symbol) :
    shown d ask c token = symbol := by
  rw [shown_eq, look_eq_done_iff.1 h]
  rfl

theorem shown_of_look_eq_asking {d : Directory} {ask : Address → Except NodeError String} {c : Cache}
    {token : Address} (h : look d c token = .asking) :
    shown d ask c token = read token (ask token) := by
  obtain ⟨fixed, absent⟩ := look_eq_asking_iff.1 h
  rw [shown_eq, fixed, absent]
  rfl

theorem shown_store {d : Directory} {ask : Address → Except NodeError String} {c : Cache} {token : Address}
    (h : shown d ask c token = read token (ask token)) (b : Address) :
    shown d ask (store c token (ask token)).1 b = shown d ask c b := by
  rw [shown_eq, shown_eq, get?_store]
  by_cases hb : b = token
  · subst hb
    rw [if_pos rfl]
    cases answer : symbolOf (ask b) with
    | error e => rfl
    | ok symbol =>
        have same : read b (ask b) = symbol := by rw [read, answer]
        rw [shown_eq, same] at h
        rw [same, h]
        cases fixed : d.fixed? b with
        | none => rfl
        | some symbol' =>
            rw [fixed] at h
            exact h
  · rw [if_neg hb]

/-- A lookup changes no shown symbol. -/
theorem shown_resolve (d : Directory) (ask : Address → Except NodeError String) (c : Cache)
    (token b : Address) :
    shown d ask (resolve d ask c token).cache b = shown d ask c b := by
  unfold resolve
  rcases look_cases d c token with asking | ⟨symbol, done⟩
  · rw [asking]
    exact shown_store (shown_of_look_eq_asking asking) b
  · rw [done]

/-- The cache holds only symbols that the node answered, and none for a token with a fixed symbol. -/
structure Cache.Genuine (d : Directory) (ask : Address → Except NodeError String) (c : Cache) :
    Prop where
  answered : ∀ token symbol, c.get? token = some symbol →
    d.fixed? token = none ∧ symbolOf (ask token) = .ok symbol

theorem Cache.genuine_empty {d : Directory} {ask : Address → Except NodeError String} :
    Cache.Genuine d ask .empty where
  answered _ _ h := by simp at h

theorem Cache.Genuine.store {d : Directory} {ask : Address → Except NodeError String} {c : Cache}
    {token : Address} (h : Cache.Genuine d ask c) (unfixed : d.fixed? token = none) :
    Cache.Genuine d ask (Token.store c token (ask token)).1 where
  answered b symbol hb := by
    rw [get?_store] at hb
    split at hb
    · next same =>
        subst same
        cases answer : symbolOf (ask b) with
        | error e =>
            rw [answer] at hb
            exact absurd (h.answered b symbol hb).2 (by simp [answer])
        | ok symbol' =>
            rw [answer] at hb
            cases hb
            exact ⟨unfixed, rfl⟩
    · exact h.answered b symbol hb

theorem Cache.Genuine.get?_eq {d : Directory} {ask : Address → Except NodeError String} {c : Cache}
    {token : Address} (h : Cache.Genuine d ask c) {symbol : String} (hc : c.get? token = some symbol) :
    c.get? token = (symbolOf (ask token)).toOption := by
  rw [hc, (h.answered token symbol hc).2]
  rfl

theorem Cache.Genuine.get?_store_self {d : Directory} {ask : Address → Except NodeError String} {c : Cache}
    (h : Cache.Genuine d ask c) (token : Address) :
    (Token.store c token (ask token)).1.get? token = (symbolOf (ask token)).toOption := by
  rw [get?_store, if_pos rfl]
  cases hc : c.get? token with
  | none => rw [Option.or_none]
  | some symbol => rw [← hc, h.get?_eq hc, Option.or_self]

theorem Cache.Genuine.resolve {d : Directory} {ask : Address → Except NodeError String} {c : Cache}
    (h : Cache.Genuine d ask c) (token : Address) :
    Cache.Genuine d ask (Token.resolve d ask c token).cache := by
  unfold Token.resolve
  rcases look_cases d c token with asking | ⟨symbol, done⟩
  · rw [asking]
    exact h.store (look_eq_asking_iff.1 asking).1
  · rw [done]
    exact h

theorem Cache.Genuine.shown_eq {d : Directory} {ask : Address → Except NodeError String} {c : Cache}
    (h : Cache.Genuine d ask c) (token : Address) :
    shown d ask c token = shown d ask .empty token := by
  rw [Token.shown_eq, Token.shown_eq, AddressMap.get?_empty, Option.or_none]
  cases hc : c.get? token with
  | none => rw [Option.or_none]
  | some symbol =>
      obtain ⟨unfixed, answer⟩ := h.answered token symbol hc
      simp [unfixed, read, answer]

end Token

end WalletWatch
