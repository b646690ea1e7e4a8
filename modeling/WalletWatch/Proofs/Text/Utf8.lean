import WalletWatch.Text.Utf8

/-!
# UTF-8 is read back

The first byte of a character says how many bytes follow, and each of these holds six more bits.
`piecesFrom` reads them back one by one, with any bytes after them, so the pieces of an encoded text are its
characters. Only the second byte has a range of its own, which rules out what is not a character.
-/

namespace WalletWatch

namespace Utf8

/-! ## Bytes -/

theorem start_one {n : Nat} (h : n < 0x80) : start (.ofNat n) = .inl (.char (Char.ofNat n)) := by
  have all : ∀ n < 0x80, start (.ofNat n) = .inl (.char (Char.ofNat n)) := by decide
  exact all n h

theorem start_two {n : Nat} (low : 2 ≤ n) (high : n < 32) :
    start (.ofNat (n + 0xC0)) = .inr ⟨1, 0x80, 0xBF, n, 1⟩ := by
  have all : ∀ n < 32, 2 ≤ n → start (.ofNat (n + 0xC0)) = .inr ⟨1, 0x80, 0xBF, n, 1⟩ := by decide
  exact all n high low

theorem start_three {n : Nat} (h : n < 16) :
    start (.ofNat (n + 0xE0)) =
      .inr ⟨2, if n = 0 then 0xA0 else 0x80, if n = 13 then 0x9F else 0xBF, n, 1⟩ := by
  have all : ∀ n < 16, start (.ofNat (n + 0xE0)) =
      .inr ⟨2, if n = 0 then 0xA0 else 0x80, if n = 13 then 0x9F else 0xBF, n, 1⟩ := by decide
  exact all n h

theorem start_four {n : Nat} (h : n < 5) :
    start (.ofNat (n + 0xF0)) =
      .inr ⟨3, if n = 0 then 0x90 else 0x80, if n = 4 then 0x8F else 0xBF, n, 1⟩ := by
  have all : ∀ n < 5, start (.ofNat (n + 0xF0)) =
      .inr ⟨3, if n = 0 then 0x90 else 0x80, if n = 4 then 0x8F else 0xBF, n, 1⟩ := by decide
  exact all n h

def continuation (n : Nat) : UInt8 :=
  .ofNat (n % 0x40 + 0x80)

theorem toNat_continuation (n : Nat) : (continuation n).toNat = n % 64 + 128 := by
  rw [continuation, UInt8.toNat_ofNat']
  omega

theorem continuation_mem {low high : UInt8} {n : Nat} (above : low.toNat ≤ n % 64 + 128)
    (below : n % 64 + 128 ≤ high.toNat) : low ≤ continuation n ∧ continuation n ≤ high := by
  rw [UInt8.le_iff_toNat_le, UInt8.le_iff_toNat_le, toNat_continuation]
  exact ⟨above, below⟩

theorem continuation_range (n : Nat) : 0x80 ≤ continuation n ∧ continuation n ≤ 0xBF := by
  refine continuation_mem (Nat.le_add_left 128 _) ?_
  change n % 64 + 128 ≤ 191
  omega

theorem piecesFrom_continuation {owed bits taken n : Nat} {low high : UInt8} (bs : List UInt8)
    (inside : low ≤ continuation n ∧ continuation n ≤ high) :
    piecesFrom (some ⟨owed + 2, low, high, bits, taken⟩) (continuation n :: bs) =
      piecesFrom (some ⟨owed + 1, 0x80, 0xBF, bits * 64 + n % 64, taken + 1⟩) bs := by
  have six : (continuation n).toNat % 64 = n % 64 := by
    rw [toNat_continuation]
    omega
  rw [piecesFrom, if_pos inside, if_neg (by dsimp only; omega), six]
  rfl

theorem piecesFrom_last {bits taken n : Nat} {low high : UInt8} (bs : List UInt8)
    (inside : low ≤ continuation n ∧ continuation n ≤ high) :
    piecesFrom (some ⟨1, low, high, bits, taken⟩) (continuation n :: bs) =
      .char (Char.ofNat (bits * 64 + n % 64)) :: piecesFrom none bs := by
  have six : (continuation n).toNat % 64 = n % 64 := by
    rw [toNat_continuation]
    omega
  rw [piecesFrom, if_pos inside, if_pos (Nat.le_refl 1), six]

/-! ## Characters -/

theorem piecesFrom_two {n : Nat} (bs : List UInt8) (big : 0x80 ≤ n) (small : n < 0x800) :
    piecesFrom none (.ofNat (n / 64 + 0xC0) :: continuation n :: bs) =
      .char (Char.ofNat n) :: piecesFrom none bs := by
  have value : n / 64 * 64 + n % 64 = n := by omega
  rw [piecesFrom, start_two (by omega) (by omega)]
  change piecesFrom (some _) (continuation n :: bs) = _
  rw [piecesFrom_last _ (continuation_range n), value]

theorem piecesFrom_three {n : Nat} (bs : List UInt8) (big : 0x800 ≤ n) (small : n < 0x10000)
    (scalar : n < 0xD800 ∨ 0xDFFF < n) :
    piecesFrom none (.ofNat (n / 4096 + 0xE0) :: continuation (n / 64) :: continuation n :: bs) =
      .char (Char.ofNat n) :: piecesFrom none bs := by
  have value : (n / 4096 * 64 + n / 64 % 64) * 64 + n % 64 = n := by omega
  have low : (if n / 4096 = 0 then 0xA0 else 0x80 : UInt8).toNat ≤ n / 64 % 64 + 128 := by
    split
    · change 160 ≤ _
      omega
    · exact Nat.le_add_left 128 _
  have high : n / 64 % 64 + 128 ≤ (if n / 4096 = 13 then 0x9F else 0xBF : UInt8).toNat := by
    split
    · change _ ≤ 159
      omega
    · change _ ≤ 191
      omega
  rw [piecesFrom, start_three (by omega)]
  change piecesFrom (some _) (continuation (n / 64) :: _) = _
  rw [piecesFrom_continuation _ (continuation_mem low high), piecesFrom_last _ (continuation_range n),
    value]

theorem piecesFrom_four {n : Nat} (bs : List UInt8) (big : 0x10000 ≤ n) (small : n ≤ 0x10ffff) :
    piecesFrom none (.ofNat (n / 262144 + 0xF0) :: continuation (n / 4096) ::
        continuation (n / 64) :: continuation n :: bs) =
      .char (Char.ofNat n) :: piecesFrom none bs := by
  have value : ((n / 262144 * 64 + n / 4096 % 64) * 64 + n / 64 % 64) * 64 + n % 64 = n := by omega
  have low : (if n / 262144 = 0 then 0x90 else 0x80 : UInt8).toNat ≤ n / 4096 % 64 + 128 := by
    split
    · change 144 ≤ _
      omega
    · exact Nat.le_add_left 128 _
  have high : n / 4096 % 64 + 128 ≤ (if n / 262144 = 4 then 0x8F else 0xBF : UInt8).toNat := by
    split
    · change _ ≤ 143
      omega
    · change _ ≤ 191
      omega
  rw [piecesFrom, start_four (by omega)]
  change piecesFrom (some _) (continuation (n / 4096) :: _) = _
  rw [piecesFrom_continuation _ (continuation_mem low high),
    piecesFrom_continuation _ (continuation_range _), piecesFrom_last _ (continuation_range n), value]

theorem toNat_range (c : Char) : c.toNat < 0xD800 ∨ 0xDFFF < c.toNat ∧ c.toNat ≤ 0x10ffff := by
  have valid : c.toNat.isValidChar := c.valid
  simp only [Nat.isValidChar] at valid
  omega

inductive Form (c : Char) : List UInt8 → Prop
  | one : c.toNat < 0x80 → Form c [.ofNat c.toNat]
  | two : 0x80 ≤ c.toNat → c.toNat < 0x800 →
      Form c [.ofNat (c.toNat / 64 + 0xC0), continuation c.toNat]
  | three : 0x800 ≤ c.toNat → c.toNat < 0x10000 →
      Form c [.ofNat (c.toNat / 4096 + 0xE0), continuation (c.toNat / 64), continuation c.toNat]
  | four : 0x10000 ≤ c.toNat →
      Form c [.ofNat (c.toNat / 262144 + 0xF0), continuation (c.toNat / 4096),
        continuation (c.toNat / 64), continuation c.toNat]

theorem form (c : Char) : Form c (String.utf8EncodeChar c) := by
  have range := toNat_range c
  simp only [String.utf8EncodeChar, Char.toNat_val]
  split
  · exact .one (by omega)
  · split
    · rw [Nat.mod_eq_of_lt (by omega)]
      exact .two (by omega) (by omega)
    · split
      · rw [Nat.mod_eq_of_lt (by omega)]
        exact .three (by omega) (by omega)
      · rw [Nat.mod_eq_of_lt (by omega)]
        exact .four (by omega)

/-- The bytes of a character are read as the character, with any bytes after them. -/
theorem piecesFrom_utf8EncodeChar (bs : List UInt8) (c : Char) :
    piecesFrom none (String.utf8EncodeChar c ++ bs) = .char c :: piecesFrom none bs := by
  have range := toNat_range c
  have whole : Char.ofNat c.toNat = c := Char.ofNat_toNat c
  have shape := form c
  generalize String.utf8EncodeChar c = bytes at shape
  cases shape with
  | one small => rw [List.singleton_append, piecesFrom, start_one small, whole]
  | two big small =>
      rw [List.cons_append, List.singleton_append, piecesFrom_two bs big small, whole]
  | three big small =>
      rw [List.cons_append, List.cons_append, List.singleton_append,
        piecesFrom_three bs big small (by omega), whole]
  | four big =>
      rw [List.cons_append, List.cons_append, List.cons_append, List.singleton_append,
        piecesFrom_four bs big (by omega), whole]

theorem pieces_encode (cs : List Char) : pieces (encode cs) = cs.map .char := by
  induction cs with
  | nil => rfl
  | cons c cs ih =>
      rw [encode, List.flatMap_cons, ← encode, pieces, piecesFrom_utf8EncodeChar, ← pieces, ih,
        List.map_cons]

theorem ofPieces_chars (index : Nat) (cs : List Char) : ofPieces index (cs.map .char) = .ok cs := by
  induction cs generalizing index with
  | nil => rfl
  | cons c cs ih =>
      rw [List.map_cons, ofPieces, ih]
      rfl

theorem decode_encode (cs : List Char) : decode (encode cs) = .ok cs := by
  rw [decode, pieces_encode, ofPieces_chars]

theorem decodeLossy_encode (cs : List Char) : decodeLossy (encode cs) = cs := by
  rw [decodeLossy, pieces_encode, List.map_map]
  exact List.map_id cs

theorem ne_zero_of_mem_utf8EncodeChar {c : Char} (h : c ≠ '\u0000') {b : UInt8}
    (hb : b ∈ String.utf8EncodeChar c) : b ≠ 0 := by
  have range := toNat_range c
  have nonzero {n : Nat} (small : n < 256) (big : 0 < n) : UInt8.ofNat n ≠ 0 := by
    rw [ne_eq, ← UInt8.toNat_inj, UInt8.toNat_ofNat', Nat.mod_eq_of_lt small]
    exact Nat.ne_zero_of_lt big
  have further (n : Nat) : continuation n ≠ 0 := nonzero (by omega) (Nat.succ_pos _)
  have shape := form c
  generalize String.utf8EncodeChar c = bytes at shape hb
  cases shape with
  | one small =>
      have big : 0 < c.toNat := Nat.pos_of_ne_zero fun zero => h (Char.toNat_inj.1 zero)
      rw [List.mem_singleton.1 hb]
      exact nonzero (by omega) big
  | two big small =>
      simp only [List.mem_cons, List.not_mem_nil, or_false] at hb
      rcases hb with rfl | rfl
      · exact nonzero (by omega) (Nat.succ_pos _)
      · exact further _
  | three big small =>
      simp only [List.mem_cons, List.not_mem_nil, or_false] at hb
      rcases hb with rfl | rfl | rfl
      · exact nonzero (by omega) (Nat.succ_pos _)
      · exact further _
      · exact further _
  | four big =>
      simp only [List.mem_cons, List.not_mem_nil, or_false] at hb
      rcases hb with rfl | rfl | rfl | rfl
      · exact nonzero (by omega) (Nat.succ_pos _)
      · exact further _
      · exact further _
      · exact further _

theorem ne_zero_of_mem_encode {cs : List Char} (h : '\u0000' ∉ cs) {b : UInt8} (hb : b ∈ encode cs) :
    b ≠ 0 := by
  obtain ⟨c, hc, hb⟩ := List.mem_flatMap.1 hb
  exact ne_zero_of_mem_utf8EncodeChar (fun zero => h (zero ▸ hc)) hb

end Utf8

end WalletWatch
