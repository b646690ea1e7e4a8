import WalletWatch.Proofs.Hex

/-!
# Bytes as pairs of digits

`Spells cs bytes` says that the digits `cs`, in either case, are those of `bytes`, which is exactly what
`Hex.decode` accepts. The number of a byte sequence is the number of its digits, so the digits of a word can
be taken for the word.
-/

namespace WalletWatch

namespace Hex

/-! ## Digits of either case -/

/-- A relation between characters and their lower-case forms holds if it is reflexive and holds up to the
last capital. -/
theorem forall_toLower {P : Char → Char → Prop} (same : ∀ c, P c c)
    (capital : ∀ n < 91, P (Char.ofNat n) (Char.ofNat n).toLower) (c : Char) : P c c.toLower := by
  by_cases upper : c.val ≥ 'A'.val ∧ c.val ≤ 'Z'.val
  · have small : c.toNat < 91 := Nat.lt_succ_of_le (UInt32.le_iff_toNat_le.1 upper.2)
    have checked := capital c.toNat small
    rwa [Char.ofNat_toNat] at checked
  · have unchanged : c.toLower = c := dif_neg upper
    rw [unchanged]
    exact same c

theorem eq_or_eq_toUpper_toLower (c : Char) : c = c.toLower ∨ c = c.toLower.toUpper :=
  forall_toLower (P := fun c d => c = d ∨ c = d.toUpper) (fun _ => .inl rfl) (by decide) c

@[simp]
theorem digitValue?_toLower (c : Char) : digitValue? c.toLower = digitValue? c :=
  forall_toLower (P := fun c d => digitValue? d = digitValue? c) (fun _ => rfl) (by decide) c

@[simp]
theorem isDigit_toLower (c : Char) : isDigit c.toLower = isDigit c := by
  rw [isDigit, digitValue?_toLower, isDigit]

theorem value_map_toLower (cs : List Char) : value (cs.map Char.toLower) = value cs := by
  simp only [value, List.foldl_map, digitValue?_toLower]

theorem forall_isDigit {P : Char → Prop}
    (h : ∀ n < 103, isDigit (Char.ofNat n) = true → P (Char.ofNat n)) {c : Char}
    (hc : isDigit c = true) : P c := by
  have last : c.toNat ≤ 102 := UInt32.le_iff_toNat_le.1 (Char.le_def.1 (range_of_isDigit hc).2)
  have checked := h c.toNat (Nat.lt_succ_of_le last)
  rw [Char.ofNat_toNat] at checked
  exact checked hc

theorem digit_of_isDigit {c : Char} (h : isDigit c = true) :
    digit ((digitValue? c).getD 0) = c.toLower :=
  forall_isDigit (P := fun c => digit ((digitValue? c).getD 0) = c.toLower) (by decide +kernel) h

theorem digitValue?_lt (c : Char) : (digitValue? c).getD 0 < 16 := by
  by_cases h : isDigit c = true
  · exact forall_isDigit (P := fun c => (digitValue? c).getD 0 < 16) (by decide +kernel) h
  · rw [isDigit, Option.not_isSome_iff_eq_none] at h
    rw [h]
    decide

/-! ## Markers -/

def markers : List (List Char) :=
  [[], ['0', 'x'], ['0', 'X']]

theorem dropMarker_append {marker ds : List Char} (h : marker ∈ markers)
    (digits : ∀ c ∈ ds, isDigit c = true) : dropMarker (marker ++ ds) = ds := by
  simp only [markers, List.mem_cons, List.not_mem_nil, or_false] at h
  rcases h with rfl | rfl | rfl
  · rw [List.nil_append]
    unfold dropMarker
    split
    · exact absurd (digits 'x' (.tail _ (.head _))) (by decide)
    · exact absurd (digits 'X' (.tail _ (.head _))) (by decide)
    · rfl
  · rfl
  · rfl

theorem exists_marker (cs : List Char) : ∃ marker ∈ markers, cs = marker ++ dropMarker cs := by
  unfold dropMarker
  split
  · exact ⟨['0', 'x'], by decide, rfl⟩
  · exact ⟨['0', 'X'], by decide, rfl⟩
  · exact ⟨[], by decide, rfl⟩

/-! ## Numbers to some base -/

/-- Reading on after a number shifts it by the number of places. -/
theorem foldl_base {α : Type} (base : Nat) (f : α → Nat) (k : Nat) (xs : List α) :
    xs.foldl (fun n x => n * base + f x) k =
      k * base ^ xs.length + xs.foldl (fun n x => n * base + f x) 0 := by
  induction xs generalizing k with
  | nil => simp
  | cons x xs ih =>
      have front : (k * base + f x) * base ^ xs.length =
          k * base ^ (xs.length + 1) + f x * base ^ xs.length := by
        rw [Nat.add_mul, Nat.mul_assoc, Nat.pow_succ']
      rw [List.foldl_cons, List.foldl_cons, ih, ih (0 * base + f x), front, List.length_cons,
        Nat.zero_mul, Nat.zero_add, Nat.add_assoc]

theorem foldl_base_append {α : Type} (base : Nat) (f : α → Nat) (xs ys : List α) :
    (xs ++ ys).foldl (fun n x => n * base + f x) 0 =
      xs.foldl (fun n x => n * base + f x) 0 * base ^ ys.length +
        ys.foldl (fun n x => n * base + f x) 0 := by
  rw [List.foldl_append, foldl_base]

theorem foldl_base_lt {α : Type} (base : Nat) (f : α → Nat) (h : ∀ x, f x < base) (xs : List α) :
    xs.foldl (fun n x => n * base + f x) 0 < base ^ xs.length := by
  induction xs with
  | nil => exact Nat.one_pos
  | cons x xs ih =>
      calc (x :: xs).foldl (fun n x => n * base + f x) 0
          = f x * base ^ xs.length + xs.foldl (fun n x => n * base + f x) 0 := by
            rw [List.foldl_cons, foldl_base, Nat.zero_mul, Nat.zero_add]
        _ < f x * base ^ xs.length + base ^ xs.length := Nat.add_lt_add_left ih _
        _ = (f x + 1) * base ^ xs.length := (Nat.succ_mul _ _).symm
        _ ≤ base ^ (xs.length + 1) := by
            rw [Nat.pow_succ']
            exact Nat.mul_le_mul_right _ (h x)

theorem value_append (cs ds : List Char) :
    value (cs ++ ds) = value cs * 16 ^ ds.length + value ds :=
  foldl_base_append 16 _ cs ds

theorem value_lt (cs : List Char) : value cs < 16 ^ cs.length :=
  foldl_base_lt 16 _ digitValue?_lt cs

theorem ofBytes_append (bytes more : List UInt8) :
    ofBytes (bytes ++ more) = ofBytes bytes * 256 ^ more.length + ofBytes more :=
  foldl_base_append 256 _ bytes more

theorem ofBytes_lt (bytes : List UInt8) : ofBytes bytes < 256 ^ bytes.length :=
  foldl_base_lt 256 _ UInt8.toNat_lt bytes

theorem ofBytes_eq_zero_iff {bytes : List UInt8} : ofBytes bytes = 0 ↔ ∀ b ∈ bytes, b = 0 := by
  induction bytes with
  | nil => simp [ofBytes]
  | cons b bytes ih =>
      have cons : ofBytes (b :: bytes) = b.toNat * 256 ^ bytes.length + ofBytes bytes := by
        simpa [ofBytes] using ofBytes_append [b] bytes
      have zero : b.toNat = 0 ↔ b = 0 := UInt8.toNat_inj (b := 0)
      simp [cons, ih, zero]

/-! ## Pairs of digits -/

inductive Paired : List Char → Prop
  | nil : Paired []
  | cons (high low : Char) {cs : List Char} : Paired cs → Paired (high :: low :: cs)

theorem paired_iff {cs : List Char} : Paired cs ↔ cs.length % 2 = 0 := by
  constructor
  · intro h
    induction h with
    | nil => rfl
    | cons high low _ ih =>
        rw [List.length_cons, List.length_cons]
        omega
  · intro even
    fun_induction pairs cs with
    | case1 high low cs ih =>
        rw [List.length_cons, List.length_cons] at even
        exact .cons high low (ih (by omega))
    | case2 cs short =>
        match cs, short with
        | [], _ => exact .nil
        | [_], _ => cases even
        | high :: low :: cs, short => exact absurd rfl (short high low cs)

theorem toNat_ofNat_pair (high low : Char) :
    (UInt8.ofNat (value [high, low])).toNat = value [high, low] := by
  rw [UInt8.toNat_ofNat']
  exact Nat.mod_eq_of_lt (value_lt [high, low])

theorem byteDigits_eq (b : UInt8) :
    byteDigits b = [digit (b.toNat / 16 % 16), digit (b.toNat % 16)] := rfl

theorem byteDigits_pair {high low : Char} (h : isDigit high = true) (l : isDigit low = true) :
    byteDigits (.ofNat (value [high, low])) = [high.toLower, low.toLower] := by
  have := digitValue?_lt high
  have := digitValue?_lt low
  have parts : value [high, low] = (digitValue? high).getD 0 * 16 + (digitValue? low).getD 0 := by
    simp [value]
  have first : value [high, low] / 16 % 16 = (digitValue? high).getD 0 := by omega
  have second : value [high, low] % 16 = (digitValue? low).getD 0 := by omega
  rw [byteDigits_eq, toNat_ofNat_pair, first, second, digit_of_isDigit h, digit_of_isDigit l]

namespace Paired

theorem length_pairs {cs : List Char} (h : Paired cs) : (pairs cs).length = cs.length / 2 := by
  induction h with
  | nil => rfl
  | cons high low _ ih =>
      rw [pairs, List.length_cons, List.length_cons, List.length_cons, ih]
      omega

theorem ofBytes_pairs {cs : List Char} (h : Paired cs) : ofBytes (pairs cs) = value cs := by
  induction h with
  | nil => rfl
  | @cons high low cs paired ih =>
      have places : 256 ^ (cs.length / 2) = 16 ^ cs.length := by
        have even := paired_iff.1 paired
        rw [show 256 = 16 ^ 2 from rfl, ← Nat.pow_mul]
        congr 1
        omega
      have front : ofBytes [.ofNat (value [high, low])] = value [high, low] := by
        simp only [ofBytes, List.foldl_cons, List.foldl_nil, toNat_ofNat_pair, Nat.zero_mul, Nat.zero_add]
      calc ofBytes (pairs (high :: low :: cs))
          = ofBytes ([.ofNat (value [high, low])] ++ pairs cs) := rfl
        _ = value [high, low] * 16 ^ cs.length + value cs := by
            rw [ofBytes_append, front, paired.length_pairs, places, ih]
        _ = value (high :: low :: cs) := (value_append [high, low] cs).symm

theorem pairs_map_toLower {cs : List Char} (h : Paired cs) : pairs (cs.map Char.toLower) = pairs cs := by
  induction h with
  | nil => rfl
  | cons high low _ ih =>
      have same : value [high.toLower, low.toLower] = value [high, low] := value_map_toLower [high, low]
      rw [List.map_cons, List.map_cons, pairs, pairs, same, ih]

theorem encode_pairs {cs : List Char} (h : Paired cs) (digits : ∀ c ∈ cs, isDigit c = true) :
    encode (pairs cs) = cs.map Char.toLower := by
  induction h with
  | nil => rfl
  | @cons high low cs _ ih =>
      rw [pairs, encode, List.flatMap_cons, ← encode, ih fun c hc => digits c (.tail _ (.tail _ hc)),
        byteDigits_pair (digits high (.head _)) (digits low (.tail _ (.head _)))]
      rfl

end Paired

/-! ## Reading bytes -/

theorem pairs_encode (bytes : List UInt8) : pairs (encode bytes) = bytes := by
  induction bytes with
  | nil => rfl
  | cons b bytes ih =>
      have small : b.toNat % 16 ^ 2 = b.toNat := Nat.mod_eq_of_lt b.toNat_lt
      have whole : value (byteDigits b) = b.toNat := by rw [byteDigits, value_digits, small]
      rw [encode, List.flatMap_cons, ← encode, byteDigits_eq, List.cons_append, List.cons_append,
        List.nil_append, pairs, ← byteDigits_eq, whole, UInt8.ofNat_toNat, ih]

theorem length_encode (bytes : List UInt8) : (encode bytes).length = 2 * bytes.length := by
  induction bytes with
  | nil => rfl
  | cons b bytes ih =>
      rw [encode, List.flatMap_cons, ← encode, List.length_append, ih, byteDigits, length_digits,
        List.length_cons, Nat.mul_succ, Nat.add_comm]

def Spells (cs : List Char) (bytes : List UInt8) : Prop :=
  cs.map Char.toLower = encode bytes

instance (cs : List Char) (bytes : List UInt8) : Decidable (Spells cs bytes) :=
  inferInstanceAs (Decidable (_ = _))

theorem spells_iff {cs : List Char} {bytes : List UInt8} :
    Spells cs bytes ↔ (∀ c ∈ cs, isDigit c = true) ∧ Paired cs ∧ bytes = pairs cs := by
  constructor
  · intro h
    have lowered : cs.map Char.toLower = encode bytes := h
    have paired : Paired cs := by
      rw [paired_iff, ← List.length_map, lowered, length_encode]
      exact Nat.mul_mod_right 2 _
    refine ⟨fun c hc => ?_, paired, ?_⟩
    · have listed : c.toLower ∈ encode bytes := lowered ▸ List.mem_map_of_mem hc
      obtain ⟨b, -, hb⟩ := List.mem_flatMap.1 listed
      rw [← isDigit_toLower]
      exact isDigit_of_mem_digits hb
    · rw [← paired.pairs_map_toLower, lowered, pairs_encode]
  · rintro ⟨digits, paired, rfl⟩
    exact (paired.encode_pairs digits).symm

theorem decode_eq_ok_iff {cs : List Char} {bytes : List UInt8} :
    decode cs = .ok bytes ↔ Spells cs bytes := by
  rw [spells_iff, paired_iff, decode]
  constructor
  · intro h
    split at h
    · cases h
    · next even =>
        split at h
        · cases h
        · next good =>
            have digits := badDigit?_eq_none_iff.1 good
            rw [utf8Length_of_isDigit digits] at even
            exact ⟨digits, by omega, (Except.ok.inj h).symm⟩
  · rintro ⟨digits, even, rfl⟩
    rw [utf8Length_of_isDigit digits, badDigit?_eq_none_iff.2 digits, even]
    rfl

end Hex

end WalletWatch
