import WalletWatch.Proofs.Result
import WalletWatch.Proofs.Text.Utf8
import WalletWatch.Store.Target

/-!
# Percent escapes

A text without an escape stands for itself, and one with an escape does not: what is read never has more
characters than the text, since every character is written with one leading byte, an escape of three
characters is one byte, and every character that is read has a leading byte.
-/

namespace WalletWatch

namespace Utf8

def isLead (b : UInt8) : Bool :=
  b < 0x80 || 0xC0 ≤ b

theorem isLead_ofNat {n : Nat} (byte : n < 256) (lead : n < 128 ∨ 192 ≤ n) : isLead (.ofNat n) = true := by
  simp only [isLead, Bool.or_eq_true, decide_eq_true_eq, UInt8.lt_iff_toNat_lt, UInt8.le_iff_toNat_le,
    UInt8.toNat_ofNat']
  change n % 256 < 128 ∨ 192 ≤ n % 256
  omega

theorem not_isLead_continuation (n : Nat) : isLead (continuation n) = false := by
  simp only [isLead, Bool.or_eq_false_iff, decide_eq_false_iff_not, UInt8.lt_iff_toNat_lt,
    UInt8.le_iff_toNat_le, toNat_continuation]
  change ¬n % 64 + 128 < 128 ∧ ¬192 ≤ n % 64 + 128
  omega

theorem countP_isLead_utf8EncodeChar (c : Char) : (String.utf8EncodeChar c).countP isLead = 1 := by
  have range := toNat_range c
  have shape := form c
  generalize String.utf8EncodeChar c = bytes at shape
  have further (n : Nat) (bs : List UInt8) : (continuation n :: bs).countP isLead = bs.countP isLead :=
    List.countP_cons_of_neg (ne_true_of_eq_false (not_isLead_continuation n))
  cases shape with
  | one small => rw [List.countP_cons_of_pos (isLead_ofNat (by omega) (by omega)), List.countP_nil]
  | two big small => rw [List.countP_cons_of_pos (isLead_ofNat (by omega) (by omega)), further, List.countP_nil]
  | three big small =>
      rw [List.countP_cons_of_pos (isLead_ofNat (by omega) (by omega)), further, further, List.countP_nil]
  | four big =>
      rw [List.countP_cons_of_pos (isLead_ofNat (by omega) (by omega)), further, further, further, List.countP_nil]

theorem isLead_of_start {b : UInt8} (h : start b ≠ .inl (.invalid 1)) : isLead b = true := by
  unfold start at h
  split at h
  · next low => simp [isLead, low]
  · split at h
    · exact absurd rfl h
    · next notLow notBelow =>
        have above : (0xC0 : UInt8) ≤ b := by
          rw [UInt8.not_lt] at notBelow
          exact UInt8.le_trans (by decide) notBelow
        simp [isLead, above]

def Piece.isChar : Piece → Bool
  | .char _ => true
  | _ => false

theorem countP_isChar_cons (c : Char) (ps : List Piece) :
    (Piece.char c :: ps).countP Piece.isChar = ps.countP Piece.isChar + 1 :=
  List.countP_cons_of_pos rfl

theorem countP_isChar_cons_of_fault {piece : Piece} (fault : piece.isChar = false) (ps : List Piece) :
    (piece :: ps).countP Piece.isChar = ps.countP Piece.isChar :=
  List.countP_cons_of_neg (ne_true_of_eq_false fault)

theorem countP_isChar_piecesFrom (p : Option Pending) (bs : List UInt8) :
    (piecesFrom p bs).countP Piece.isChar ≤ bs.countP isLead + p.toList.length := by
  induction bs generalizing p with
  | nil => cases p <;> simp [piecesFrom, Piece.isChar]
  | cons b bs ih =>
      have kept : bs.countP isLead ≤ (b :: bs).countP isLead := by simp [List.countP_cons]
      have further : (piecesFrom none bs).countP Piece.isChar ≤ bs.countP isLead := ih none
      -- A byte that finds nothing pending starts anew, and so does one that cannot go on with what is pending.
      have anew : (piecesFrom none (b :: bs)).countP Piece.isChar ≤ (b :: bs).countP isLead := by
        rw [piecesFrom]
        split
        · next piece starts =>
            cases piece with
            | char c =>
                rw [countP_isChar_cons, List.countP_cons_of_pos (isLead_of_start (by simp [starts]))]
                exact Nat.succ_le_succ further
            | invalid n =>
                rw [countP_isChar_cons_of_fault rfl]
                exact Nat.le_trans further kept
            | incomplete =>
                rw [countP_isChar_cons_of_fault rfl]
                exact Nat.le_trans further kept
        · next pending starts =>
            rw [List.countP_cons_of_pos (isLead_of_start (by simp [starts]))]
            exact ih (some pending)
      cases p with
      | none => exact anew
      | some p =>
          rw [piecesFrom]
          split
          · dsimp only
            split
            · rw [countP_isChar_cons]
              exact Nat.succ_le_succ (Nat.le_trans further kept)
            · exact Nat.le_trans (ih _) (Nat.succ_le_succ kept)
          · rw [countP_isChar_cons_of_fault rfl]
            exact Nat.le_succ_of_le anew

theorem ofPieces_eq_ok {index : Nat} {ps : List Piece} {cs : List Char} (h : ofPieces index ps = .ok cs) :
    ps = cs.map .char := by
  induction ps generalizing index cs with
  | nil =>
      cases h
      rfl
  | cons piece ps ih =>
      cases piece with
      | char c =>
          obtain ⟨ds, read, rfl⟩ := map_eq_ok_iff.1 h
          rw [List.map_cons, ih read]
      | invalid n => cases h
      | incomplete => cases h

theorem length_le_of_decode {bytes : List UInt8} {cs : List Char} (h : decode bytes = .ok cs) :
    cs.length ≤ bytes.countP isLead := by
  have most := countP_isChar_piecesFrom none bytes
  have chars : (cs.map Piece.char).countP Piece.isChar = cs.length := by
    rw [List.countP_map]
    exact List.countP_eq_length.2 fun _ _ => rfl
  rw [← pieces, ofPieces_eq_ok h, chars] at most
  exact most

end Utf8

namespace StoreTarget

def HasEscape (cs : List Char) : Prop :=
  ∃ before a b behind, cs = before ++ '%' :: a :: b :: behind ∧ Hex.isDigit a = true ∧ Hex.isDigit b = true

theorem hasEscape_cons {c : Char} {cs : List Char} : HasEscape (c :: cs) ↔
    (c = '%' ∧ ∃ a b behind, cs = a :: b :: behind ∧ Hex.isDigit a = true ∧ Hex.isDigit b = true) ∨
      HasEscape cs := by
  constructor
  · rintro ⟨before, a, b, behind, spelled, digits⟩
    cases before with
    | nil =>
        cases spelled
        exact .inl ⟨rfl, a, b, behind, rfl, digits⟩
    | cons _ before =>
        cases spelled
        exact .inr ⟨before, a, b, behind, rfl, digits⟩
  · rintro (⟨rfl, a, b, behind, rfl, digits⟩ | ⟨before, a, b, behind, rfl, digits⟩)
    · exact ⟨[], a, b, behind, rfl, digits⟩
    · exact ⟨c :: before, a, b, behind, rfl, digits⟩

theorem unescape_of_not_hasEscape {cs : List Char} (h : ¬HasEscape cs) : unescape cs = Utf8.encode cs := by
  fun_induction unescape cs with
  | case1 => rfl
  | case2 a b cs digits =>
      rw [Bool.and_eq_true] at digits
      exact absurd (hasEscape_cons.2 (.inl ⟨rfl, a, b, cs, rfl, digits⟩)) h
  | case3 a b cs _ ih =>
      rw [ih fun later => h (hasEscape_cons.2 (.inr later))]
      rfl
  | case4 c cs _ ih =>
      rw [ih fun later => h (hasEscape_cons.2 (.inr later))]
      rfl

/-- Each character of a text stands for at most one leading byte, and an escape shortens the text, so
unescaping gives fewer characters if there is an escape. -/
theorem countP_isLead_unescape (cs : List Char) : (unescape cs).countP Utf8.isLead ≤ cs.length ∧
    (HasEscape cs → (unescape cs).countP Utf8.isLead < cs.length) := by
  fun_induction unescape cs with
  | case1 => exact ⟨Nat.le_refl 0, fun ⟨before, _, _, _, spelled, _⟩ => by cases before <;> cases spelled⟩
  | case2 a b cs _ ih =>
      have fewer : (UInt8.ofNat (Hex.value [a, b]) :: unescape cs).countP Utf8.isLead < cs.length + 3 := by
        rw [List.countP_cons]
        have rest := ih.1
        split <;> omega
      exact ⟨Nat.le_of_lt fewer, fun _ => fewer⟩
  | case3 a b cs digits ih =>
      rw [List.countP_cons_of_pos (by decide)]
      refine ⟨Nat.succ_le_succ ih.1, fun escape => Nat.succ_lt_succ (ih.2 ?_)⟩
      refine (hasEscape_cons.1 escape).resolve_left ?_
      rintro ⟨-, _, _, _, ⟨⟩, escaped⟩
      exact digits (Bool.and_eq_true_iff.2 escaped)
  | case4 c cs plain ih =>
      rw [List.countP_append, Utf8.countP_isLead_utf8EncodeChar, Nat.add_comm]
      refine ⟨Nat.succ_le_succ ih.1, fun escape => Nat.succ_lt_succ (ih.2 ?_)⟩
      refine (hasEscape_cons.1 escape).resolve_left ?_
      rintro ⟨rfl, a, b, behind, rfl, -⟩
      exact plain a b behind rfl rfl

theorem length_of_readSecret? {cs : List Char} {s : String} (h : readSecret? cs = some (some s)) :
    s.toList.length ≤ cs.length ∧ (HasEscape cs → s.toList.length < cs.length) := by
  obtain ⟨least, strict⟩ := countP_isLead_unescape cs
  unfold readSecret? at h
  split at h
  · cases h
  · split at h
    · next ds read =>
        cases h
        have most := Utf8.length_le_of_decode read
        rw [String.toList_ofList]
        exact ⟨Nat.le_trans most least, fun escape => Nat.lt_of_le_of_lt most (strict escape)⟩
    · cases h

/-- A secret is read back exactly if it has no escape. -/
theorem readSecret?_eq_some_iff {s : String} (filled : s.isEmpty = false) :
    readSecret? s.toList = some (some s) ↔ ¬HasEscape s.toList := by
  constructor
  · exact fun read escape => absurd ((length_of_readSecret? read).2 escape) (Nat.lt_irrefl _)
  · intro plain
    have letters : s.toList.isEmpty = false := by
      simpa using filled
    rw [readSecret?, letters, unescape_of_not_hasEscape plain, Utf8.decode_encode]
    simp

end StoreTarget

end WalletWatch
