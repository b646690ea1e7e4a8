import WalletWatch.Command
import WalletWatch.Proofs.Address
import WalletWatch.Proofs.Json.RoundTrip
import WalletWatch.Proofs.Result
import WalletWatch.Proofs.Time.Instant

/-!
# Records are read back

An object with the fields of a record in order passes exactly if every field accepts its value; otherwise
the first field that does not is the refusal. The readers of single fields read back the texts, numbers,
identifiers, instants and lists that are written.
-/

namespace WalletWatch

namespace Json

def checkAll (fields : List Field) (members : List (String × Json)) : Except Refusal Unit :=
  (fields.zip members).forM fun p => p.1.check p.2.2

theorem Field.find?_append_cons {front back : List Field} {f : Field}
    (nodup : ((front ++ f :: back).map Field.name).Nodup) :
    Field.find? (front ++ f :: back) (some f.name) = some f := by
  have fresh : ∀ g ∈ front, g.name ≠ f.name := by
    intro g hg same
    rw [List.map_append, List.nodup_append] at nodup
    exact nodup.2.2 _ (List.mem_map_of_mem hg) _ (List.mem_map_of_mem (.head _)) same
  rw [Field.find?, List.find?_append, List.find?_eq_none.2 (by simpa using fresh)]
  simp

theorem checkMembers_eq (front : List Field) {fields : List Field} (seen : List (String × Json))
    {members : List (String × Json)}
    (nodup : ((front ++ fields).map Field.name).Nodup)
    (past : seen.map (·.1) = front.map Field.name)
    (names : members.map (·.1) = fields.map Field.name) :
    checkMembers (front ++ fields) seen (members.map fun (key, v) => (some key, v)) =
      do checkAll fields members; return seen ++ members := by
  induction fields generalizing front seen members with
  | nil =>
      rw [List.map_eq_nil_iff.1 names, List.append_nil seen]
      rfl
  | cons f fields ih =>
      cases members with
      | nil => cases names
      | cons m members =>
          obtain ⟨key, v⟩ := m
          obtain ⟨name, others⟩ := List.cons.inj names
          dsimp only at name
          subst name
          have fresh : (seen.any fun m => decide (m.1 = f.name)) = false := by
            rw [List.map_append, List.nodup_append, ← past] at nodup
            refine List.any_eq_false.2 fun m hm same => ?_
            exact nodup.2.2 _ (List.mem_map_of_mem hm) _ (List.mem_map_of_mem (.head _))
              (of_decide_eq_true same)
          have tail := ih (front ++ [f]) (seen ++ [(f.name, v)])
            (by simpa using nodup) (by simp [past]) others
          rw [List.append_assoc, List.singleton_append] at tail
          rw [List.map_cons, checkMembers, Field.find?_append_cons nodup]
          simp only [fresh, Bool.false_eq_true, if_false, tail]
          cases check : f.check v with
          | error e => simp [checkAll, check, bind, Except.bind]
          | ok _ => simp [checkAll, check, bind, Except.bind]

theorem readRecord_obj {fields : List Field} {members : List (String × Json)}
    (nodup : (fields.map Field.name).Nodup) (names : members.map (·.1) = fields.map Field.name) :
    readRecord fields (obj members) = do checkAll fields members; return members := by
  have present : (fields.all fun f => f.presence ≠ .required || members.any fun m => m.1 = f.name) := by
    refine List.all_eq_true.2 fun f hf => ?_
    obtain ⟨m, hm, name⟩ := List.mem_map.1 (names ▸ List.mem_map_of_mem hf)
    simp only [Bool.or_eq_true, List.any_eq_true, decide_eq_true_eq]
    exact .inr ⟨m, hm, name⟩
  have checked := checkMembers_eq [] [] nodup rfl names
  rw [List.nil_append, List.nil_append] at checked
  rw [obj, readRecord, checked]
  cases checkAll fields members with
  | error e => rfl
  | ok _ => exact if_pos present

theorem readItemsWith_map {α : Type} {β : Type} {read : Json → Except Refusal α} {item : β → Json}
    (value : β → α) {xs : List β} (h : ∀ b ∈ xs, read (item b) = .ok (value b)) :
    readItemsWith read (xs.map item) = .ok (xs.map value) := by
  induction xs with
  | nil => rfl
  | cons b xs ih =>
      obtain ⟨first, others⟩ := List.forall_mem_cons.1 h
      rw [List.map_cons, readItemsWith, first, ih others]
      rfl

theorem readItemsWith_eq_error {α : Type} {read : Json → Except Refusal α} {items : List Json} {v : Json}
    {e : Refusal} (hv : v ∈ items) (refused : read v = .error e) :
    ∃ e', readItemsWith read items = .error e' := by
  induction hv with
  | head items =>
      rw [readItemsWith, refused]
      exact ⟨e, rfl⟩
  | tail w _ ih =>
      obtain ⟨e', later⟩ := ih
      rw [readItemsWith, later]
      cases read w with
      | error e => exact ⟨e, rfl⟩
      | ok x => exact ⟨e', rfl⟩

theorem readNullable_eq_ok_some {α : Type} {read : Json → Except Refusal α} {v : Json} {x : α}
    (h : readNullable read v = .ok (some x)) : read v = .ok x := by
  unfold readNullable at h
  split at h
  · cases h
  · obtain ⟨y, got, same⟩ := map_eq_ok_iff.1 h
    cases same
    exact got

theorem readNullable_eq_ok_none {α : Type} {read : Json → Except Refusal α} {v : Json}
    (h : readNullable read v = .ok none) : v = null := by
  unfold readNullable at h
  split at h
  · rfl
  · obtain ⟨y, -, same⟩ := map_eq_ok_iff.1 h
    cases same

theorem read_of_readDocument {α : Type} {read : Json → Except Refusal α} {s : String} {x : α}
    (h : readDocument read s = .ok x) : read (Document.read s).value = .ok x := by
  rw [readDocument] at h
  split at h
  · next y got =>
      split at h
      · cases h
        exact got
      · cases h
  · cases h

@[simp] theorem readText_str (s : String) : readText (str s) = .ok s :=
  rfl

theorem natOfLiteral?_toString (n : Nat) : natOfLiteral? (toString n) = some n := by
  rw [natOfLiteral?, Nat.toString_eq_ofList_toDigits, String.toList_ofList]
  exact Decimal.digits?_toDigits n

theorem intOfLiteral?_toString (n : Int) : intOfLiteral? (toString n) = some n := by
  have magnitude := natOfLiteral?_toString n.natAbs
  rw [Numeral.toString_nat] at magnitude
  rw [Numeral.toString_int, Numeral.text_ofInt, intOfLiteral?, String.toList_ofList]
  by_cases negative : n < 0
  · obtain ⟨k, hk⟩ := Nat.exists_eq_succ_of_ne_zero (Int.natAbs_ne_zero.2 (Int.ne_of_lt negative))
    rw [hk] at magnitude
    rw [if_pos negative, hk]
    simp only [magnitude]
    rw [Option.some.injEq]
    omega
  · obtain ⟨c, cs, hc, digit⟩ := Numeral.exists_digit_ofNat n.natAbs
    rw [if_neg negative]
    split
    · next minus =>
        rw [hc] at minus
        cases minus
        cases digit
    · have value : (n.natAbs : Int) = n := by omega
      rw [magnitude]
      exact congrArg some value

theorem readNat64_nat {n : Nat} (fits : Width.fits64 n = true) : readNat64 (nat n) = .ok n := by
  rw [nat, readNat64, natOfLiteral?_toString]
  exact if_pos fits

theorem readInt64_int {n : Int} (fits : Width.fitsSigned64 n = true) : readInt64 (int n) = .ok n := by
  rw [int, readInt64, intOfLiteral?_toString]
  exact if_pos fits

theorem amountOfLiteral_kept (l : Numeral) :
    amountOfLiteral (String.ofList l.kept) =
      if l.isPlain then .ok (Decimal.value l.whole.text) else .error (.amount (String.ofList l.kept)) := by
  rw [amountOfLiteral, Numeral.natOfLiteral?_kept]
  cases l.isPlain <;> rfl

/-- `read` takes the text of `v` exactly under `condition`, then as `x`, and `write` gives `v` again. -/
def TakenIf {α : Type} (read : Json → Except Refusal α) (write : α → Json) (v : Json) (condition : Prop)
    (x : α) :
    Prop :=
  ∃ w, Rereads v w ∧ (condition → read w = .ok x ∧ write x = v) ∧ (¬ condition → ∃ e, read w = .error e)

namespace TakenIf

theorem list {α : Type} {read : Json → Except Refusal α} {write : α → Json} {β : Type} {xs : List β}
    {item : β → Json} {condition : β → Prop} {value : β → α}
    (h : ∀ b ∈ xs, TakenIf read write (item b) (condition b) (value b)) :
    TakenIf (readList read) (fun ys => array (ys.map write)) (array (xs.map item))
      (∀ b ∈ xs, condition b) (xs.map value) := by
  choose! w rereads taken refused using h
  refine ⟨array (xs.map w), .array ?_, fun holds => ⟨?_, ?_⟩, fun fails => ?_⟩
  · exact List.forall₂_map_left_iff.2 (List.forall₂_map_right_iff.2 (List.forall₂_same.2 rereads))
  · exact readItemsWith_map value fun b hb => (taken b hb (holds b hb)).1
  · simp only [List.map_map, array.injEq]
    exact List.map_congr_left fun b hb => (taken b hb (holds b hb)).2
  · obtain ⟨b, hb, other⟩ : ∃ b ∈ xs, ¬ condition b := by simpa using fails
    obtain ⟨e, he⟩ := refused b hb other
    exact readItemsWith_eq_error (List.mem_map_of_mem hb) he

theorem readDocument_eq_ok {α : Type} {read : Json → Except Refusal α} {write : α → Json} {v : Json}
    {condition : Prop} {x : α} (h : TakenIf read write v condition x) (holds : condition) :
    readDocument read v.compact = .ok x ∧ (write x).compact = v.compact := by
  obtain ⟨w, rereads, taken, -⟩ := h
  rw [readDocument_compact rereads, (taken holds).2]
  exact ⟨(taken holds).1, rfl⟩

theorem readDocument_eq_ok_iff {α : Type} {read : Json → Except Refusal α} {write : α → Json} {v : Json}
    {condition : Prop} {x : α} (h : TakenIf read write v condition x) :
    (∃ y, readDocument read v.compact = .ok y) ↔ condition := by
  constructor
  · rintro ⟨y, hy⟩
    obtain ⟨w, rereads, -, refused⟩ := h
    rw [readDocument_compact rereads] at hy
    by_contra other
    obtain ⟨e, he⟩ := refused other
    rw [he] at hy
    cases hy
  · exact fun holds => ⟨x, (h.readDocument_eq_ok holds).1⟩

end TakenIf

end Json

@[simp] theorem Address.ofJson_toJson (a : Address) : ofJson a.toJson = .ok a := by
  simp [ofJson, toJson, parse_text, bind, Except.bind]

@[simp] theorem Address.ofJson?_toJson? (a : Option Address) : ofJson? (toJson? a) = .ok a := by
  cases a with
  | none => rfl
  | some a =>
      have marked : a.text.isEmpty = false := by simp [text]
      simp [ofJson?, toJson?, Json.readNullable, Json.str, Json.readText, marked, parse_text, bind, Except.bind,
        Except.map]

@[simp] theorem TxHash.ofJson_toJson (h : TxHash) : ofJson h.toJson = .ok h := by
  simp [ofJson, toJson, parse_text, bind, Except.bind]

@[simp] theorem Instant.ofJson_toJson (t : Instant) : ofJson t.toJson = .ok t := by
  simp [ofJson, toJson, parse?_text, bind, Except.bind]

end WalletWatch
