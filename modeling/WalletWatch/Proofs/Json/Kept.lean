import WalletWatch.Proofs.Json.RoundTrip

/-!
# Values

`isValue` holds of documents whose numbers are numbers, whose strings and names have texts, and in which
nothing is broken. The text of a value has no control characters and is read as `kept`, the value with its
numbers in the kept form. Both are `Hereditary`, which is the induction over the tree.
-/

namespace WalletWatch

namespace Json

mutual

def isValue : Json → Bool
  | null => true
  | bool _ => true
  | number literal => (literal? literal).isSome
  | string text => text.isSome
  | array items => itemsAreValues items
  | object members => membersAreValues members
  | broken => false

def itemsAreValues : List Json → Bool
  | [] => true
  | item :: items => isValue item && itemsAreValues items

def membersAreValues : List (Option String × Json) → Bool
  | [] => true
  | (key, value) :: members => key.isSome && isValue value && membersAreValues members

end

mutual

def kept : Json → Json
  | null => null
  | bool b => bool b
  | number literal => number ((literal? literal).getD literal)
  | string text => string text
  | array items => array (keptItems items)
  | object members => object (keptMembers members)
  | broken => broken

def keptItems : List Json → List Json
  | [] => []
  | item :: items => kept item :: keptItems items

def keptMembers : List (Option String × Json) → List (Option String × Json)
  | [] => []
  | (key, value) :: members => (key, kept value) :: keptMembers members

end

/-! ## The tree of a value -/

/-- A property of all leaves that passes from the items of a container to the container. -/
structure Hereditary (P : Json → Prop) : Prop where
  null : P null
  bool : ∀ b, P (bool b)
  number : ∀ l : Numeral, P (number (String.ofList l.text))
  str : ∀ s, P (str s)
  array : ∀ items, (∀ v ∈ items, P v) → P (array items)
  obj : ∀ members : List (String × Json), (∀ m ∈ members, P m.2) → P (obj members)

namespace Hereditary

mutual

theorem holds {P : Json → Prop} (step : Hereditary P) : ∀ v : Json, v.isValue = true → P v
  | .null, _ => step.null
  | .bool b, _ => step.bool b
  | .number literal, h => by
      rw [isValue] at h
      obtain ⟨l, rfl⟩ := isSome_literal?_iff.1 h
      exact step.number l
  | .string none, h => by
      rw [isValue] at h
      cases h
  | .string (some s), _ => step.str s
  | .array items, h => by
      rw [isValue] at h
      exact step.array items (step.items_hold items h)
  | .object members, h => by
      rw [isValue] at h
      obtain ⟨named, rfl, each⟩ := step.members_hold members h
      exact step.obj named each
  | .broken, h => by
      rw [isValue] at h
      cases h

theorem items_hold {P : Json → Prop} (step : Hereditary P) :
    ∀ items : List Json, itemsAreValues items = true → ∀ v ∈ items, P v
  | [], _ => List.forall_mem_nil _
  | item :: items, h => by
      rw [itemsAreValues, Bool.and_eq_true] at h
      exact List.forall_mem_cons.2 ⟨step.holds item h.1, step.items_hold items h.2⟩

theorem members_hold {P : Json → Prop} (step : Hereditary P) : ∀ members : List (Option String × Json),
    membersAreValues members = true → ∃ named : List (String × Json),
      members = named.map (fun (key, value) => (some key, value)) ∧ ∀ m ∈ named, P m.2
  | [], _ => ⟨[], rfl, List.forall_mem_nil _⟩
  | (none, value) :: members, h => by
      rw [membersAreValues] at h
      cases h
  | (some key, value) :: members, h => by
      rw [membersAreValues, Bool.and_eq_true, Bool.and_eq_true] at h
      obtain ⟨named, rfl, each⟩ := step.members_hold members h.2
      exact ⟨(key, value) :: named, rfl, List.forall_mem_cons.2 ⟨step.holds value h.1.2, each⟩⟩

end

end Hereditary

/-! ## What is kept -/

theorem literal?_text (l : Numeral) :
    literal? (String.ofList l.text) = some (String.ofList l.kept) := by
  have read := readNumber_text l ends_nil
  rw [List.append_nil] at read
  rw [literal?, String.toList_ofList, read]

theorem keptItems_eq_map (items : List Json) : keptItems items = items.map kept := by
  induction items with
  | nil => rw [keptItems, List.map_nil]
  | cons item items ih => rw [keptItems, List.map_cons, ih]

theorem keptMembers_eq_map (members : List (Option String × Json)) :
    keptMembers members = members.map fun m => (m.1, m.2.kept) := by
  induction members with
  | nil => rw [keptMembers, List.map_nil]
  | cons m members ih => rw [keptMembers, List.map_cons, ih]

theorem kept_number (l : Numeral) :
    (number (String.ofList l.text)).kept = number (String.ofList l.kept) := by
  rw [kept, literal?_text, Option.getD_some]

theorem kept_array (items : List Json) : (array items).kept = array (items.map kept) := by
  rw [kept, keptItems_eq_map]

theorem kept_obj (members : List (String × Json)) :
    (obj members).kept = obj (members.map fun m => (m.1, m.2.kept)) := by
  rw [obj, kept, keptMembers_eq_map, obj, List.map_map, List.map_map]
  rfl

@[simp] theorem kept_str (s : String) : (str s).kept = str s := by
  rw [str, kept]

@[simp] theorem kept_int (n : Int) : (int n).kept = int n := by
  rw [int, Numeral.toString_int, kept_number, Numeral.kept_ofInt]

@[simp] theorem isValue_str (s : String) : (str s).isValue = true := by
  rw [str, isValue, Option.isSome_some]

@[simp] theorem isValue_int (n : Int) : (int n).isValue = true := by
  rw [int, Numeral.toString_int, isValue, literal?_text, Option.isSome_some]

theorem isValue_obj {members : List (String × Json)} :
    (obj members).isValue = true ↔ ∀ m ∈ members, m.2.isValue = true := by
  rw [obj, isValue]
  induction members with
  | nil => simp [membersAreValues]
  | cons m members ih => simp [membersAreValues, ih]

/-! ## Reading a value -/

theorem Rereads.bool (b : Bool) : Rereads (bool b) (bool b) where
  starts := by
    cases b
    · exact ⟨'f', _, rfl, rfl, by decide⟩
    · exact ⟨'t', _, rfl, rfl, by decide⟩
  read _ fuel _ enough := by
    obtain ⟨fuel, rfl⟩ : ∃ n, fuel = n + 1 := ⟨fuel - 1, by cases b <;> simp [print] at enough <;> omega⟩
    cases b <;> rfl

/-- The text of a value is read as the value with its numbers in the kept form. -/
theorem hereditary_rereads : Hereditary fun v => Rereads v v.kept where
  null := by
    rw [kept]
    exact .null
  bool b := by
    rw [kept]
    exact .bool b
  number l := by
    rw [kept_number]
    exact .number l
  str s := by
    rw [kept_str]
    exact .str s
  array items each := by
    rw [kept_array]
    exact .array (List.forall₂_map_right_iff.2 (List.forall₂_same.2 each))
  obj members each := by
    rw [kept_obj]
    exact .obj (List.forall₂_map_right_iff.2 (List.forall₂_same.2 fun m hm => ⟨rfl, each m hm⟩))

/-! ## Control characters -/

def Printable (cs : List Char) : Prop :=
  ∀ c ∈ cs, 0x20 ≤ c.toNat

theorem printable_nil : Printable [] :=
  List.forall_mem_nil _

theorem printable_cons {c : Char} {cs : List Char} : Printable (c :: cs) ↔ 0x20 ≤ c.toNat ∧ Printable cs :=
  List.forall_mem_cons

theorem printable_append {cs ds : List Char} : Printable (cs ++ ds) ↔ Printable cs ∧ Printable ds :=
  List.forall_mem_append

theorem printable_escapeChar (c : Char) : Printable (escapeChar c) := by
  by_cases low : c.toNat < 0x20
  · have every : ∀ n : Fin 0x20, (escapeChar (Char.ofNat n)).all (fun d => 0x20 ≤ d.toNat) = true := by decide
    rw [← Char.ofNat_toNat c]
    exact fun d hd => of_decide_eq_true (List.all_eq_true.1 (every ⟨c.toNat, low⟩) d hd)
  · have itself : 0x20 ≤ c.toNat := Nat.le_of_not_lt low
    unfold escapeChar
    repeat' split
    all_goals simp [Printable, itself]

theorem printable_flatMap (cs : List Char) : Printable (cs.flatMap escapeChar) := by
  intro c hc
  obtain ⟨d, -, escaped⟩ := List.mem_flatMap.1 hc
  exact printable_escapeChar d c escaped

theorem printable_printString (s : String) : Printable (printString s) := by
  rw [printString, List.cons_append, printable_cons, printable_append]
  exact ⟨by decide, printable_flatMap s.toList, by simp [Printable]⟩

theorem Digits.printable (ds : Digits) : Printable ds.text := by
  intro c hc
  have digit := ds.isDigit c hc
  simp only [Char.isDigit, Bool.and_eq_true, decide_eq_true_eq] at digit
  have low := UInt32.le_iff_toNat_le.1 digit.1
  exact Nat.le_trans (by decide) low

theorem Exponent.printable (e : Exponent) : Printable e.text := by
  obtain ⟨capital, sign, ds⟩ := e
  refine printable_cons.2 ⟨by cases capital <;> simp, ?_⟩
  rcases sign with _ | minus
  · exact ds.printable
  · exact printable_cons.2 ⟨by cases minus <;> decide, ds.printable⟩

theorem Numeral.printable (l : Numeral) : Printable l.text := by
  obtain ⟨negative, whole, fraction, exponent, -⟩ := l
  simp only [Numeral.text, printable_append]
  refine ⟨⟨⟨?_, whole.printable⟩, ?_⟩, ?_⟩
  · cases negative <;> simp [signText, Printable]
  · cases fraction with
    | none => exact printable_nil
    | some ds => exact printable_cons.2 ⟨by decide, ds.printable⟩
  · cases exponent with
    | none => exact printable_nil
    | some e => exact e.printable

theorem printable_printItems {items : List Json} (h : ∀ v ∈ items, Printable v.print) :
    Printable (printItems items) := by
  induction items with
  | nil => exact printable_nil
  | cons v items ih =>
      obtain ⟨first, others⟩ := List.forall_mem_cons.1 h
      cases items with
      | nil => exact first
      | cons item items =>
          rw [printItems_cons_cons, printable_append, printable_cons]
          exact ⟨first, by decide, ih others⟩

theorem printable_printMembers {members : List (String × Json)} (h : ∀ m ∈ members, Printable m.2.print) :
    Printable (printMembers (members.map fun (key, value) => (some key, value))) := by
  induction members with
  | nil => exact printable_nil
  | cons m members ih =>
      obtain ⟨first, others⟩ := List.forall_mem_cons.1 h
      have further : Printable (printFurther (members.map fun (key, value) => (some key, value))) := by
        cases members with
        | nil => exact printable_nil
        | cons n members => exact printable_cons.2 ⟨by decide, ih others⟩
      rw [List.map_cons, printMembers_cons]
      simp only [printable_cons, printable_append]
      exact ⟨by decide, printable_flatMap m.1.toList, by decide, by decide, first, further⟩

theorem hereditary_printable : Hereditary fun v => Printable v.print where
  null := by simp [print, Printable]
  bool b := by cases b <;> simp [print, Printable]
  number l := by
    rw [print, String.toList_ofList]
    exact l.printable
  str s := printable_printString s
  array items each := by
    rw [print, List.cons_append, printable_cons, printable_append]
    exact ⟨by decide, printable_printItems each, by simp [Printable]⟩
  obj members each := by
    rw [obj, print, List.cons_append, printable_cons, printable_append]
    exact ⟨by decide, printable_printMembers each, by simp [Printable]⟩

end Json

end WalletWatch
