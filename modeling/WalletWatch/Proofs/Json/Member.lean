import Mathlib.Data.List.Basic
import WalletWatch.Proofs.Json.Record
import WalletWatch.Proofs.Result

/-!
# Members of objects

A record that was read from an object has under each field name what the object has there, so a reader of
records is described by the members of the object, in any order and among any others. A value that was made
of an object has under each name the value of its last member.
-/

namespace WalletWatch

namespace Json

theorem member?_cons (m : Option String × Json) (members : List (Option String × Json)) (key : String) :
    (object (m :: members)).member? key =
      ((object members).member? key).or (if m.1 = some key then some m.2 else none) := by
  simp only [member?, List.reverse_cons, List.find?_append, Option.map_or]
  congr 1
  by_cases same : m.1 = some key <;> simp [same]

theorem member?_nil (key : String) : (object []).member? key = none := rfl

theorem mem_of_member? {members : List (Option String × Json)} {key : String} {v : Json}
    (h : (object members).member? key = some v) : (some key, v) ∈ members := by
  obtain ⟨⟨name, w⟩, found, rfl⟩ := Option.map_eq_some_iff.1 h
  have named : name = some key := by simpa using List.find?_some found
  rw [← named]
  exact List.mem_reverse.1 (List.mem_of_find?_eq_some found)

theorem member?_of_mem {members : List (Option String × Json)} {key : String} {v : Json}
    (distinct : (members.map (·.1)).Nodup) (h : (some key, v) ∈ members) :
    (object members).member? key = some v := by
  induction members with
  | nil => cases h
  | cons m members ih =>
      rw [List.map_cons, List.nodup_cons] at distinct
      rw [member?_cons]
      rcases List.mem_cons.1 h with rfl | later
      · cases other : (object members).member? key with
        | none => simp
        | some w => exact absurd (List.mem_map_of_mem (mem_of_member? other)) distinct.1
      · rw [ih distinct.2 later, Option.some_or]

/-! ## Records -/

namespace Record

def value? (r : Record) (name : String) : Option Json :=
  (r.find? fun m => m.1 = name).map (·.2)

theorem get_of_value? {α : Type} {r : Record} {name : String} {v : Json} (h : r.value? name = some v)
    (read : Json → Except Refusal α) :
    r.get name read = read v := by
  obtain ⟨m, found, rfl⟩ := Option.map_eq_some_iff.1 h
  rw [get, found]

theorem getD_of_value? {α : Type} {r : Record} {name : String} {v : Json} (h : r.value? name = some v)
    (absent : α) (read : Json → Except Refusal α) :
    r.getD name absent read = read v := by
  obtain ⟨m, found, rfl⟩ := Option.map_eq_some_iff.1 h
  rw [getD, found]

theorem getD_of_value?_eq_none {α : Type} {r : Record} {name : String} (h : r.value? name = none)
    (absent : α) (read : Json → Except Refusal α) : r.getD name absent read = .ok absent := by
  rw [getD, Option.map_eq_none_iff.1 h]

theorem exists_of_getD_eq_some {α : Type} {r : Record} {name : String} {read : Json → Except Refusal α}
    {x : α} (h : r.getD name none (readNullable read) = .ok (some x)) :
    ∃ w, r.value? name = some w ∧ read w = .ok x := by
  cases found : r.value? name with
  | none =>
      rw [getD_of_value?_eq_none found] at h
      cases h
  | some w =>
      rw [getD_of_value? found] at h
      exact ⟨w, rfl, readNullable_eq_ok_some h⟩

theorem value?_of_getD_eq_none {α : Type} {r : Record} {name : String} {read : Json → Except Refusal α}
    (h : r.getD name none (readNullable read) = .ok none) :
    r.value? name = none ∨ r.value? name = some null := by
  cases found : r.value? name with
  | none => exact .inl rfl
  | some w =>
      rw [getD_of_value? found] at h
      rw [readNullable_eq_ok_none h]
      exact .inr rfl

theorem value?_snoc (r : Record) (key : String) (v : Json) (name : String) :
    value? (r ++ [(key, v)]) name = (r.value? name).or (if key = name then some v else none) := by
  simp only [value?, List.find?_append, Option.map_or]
  congr 1
  by_cases same : key = name <;> simp [same]

theorem any_eq_isSome (r : Record) (name : String) :
    (r.any fun m => m.1 = name) = (r.value? name).isSome := by
  rw [value?, Option.isSome_map, List.isSome_find?]

end Record

theorem value?_of_checkMembers {fields : List Field} {members : List (Option String × Json)}
    {seen record : Record} {name : String} (checked : checkMembers fields seen members = .ok record)
    (known : Field.find? fields (some name) ≠ none) :
    ((seen.value? name).isSome → (object members).member? name = none) ∧
      record.value? name = (seen.value? name).or ((object members).member? name) := by
  induction members generalizing seen with
  | nil =>
      cases checked
      rw [member?_nil, Option.or_none]
      exact ⟨fun _ => rfl, rfl⟩
  | cons m members ih =>
      obtain ⟨_ | key, v⟩ := m
      · cases checked
      · rw [checkMembers] at checked
        rw [member?_cons]
        split at checked
        · split at checked
          · cases checked
          · next fresh =>
              obtain ⟨-, -, checked⟩ := bind_eq_ok_iff.1 checked
              obtain ⟨once, value⟩ := ih checked
              rw [Record.value?_snoc] at once value
              rw [value]
              by_cases same : key = name
              · subst same
                have unseen : seen.value? key = none := by
                  rwa [Record.any_eq_isSome, Option.not_isSome_iff_eq_none] at fresh
                have last : (object members).member? key = none := once (by simp [unseen])
                simp [unseen, last]
              · refine ⟨fun there => ?_, ?_⟩
                · simp [once (by simp [there]), same]
                · simp [same]
        · next unknown =>
            split at checked
            · have other : key ≠ name := fun same => known (same ▸ unknown)
              obtain ⟨once, value⟩ := ih checked
              simp only [Option.some.injEq, other, if_false, Option.or_none]
              exact ⟨once, value⟩
            · cases checked

theorem value?_of_readRecord {fields : List Field} {members : List (Option String × Json)} {name : String}
    {r : Record} (read : readRecord fields (object members) = .ok r)
    (known : Field.find? fields (some name) ≠ none) : r.value? name = (object members).member? name := by
  obtain ⟨record, checked, all⟩ := bind_eq_ok_iff.1 read
  split at all
  · cases all
    have value := (value?_of_checkMembers checked known).2
    rwa [show Record.value? [] name = none from rfl, Option.none_or] at value
  · cases all

/-- An object whose names are texts without repetitions, and whose values are JSON. -/
structure Tidy (members : List (Option String × Json)) : Prop where
  named : ∀ m ∈ members, ∃ key, m.1 = some key
  distinct : (members.map (·.1)).Nodup
  whole : ∀ m ∈ members, m.2.isWhole = true

theorem Tidy.tail {members : List (Option String × Json)} {m : Option String × Json}
    (tidy : Tidy (m :: members)) : Tidy members where
  named m' hm := tidy.named m' (.tail _ hm)
  distinct := (List.nodup_cons.1 tidy.distinct).2
  whole m' hm := tidy.whole m' (.tail _ hm)

theorem exists_checkMembers {fields : List Field} {members : List (Option String × Json)} {seen : Record}
    (tidy : Tidy members) (fresh : ∀ m ∈ members, ∀ key, m.1 = some key → seen.value? key = none)
    (accepts : ∀ m ∈ members, ∀ f, Field.find? fields m.1 = some f → f.check m.2 = .ok ()) :
    ∃ record, checkMembers fields seen members = .ok record := by
  induction members generalizing seen with
  | nil => exact ⟨seen, rfl⟩
  | cons m members ih =>
      obtain ⟨name, v⟩ := m
      obtain ⟨key, named⟩ := tidy.named _ (.head _)
      dsimp only at named
      subst named
      rw [checkMembers]
      have later : ∀ m ∈ members, ∀ f, Field.find? fields m.1 = some f → f.check m.2 = .ok () :=
        fun m hm => accepts m (.tail _ hm)
      cases found : Field.find? fields (some key) with
      | none =>
          dsimp only
          rw [if_pos (tidy.whole _ (.head _))]
          exact ih tidy.tail (fun m hm => fresh m (.tail _ hm)) later
      | some f =>
          dsimp only
          rw [Record.any_eq_isSome, fresh _ (.head _) key rfl, if_neg (by simp),
            accepts _ (.head _) f found]
          refine ih tidy.tail (fun m hm name named => ?_) later
          have other : key ≠ name := by
            rintro rfl
            exact (List.nodup_cons.1 tidy.distinct).1 (List.mem_map.2 ⟨m, hm, named⟩)
          rw [Record.value?_snoc, fresh m (.tail _ hm) name named, if_neg other]
          rfl

theorem Field.find?_ne_none {fields : List Field} {f : Field} (h : f ∈ fields) :
    Field.find? fields (some f.name) ≠ none := by
  intro none
  simpa using List.find?_eq_none.1 none f h

theorem exists_readRecord {fields : List Field} {members : List (Option String × Json)}
    (tidy : Tidy members)
    (accepts : ∀ f ∈ fields, ∀ v, (object members).member? f.name = some v → f.check v = .ok ())
    (present : ∀ f ∈ fields, f.presence = .required → (object members).member? f.name ≠ none) :
    ∃ r, readRecord fields (object members) = .ok r ∧
      ∀ f ∈ fields, r.value? f.name = (object members).member? f.name := by
  obtain ⟨record, checked⟩ : ∃ record, checkMembers fields [] members = .ok record := by
    refine exists_checkMembers tidy (fun _ _ _ _ => rfl) fun m hm f found => ?_
    obtain ⟨key, v⟩ := m
    have named : some f.name = key := by simpa using List.find?_some found
    subst named
    exact accepts f (List.mem_of_find?_eq_some found) v (member?_of_mem tidy.distinct hm)
  have value : ∀ f ∈ fields, record.value? f.name = (object members).member? f.name := by
    intro f hf
    have value := (value?_of_checkMembers checked (Field.find?_ne_none hf)).2
    rwa [show Record.value? [] f.name = none from rfl, Option.none_or] at value
  have all : (fields.all fun f => f.presence ≠ .required || record.any fun m => m.1 = f.name) := by
    refine List.all_eq_true.2 fun f hf => ?_
    rw [Record.any_eq_isSome, value f hf, Bool.or_eq_true, decide_eq_true_eq]
    by_cases required : f.presence = .required
    · exact .inr (Option.isSome_iff_ne_none.2 (present f hf required))
    · exact .inl required
  refine ⟨record, ?_, value⟩
  rw [readRecord, checked]
  exact if_pos all

end Json

end WalletWatch
