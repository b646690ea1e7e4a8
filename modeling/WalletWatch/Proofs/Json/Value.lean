import Mathlib.Data.String.Basic
import WalletWatch.Proofs.Json.Member

/-!
# Documents as values

A reader of values keeps its members sorted by name, with the last member of each name, so a value has under
each name the value of what the object has there. The bound on embedded documents decides whether there is a
value, but not which one (`parseEmbedded?_agree`).
-/

namespace WalletWatch

namespace Json

/-! ## Sorted members -/

def Sorted (members : List (String × Json)) : Prop :=
  members.Pairwise fun m n => m.1 < n.1

theorem member?_obj_cons (key : String) (v : Json) (members : List (String × Json)) (name : String) :
    (obj ((key, v) :: members)).member? name =
      ((obj members).member? name).or (if key = name then some v else none) := by
  simp only [obj, List.map_cons, member?_cons, Option.some.injEq]

theorem member?_obj_eq_none {members : List (String × Json)} {name : String}
    (below : ∀ m ∈ members, name < m.1) : (obj members).member? name = none := by
  cases found : (obj members).member? name with
  | none => rfl
  | some v =>
      obtain ⟨m, there, same⟩ := List.mem_map.1 (mem_of_member? found)
      obtain ⟨named, -⟩ := Prod.mk.inj same
      exact absurd (Option.some.inj named).symm (below m there).ne

theorem mem_of_member?_obj {members : List (String × Json)} {name : String} {v : Json}
    (h : (obj members).member? name = some v) : (name, v) ∈ members := by
  obtain ⟨⟨key, w⟩, there, same⟩ := List.mem_map.1 (mem_of_member? h)
  cases same
  exact there

theorem member?_obj_of_mem {members : List (String × Json)} {name : String} {v : Json}
    (distinct : (members.map (·.1)).Nodup) (h : (name, v) ∈ members) :
    (obj members).member? name = some v := by
  refine member?_of_mem ?_ (List.mem_map_of_mem h)
  rw [List.map_map]
  exact List.pairwise_map.2 ((List.pairwise_map.1 distinct).imp fun other same => other (Option.some.inj same))

theorem mem_of_mem_insertMember {key : String} {v : Json} {m : String × Json}
    {members : List (String × Json)} (h : m ∈ insertMember key v members) : m = (key, v) ∨ m ∈ members := by
  induction members with
  | nil => exact .inl (List.mem_singleton.1 h)
  | cons n members ih =>
      rw [insertMember] at h
      split at h
      · exact List.mem_cons.1 h
      · split at h
        · exact (List.mem_cons.1 h).imp_right (.tail _)
        · rcases List.mem_cons.1 h with rfl | h
          · exact .inr (.head _)
          · exact (ih h).imp_right (.tail _)

theorem Sorted.insertMember {members : List (String × Json)} (sorted : Sorted members) (key : String)
    (v : Json) : Sorted (insertMember key v members) := by
  induction members with
  | nil => exact List.pairwise_singleton _ _
  | cons n members ih =>
      obtain ⟨first, rest⟩ := List.pairwise_cons.1 sorted
      rw [Json.insertMember]
      split
      · next before =>
          refine List.pairwise_cons.2 ⟨fun m hm => ?_, sorted⟩
          rcases List.mem_cons.1 hm with rfl | hm
          · exact before
          · exact before.trans (first m hm)
      · next notBefore =>
          split
          · next same => exact List.pairwise_cons.2 ⟨fun m hm => same ▸ first m hm, rest⟩
          · next other =>
              refine List.pairwise_cons.2 ⟨fun m hm => ?_, ih rest⟩
              rcases mem_of_mem_insertMember hm with rfl | hm
              · exact ((lt_trichotomy key n.1).resolve_left notBefore).resolve_left other
              · exact first m hm

theorem member?_insertMember {members : List (String × Json)} (sorted : Sorted members) (key : String)
    (v : Json) (name : String) :
    (obj (insertMember key v members)).member? name =
      if key = name then some v else (obj members).member? name := by
  induction members with
  | nil => rw [insertMember, member?_obj_cons]; rfl
  | cons n members ih =>
      obtain ⟨k, w⟩ := n
      obtain ⟨first, rest⟩ := List.pairwise_cons.1 sorted
      rw [insertMember]
      split
      · next before =>
          rw [member?_obj_cons]
          split
          · next same =>
              subst same
              -- What goes in front of the first member is below all of them, so its name is nowhere else.
              have below : ∀ m ∈ (k, w) :: members, key < m.1 := by
                intro m hm
                rcases List.mem_cons.1 hm with rfl | hm
                · exact before
                · exact before.trans (first m hm)
              rw [member?_obj_eq_none below, Option.none_or]
          · rw [Option.or_none]
      · split
        · next same =>
            subst same
            rw [member?_obj_cons, member?_obj_cons]
            split
            · next named =>
                subst named
                rw [member?_obj_eq_none first, Option.none_or]
            · rfl
        · rw [member?_obj_cons, member?_obj_cons, ih rest]
          split <;> rfl

theorem Sorted.member?_eq_some_iff {members : List (String × Json)} (sorted : Sorted members) {name : String}
    {v : Json} : (obj members).member? name = some v ↔ (name, v) ∈ members :=
  ⟨mem_of_member?_obj, member?_obj_of_mem (List.pairwise_map.2 (sorted.imp ne_of_lt))⟩

theorem Sorted.ext {members others : List (String × Json)} (sorted : Sorted members) (sorted' : Sorted others)
    (same : ∀ name, (obj members).member? name = (obj others).member? name) : members = others := by
  have there : ∀ m, m ∈ members ↔ m ∈ others := by
    rintro ⟨name, v⟩
    rw [← sorted.member?_eq_some_iff, same name, sorted'.member?_eq_some_iff]
  have distinct : ∀ {ms : List (String × Json)}, Sorted ms → ms.Nodup :=
    fun sorted => sorted.imp fun before => ne_of_apply_ne Prod.fst before.ne
  refine ((List.perm_ext_iff_of_nodup (distinct sorted) (distinct sorted')).2 there).eq_of_pairwise ?_ sorted sorted'
  exact fun m n _ _ before behind => absurd before behind.asymm

theorem Sorted.foldl_insertMember {seen : List (String × Json)} (sorted : Sorted seen)
    (members : List (String × Json)) :
    Sorted (members.foldl (fun sorted m => Json.insertMember m.1 m.2 sorted) seen) := by
  induction members generalizing seen with
  | nil => exact sorted
  | cons m members ih => exact ih (sorted.insertMember m.1 m.2)

/-- Of several members with one name the last one counts. -/
theorem member?_foldl_insertMember {seen : List (String × Json)} (sorted : Sorted seen)
    (members : List (String × Json)) (name : String) :
    (obj (members.foldl (fun sorted m => Json.insertMember m.1 m.2 sorted) seen)).member? name =
      ((obj members).member? name).or ((obj seen).member? name) := by
  induction members generalizing seen with
  | nil => rfl
  | cons m members ih =>
      obtain ⟨key, v⟩ := m
      rw [List.foldl_cons, ih (sorted.insertMember key v), member?_insertMember sorted, member?_obj_cons]
      cases (obj members).member? name with
      | some w => rfl
      | none => by_cases same : key = name <;> simp [same]

/-! ## Values of objects -/

theorem member?_of_membersToValue? {embedded : String → Option Json} {depth : Nat}
    {members : List (Option String × Json)} {seen sorted : List (String × Json)}
    (made : membersToValue? embedded depth seen members = some sorted) (order : Sorted seen)
    (name : String) :
    (∀ w, (object members).member? name = some w →
      ∃ x, toValueWith? embedded depth w = some x ∧ (obj sorted).member? name = some x) ∧
    ((object members).member? name = none → (obj sorted).member? name = (obj seen).member? name) := by
  induction members generalizing seen with
  | nil =>
      rw [membersToValue?] at made
      cases made
      exact ⟨nofun, fun _ => rfl⟩
  | cons m members ih =>
      obtain ⟨_ | key, w⟩ := m
      · rw [membersToValue?] at made
        cases made
      · rw [membersToValue?] at made
        obtain ⟨x, value, made⟩ := Option.bind_eq_some_iff.1 made
        obtain ⟨later, absent⟩ := ih made (order.insertMember key x)
        rw [member?_insertMember order] at absent
        rw [member?_cons]
        cases found : (object members).member? name with
        | some w' =>
            rw [Option.some_or]
            exact ⟨fun u same => later u (found.trans same), nofun⟩
        | none =>
            rw [Option.none_or, absent found]
            by_cases same : key = name
            · simp [same, value]
            · simp [same]

theorem exists_membersToValue? {embedded : String → Option Json} {depth : Nat}
    {members : List (Option String × Json)} {v : Json}
    (value : toValueWith? embedded depth (object members) = some v)
    (ordinary : ∃ m ∈ members, m.1 ≠ some numberKey ∧ m.1 ≠ some documentKey) :
    ∃ sorted, v = obj sorted ∧ membersToValue? embedded (depth - 1) [] members = some sorted := by
  obtain ⟨m, there, noNumber, noDocument⟩ := ordinary
  cases members with
  | nil => cases there
  | cons first members =>
      obtain ⟨key, w⟩ := first
      unfold toValueWith? at value
      split at value
      · cases value
      · split at value
        · next number =>
          split at value
          · obtain rfl := List.mem_singleton.1 there
            exact absurd number noNumber
          · cases value
        · split at value
          · next document =>
            split at value
            · obtain rfl := List.mem_singleton.1 there
              exact absurd document noDocument
            · cases value
          · obtain ⟨sorted, made, rfl⟩ := Option.map_eq_some_iff.1 value
            exact ⟨sorted, rfl, made⟩

/-! ## The bound on the embedding -/

/-- Two readers of embedded documents that never read a text differently. -/
def Agree (embedded embedded' : String → Option Json) : Prop :=
  ∀ s v w, embedded s = some v → embedded' s = some w → v = w

mutual

theorem toValueWith?_agree {embedded embedded' : String → Option Json} (agree : Agree embedded embedded') :
    ∀ (depth : Nat) (u : Json) {v w : Json},
    toValueWith? embedded depth u = some v → toValueWith? embedded' depth u = some w → v = w
  | _, null, _, _, hv, hw => by
      rw [toValueWith?] at hv hw
      exact Option.some.inj (hv.symm.trans hw)
  | _, bool b, _, _, hv, hw => by
      rw [toValueWith?] at hv hw
      exact Option.some.inj (hv.symm.trans hw)
  | _, number l, _, _, hv, hw => by
      rw [toValueWith?] at hv hw
      exact Option.some.inj (hv.symm.trans hw)
  | _, string (some s), _, _, hv, hw => by
      rw [toValueWith?] at hv hw
      exact Option.some.inj (hv.symm.trans hw)
  | _, string none, _, _, hv, _ => by
      rw [toValueWith?] at hv
      cases hv
  | depth, array items, _, _, hv, hw => by
      unfold toValueWith? at hv hw
      split at hv
      · cases hv
      · next room =>
        rw [if_neg room] at hw
        obtain ⟨vs, readV, rfl⟩ := Option.map_eq_some_iff.1 hv
        obtain ⟨ws, readW, rfl⟩ := Option.map_eq_some_iff.1 hw
        rw [itemsToValue?_agree agree (depth - 1) items readV readW]
  | depth, object [], _, _, hv, hw => by
      rw [toValueWith?] at hv hw
      exact Option.some.inj (hv.symm.trans hw)
  | depth, object ((key, value) :: members), _, _, hv, hw => by
      unfold toValueWith? at hv hw
      split at hv
      · cases hv
      · next room =>
        rw [if_neg room] at hw
        split at hv
        · next number =>
          rw [if_pos number] at hw
          exact Option.some.inj (hv.symm.trans hw)
        · next noNumber =>
          rw [if_neg noNumber] at hw
          split at hv
          · next document =>
            rw [if_pos document] at hw
            -- The one place where the readers of embedded documents are asked.
            split at hv
            · exact agree _ _ _ hv hw
            · cases hv
          · next noDocument =>
            rw [if_neg noDocument] at hw
            obtain ⟨vs, readV, rfl⟩ := Option.map_eq_some_iff.1 hv
            obtain ⟨ws, readW, rfl⟩ := Option.map_eq_some_iff.1 hw
            rw [membersToValue?_agree agree (depth - 1) [] ((key, value) :: members) readV readW]
  | _, broken, _, _, hv, _ => by
      rw [toValueWith?] at hv
      cases hv

theorem itemsToValue?_agree {embedded embedded' : String → Option Json} (agree : Agree embedded embedded') :
    ∀ (depth : Nat) (items : List Json)
    {vs ws : List Json}, itemsToValue? embedded depth items = some vs →
      itemsToValue? embedded' depth items = some ws → vs = ws
  | _, [], _, _, hv, hw => by
      rw [itemsToValue?] at hv hw
      exact Option.some.inj (hv.symm.trans hw)
  | depth, item :: items, _, _, hv, hw => by
      rw [itemsToValue?] at hv hw
      obtain ⟨v, readV, hv⟩ := Option.bind_eq_some_iff.1 hv
      obtain ⟨vs, readVs, hv⟩ := Option.bind_eq_some_iff.1 hv
      obtain ⟨w, readW, hw⟩ := Option.bind_eq_some_iff.1 hw
      obtain ⟨ws, readWs, hw⟩ := Option.bind_eq_some_iff.1 hw
      cases hv
      cases hw
      rw [toValueWith?_agree agree depth item readV readW, itemsToValue?_agree agree depth items readVs readWs]

theorem membersToValue?_agree {embedded embedded' : String → Option Json}
    (agree : Agree embedded embedded') : ∀ (depth : Nat) (sorted : List (String × Json))
    (members : List (Option String × Json)) {vs ws : List (String × Json)},
    membersToValue? embedded depth sorted members = some vs →
      membersToValue? embedded' depth sorted members = some ws → vs = ws
  | _, _, [], _, _, hv, hw => by
      rw [membersToValue?] at hv hw
      exact Option.some.inj (hv.symm.trans hw)
  | _, _, (none, _) :: _, _, _, hv, _ => by
      rw [membersToValue?] at hv
      cases hv
  | depth, sorted, (some key, value) :: members, _, _, hv, hw => by
      rw [membersToValue?] at hv hw
      obtain ⟨v, readV, hv⟩ := Option.bind_eq_some_iff.1 hv
      obtain ⟨w, readW, hw⟩ := Option.bind_eq_some_iff.1 hw
      rw [toValueWith?_agree agree depth value readV readW] at hv
      exact membersToValue?_agree agree depth (insertMember key w sorted) members hv hw

end

theorem parseEmbedded?_eq_some {bound : Nat} {s : String} {v : Json}
    (parsed : parseEmbedded? (bound + 1) s = some v) :
    (Document.read s).value.toValueWith? (parseEmbedded? bound) maxDepth = some v ∧
      (Document.read s).ends = true := by
  rw [parseEmbedded?] at parsed
  split at parsed
  · next value =>
      split at parsed
      · next ends =>
          cases parsed
          exact ⟨value, ends⟩
      · cases parsed
  · cases parsed

/-- The bounds on the nesting do not change what is read, if it can be read. -/
theorem parseEmbedded?_agree (bound bound' : Nat) :
    Agree (parseEmbedded? bound) (parseEmbedded? bound') := by
  induction bound generalizing bound' with
  | zero => exact fun _ _ _ hv => by cases hv
  | succ bound ih =>
      intro s v w hv hw
      cases bound' with
      | zero => cases hw
      | succ bound' =>
          exact toValueWith?_agree (ih bound') _ _ (parseEmbedded?_eq_some hv).1
            (parseEmbedded?_eq_some hw).1

theorem member?_of_parseValue? {s : String} {v : Json} {members : List (Option String × Json)}
    (parsed : parseValue? s = some v) (document : (Document.read s).value = object members)
    (ordinary : ∃ m ∈ members, m.1 ≠ some numberKey ∧ m.1 ≠ some documentKey) (name : String) :
    (∀ w, (object members).member? name = some w →
      ∃ x, toValueWith? (parseEmbedded? s.length) (maxDepth - 1) w = some x ∧ v.member? name = some x) ∧
    ((object members).member? name = none → v.member? name = none) := by
  have value := (parseEmbedded?_eq_some parsed).1
  rw [document] at value
  obtain ⟨sorted, rfl, made⟩ := exists_membersToValue? value ordinary
  exact member?_of_membersToValue? made List.Pairwise.nil name

theorem parseValue?_agree (bound : Nat) : Agree parseValue? (parseEmbedded? bound) :=
  fun s => parseEmbedded?_agree (s.length + 1) bound s

end Json

end WalletWatch
