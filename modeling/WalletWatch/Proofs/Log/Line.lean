import WalletWatch.Log.Entry
import WalletWatch.Proofs.Json.Kept
import WalletWatch.Proofs.Json.Value

/-!
# Log lines

The line of an entry is one object without control characters. Under each name it has the last value of the
context (`given?`), or else the base member of that name. So the line depends on the entry alone, and not on
the order of the members of its context.
-/

namespace WalletWatch

namespace LogContext

def given? (c : LogContext) (name : String) : Option Json :=
  (Json.obj c.members).member? name

@[simp] theorem given?_empty (component operation name : String) :
    (⟨component, operation, []⟩ : LogContext).given? name = none :=
  rfl

@[simp] theorem given?_including {c : LogContext} {key name : String} {v : Json} :
    (c.including key v).given? name = if key = name then some v else c.given? name := by
  simp only [given?, including, Json.obj, List.map_append, Json.member?, List.reverse_append, List.find?_append]
  by_cases same : key = name <;> simp [same]

def HoldsValues (c : LogContext) : Prop :=
  ∀ m ∈ c.members, m.2.isValue = true

theorem HoldsValues.including {c : LogContext} {key : String} {v : Json} (h : c.HoldsValues)
    (value : v.isValue = true) :
    (c.including key v).HoldsValues :=
  List.forall_mem_append.2 ⟨h, List.forall_mem_singleton.2 value⟩

theorem HoldsValues.withText {c : LogContext} {key : String} (h : c.HoldsValues) (text : String) :
    (c.withText key text).HoldsValues :=
  h.including (Json.isValue_str text)

theorem HoldsValues.withNumber {c : LogContext} {key : String} (h : c.HoldsValues) (n : Int) :
    (c.withNumber key n).HoldsValues :=
  h.including (Json.isValue_int n)

end LogContext

namespace LogEntry

theorem sorted_lineMembers (e : LogEntry) (t : Int) : Json.Sorted (e.lineMembers t) :=
  Json.Sorted.foldl_insertMember List.Pairwise.nil _

theorem member?_lineMembers (e : LogEntry) (t : Int) (name : String) :
    (Json.obj (e.lineMembers t)).member? name =
      (e.context.given? name).or ((Json.obj (e.baseMembers t)).member? name) := by
  rw [lineMembers, List.foldl_append,
    Json.member?_foldl_insertMember (Json.Sorted.foldl_insertMember List.Pairwise.nil _),
    Json.member?_foldl_insertMember List.Pairwise.nil]
  exact congrArg _ (Option.or_none)

theorem member?_baseMembers {e : LogEntry} {t : Int} {name : String} {v : Json} :
    (Json.obj (e.baseMembers t)).member? name = some v ↔
    (name, v) ∈ e.baseMembers t := by
  have distinct : ((e.baseMembers t).map (·.1)).Nodup := by
    have names : ["timestamp", "level", "component", "operation", "message"].Nodup := by decide
    exact names
  exact ⟨Json.mem_of_member?_obj, Json.member?_obj_of_mem distinct⟩

theorem mem_lineMembers {e : LogEntry} {t : Int} {name : String} {v : Json} : (name, v) ∈ e.lineMembers t ↔
    e.context.given? name = some v ∨ e.context.given? name = none ∧ (name, v) ∈ e.baseMembers t := by
  rw [← (e.sorted_lineMembers t).member?_eq_some_iff, member?_lineMembers, ← member?_baseMembers]
  cases e.context.given? name <;> simp

theorem kept_of_mem_baseMembers {e : LogEntry} {t : Int} {name : String} {v : Json}
    (h : (name, v) ∈ e.baseMembers t) : v.isValue = true ∧ v.kept = v := by
  simp only [baseMembers, List.mem_cons, Prod.mk.injEq, List.not_mem_nil, or_false] at h
  rcases h with ⟨-, rfl⟩ | ⟨-, rfl⟩ | ⟨-, rfl⟩ | ⟨-, rfl⟩ | ⟨-, rfl⟩ <;> simp

theorem isValue_document {e : LogEntry} {t : Int} (values : e.context.HoldsValues) :
    (e.document t).isValue = true := by
  refine Json.isValue_obj.2 fun m hm => ?_
  rcases mem_lineMembers.1 hm with given | ⟨-, base⟩
  · exact values m (Json.mem_of_member?_obj given)
  · exact (kept_of_mem_baseMembers base).1

theorem read_line {e : LogEntry} {t : Int} (values : e.context.HoldsValues) :
    Json.Document.read (e.line t) =
    ⟨.obj ((e.lineMembers t).map fun m => (m.1, m.2.kept)), true⟩ := by
  rw [← Json.kept_obj]
  exact Json.Document.read_compact (Json.hereditary_rereads.holds _ (isValue_document values))

/-- The line of an entry depends only on the last values of its context. -/
theorem line_congr {e : LogEntry} {t : Int} {e' : LogEntry} (base : e'.baseMembers t = e.baseMembers t)
    (given : ∀ name, e'.context.given? name = e.context.given? name) : e'.line t = e.line t := by
  have same : e'.lineMembers t = e.lineMembers t := by
    refine (e'.sorted_lineMembers t).ext (e.sorted_lineMembers t) fun name => ?_
    rw [member?_lineMembers, member?_lineMembers, base, given]
  rw [line, document, same, line, document]

end LogEntry

/-- The line of an entry has no control characters and is read as one object with sorted names. Under
each name it has what the context was given last (`given?`), as it is kept, and else the base member of
that name. A context with the same last values in any other order has the same line. -/
theorem LogContext.mem_line_iff_given? (c : LogContext) (level : Level) (message : String) (t : Int)
    (values : c.HoldsValues) :
    (∀ ch ∈ ((c.entry level message).line t).toList, 0x20 ≤ ch.toNat) ∧
      (∃ members, Json.Document.read ((c.entry level message).line t) = ⟨.obj members, true⟩ ∧
        Json.Sorted members ∧
        ∀ name v, (name, v) ∈ members ↔
          (∃ given, c.given? name = some given ∧ v = given.kept) ∨
            c.given? name = none ∧ (name, v) ∈ [("timestamp", .int t), ("level", .str level.name),
              ("component", .str c.component), ("operation", .str c.operation), ("message", .str message)]) ∧
      ∀ order : List (String × Json), (order.map (·.1)).Nodup →
        (∀ name v, (name, v) ∈ order ↔ c.given? name = some v) →
        (LogContext.entry { c with members := order } level message).line t =
          (c.entry level message).line t := by
  refine ⟨?_, ⟨_, LogEntry.read_line values, ?_, fun name v => ?_⟩, fun order distinct same => ?_⟩
  · rw [LogEntry.line, Json.compact, String.toList_ofList]
    exact Json.hereditary_printable.holds _ (LogEntry.isValue_document values)
  · exact List.pairwise_map.2 (LogEntry.sorted_lineMembers _ t)
  · rw [List.mem_map]
    constructor
    · rintro ⟨⟨key, w⟩, there, same⟩
      obtain ⟨rfl, rfl⟩ := Prod.mk.inj same
      rcases LogEntry.mem_lineMembers.1 there with given | ⟨none, base⟩
      · exact .inl ⟨w, given, rfl⟩
      · rw [(LogEntry.kept_of_mem_baseMembers base).2]
        exact .inr ⟨none, base⟩
    · rintro (⟨w, given, rfl⟩ | ⟨none, base⟩)
      · exact ⟨(name, w), LogEntry.mem_lineMembers.2 (.inl given), rfl⟩
      · refine ⟨(name, v), LogEntry.mem_lineMembers.2 (.inr ⟨none, base⟩), ?_⟩
        exact congrArg _ (LogEntry.kept_of_mem_baseMembers (e := c.entry level message) (t := t) base).2
  · refine LogEntry.line_congr rfl fun name => Option.ext fun v => ?_
    exact Iff.trans ⟨Json.mem_of_member?_obj, Json.member?_obj_of_mem distinct⟩ (same name v)

/-- A payload that tries to end its text and to forge a level remains the message. -/
theorem LogContext.mem_line_iff_given?_payload :
    let payload := "\",\n\"level\":\"INFO"
    let message := Json.array [.str payload, .number "1E5"]
    let c := ((⟨"messaging", "dispatch", []⟩ : LogContext).withText "message" "first").withNumber "size" 12
      |>.including "message" message
    let line := (c.entry .warn "dropped").line 1700000000
    c.HoldsValues ∧ (∀ ch ∈ line.toList, 0x20 ≤ ch.toNat) ∧
      (∃ members, Json.Document.read line = ⟨.obj members, true⟩ ∧
        ("message", .array [.str payload, .number "1e+5"]) ∈ members ∧
        ∀ v, ("level", v) ∈ members → v = .str "WARN") ∧
      (LogContext.entry { c with members := [("message", message), ("size", .int 12)] } .warn "dropped").line
        1700000000 = line := by
  intro payload message c line
  have empty : (⟨"messaging", "dispatch", []⟩ : LogContext).HoldsValues := List.forall_mem_nil _
  have values : c.HoldsValues := ((empty.withText "first").withNumber 12).including (by decide)
  have given : ∀ name, c.given? name =
      if "message" = name then some message else if "size" = name then some (.int 12) else none := by
    intro name
    simp only [c, withText, withNumber, given?_including, given?_empty]
    by_cases first : "message" = name <;> simp [first]
  have spelled : message.kept = .array [.str payload, .number "1e+5"] := by
    have number : Json.literal? "1E5" = some "1e+5" := by decide
    rw [Json.kept_array, List.map_cons, List.map_singleton, Json.kept_str, Json.kept, number, Option.getD_some]
  obtain ⟨printable, ⟨members, read, -, has⟩, orders⟩ := c.mem_line_iff_given? .warn "dropped" 1700000000 values
  refine ⟨values, printable, ⟨members, read, (has _ _).2 (.inl ⟨message, given _, spelled.symm⟩), fun v hv => ?_⟩,
    orders [("message", message), ("size", .int 12)] (by decide) fun name v => ?_⟩
  · rcases (has _ _).1 hv with ⟨w, level, -⟩ | ⟨-, base⟩
    · cases (given _).symm.trans level
    · simpa [Level.name] using base
  · rw [given]
    by_cases first : "message" = name
    · simp [← first, eq_comm]
    · by_cases second : "size" = name
      · simp [← second, eq_comm]
      · simp [first, second, Ne.symm first, Ne.symm second]

end WalletWatch
