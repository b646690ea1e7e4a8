import WalletWatch.Headers.Message
import WalletWatch.Node.Reply
import WalletWatch.Proofs.Json.RoundTrip
import WalletWatch.Proofs.Json.Value

/-!
# Two readers of replies

Over HTTP a reply is read as a record by `Reply.read`, and over the socket `confirm` looks up members of a
value. They agree on replies without an error. An error that is null is no error in a record, but a
rejection for `confirm`.
-/

namespace WalletWatch

theorem Json.readAny_eq_ok {v w : Json} (h : v.readAny = .ok w) :
    v.toValueWith? parseValue? (maxDepth - 1) = some w := by
  rw [readAny] at h
  split at h
  · next value =>
      cases h
      exact value
  · cases h

/-! ## Replies -/

theorem Reply.exists_result_of_read {s t : String} {members : List (Option String × Json)}
    (document : (Json.Document.read s).value = .object members) (accepted : read s = .ok (.str t)) :
    (∃ w, (Json.object members).member? "result" = some w ∧ w.readAny = .ok (.str t)) ∧
      ((Json.object members).member? "error" = none ∨
        (Json.object members).member? "error" = some .null) := by
  rw [read] at accepted
  split at accepted
  · next reply got =>
      have got := Json.read_of_readDocument got
      rw [document] at got
      obtain ⟨record, fields, got⟩ := bind_eq_ok_iff.1 got
      obtain ⟨result, gotResult, got⟩ := bind_eq_ok_iff.1 got
      obtain ⟨error, gotError, got⟩ := bind_eq_ok_iff.1 got
      cases got
      have resultValue : record.value? "result" = (Json.object members).member? "result" :=
        Json.value?_of_readRecord fields (Json.Field.find?_ne_none (.tail _ (.head _)))
      have errorValue : record.value? "error" = (Json.object members).member? "error" :=
        Json.value?_of_readRecord fields (Json.Field.find?_ne_none (.tail _ (.tail _ (.head _))))
      cases error with
      | some e => cases accepted
      | none =>
          have isText : result.getD .null = .str t := Except.ok.inj accepted
          cases result with
          | none => cases isText
          | some v =>
              cases isText
              rw [← resultValue, ← errorValue]
              exact ⟨Json.Record.exists_of_getD_eq_some gotResult, Json.Record.value?_of_getD_eq_none gotError⟩
  · cases accepted

namespace Headers

def Answers (id : Nat) (v : Json) : Prop :=
  (v.member? "id").bind nat64? = some id

instance (id : Nat) (v : Json) : Decidable (Answers id v) :=
  inferInstanceAs (Decidable (_ = _))

def PassedOver : Message → Prop
  | .text s => ∃ v, Json.parseValue? s = some v ∧ ¬ Answers 1 v
  | .other => True
  | _ => False

theorem Answers.exists_number {id : Nat} {v : Json} (h : Answers id v) :
    ∃ members literal, v = .object members ∧ v.member? "id" = some (.number literal) ∧
      nat64? (.number literal) = some id := by
  obtain ⟨w, found, number⟩ := Option.bind_eq_some_iff.1 h
  cases v with
  | object members =>
      cases w with
      | number literal => exact ⟨members, literal, rfl, found, number⟩
      | _ => cases number
  | _ => cases found

theorem confirmation?_eq_ok_iff {s t : String} :
    confirmation? s = some (.ok t) ↔ ∃ v, Json.parseValue? s = some v ∧ Answers 1 v ∧
      v.member? "error" = none ∧ textMember? v "result" = some t := by
  constructor
  · intro read
    rw [confirmation?] at read
    split at read
    · cases read
    · next v parsed =>
      split at read
      · cases read
      · next mine =>
        split at read
        · cases read
        · next noError =>
          split at read
          · next result =>
            cases read
            exact ⟨v, parsed, Decidable.not_not.1 mine, noError, result⟩
          · cases read
  · rintro ⟨v, parsed, mine, noError, result⟩
    simp only [confirmation?, parsed, noError, result]
    exact if_neg (Decidable.not_not.2 mine)

theorem confirmation?_eq_none_iff {s : String} : confirmation? s = none ↔ PassedOver (.text s) := by
  constructor
  · intro read
    rw [confirmation?] at read
    split at read
    · cases read
    · next v parsed =>
      split at read
      · next other => exact ⟨v, parsed, other⟩
      · split at read
        · cases read
        · split at read <;> cases read
  · rintro ⟨v, parsed, other⟩
    simp only [confirmation?, parsed]
    exact if_pos other

theorem confirm_append {front : List Message} (passed : ∀ m ∈ front, PassedOver m) (ms : List Message) :
    confirm (front ++ ms) = confirm ms := by
  induction front with
  | nil => rfl
  | cons m front ih =>
      obtain ⟨first, rest⟩ := List.forall_mem_cons.1 passed
      cases m with
      | text s => rw [List.cons_append, confirm, confirmation?_eq_none_iff.2 first, ih rest]
      | other => exact ih rest
      | close | failed | ended => cases first

theorem exists_of_confirm_eq_ok {ms rest : List Message} {t : String}
    (confirmed : confirm ms = some (.ok (t, rest))) :
    ∃ front s, ms = front ++ .text s :: rest ∧ (∀ m ∈ front, PassedOver m) ∧
      confirmation? s = some (.ok t) := by
  induction ms with
  | nil => cases confirmed
  | cons m ms ih =>
      have later (passed : PassedOver m) (confirmed : confirm ms = some (.ok (t, rest))) :
          ∃ front s, m :: ms = front ++ .text s :: rest ∧ (∀ m ∈ front, PassedOver m) ∧
            confirmation? s = some (.ok t) := by
        obtain ⟨front, s, rfl, before, read⟩ := ih confirmed
        exact ⟨m :: front, s, rfl, List.forall_mem_cons.2 ⟨passed, before⟩, read⟩
      cases m with
      | text s =>
          rw [confirm] at confirmed
          cases read : confirmation? s with
          | none =>
              rw [read] at confirmed
              exact later (confirmation?_eq_none_iff.1 read) confirmed
          | some result =>
              rw [read] at confirmed
              cases result with
              | error e => cases confirmed
              | ok id =>
                  cases confirmed
                  exact ⟨[], s, rfl, nofun, read⟩
      | other => exact later trivial confirmed
      | close | failed | ended => cases confirmed

theorem value_of_accepted {s t : String} {v : Json} (mine : Answers 1 (Json.Document.read s).value)
    (accepted : Reply.read s = .ok (.str t)) (parsed : Json.parseValue? s = some v) :
    Answers 1 v ∧ textMember? v "result" = some t ∧
      v.member? "error" = (Json.Document.read s).value.member? "error" := by
  obtain ⟨members, literal, document, id, one⟩ := mine.exists_number
  rw [document] at id ⊢
  have ordinary : ∃ m ∈ members, m.1 ≠ some Json.numberKey ∧ m.1 ≠ some Json.documentKey :=
    ⟨_, Json.mem_of_member? id, by simp [Json.numberKey], by simp [Json.documentKey]⟩
  have value := Json.member?_of_parseValue? parsed document ordinary
  obtain ⟨⟨w, there, result⟩, noError⟩ := Reply.exists_result_of_read document accepted
  refine ⟨?_, ?_, ?_⟩
  · obtain ⟨x, same, found⟩ := (value "id").1 _ id
    rw [Json.toValueWith?] at same
    cases same
    rw [Answers, found]
    exact one
  · -- The two readers bound the embedding of documents differently, which changes no value.
    obtain ⟨x, same, found⟩ := (value "result").1 w there
    obtain rfl := Json.toValueWith?_agree (Json.parseValue?_agree s.length) _ w (Json.readAny_eq_ok result) same
    rw [textMember?, found]
    rfl
  · rcases noError with none | null
    · rw [none, (value "error").2 none]
    · obtain ⟨x, same, found⟩ := (value "error").1 _ null
      rw [Json.toValueWith?] at same
      cases same
      rw [null, found]

theorem confirm_text {front : List Message} (passed : ∀ m ∈ front, PassedOver m) {s : String}
    {result : Except NodeError String} (read : confirmation? s = some result) (rest : List Message) :
    confirm (front ++ .text s :: rest) = some (result.map fun id => (id, rest)) := by
  rw [confirm_append passed, confirm, read]
  cases result <;> rfl

/-- An error that is null counts as an error. -/
theorem confirmation?_of_null_error {s : String} {v : Json} (parsed : Json.parseValue? s = some v)
    (mine : Answers 1 v) (null : v.member? "error" = some .null) :
    confirmation? s = some (.error (.method 0 "eth_subscribe rejected")) := by
  simp only [confirmation?, parsed, null]
  exact if_neg (Decidable.not_not.2 mine)

def reply (id : String) (more : List (String × Json)) : Json :=
  .obj ([("jsonrpc", .str "2.0"), ("id", .nat 1), ("result", .str id)] ++ more)

theorem read_reply (id : String) (more : List (String × Json))
    (rereads : List.Forall₂ (fun m n => m.1 = n.1 ∧ Json.Rereads m.2 n.2) more more) :
    Json.Document.read (reply id more).compact = ⟨reply id more, true⟩ :=
  Json.Document.read_compact
    (.obj (.cons ⟨rfl, .str _⟩ (.cons ⟨rfl, .nat 1⟩ (.cons ⟨rfl, .str _⟩ rereads))))

/-- An accepted reply, after messages that are passed over, confirms exactly if it has no error and is a
value. With an error that is null it is a rejection, and if a part that the record ignores keeps it from
being a value, it is not JSON. Conversely, every reply that confirms is a value with a text as its result
and no error. -/
theorem confirm_of_answers (front rest : List Message) (s t : String) :
    ((∀ m ∈ front, PassedOver m) → Answers 1 (Json.Document.read s).value → Reply.read s = .ok (.str t) →
      ((Json.Document.read s).value.member? "error" = none ∨
        (Json.Document.read s).value.member? "error" = some .null) ∧
      (confirm (front ++ .text s :: rest) = some (.ok (t, rest)) ↔
        (Json.Document.read s).value.member? "error" = none ∧ Json.parseValue? s ≠ none) ∧
      ((Json.Document.read s).value.member? "error" = some .null → Json.parseValue? s ≠ none →
        confirm (front ++ .text s :: rest) = some (.error (.method 0 "eth_subscribe rejected"))) ∧
      (Json.parseValue? s = none →
        confirm (front ++ .text s :: rest) = some (.error (.json "not JSON")))) ∧
    ∀ ms : List Message, confirm ms = some (.ok (t, rest)) →
      ∃ front s v, ms = front ++ .text s :: rest ∧ (∀ m ∈ front, PassedOver m) ∧
        Json.parseValue? s = some v ∧ Answers 1 v ∧ textMember? v "result" = some t ∧
        v.member? "error" = none := by
  refine ⟨fun passed mine accepted => ?_, fun ms confirmed => ?_⟩
  · have noError : (Json.Document.read s).value.member? "error" = none ∨
        (Json.Document.read s).value.member? "error" = some .null := by
      obtain ⟨members, _, document, -⟩ := mine.exists_number
      rw [document]
      exact (Reply.exists_result_of_read document accepted).2
    have rejected (null : (Json.Document.read s).value.member? "error" = some .null)
        (whole : Json.parseValue? s ≠ none) : confirm (front ++ .text s :: rest) =
          some (.error (.method 0 "eth_subscribe rejected")) := by
      obtain ⟨v, parsed⟩ := Option.ne_none_iff_exists'.1 whole
      obtain ⟨answers, -, error⟩ := value_of_accepted mine accepted parsed
      exact confirm_text passed (confirmation?_of_null_error parsed answers (error.trans null)) rest
    have refused (noValue : Json.parseValue? s = none) :
        confirm (front ++ .text s :: rest) = some (.error (.json "not JSON")) := by
      have read : confirmation? s = some (.error (.json "not JSON")) := by rw [confirmation?, noValue]
      exact confirm_text passed read rest
    refine ⟨noError, ⟨fun confirmed => ?_, ?_⟩, rejected, refused⟩
    · have whole : Json.parseValue? s ≠ none := by
        intro noValue
        rw [refused noValue] at confirmed
        cases confirmed
      refine ⟨noError.resolve_right fun null => ?_, whole⟩
      rw [rejected null whole] at confirmed
      cases confirmed
    · rintro ⟨none, whole⟩
      obtain ⟨v, parsed⟩ := Option.ne_none_iff_exists'.1 whole
      obtain ⟨answers, result, error⟩ := value_of_accepted mine accepted parsed
      exact confirm_text passed
        (confirmation?_eq_ok_iff.2 ⟨v, parsed, answers, error.trans none, result⟩) rest
  · obtain ⟨front, s, rfl, passed, read⟩ := exists_of_confirm_eq_ok confirmed
    obtain ⟨v, parsed, mine, noError, result⟩ := confirmation?_eq_ok_iff.1 read
    exact ⟨front, s, v, rfl, passed, parsed, mine, result, noError⟩

theorem confirm_of_answers_behind_two_messages :
    confirm [.other, .text (Json.obj [("id", .nat 7)]).compact, .text (reply "0x9ce5" []).compact, .ended] =
        some (.ok ("0x9ce5", [.ended])) ∧
      ∃ front s v, [.text (reply "0x9ce5" []).compact, .other] = front ++ .text s :: [.other] ∧
        (∀ m ∈ front, PassedOver m) ∧ Json.parseValue? s = some v ∧ Answers 1 v ∧
        textMember? v "result" = some "0x9ce5" ∧ v.member? "error" = none := by
  have document := read_reply "0x9ce5" [] .nil
  have other : Json.Document.read (Json.obj [("id", .nat 7)]).compact = ⟨.obj [("id", .nat 7)], true⟩ :=
    Json.Document.read_compact (.obj (.cons ⟨rfl, .nat 7⟩ .nil))
  have passed : ∀ m ∈ [Message.other, .text (Json.obj [("id", .nat 7)]).compact], PassedOver m := by
    refine List.forall_mem_cons.2 ⟨trivial, List.forall_mem_singleton.2 ⟨.obj [("id", .nat 7)], ?_, by decide⟩⟩
    rw [Json.parseValue?, Json.parseEmbedded?, other]
    rfl
  have mine : Answers 1 (Json.Document.read (reply "0x9ce5" []).compact).value := by
    rw [document]
    decide
  have accepted : Reply.read (reply "0x9ce5" []).compact = .ok (.str "0x9ce5") := by
    rw [Reply.read, Json.readDocument, document]
    rfl
  have noError : (Json.Document.read (reply "0x9ce5" []).compact).value.member? "error" = none := by
    rw [document]
    rfl
  have whole : Json.parseValue? (reply "0x9ce5" []).compact ≠ none := by
    have isValue : (Json.parseValue? (reply "0x9ce5" []).compact).isSome = true := by
      rw [Json.parseValue?, Json.parseEmbedded?, document]
      rfl
    exact Option.isSome_iff_ne_none.1 isValue
  have confirmed := fun front rest passed =>
    ((confirm_of_answers front rest _ _).1 passed mine accepted).2.1.2 ⟨noError, whole⟩
  have behind := confirmed _ [.ended] passed
  exact ⟨behind, (confirm_of_answers [] [.other] "" "0x9ce5").2 _ (confirmed [] [.other] (List.forall_mem_nil _))⟩

/-- A reply with an error that is null is accepted by `Reply.read` and rejected by `confirm`. -/
theorem confirm_null_error :
    Answers 1 (Json.Document.read (reply "0x9ce5" [("error", .null)]).compact).value ∧
      Reply.read (reply "0x9ce5" [("error", .null)]).compact = .ok (.str "0x9ce5") ∧
      confirm [.text (reply "0x9ce5" [("error", .null)]).compact] =
        some (.error (.method 0 "eth_subscribe rejected")) := by
  have document := read_reply "0x9ce5" [("error", .null)] (.cons ⟨rfl, .null⟩ .nil)
  refine ⟨?_, ?_, ?_⟩
  · rw [document]
    decide
  · rw [Reply.read, Json.readDocument, document]
    rfl
  · rw [confirm, confirmation?, Json.parseValue?, Json.parseEmbedded?, document]
    rfl

end Headers

end WalletWatch
