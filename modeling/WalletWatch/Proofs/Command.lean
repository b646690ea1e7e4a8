import WalletWatch.Proofs.Json.Record
import WalletWatch.Proofs.Result

/-!
# Commands are read back

`Command.decode` reads every command back that is `Sound`: one whose kind is not an unknown one with the
text of a known kind, and whose user fits into 64 bits. It never gives any other command.
-/

namespace WalletWatch

namespace Json

theorem fits_of_readInt64_eq_ok {v : Json} {n : Int} (h : readInt64 v = .ok n) :
    Width.fitsSigned64 n = true := by
  cases v with
  | number literal =>
      rw [readInt64] at h
      cases value : intOfLiteral? literal with
      | none =>
          rw [value] at h
          cases h
      | some m =>
          rw [value] at h
          by_cases fits : Width.fitsSigned64 m = true
          · cases (if_pos fits).symm.trans h
            exact fits
          · cases (if_neg fits).symm.trans h
  | _ => cases h

theorem exists_of_get_eq_ok {α : Type} {r : Record} {name : String} {read : Json → Except Refusal α} {x : α}
    (h : r.get name read = .ok x) : ∃ v, read v = .ok x := by
  rw [Record.get] at h
  split at h
  · next m _ => exact ⟨m.2, h⟩
  · cases h

end Json

namespace CommandKind

def Told (k : CommandKind) : Prop :=
  k ≠ .other "add_wallet" ∧ k ≠ .other "remove_wallet"

theorem told_ofText (s : String) : (ofText s).Told := by
  rw [ofText]
  split
  · exact ⟨nofun, nofun⟩
  · next add =>
      split
      · exact ⟨nofun, nofun⟩
      · next remove =>
          exact ⟨fun h => add (other.inj h), fun h => remove (other.inj h)⟩

theorem ofText_text {k : CommandKind} (told : k.Told) : ofText k.text = k := by
  cases k with
  | add => rfl
  | remove => rfl
  | other s =>
      have add : s ≠ "add_wallet" := fun h => told.1 (congrArg other h)
      have remove : s ≠ "remove_wallet" := fun h => told.2 (congrArg other h)
      rw [text, ofText, if_neg add, if_neg remove]

end CommandKind

namespace Command

/-- A command that a reader can give: its kind is not `other` with the text of a known kind, and its user
fits into 64 bits. -/
structure Sound (c : Command) : Prop where
  kind : c.kind.Told
  user : Width.fitsSigned64 c.user = true

theorem rereads_toJson (c : Command) : Json.Rereads c.toJson c.toJson := by
  have time : Json.Rereads ((c.time.map Instant.toJson).getD .null)
      ((c.time.map Instant.toJson).getD .null) := by
    cases c.time with
    | none => exact .null
    | some t => exact .str _
  exact .obj (.cons ⟨rfl, .str _⟩ (.cons ⟨rfl, .str _⟩ (.cons ⟨rfl, .int _⟩ (.cons ⟨rfl, time⟩ .nil))))

theorem readNullable_time (time : Option Instant) :
    Json.readNullable Instant.ofJson ((time.map Instant.toJson).getD .null) = .ok time := by
  cases time with
  | none => rfl
  | some t =>
      change (Instant.ofJson t.toJson).map some = _
      rw [t.ofJson_toJson]
      rfl

theorem ofJson_toJson {c : Command} (sound : c.Sound) : ofJson c.toJson = .ok c := by
  have user := Json.readInt64_int sound.user
  have kind := CommandKind.ofText_text sound.kind
  have time := readNullable_time c.time
  rw [toJson, ofJson, Json.readRecord_obj (by decide) rfl]
  simp [Json.checkAll, fields, Json.field, Json.trailingField, user, kind, time, Json.Record.get,
    Json.Record.getD, bind, Except.bind, pure, Except.pure, Except.map]

theorem decode_encode {c : Command} (sound : c.Sound) : decode c.encode = .ok c := by
  rw [decode, encode, Json.readDocument_compact c.rereads_toJson, ofJson_toJson sound]

theorem sound_of_ofJson {v : Json} {c : Command} (h : ofJson v = .ok c) : c.Sound := by
  rw [ofJson] at h
  obtain ⟨r, -, h⟩ := bind_eq_ok_iff.1 h
  obtain ⟨kind, -, h⟩ := bind_eq_ok_iff.1 h
  obtain ⟨address, -, h⟩ := bind_eq_ok_iff.1 h
  obtain ⟨user, hu, h⟩ := bind_eq_ok_iff.1 h
  obtain ⟨time, -, h⟩ := bind_eq_ok_iff.1 h
  cases h
  obtain ⟨v, hv⟩ := Json.exists_of_get_eq_ok hu
  exact ⟨CommandKind.told_ofText kind, Json.fits_of_readInt64_eq_ok hv⟩

theorem sound_of_decode {s : String} {c : Command} (h : decode s = .ok c) : c.Sound :=
  sound_of_ofJson (Json.read_of_readDocument h)

end Command

end WalletWatch
