import Mathlib.Data.List.Nodup
import WalletWatch.Proofs.Number.Signed
import WalletWatch.Proofs.Result
import WalletWatch.Proofs.Settings.Rules
import WalletWatch.Settings.Load

/-!
# Merging the settings

`Merged env base c` says that every field of `c` is what its variable reads as, or the field of `base` if
the variable is not set. `load` gives `c` exactly if `c` is merged from the file and usable. A variable that
cannot be read as its field makes loading fail, and the first one is reported before any rule.
-/

namespace WalletWatch

namespace Settings

def Kind.Reads : (k : Kind) → String → k.Value → Prop
  | .text, raw, v => v = raw
  | .word, raw, v => v = String.ofList (Text.lower raw.toList)
  | .port, raw, v => Decimal.Signed [[], ['+']] raw v.toNat
  | .count, raw, v => Decimal.Signed [[], ['+']] raw v.toNat
  | .index, raw, v => (∃ n : Nat, Decimal.Signed [[], ['+']] raw n ∧ v.toInt = n) ∨
      ∃ n : Nat, Decimal.Signed [['-']] raw n ∧ v.toInt = -n

theorem Kind.ofText?_eq_some_iff {k : Kind} {raw : String} {v : k.Value} :
    k.ofText? raw = some v ↔ k.Reads raw v := by
  cases k with
  | text => exact Option.some_inj.trans eq_comm
  | word => exact Option.some_inj.trans eq_comm
  | port =>
      have fits := bind_fits_eq_some_iff (Decimal.natural? raw.toList) (fun n => n < 0x10000)
        Nat.toUInt16 UInt16.toNat (fun a => decide_eq_true a.toNat_lt) (fun _ => UInt16.ofNat_toNat)
        (fun n small => UInt16.toNat_ofNat_of_lt (of_decide_eq_true small)) v
      simp only [decide_eq_true_eq] at fits
      exact fits.trans Decimal.natural?_eq_some_iff
  | count =>
      have fits := bind_fits_eq_some_iff (Decimal.natural? raw.toList) Width.fits64 Nat.toUInt64 UInt64.toNat
        (fun a => decide_eq_true a.toNat_lt) (fun _ => UInt64.ofNat_toNat)
        (fun n small => UInt64.toNat_ofNat_of_lt (of_decide_eq_true small)) v
      exact fits.trans Decimal.natural?_eq_some_iff
  | index => exact Decimal.word?_map_eq_some_iff

/-! ## One field -/

def Takes (env : Environment) (base c : Settings) (f : Field) : Prop :=
  match env f.variableName with
  | none => f.get c = f.get base
  | some raw => f.kind.Reads raw (f.get c)

/-- `Merged env base c`: the settings `c` are `base` with every field replaced whose variable is set. -/
def Merged (env : Environment) (base c : Settings) : Prop :=
  ∀ f : Field, Takes env base c f

def Unreadable (env : Environment) (f : Field) (raw : String) : Prop :=
  env f.variableName = some raw ∧ ∀ v, ¬f.kind.Reads raw v

/-- The first variable in the order of `Field.all` that cannot be read as its field. -/
def FirstUnreadable (env : Environment) (f : Field) (raw : String) : Prop :=
  Unreadable env f raw ∧ ∃ before behind, Field.all = before ++ f :: behind ∧
    ∀ g ∈ before, ∀ r, ¬Unreadable env g r

theorem Takes.congr {env : Environment} {s c : Settings} {f : Field} {s' c' : Settings}
    (h : Takes env s c f) (before : f.get s = f.get s') (after : f.get c = f.get c') :
    Takes env s' c' f := by
  unfold Takes at h ⊢
  rw [← before, ← after]
  exact h

/-- The value of a field depends on its own variable only. -/
theorem Takes.get_eq {env : Environment} {s c : Settings} {f : Field} {env' : Environment} {c' : Settings}
    (h : Takes env s c f) (h' : Takes env' s c' f) (same : env' f.variableName = env f.variableName) :
    f.get c = f.get c' := by
  unfold Takes at h h'
  rw [same] at h'
  cases set : env f.variableName with
  | none =>
      rw [set] at h h'
      exact h.trans h'.symm
  | some raw =>
      rw [set] at h h'
      exact Option.some.inj ((Kind.ofText?_eq_some_iff.2 h).symm.trans (Kind.ofText?_eq_some_iff.2 h'))

theorem override_of_unreadable {env : Environment} {f : Field} {raw : String} (h : Unreadable env f raw)
    (s : Settings) :
    override env s f = .error (.invalidValue f.variableName raw) := by
  have unread : f.kind.ofText? raw = none :=
    Option.eq_none_iff_forall_ne_some.2 fun v read => h.2 v (Kind.ofText?_eq_some_iff.1 read)
  rw [override, h.1]
  dsimp only
  rw [unread]

theorem exists_override {env : Environment} {f : Field} (h : ∀ r, ¬Unreadable env f r) (s : Settings) :
    ∃ t, override env s f = .ok t ∧ Takes env s t f ∧ ∀ g ≠ f, g.get t = g.get s := by
  unfold Takes override
  cases set : env f.variableName with
  | none => exact ⟨s, rfl, rfl, fun _ _ => rfl⟩
  | some raw =>
      obtain ⟨v, read⟩ : ∃ v, f.kind.Reads raw v := by
        by_contra none
        exact h raw ⟨set, fun v read => none ⟨v, read⟩⟩
      dsimp only
      rw [Kind.ofText?_eq_some_iff.2 read]
      exact ⟨_, rfl, by rwa [Field.get_set_self], fun g other => Field.get_set_of_ne other v s⟩

/-! ## All fields -/

theorem exists_foldlM_override {env : Environment} {fields : List Field} (once : fields.Nodup)
    (h : ∀ f ∈ fields, ∀ r, ¬Unreadable env f r) (s : Settings) :
    ∃ t, fields.foldlM (override env) s = .ok t ∧ (∀ f ∈ fields, Takes env s t f) ∧
      ∀ f ∉ fields, f.get t = f.get s := by
  induction fields generalizing s with
  | nil => exact ⟨s, rfl, List.forall_mem_nil _, fun _ _ => rfl⟩
  | cons f fields ih =>
      obtain ⟨first, others⟩ := List.nodup_cons.1 once
      obtain ⟨t, replaced, takes, kept⟩ := exists_override (h f (.head _)) s
      obtain ⟨c, rest, later, left⟩ := ih others (fun g hg => h g (.tail _ hg)) t
      refine ⟨c, ?_, List.forall_mem_cons.2 ⟨?_, fun g hg => ?_⟩, fun g hg => ?_⟩
      · rw [List.foldlM_cons, replaced]
        exact rest
      · exact takes.congr rfl (left f first).symm
      · have other : g ≠ f := by
          rintro rfl
          exact first hg
        exact (later g hg).congr (kept g other) rfl
      · obtain ⟨other, behind⟩ := not_or.1 (List.mem_cons.not.1 hg)
        rw [left g behind, kept g other]

/-- The first variable that cannot be read ends the replacing. -/
theorem foldlM_override_of_unreadable {env : Environment} {f : Field} {raw : String}
    {before behind : List Field} (once : before.Nodup) (fine : ∀ g ∈ before, ∀ r, ¬Unreadable env g r)
    (h : Unreadable env f raw) (s : Settings) :
    (before ++ f :: behind).foldlM (override env) s = .error (.invalidValue f.variableName raw) := by
  obtain ⟨t, replaced, -⟩ := exists_foldlM_override once fine s
  rw [List.foldlM_append, replaced]
  show List.foldlM (override env) t (f :: behind) = _
  rw [List.foldlM_cons, override_of_unreadable h t]
  rfl

theorem Merged.eq {env : Environment} {c : Settings} {base d : Settings} (h : Merged env base c)
    (h' : Merged env base d) : c = d :=
  ext_get fun f => (h f).get_eq (h' f) rfl

theorem Merged.not_unreadable {env : Environment} {c : Settings} {base : Settings} (h : Merged env base c)
    (f : Field) (raw : String) :
    ¬Unreadable env f raw := by
  rintro ⟨set, unread⟩
  have takes := h f
  rw [Takes, set] at takes
  exact unread _ takes

theorem exists_firstUnreadable {env : Environment} {f : Field} {raw : String} (h : Unreadable env f raw) :
    ∃ f raw, FirstUnreadable env f raw := by
  classical
  have found : (Field.all.find? fun f => decide (∃ raw, Unreadable env f raw)).isSome = true :=
    List.find?_isSome.2 ⟨f, Field.mem_all f, decide_eq_true ⟨raw, h⟩⟩
  obtain ⟨g, hg⟩ := Option.isSome_iff_exists.1 found
  obtain ⟨unread, before, behind, order, fine⟩ := List.find?_eq_some_iff_append.1 hg
  obtain ⟨r, unread⟩ := of_decide_eq_true unread
  refine ⟨g, r, unread, before, behind, order, fun k hk r' unread' => ?_⟩
  have reads := fine k hk
  rw [Bool.not_eq_true', decide_eq_false_iff_not] at reads
  exact reads ⟨r', unread'⟩

theorem Field.all_nodup : Field.all.Nodup := by decide

theorem overrideAll_of_firstUnreadable {env : Environment} {f : Field} {raw : String}
    (h : FirstUnreadable env f raw) (s : Settings) :
    overrideAll env s = .error (.invalidValue f.variableName raw) := by
  obtain ⟨unread, before, behind, order, fine⟩ := h
  have once : before.Nodup := (List.nodup_append.1 (order ▸ Field.all_nodup)).1
  rw [overrideAll, order]
  exact foldlM_override_of_unreadable once fine unread s

theorem exists_overrideAll {env : Environment} (h : ∀ f raw, ¬Unreadable env f raw) (s : Settings) :
    ∃ c, overrideAll env s = .ok c ∧ Merged env s c := by
  obtain ⟨c, replaced, takes, -⟩ := exists_foldlM_override Field.all_nodup (fun f _ => h f) s
  exact ⟨c, replaced, fun f => takes f (Field.mem_all f)⟩

theorem overrideAll_eq_ok_iff {env : Environment} {s c : Settings} :
    overrideAll env s = .ok c ↔ Merged env s c := by
  constructor
  · intro h
    have fine : ∀ f raw, ¬Unreadable env f raw := by
      intro f raw unread
      obtain ⟨g, r, first⟩ := exists_firstUnreadable unread
      rw [overrideAll_of_firstUnreadable first s] at h
      cases h
    obtain ⟨d, replaced, merged⟩ := exists_overrideAll fine s
    rwa [Except.ok.inj (h.symm.trans replaced)]
  · intro merged
    obtain ⟨d, replaced, merged'⟩ := exists_overrideAll merged.not_unreadable s
    rw [replaced, merged.eq merged']

/-! ## Loading -/

theorem checked_eq_ok_iff {s : Settings} {t : Settings} : checked s = .ok t ↔ s = t ∧ Usable s := by
  rw [checked, ← isValid_iff, ← fault?_eq_none_iff]
  cases s.fault? <;> simp

theorem checked_of_not_usable {s : Settings} (h : ¬Usable s) :
    ∃ e, s.fault? = some e ∧ checked s = .error e := by
  cases fault : s.fault? with
  | none => exact absurd ((isValid_iff s).1 ((fault?_eq_none_iff s).1 fault)) h
  | some e => exact ⟨e, rfl, by rw [checked, fault]⟩

theorem load_eq_ok_iff {env : Environment} {c : Settings} {file : File} : load file env = .ok c ↔
    ∃ base, ofFile (path env) file = .ok base ∧ Merged env base c ∧ Usable c := by
  rw [load, bind_eq_ok_iff]
  refine exists_congr fun base => and_congr_right fun _ => ?_
  rw [bind_eq_ok_iff]
  constructor
  · rintro ⟨d, replaced, through⟩
    obtain ⟨rfl, usable⟩ := checked_eq_ok_iff.1 through
    exact ⟨overrideAll_eq_ok_iff.1 replaced, usable⟩
  · rintro ⟨merged, usable⟩
    exact ⟨c, overrideAll_eq_ok_iff.2 merged, checked_eq_ok_iff.2 ⟨rfl, usable⟩⟩

theorem load_of_ofFile {env : Environment} {file : File} {base : Settings}
    (h : ofFile (path env) file = .ok base) :
    load file env = overrideAll env base >>= checked := by
  rw [load, h]
  rfl

theorem ofFile_eq_ok_of_path {file : File} {p q : String} {base : Settings} (h : ofFile p file = .ok base) :
    ofFile q file = .ok base := by
  cases file with
  | missing => exact h
  | unreadable => cases h
  | content bytes =>
      unfold ofFile at h ⊢
      dsimp only at h ⊢
      cases decoded : Utf8.decode bytes with
      | error e =>
          rw [decoded] at h
          cases h
      | ok cs =>
          rw [decoded] at h
          exact h

/-- A field keeps its value if its variable does. -/
theorem load_frame {env : Environment} {c : Settings} {f : Field} {file : File} {env' : Environment}
    {c' : Settings} (h : load file env = .ok c) (h' : load file env' = .ok c')
    (same : env' f.variableName = env f.variableName) : f.get c' = f.get c := by
  obtain ⟨base, read, merged, -⟩ := load_eq_ok_iff.1 h
  obtain ⟨base', read', merged', -⟩ := load_eq_ok_iff.1 h'
  obtain rfl : base = base' := Except.ok.inj ((ofFile_eq_ok_of_path read).symm.trans read')
  exact (merged f).get_eq (merged' f) same |>.symm

theorem variableName_inj {f g : Field} (h : f.variableName = g.variableName) : f = g := by
  have apart : ∀ f ∈ Field.all, ∀ g ∈ Field.all, f.variableName = g.variableName → f = g := by decide
  exact apart f (Field.mem_all f) g (Field.mem_all g) h

/-- If the file can be read, `load` gives `c` exactly if `c` is `Merged` from the file and the
environment and is `Usable`. The first variable that cannot be read is reported before any rule is
checked. If all can be read, the merged settings exist, and a fault is one of theirs. A change of one
variable changes no other field. -/
theorem load_eq_ok_iff_merged_usable (file : File) (env : Environment) :
    (∀ e, ofFile (path env) file = .error e → load file env = .error e) ∧
      ofFile (path env) .missing = .ok {} ∧
      (∀ base, ofFile (path env) file = .ok base →
        (∀ c, load file env = .ok c ↔ Merged env base c ∧ Usable c) ∧
        (∀ f raw, FirstUnreadable env f raw → load file env = .error (.invalidValue f.variableName raw)) ∧
        ((∃ f raw, Unreadable env f raw) → ∃ f raw, FirstUnreadable env f raw) ∧
        ((∀ f raw, ¬Unreadable env f raw) → ∃ c, Merged env base c ∧
          (Usable c → load file env = .ok c) ∧
          (¬Usable c → ∃ e, c.fault? = some e ∧ load file env = .error e))) ∧
      ∀ (g : Field) (value : Option String) (c c' : Settings), load file env = .ok c →
        load file (Function.update env g.variableName value) = .ok c' → ∀ f ≠ g, f.get c' = f.get c := by
  refine ⟨fun e fault => ?_, rfl, fun base read => ⟨fun c => ?_, fun f raw first => ?_, ?_, fun fine => ?_⟩,
    fun g value c c' loaded changed f other => ?_⟩
  · rw [load, fault]
    rfl
  · rw [load_eq_ok_iff]
    constructor
    · rintro ⟨base', read', rest⟩
      rwa [Except.ok.inj (read.symm.trans read')]
    · exact fun rest => ⟨base, read, rest⟩
  · rw [load_of_ofFile read, overrideAll_of_firstUnreadable first]
    rfl
  · rintro ⟨f, raw, unread⟩
    exact exists_firstUnreadable unread
  · obtain ⟨c, replaced, merged⟩ := exists_overrideAll fine base
    refine ⟨c, merged, fun usable => load_eq_ok_iff.2 ⟨base, read, merged, usable⟩, fun broken => ?_⟩
    obtain ⟨e, fault, through⟩ := checked_of_not_usable broken
    refine ⟨e, fault, ?_⟩
    rw [load_of_ofFile read, replaced]
    exact through
  · refine load_frame loaded changed (Function.update_of_ne (fun same => other ?_) ..)
    exact variableName_inj same

/-- The file has a batch size of zero, which a variable replaces. Of two variables that cannot be read
the first one is reported, although the batch size breaks a rule. -/
theorem load_eq_ok_iff_merged_usable_batches_of_none :
    let file := File.content (Utf8.encode (String.intercalate "\n"
      ["redis=['h',1,'',0]", "blockchain=['http://h','ws://h',1,0,1,'X']", "service=['a','b',1,1]",
        "api=['',1]", "logging=['info','json']"]).toList)
    let base : Settings := {
      redis := ⟨"h", 1, "", 0⟩, blockchain := ⟨"http://h", "ws://h", 1, 0, 1, "X"⟩,
      service := ⟨"a", "b", 1, 1⟩, api := ⟨"", 1⟩, logging := ⟨"info", "json"⟩ }
    let unset : Environment := fun _ => none
    let mended := Function.update (Function.update unset "LOG_LEVEL" (some "DEBUG"))
      "BLOCKCHAIN_BATCH_SIZE" (some "+020")
    let broken := Function.update (Function.update unset "API_PORT" (some "65536")) "REDIS_DB" (some "1e3")
    load file mended = .ok { base with blockchain.batchSize := 20, logging.level := "debug" } ∧
      load file broken = .error (.invalidValue "REDIS_DB" "1e3") := by
  intro file base unset mended broken
  have read : ofFile "config.toml" file = .ok base := by decide +kernel
  have merges := ((load_eq_ok_iff_merged_usable file mended).2.2.1 base read).1
  have reports := ((load_eq_ok_iff_merged_usable file broken).2.2.1 base read).2.1
  refine ⟨(merges _).2 ⟨overrideAll_eq_ok_iff.1 (by decide +kernel), (isValid_iff _).1 (by decide +kernel)⟩,
    reports .redisDb "1e3" ⟨⟨rfl, fun v reads => ?_⟩, [.redisHost, .redisPort, .redisPassword], _, rfl,
      fun g before r unread => ?_⟩⟩
  · have none : Kind.index.ofText? "1e3" = none := by decide
    cases none.symm.trans (Kind.ofText?_eq_some_iff.2 reads)
  · have asked : ∀ g ∈ [Field.redisHost, .redisPort, .redisPassword], broken g.variableName = none := by decide
    cases (asked g before).symm.trans unread.1

end Settings

end WalletWatch
