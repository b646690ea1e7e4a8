import Mathlib.Data.List.Basic
import WalletWatch.Proofs.CommandLine.Plan
import WalletWatch.Proofs.Number.Signed
import WalletWatch.Proofs.Store.Escape
import WalletWatch.Proofs.Text.Blank
import WalletWatch.Settings.Basic

/-!
# The address of the store is read back

By the general syntax, the authority of an address ends at the first slash, question mark or number sign,
its user part ends at the last at sign, the password follows the first colon of the user part, and a percent
sign with two digits is an escape. The settings are pasted into the address as they are, so they are read
back exactly if the password `Survives`. After a character that ends the authority the rest of the password
is lost, so what is read is too short, and so is what is read from an escape. At signs and colons are
harmless, since the last at sign and the first colon are those of the address itself.
-/

namespace WalletWatch

namespace StoreTarget

/-! ## The general syntax -/

def isEnd (c : Char) : Bool :=
  c = '/' || c = '?' || c = '#'

/-- Reads an authority, in which the user part ends at the last at sign, and a path. -/
def ofParts? (host? : List Char → Option (String × List Char)) (authority path : List Char) :
    Option StoreTarget := do
  let back := authority.reverse
  let location := (back.takeWhile (· ≠ '@')).reverse
  let secrets := ((back.dropWhile (· ≠ '@')).drop 1).reverse
  let user ← readSecret? (secrets.takeWhile (· ≠ ':'))
  let password ← readSecret? ((secrets.dropWhile (· ≠ ':')).drop 1)
  let (host, rest) ← host? location
  return ⟨user, password, host, ← readPort? rest, ← readDb? path⟩

def readWith? (host? : List Char → Option (String × List Char)) (cs : List Char) : Option StoreTarget := do
  let cs ← Text.dropMark? "redis://".toList cs
  ofParts? host? (cs.takeWhile fun c => !isEnd c)
    ((cs.dropWhile fun c => !isEnd c).takeWhile fun c => c ≠ '?' && c ≠ '#')

def anyHost? (cs : List Char) : Option (String × List Char) :=
  some (String.ofList (cs.takeWhile (· ≠ ':')), cs.dropWhile (· ≠ ':'))

def ofUri? (url : String) : Option StoreTarget :=
  readWith? anyHost? url.toList

def counts (c : Char) : Bool :=
  c ≠ '\t' && c ≠ '\n' && c ≠ '\r'

theorem ofUrl?_eq (url : String) : ofUrl? url = readWith? readHost? (url.toList.filter counts) :=
  rfl

theorem readWith?_append {host? : List Char → Option (String × List Char)} {authority : List Char}
    (inside : ∀ c ∈ authority, isEnd c = false) {d : Char} (outside : isEnd d = true) (rest : List Char) :
    readWith? host? ("redis://".toList ++ (authority ++ d :: rest)) =
      ofParts? host? authority ((d :: rest).takeWhile fun c => c ≠ '?' && c ≠ '#') := by
  have within : ∀ c ∈ authority, (!isEnd c) = true := fun c hc => by rw [inside c hc]; rfl
  have first : ¬(!isEnd d) = true := by simp [outside]
  rw [readWith?, Text.dropMark?_eq_some_iff.2 rfl, Option.bind_eq_bind, Option.bind_some,
    List.takeWhile_append_of_pos within, List.dropWhile_append_of_pos within,
    List.takeWhile_cons_of_neg (p := fun c => !isEnd c) first,
    List.dropWhile_cons_of_neg (p := fun c => !isEnd c) first, List.append_nil]

/-! ## Numbers -/

theorem toList_toString_port (n : UInt16) : (toString n).toList = Nat.toDigits 10 n.toNat := by
  change (toString n.toNat).toList = _
  rw [Nat.toString_eq_ofList_toDigits, String.toList_ofList]

theorem readPort?_toString (n : UInt16) : readPort? (':' :: (toString n).toList) = some n := by
  obtain ⟨c, cs, hc⟩ := List.exists_cons_of_ne_nil (Nat.toDigits_ne_nil (n := n.toNat) (b := 10))
  have read := Decimal.digits?_toDigits n.toNat
  rw [toList_toString_port]
  rw [hc] at read ⊢
  simp only [readPort?, read, Option.bind_eq_bind, Option.bind_some, if_pos n.toNat_lt]
  exact congrArg some UInt16.ofNat_toNat

theorem isDigit_of_mem_toString {n : Int} {c : Char} (h : c ∈ (toString n).toList) :
    c = '-' ∨ c.isDigit = true := by
  rw [Json.Numeral.toString_int, Json.Numeral.text_ofInt, String.toList_ofList] at h
  have digits : ∀ d ∈ (Json.Numeral.ofNat n.natAbs).text, d.isDigit = true :=
    Json.Numeral.isPlain_iff.1 rfl
  split at h
  · rcases List.mem_cons.1 h with rfl | h
    · exact .inl rfl
    · exact .inr (digits c h)
  · exact .inr (digits c h)

theorem not_mem_of_mem_toString {n : Int} {c : Char} (h : c ∈ (toString n).toList) {marks : List Char}
    (apart : marks.all (fun d => d ≠ '-' && !d.isDigit) = true) : c ∉ marks := by
  intro mark
  have other := List.all_eq_true.1 apart c mark
  simp only [Bool.and_eq_true, decide_eq_true_eq, Bool.not_eq_true'] at other
  rcases isDigit_of_mem_toString h with rfl | digit
  · exact other.1 rfl
  · exact Bool.noConfusion (other.2.symm.trans digit)

theorem readDb?_of_word {cs : List Char} (bare : ∀ c ∈ cs, c ≠ '/') {n : Int64}
    (read : (Decimal.word? cs).map Int64.ofInt = some n) : readDb? ('/' :: cs) = some n := by
  have kept : ∀ ds : List Char, (∀ c ∈ ds, c ≠ '/') → ds.dropWhile (· = '/') = ds := by
    intro ds none
    cases ds with
    | nil => rfl
    | cons d ds => exact List.dropWhile_cons_of_neg (by simpa using none d (.head _))
  have front : ('/' :: cs).dropWhile (· = '/') = cs := (List.dropWhile_cons_of_pos rfl).trans (kept cs bare)
  have back : cs.reverse.dropWhile (· = '/') = cs.reverse :=
    kept _ fun c hc => bare c (List.mem_reverse.1 hc)
  rw [readDb?]
  simp only [front, back, List.reverse_reverse]
  cases cs with
  | nil => cases read
  | cons c cs => exact read

theorem readDb?_toString (n : Int64) : readDb? ('/' :: (toString n).toList) = some n := by
  refine readDb?_of_word (fun c hc => ?_) ?_
  · have other : c ∉ ['/'] := not_mem_of_mem_toString (n := n.toInt) hc rfl
    simpa using other
  · change (Decimal.word? (toString n.toInt).toList).map Int64.ofInt = some n
    rw [Decimal.word?_toString (Width.fitsSigned64_toInt n), Option.map_some, Int64.ofInt_toInt]

/-! ## Authorities -/

theorem readSecret?_nil : readSecret? [] = some none := rfl

theorem takeWhile_location {location : List Char} (bare : '@' ∉ location) (secrets : List Char) :
    (location.reverse ++ secrets).takeWhile (· ≠ '@') = location.reverse ++ secrets.takeWhile (· ≠ '@') ∧
      (location.reverse ++ secrets).dropWhile (· ≠ '@') = secrets.dropWhile (· ≠ '@') := by
  have all : ∀ c ∈ location.reverse, decide (c ≠ '@') = true := fun c hc =>
    decide_eq_true fun same => bare (same ▸ List.mem_reverse.1 hc)
  exact ⟨List.takeWhile_append_of_pos all, List.dropWhile_append_of_pos all⟩

theorem ofParts?_location {host? : List Char → Option (String × List Char)} {location path rest : List Char}
    {host : String} {port : UInt16} {db : Int64} (bare : '@' ∉ location)
    (hosted : host? location = some (host, rest)) (readPort : readPort? rest = some port)
    (readDb : readDb? path = some db) :
    ofParts? host? location path = some ⟨none, none, host, port, db⟩ := by
  obtain ⟨kept, left⟩ := takeWhile_location bare []
  rw [List.append_nil] at kept left
  rw [ofParts?, kept, left]
  simp only [List.takeWhile_nil, List.dropWhile_nil, List.append_nil, List.drop_nil, List.reverse_nil,
    List.reverse_reverse, readSecret?_nil, hosted, readPort, readDb, Option.bind_eq_bind, Option.bind_some]
  rfl

theorem ofParts?_secret {host? : List Char → Option (String × List Char)} {location path rest : List Char}
    {host : String} {port : UInt16} {db : Int64} (bare : '@' ∉ location)
    (hosted : host? location = some (host, rest)) (readPort : readPort? rest = some port)
    (readDb : readDb? path = some db) (password : List Char) :
    ofParts? host? (':' :: password ++ '@' :: location) path =
      (readSecret? password).map fun password => ⟨none, password, host, port, db⟩ := by
  have back : (':' :: password ++ '@' :: location).reverse =
      location.reverse ++ '@' :: (':' :: password).reverse := by
    rw [List.reverse_append, List.reverse_cons, List.append_assoc, List.singleton_append]
  obtain ⟨kept, left⟩ := takeWhile_location bare ('@' :: (':' :: password).reverse)
  have mark : ('@' :: (':' :: password).reverse).takeWhile (· ≠ '@') = [] ∧
      ('@' :: (':' :: password).reverse).dropWhile (· ≠ '@') = '@' :: (':' :: password).reverse := ⟨rfl, rfl⟩
  have colon : (':' :: password).takeWhile (· ≠ ':') = [] ∧
      (':' :: password).dropWhile (· ≠ ':') = ':' :: password := ⟨rfl, rfl⟩
  rw [ofParts?, back, kept, left]
  simp only [mark, colon, List.append_nil, List.drop_one, List.tail_cons, List.reverse_reverse, readSecret?_nil,
    hosted, readPort, readDb, Option.bind_eq_bind, Option.bind_some]
  cases readSecret? password <;> rfl

theorem length_lt_of_ofParts? {host? : List Char → Option (String × List Char)} {authority path : List Char}
    {t : StoreTarget} (h : ofParts? host? authority path = some t) {password : String}
    (read : t.password = some password) (filled : authority ≠ []) :
    password.toList.length < authority.length := by
  unfold ofParts? at h
  obtain ⟨user, -, h⟩ := Option.bind_eq_some_iff.1 h
  obtain ⟨secret, readSecret, h⟩ := Option.bind_eq_some_iff.1 h
  obtain ⟨⟨host, rest⟩, -, h⟩ := Option.bind_eq_some_iff.1 h
  obtain ⟨port, -, h⟩ := Option.bind_eq_some_iff.1 h
  obtain ⟨db, -, h⟩ := Option.bind_eq_some_iff.1 h
  cases h
  cases read
  have most := (length_of_readSecret? readSecret).1
  have front := (List.dropWhile_sublist (l := authority.reverse) (· ≠ '@')).length_le
  have secrets := (List.dropWhile_sublist
    (l := ((authority.reverse.dropWhile (· ≠ '@')).drop 1).reverse) (· ≠ ':')).length_le
  have positive := List.length_pos_of_ne_nil filled
  simp only [List.length_drop, List.length_reverse] at most front secrets
  omega

/-- If a character of the password ends the authority, only the part in front of it can be read. -/
theorem length_lt_of_readWith? {host? : List Char → Option (String × List Char)}
    {written behind : List Char} (closes : ∃ c ∈ written, isEnd c = true) {t : StoreTarget}
    (h : readWith? host? ("redis://".toList ++ (':' :: written ++ behind)) = some t) {password : String}
    (read : t.password = some password) : password.toList.length < written.length := by
  obtain ⟨d, hd⟩ := Option.isSome_iff_exists.1 (List.find?_isSome.2 closes)
  obtain ⟨outside, before, after, rfl, first⟩ := List.find?_eq_some_iff_append.1 hd
  have authority : ∀ c ∈ ':' :: before, isEnd c = false :=
    List.forall_mem_cons.2 ⟨rfl, fun c hc => by simpa using first c hc⟩
  have parts : ':' :: (before ++ d :: after) ++ behind = (':' :: before) ++ d :: (after ++ behind) :=
    congrArg (':' :: ·) (List.append_assoc before (d :: after) behind)
  rw [parts, readWith?_append authority outside] at h
  have short := length_lt_of_ofParts? h read (List.cons_ne_nil _ _)
  simp only [List.length_append, List.length_cons] at short ⊢
  omega

/-! ## Addresses -/

/-- No character of a password ends the authority, and no percent sign in it starts an escape. -/
structure Survives (password : List Char) : Prop where
  inside : ∀ c ∈ password, isEnd c = false
  plain : ¬HasEscape password

theorem survives_nil : Survives [] :=
  ⟨List.forall_mem_nil _, fun ⟨before, _, _, _, spelled, _⟩ => by cases before <;> cases spelled⟩

theorem takeWhile_path (db : Int64) :
    ('/' :: (toString db).toList).takeWhile (fun c => c ≠ '?' && c ≠ '#') = '/' :: (toString db).toList := by
  refine List.takeWhile_eq_self_iff.2 (List.forall_mem_cons.2 ⟨by decide, fun c hc => ?_⟩)
  have other : c ∉ ['?', '#'] := not_mem_of_mem_toString (n := db.toInt) hc rfl
  simpa using other

theorem readWith?_location {host? : List Char → Option (String × List Char)} {location : List Char}
    {host : String} {n : UInt16} (db : Int64) (inside : ∀ c ∈ location, isEnd c = false)
    (bare : '@' ∉ location) (hosted : host? location = some (host, ':' :: (toString n).toList)) :
    readWith? host? ("redis://".toList ++ (location ++ '/' :: (toString db).toList)) =
      some ⟨none, none, host, n, db⟩ := by
  rw [readWith?_append inside rfl, takeWhile_path]
  exact ofParts?_location bare hosted (readPort?_toString n) (readDb?_toString db)

theorem readWith?_secret {host? : List Char → Option (String × List Char)} {location : List Char}
    {host : String} {n : UInt16} (db : Int64) (inside : ∀ c ∈ location, isEnd c = false)
    (bare : '@' ∉ location) (hosted : host? location = some (host, ':' :: (toString n).toList))
    {password : List Char} (closed : ∀ c ∈ password, isEnd c = false) :
    readWith? host? ("redis://".toList ++ (':' :: password ++ '@' :: (location ++ '/' :: (toString db).toList))) =
      (readSecret? password).map fun password => ⟨none, password, host, n, db⟩ := by
  have authority : ∀ c ∈ ':' :: password ++ '@' :: location, isEnd c = false :=
    List.forall_mem_append.2 ⟨List.forall_mem_cons.2 ⟨rfl, closed⟩, List.forall_mem_cons.2 ⟨rfl, inside⟩⟩
  have parts : ':' :: password ++ '@' :: (location ++ '/' :: (toString db).toList) =
      (':' :: password ++ '@' :: location) ++ '/' :: (toString db).toList :=
    (List.append_assoc _ ('@' :: location) _).symm
  rw [parts, readWith?_append authority rfl, takeWhile_path]
  exact ofParts?_secret bare hosted (readPort?_toString n) (readDb?_toString db) password

theorem readWith?_secret_eq_some_iff {host? : List Char → Option (String × List Char)}
    {location : List Char} {host : String} {n : UInt16} (db : Int64)
    (inside : ∀ c ∈ location, isEnd c = false) (bare : '@' ∉ location)
    (hosted : host? location = some (host, ':' :: (toString n).toList)) {written : List Char}
    {password : String} (kept : written.Sublist password.toList) (filled : password.isEmpty = false) :
    readWith? host? ("redis://".toList ++ (':' :: written ++ '@' :: (location ++ '/' :: (toString db).toList))) =
      some ⟨none, some password, host, n, db⟩ ↔ written = password.toList ∧ Survives written := by
  constructor
  · intro read
    have closed : ∀ c ∈ written, isEnd c = false := by
      intro c hc
      by_contra closes
      have short := length_lt_of_readWith? ⟨c, hc, eq_true_of_ne_false closes⟩ read rfl
      exact absurd kept.length_le (Nat.not_le_of_lt short)
    rw [readWith?_secret db inside bare hosted closed] at read
    obtain ⟨_, secret, ⟨⟩⟩ := Option.map_eq_some_iff.1 read
    obtain ⟨most, fewer⟩ := length_of_readSecret? secret
    exact ⟨kept.eq_of_length_le most, closed, fun escape => absurd kept.length_le (Nat.not_le_of_lt (fewer escape))⟩
  · rintro ⟨rfl, closed, plain⟩
    rw [readWith?_secret db inside bare hosted closed, (readSecret?_eq_some_iff filled).2 plain, Option.map_some]

end StoreTarget

namespace StoreSettings

open StoreTarget

def target (s : StoreSettings) : StoreTarget :=
  ⟨none, if s.password.isEmpty then none else some s.password, s.host, s.port, s.db⟩

theorem target_inj {s t : StoreSettings} : s.target = t.target ↔ s = t := by
  refine ⟨fun same => ?_, congrArg target⟩
  obtain ⟨host, port, password, db⟩ := s
  obtain ⟨host', port', password', db'⟩ := t
  obtain ⟨-, secrets, rfl, rfl, rfl⟩ := StoreTarget.mk.inj same
  have passwords : password = password' := by
    dsimp only at secrets
    split at secrets
    · next empty =>
        split at secrets
        · next empty' => rw [String.isEmpty_iff.1 empty, String.isEmpty_iff.1 empty']
        · cases secrets
    · split at secrets
      · cases secrets
      · exact Option.some.inj secrets
  rw [passwords]

def location (s : StoreSettings) : List Char :=
  s.host.toList ++ ':' :: (toString s.port).toList

theorem toList_connectionUrl (s : StoreSettings) : s.connectionUrl.toList = "redis://".toList ++
    ((if s.password.isEmpty then [] else ':' :: s.password.toList ++ ['@']) ++
      (s.location ++ '/' :: (toString s.db).toList)) := by
  have signs : ":".toList = [':'] ∧ "@".toList = ['@'] ∧ "/".toList = ['/'] := ⟨rfl, rfl, rfl⟩
  unfold connectionUrl location
  split <;> simp [signs]

def HasPlainHost (s : StoreSettings) : Prop :=
  ∀ c ∈ s.host.toList, c ∉ [':', '/', '?', '#', '[', ']', '@']

/-- The host is one that the store's own reader keeps as it is. -/
structure HasStrictHost (s : StoreSettings) : Prop where
  ne_empty : s.host.toList ≠ []
  allowed : s.host.toList.any isForbidden = false
  counted : s.host.toList.all counts = true

theorem HasStrictHost.hasPlainHost {s : StoreSettings} (h : s.HasStrictHost) : s.HasPlainHost := by
  intro c hc mark
  have allowed := List.any_eq_false.1 h.allowed c hc
  simp only [List.mem_cons, List.not_mem_nil, or_false] at mark
  rcases mark with rfl | rfl | rfl | rfl | rfl | rfl | rfl <;> exact absurd rfl allowed

theorem HasPlainHost.colon_not_mem {s : StoreSettings} (plain : s.HasPlainHost) :
    ∀ c ∈ s.host.toList, decide (c ≠ ':') = true :=
  fun c hc => decide_eq_true fun same => plain c hc (same ▸ .head _)

theorem HasPlainHost.not_mem_of_mem_location {s : StoreSettings} (plain : s.HasPlainHost) :
    ∀ c ∈ s.location, c ∉ ['/', '?', '#', '@'] := by
  refine List.forall_mem_append.2 ⟨fun c hc mark => plain c hc ?_, List.forall_mem_cons.2 ⟨by decide, fun c hc => ?_⟩⟩
  · simp only [List.mem_cons, List.not_mem_nil, or_false] at mark ⊢
    tauto
  · exact not_mem_of_mem_toString (n := (s.port.toNat : Int)) hc rfl

theorem HasPlainHost.isEnd_location {s : StoreSettings} (plain : s.HasPlainHost) :
    ∀ c ∈ s.location, isEnd c = false := by
  intro c hc
  have other := plain.not_mem_of_mem_location c hc
  simp only [List.mem_cons, not_or] at other
  simp [isEnd, other]

theorem HasPlainHost.at_not_mem_location {s : StoreSettings} (plain : s.HasPlainHost) : '@' ∉ s.location :=
  fun there => plain.not_mem_of_mem_location '@' there (by decide)

theorem HasPlainHost.anyHost?_location {s : StoreSettings} (plain : s.HasPlainHost) :
    anyHost? s.location = some (s.host, ':' :: (toString s.port).toList) := by
  have colon : ¬decide (':' ≠ ':') = true := by decide
  rw [anyHost?, location, List.takeWhile_append_of_pos plain.colon_not_mem,
    List.dropWhile_append_of_pos plain.colon_not_mem]
  simp

theorem HasStrictHost.readHost?_location {s : StoreSettings} (h : s.HasStrictHost) :
    readHost? s.location = some (s.host, ':' :: (toString s.port).toList) := by
  have split : s.location.takeWhile (· ≠ ':') = s.host.toList ∧
      s.location.dropWhile (· ≠ ':') = ':' :: (toString s.port).toList := by
    obtain ⟨host, rest⟩ := Prod.mk.inj (Option.some.inj h.hasPlainHost.anyHost?_location)
    exact ⟨by rw [← host, String.toList_ofList], rest⟩
  unfold readHost?
  split
  · next cs bracket =>
      -- A bracket in front would be a character of the host, since the host is not empty.
      obtain ⟨c, rest, hc⟩ := List.exists_cons_of_ne_nil h.ne_empty
      rw [location, hc, List.cons_append] at bracket
      have allowed := List.any_eq_false.1 h.allowed c (hc ▸ .head _)
      exact absurd (congrArg isForbidden (List.cons.inj bracket).1) allowed
  · have empty : s.host.toList.isEmpty = false := by simpa using h.ne_empty
    simp only [split, empty, h.allowed, Bool.or_self, Bool.false_eq_true, if_false, String.ofList_toList]

/-! ## What the address carries -/

theorem ofUri?_connectionUrl_iff {s : StoreSettings} (plain : s.HasPlainHost) :
    ofUri? s.connectionUrl = some s.target ↔ Survives s.password.toList := by
  have inside := plain.isEnd_location
  have bare := plain.at_not_mem_location
  rw [ofUri?, toList_connectionUrl, target]
  cases filled : s.password.isEmpty with
  | true =>
      have none : s.password.toList = [] := by simpa using filled
      simpa [none, survives_nil] using readWith?_location s.db inside bare plain.anyHost?_location
  | false =>
      have read := readWith?_secret_eq_some_iff s.db inside bare plain.anyHost?_location (.refl _) filled
      simpa using read

/-- The store's own reader drops characters of the password only. -/
theorem HasStrictHost.filter_connectionUrl {s : StoreSettings} (strict : s.HasStrictHost) :
    s.connectionUrl.toList.filter counts = "redis://".toList ++
      ((if s.password.isEmpty then [] else ':' :: s.password.toList.filter counts ++ ['@']) ++
        (s.location ++ '/' :: (toString s.db).toList)) := by
  have digits : ∀ {n : Int}, ∀ c ∈ (toString n).toList, counts c = true := by
    intro n c hc
    have other : c ∉ ['\t', '\n', '\r'] := not_mem_of_mem_toString hc rfl
    simpa [counts, and_assoc] using other
  have kept : (s.location ++ '/' :: (toString s.db).toList).filter counts =
      s.location ++ '/' :: (toString s.db).toList := by
    have location : ∀ c ∈ s.location, counts c = true := List.forall_mem_append.2
      ⟨List.all_eq_true.1 strict.counted, List.forall_mem_cons.2 ⟨rfl, digits (n := (s.port.toNat : Int))⟩⟩
    have path : ∀ c ∈ '/' :: (toString s.db).toList, counts c = true :=
      List.forall_mem_cons.2 ⟨rfl, digits (n := s.db.toInt)⟩
    exact List.filter_eq_self.2 (List.forall_mem_append.2 ⟨location, path⟩)
  rw [toList_connectionUrl, List.filter_append, List.filter_append, kept]
  split
  · rfl
  · rw [List.filter_append]
    rfl

theorem ofUrl?_connectionUrl_iff {s : StoreSettings} (strict : s.HasStrictHost) :
    ofUrl? s.connectionUrl = some s.target ↔
      Survives s.password.toList ∧ ∀ c ∈ s.password.toList, counts c = true := by
  have plain := strict.hasPlainHost
  have inside := plain.isEnd_location
  have bare := plain.at_not_mem_location
  rw [ofUrl?_eq, strict.filter_connectionUrl, target]
  cases filled : s.password.isEmpty with
  | true =>
      have none : s.password.toList = [] := by simpa using filled
      simpa [none, survives_nil] using readWith?_location s.db inside bare strict.readHost?_location
  | false =>
      have read := readWith?_secret_eq_some_iff s.db inside bare strict.readHost?_location
        (List.filter_sublist (p := counts)) filled
      have whole : (s.password.toList.filter counts = s.password.toList ∧
          Survives (s.password.toList.filter counts)) ↔
          Survives s.password.toList ∧ s.password.toList.filter counts = s.password.toList :=
        ⟨fun ⟨same, survives⟩ => ⟨same ▸ survives, same⟩, fun ⟨survives, same⟩ => ⟨same, same.symm ▸ survives⟩⟩
      rw [whole, List.filter_eq_self] at read
      simpa using read

/-- By the general syntax of addresses, `connectionUrl` is read back as the `target` of the settings
exactly if the password `Survives`: nothing in it ends the authority or is an escape. So settings with
such passwords are determined by their addresses. The store's own reader also drops tabs and line breaks
of a password. -/
theorem ofUri?_connectionUrl_iff_survives (s : StoreSettings) (plain : s.HasPlainHost) :
    (ofUri? s.connectionUrl = some s.target ↔ Survives s.password.toList) ∧
      (∀ t : StoreSettings, t.HasPlainHost → Survives s.password.toList → Survives t.password.toList →
        (ofUri? s.connectionUrl = ofUri? t.connectionUrl ↔ s = t)) ∧
      (s.HasStrictHost → (ofUrl? s.connectionUrl = some s.target ↔
        Survives s.password.toList ∧ ∀ c ∈ s.password.toList, counts c = true)) := by
  refine ⟨ofUri?_connectionUrl_iff plain, fun t plain' survives survives' => ?_, ofUrl?_connectionUrl_iff⟩
  rw [(ofUri?_connectionUrl_iff plain).2 survives, (ofUri?_connectionUrl_iff plain').2 survives',
    Option.some.injEq, target_inj]

/-- An at sign, a colon, and a percent sign before other characters survive. -/
theorem ofUri?_connectionUrl_iff_survives_at_sign :
    let s : StoreSettings := { host := "redis.example", password := "p@ss:%rd", db := -3 }
    s.HasPlainHost ∧ s.HasStrictHost ∧
      ofUri? s.connectionUrl = some ⟨none, some "p@ss:%rd", "redis.example", 6379, -3⟩ ∧
      ofUrl? s.connectionUrl = some ⟨none, some "p@ss:%rd", "redis.example", 6379, -3⟩ := by
  intro s
  have strict : s.HasStrictHost := ⟨by decide, by decide, by decide⟩
  have inside : s.password.toList.any isEnd = false := by decide
  have survives : Survives s.password.toList :=
    ⟨fun c hc => eq_false_of_ne_true (List.any_eq_false.1 inside c hc),
      (readSecret?_eq_some_iff rfl).1 (by decide +kernel)⟩
  have counted : s.password.toList.all counts = true := by decide
  obtain ⟨general, -, own⟩ := ofUri?_connectionUrl_iff_survives s strict.hasPlainHost
  exact ⟨strict.hasPlainHost, strict, general.2 survives, (own strict).2 ⟨survives, List.all_eq_true.1 counted⟩⟩

/-- A slash in the password ends the authority, and the address cannot be read. Of two different
passwords one is read as the other. -/
theorem ofUri?_connectionUrl_slash_percent :
    (({ password := "p/w" } : StoreSettings).HasPlainHost ∧
      ofUri? ({ password := "p/w" } : StoreSettings).connectionUrl = none ∧
      ofUrl? ({ password := "p/w" } : StoreSettings).connectionUrl = none) ∧
    ({ password := "a%62" } : StoreSettings) ≠ { password := "ab" } ∧
      ofUri? ({ password := "a%62" } : StoreSettings).connectionUrl =
        ofUri? ({ password := "ab" } : StoreSettings).connectionUrl ∧
      ofUri? ({ password := "a%62" } : StoreSettings).connectionUrl =
        some ({ password := "ab" } : StoreSettings).target := by
  have strict : ({ password := "p/w" } : StoreSettings).HasStrictHost := ⟨by decide, by decide, by decide⟩
  exact ⟨⟨strict.hasPlainHost, by decide +kernel, by decide +kernel⟩, by decide, by decide +kernel, by decide +kernel⟩

end StoreSettings

end WalletWatch
