import Mathlib.Algebra.Group.Int.Defs
import WalletWatch.Proofs.Chain.Reference
import WalletWatch.Proofs.Node.Receipt
import WalletWatch.Proofs.Time.Instant

/-!
# The time of a block

A timestamp is an unsigned number of 64 bits and is read as a signed one. This gives the right instant for
every timestamp that the calendar reaches and an error for those beyond it, except for the last ones: as
signed numbers they are seconds of the calendar before 1970, and the block is `Wrapped`.
-/

namespace WalletWatch

namespace Instant

def earliest : Int :=
  -8334601228800

def latest : Int :=
  8210266876799

theorem earliest_le_toUnix (t : Instant) : earliest ≤ t.toUnix := by
  have low := t.day_ge
  rw [toUnix, earliest]
  omega

theorem toUnix_le_latest (t : Instant) : t.toUnix ≤ latest := by
  have high := t.day_le
  have second := t.second_lt
  rw [toUnix, latest]
  omega

theorem ofUnix?_eq_some_iff {n : Int} {t : Instant} : ofUnix? n = some t ↔ t.toUnix = n ∧ t.nano = 0 := by
  constructor
  · intro h
    rw [ofUnix?, of?] at h
    split at h
    · cases h
      refine ⟨?_, rfl⟩
      rw [toUnix]
      dsimp only
      omega
    · cases h
  · rintro ⟨rfl, whole⟩
    have second := t.second_lt
    have day : t.toUnix / 86400 = t.day := by
      rw [toUnix]
      omega
    have rest : (t.toUnix % 86400).toNat = t.second := by
      rw [toUnix]
      omega
    have self := of?_self t
    rw [ofUnix?, day, rest]
    rwa [whole] at self

theorem exists_ofUnix? {n : Int} (low : earliest ≤ n) (high : n ≤ latest) : ∃ t, ofUnix? n = some t := by
  rw [earliest] at low
  rw [latest] at high
  have reached : -96465292 ≤ n / 86400 ∧ n / 86400 ≤ 95026236 ∧ (n % 86400).toNat < 86400 ∧
      0 < 2000000000 ∧ (1000000000 ≤ 0 → (n % 86400).toNat % 60 = 59) := by
    omega
  rw [ofUnix?, of?, dif_pos reached]
  exact ⟨_, rfl⟩

theorem ofUnix?_eq_none {n : Int} (h : n < earliest ∨ latest < n) : ofUnix? n = none := by
  refine Option.eq_none_iff_forall_ne_some.2 fun t found => ?_
  obtain ⟨rfl, -⟩ := ofUnix?_eq_some_iff.1 found
  have low := t.earliest_le_toUnix
  have high := t.toUnix_le_latest
  omega

end Instant

namespace Width

theorem signed64_of_lt {n : Nat} (h : n < 2 ^ 63) : signed64 n = n := by
  refine Int.bmod_eq_of_le ?_ ?_ <;> omega

theorem signed64_of_le {n : Nat} (low : 2 ^ 63 ≤ n) (high : n < 2 ^ 64) : signed64 n = n - 2 ^ 64 := by
  have moved := Int.sub_bmod_right n 0x10000000000000000
  have small : ((n : Int) - 0x10000000000000000).bmod 0x10000000000000000 = n - 2 ^ 64 := by
    refine Int.bmod_eq_of_le ?_ ?_ <;> omega
  exact moved.symm.trans small

end Width

namespace Block

def undated (b : Block) : DataError :=
  .blockParsing ("Block " ++ toString b.number ++ " has out-of-range timestamp " ++ toString b.timestamp)

theorem time_eq_error {b : Block} (h : Instant.ofUnix? (Width.signed64 b.timestamp) = none) :
    b.time = .error b.undated := by
  rw [time, h]
  rfl

/-- A timestamp is wrapped if its bits, as a signed number, are a second of the calendar before 1970. -/
def Wrapped (b : Block) : Prop :=
  2 ^ 64 + Instant.earliest ≤ b.timestamp

theorem time_eq_ok_of_le {b : Block} (h : b.timestamp ≤ Instant.latest) :
    ∃ t, b.time = .ok t ∧ t.toUnix = b.timestamp ∧ t.nano = 0 := by
  have read : Width.signed64 b.timestamp = b.timestamp := by
    refine Width.signed64_of_lt ?_
    rw [Instant.latest] at h
    omega
  obtain ⟨t, found⟩ := Instant.exists_ofUnix? (n := b.timestamp) (by rw [Instant.earliest]; omega) h
  obtain ⟨seconds, whole⟩ := Instant.ofUnix?_eq_some_iff.1 found
  exact ⟨t, time_eq_ok_iff.2 (read ▸ found), seconds, whole⟩

theorem time_eq_error_of_lt {b : Block} (h : Instant.latest < b.timestamp) (plain : ¬ b.Wrapped) :
    b.time = .error b.undated := by
  rw [Wrapped, Int.not_le] at plain
  refine time_eq_error (Instant.ofUnix?_eq_none ?_)
  by_cases lower : b.timestamp < 2 ^ 63
  · rw [Width.signed64_of_lt lower]
    exact .inr h
  · rw [Instant.earliest] at plain ⊢
    rw [Width.signed64_of_le (Nat.le_of_not_lt lower) (by omega)]
    omega

theorem time_eq_ok_of_wrapped {b : Block} (word : b.timestamp < 2 ^ 64) (wrapped : b.Wrapped) :
    ∃ t, b.time = .ok t ∧ t.toUnix = b.timestamp - 2 ^ 64 ∧ t.nano = 0 := by
  rw [Wrapped, Instant.earliest] at wrapped
  have read : Width.signed64 b.timestamp = b.timestamp - 2 ^ 64 := Width.signed64_of_le (by omega) word
  have low : Instant.earliest ≤ (b.timestamp : Int) - 2 ^ 64 := by
    rw [Instant.earliest]
    omega
  have high : (b.timestamp : Int) - 2 ^ 64 ≤ Instant.latest := by
    rw [Instant.latest]
    omega
  obtain ⟨t, found⟩ := Instant.exists_ofUnix? low high
  obtain ⟨seconds, whole⟩ := Instant.ofUnix?_eq_some_iff.1 found
  exact ⟨t, time_eq_ok_iff.2 (read ▸ found), seconds, whole⟩

end Block

namespace Scanner

theorem time_of_scan {sc : Scanner} {node : Node} {hash : String} {b : Block} {a : Address} {s : Session}
    {found : List Activity} {x : Activity} (hb : node.block hash = .ok b)
    (scanned : (sc.scan node hash a s).1 = .ok found) (hx : x ∈ found) :
    b.time = .ok x.transaction.time := by
  obtain ⟨block, time, fetched, dated, rfl⟩ := exists_of_scan_eq_ok scanned
  rw [hb, Except.ok.injEq] at fetched
  subst fetched
  obtain ⟨tx, -, receipt, -, transaction, -⟩ := exists_of_mem_report hx
  rw [transaction]
  exact dated

theorem scan_of_undated {sc : Scanner} {node : Node} {hash : String} {b : Block} {a : Address} {s : Session}
    {e : DataError} (hb : node.block hash = .ok b) (ht : b.time = .error e) :
    (sc.scan node hash a s).1 = .error (.data e) := by
  rw [scan_eq_of_error sc a s (datedBlock_eq_error_of_time hb ht)]

end Scanner

namespace Block

/-- A block has the instant of its timestamp as far as the calendar reaches. Beyond that it is not dated,
and a scan of it fails, unless the timestamp is `Wrapped`, which makes it an instant before 1970.
Timestamps that are not wrapped keep their order, and a scan reports the instant of its block. -/
theorem time_eq_ok_unless_wrapped (b : Block) (word : b.timestamp < 2 ^ 64) :
    (b.timestamp ≤ Instant.latest → ∃ t, b.time = .ok t ∧ t.toUnix = b.timestamp ∧ t.nano = 0) ∧
    (Instant.latest < b.timestamp → ¬ b.Wrapped → b.time = .error b.undated ∧
      ∀ (sc : Scanner) (node : Node) (hash : String) (a : Address) (s : Session),
        node.block hash = .ok b → (sc.scan node hash a s).1 = .error (.data b.undated)) ∧
    (b.Wrapped → ∃ t, b.time = .ok t ∧ t.toUnix = b.timestamp - 2 ^ 64 ∧ t.nano = 0) ∧
    (∀ (c : Block) (t u : Instant), ¬ b.Wrapped → ¬ c.Wrapped → b.time = .ok t → c.time = .ok u →
      0 ≤ t.toUnix ∧ (b.timestamp ≤ c.timestamp ↔ t.toUnix ≤ u.toUnix)) ∧
    ∀ (sc : Scanner) (node : Node) (hash : String) (a : Address) (s : Session) (found : List Activity)
      (x : Activity), node.block hash = .ok b → (sc.scan node hash a s).1 = .ok found → x ∈ found →
      b.time = .ok x.transaction.time := by
  have seconds {c : Block} {t : Instant} (plain : ¬ c.Wrapped) (ht : c.time = .ok t) :
      t.toUnix = c.timestamp := by
    rcases Int.lt_or_le Instant.latest c.timestamp with late | reached
    · rw [time_eq_error_of_lt late plain] at ht
      cases ht
    · obtain ⟨u, hu, seconds, -⟩ := time_eq_ok_of_le reached
      rw [hu, Except.ok.injEq] at ht
      rw [← ht, seconds]
  refine ⟨time_eq_ok_of_le, fun late plain => ?_, time_eq_ok_of_wrapped word, ?_,
    fun sc node hash a s found x hb scanned hx => Scanner.time_of_scan hb scanned hx⟩
  · have undated := time_eq_error_of_lt late plain
    exact ⟨undated, fun sc node hash a s hb => Scanner.scan_of_undated hb undated⟩
  · intro c t u plain plain' ht hu
    rw [seconds plain ht, seconds plain' hu]
    omega

/-- A block of the last second of the calendar is dated, and one of the next second is not. -/
theorem time_eq_ok_unless_wrapped_two_blocks :
    ∃ (sc : Scanner) (node : Node) (b c : Block) (a : Address), b.timestamp < 2 ^ 64 ∧ c.timestamp < 2 ^ 64 ∧
      b.timestamp ≤ Instant.latest ∧ Instant.latest < c.timestamp ∧ ¬ c.Wrapped ∧
      node.block "0x1" = .ok c ∧ (∃ t, b.time = .ok t ∧ t.toUnix = 8210266876799 ∧ t.nano = 0) ∧
      (sc.scan node "0x1" a .start).1 =
        .error (.data (.blockParsing "Block 7 has out-of-range timestamp 8210266876800")) := by
  let b : Block := ⟨6, "0x0", 8210266876799, []⟩
  let c : Block := ⟨7, "0x1", 8210266876800, []⟩
  let node : Node := {
    block := fun _ => .ok c
    transaction := fun _ => .error (.timeout 10)
    receipt := fun _ => .error (.timeout 10)
    call := fun _ _ => .error (.timeout 10) }
  let sc : Scanner := ⟨.withNative "ETH", 1⟩
  have reached : b.timestamp ≤ Instant.latest := by decide
  have late : Instant.latest < c.timestamp := by decide
  have plain : ¬ c.Wrapped := show ¬ (2 ^ 64 + Instant.earliest ≤ (8210266876800 : Int)) by decide
  obtain ⟨dated, -⟩ := time_eq_ok_unless_wrapped b (by decide)
  obtain ⟨-, undated, -⟩ := time_eq_ok_unless_wrapped c (by decide)
  have words : c.undated = .blockParsing "Block 7 has out-of-range timestamp 8210266876800" := by
    decide +kernel
  exact ⟨sc, node, b, c, .zero, by decide, by decide, reached, late, plain, rfl, dated reached,
    words ▸ (undated late plain).2 sc node "0x1" .zero .start rfl⟩

/-- A block with the largest timestamp is dated one second before 1970, and a scan reports this time. -/
theorem time_largest_timestamp :
    ∃ (sc : Scanner) (node : Node) (b : Block) (a : Address) (t : Instant), b.timestamp = 2 ^ 64 - 1 ∧
      Instant.latest < b.timestamp ∧ b.time = .ok t ∧ t.toUnix = -1 ∧ t.text = "1969-12-31T23:59:59Z" ∧
      node.block "0x1" = .ok b ∧
      ∃ found x, (sc.scan node "0x1" a .start).1 = .ok found ∧ x ∈ found ∧ x.transaction.time = t := by
  let tx : ChainTransaction := ⟨default, .ofNat 1, some (.ofNat 3), 7, 0, some 1⟩
  let b : Block := ⟨1, "0x1", 0xffffffffffffffff, [tx]⟩
  let node : Node := {
    block := fun _ => .ok b
    transaction := fun _ => .ok (some tx)
    receipt := fun _ => .ok ⟨default, 1, "0x1", 0, none, []⟩
    call := fun _ _ => .error (.timeout 10) }
  let sc : Scanner := ⟨.withNative "ETH", 1⟩
  let t : Instant := ⟨-1, 86399, 0, by decide, by decide, by decide, by decide, by decide⟩
  have dated : b.time = .ok t := by decide +kernel
  obtain ⟨found, x, -, scanned, hx, -⟩ :=
    Scanner.exists_native_of_scan sc .start (rfl : node.block "0x1" = .ok b) dated (.head _) rfl
      (by decide) (.inr rfl)
  have shown := Scanner.time_of_scan (rfl : node.block "0x1" = .ok b) scanned hx
  rw [dated, Except.ok.injEq] at shown
  exact ⟨sc, node, b, .ofNat 3, t, rfl, by decide, dated, by decide, by decide +kernel, rfl, found, x,
    scanned, hx, shown.symm⟩

end Block

end WalletWatch
