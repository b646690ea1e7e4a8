import WalletWatch.Proofs.Chain.TransferEvent
import WalletWatch.Proofs.Identifier

/-!
# The two readers of topics

`TransferEvent.decode` reads a topic as sixty-four digits after at most one marker and keeps the low twenty
bytes of the word. `Address.parseTopic`, which `isInvolved` uses, also drops blanks, and cuts the text after
twenty-four bytes. The readers agree on every event that can be decoded, so a log names exactly the parties
of its event (`parseTopic_of_decodeWith`). `cutTopic?` makes the cut explicit: it fails if the text ends
before the cut or a character goes across it, and neither can happen after the check of the digits.
-/

namespace WalletWatch

namespace Text

/-! ## Cuts -/

/-- The text after its first `n` bytes, or `none` if it has fewer or a character goes across the cut. -/
def dropBytes? : Nat → List Char → Option (List Char)
  | 0, cs => some cs
  | _ + 1, [] => none
  | n + 1, c :: cs => if c.utf8Size ≤ n + 1 then dropBytes? (n + 1 - c.utf8Size) cs else none

theorem utf8Length_eq_zero_iff {cs : List Char} : utf8Length cs = 0 ↔ cs = [] := by
  cases cs with
  | nil => exact iff_of_true rfl rfl
  | cons c cs =>
      have := c.utf8Size_pos
      refine iff_of_false ?_ nofun
      rw [utf8Length]
      omega

theorem dropBytes?_eq_some_iff {n : Nat} {cs rest : List Char} :
    dropBytes? n cs = some rest ↔ ∃ front, cs = front ++ rest ∧ utf8Length front = n := by
  fun_induction dropBytes? n cs with
  | case1 cs =>
      simp only [utf8Length_eq_zero_iff, exists_eq_right, List.nil_append, Option.some.injEq]
  | case2 n =>
      refine iff_of_false nofun ?_
      rintro ⟨front, spelled, length⟩
      rw [(List.append_eq_nil_iff.1 spelled.symm).1] at length
      cases length
  | case3 n c cs fits ih =>
      rw [ih]
      constructor
      · rintro ⟨front, rfl, length⟩
        refine ⟨c :: front, rfl, ?_⟩
        rw [utf8Length, length]
        exact Nat.add_sub_cancel' fits
      · rintro ⟨_ | ⟨d, front⟩, spelled, length⟩
        · cases length
        · obtain ⟨rfl, rfl⟩ := List.cons.inj spelled
          refine ⟨front, rfl, ?_⟩
          rw [utf8Length] at length
          omega
  | case4 n c cs wide =>
      refine iff_of_false nofun ?_
      rintro ⟨_ | ⟨d, front⟩, spelled, length⟩
      · cases length
      · obtain ⟨rfl, rfl⟩ := List.cons.inj spelled
        rw [utf8Length] at length
        omega

end Text

theorem Hex.dropBytes?_of_isDigit {cs : List Char} {n : Nat} (digits : ∀ c ∈ cs, isDigit c = true)
    (enough : n ≤ cs.length) : Text.dropBytes? n cs = some (cs.drop n) := by
  have front : ∀ c ∈ cs.take n, isDigit c = true := fun c hc => digits c (List.mem_of_mem_take hc)
  refine Text.dropBytes?_eq_some_iff.2 ⟨cs.take n, (List.take_append_drop n cs).symm, ?_⟩
  rw [utf8Length_of_isDigit front, List.length_take_of_le enough]

/-! ## The lenient reader -/

namespace Address

/-- Reads the address in a topic by a slice of bytes: a topic of sixty-four bytes of digits is cut after
twenty-four of them, and the rest is read as an address. -/
def cutTopic? (s : String) : Option (Except IdentifierFault Address) :=
  let cs := identifierDigits s
  if Text.utf8Length cs = 64 ∧ cs.all Hex.isDigit then
    (Text.dropBytes? 24 cs).map fun low => parse (String.ofList low)
  else some (.error (.topic s))

theorem ofWord_value {ds : List Char} (digits : ∀ c ∈ ds, Hex.isDigit c = true) (length : ds.length = 64) :
    ofWord (.ofNat (Hex.value ds)) = ofNat (Hex.value (ds.drop 24)) := by
  have word : TransferEvent.IsWord (String.ofList ds) ds :=
    ⟨⟨[], by decide, String.toList_ofList⟩, digits, length⟩
  have number : (Word.ofNat (Hex.value ds)).toNat = Hex.value ds := Nat.mod_eq_of_lt word.value_lt
  rw [← TransferEvent.toNat_ofWord word number, ofNat_toNat]

theorem text_ofNat_value {ds : List Char} (digits : ∀ c ∈ ds, Hex.isDigit c = true)
    (length : ds.length = 40) :
    (ofNat (Hex.value ds)).text = String.ofList ('0' :: 'x' :: ds.map Char.toLower) := by
  have small := Hex.value_lt ds
  have written := Hex.digits_value digits
  rw [length] at small written
  have kept : Hex.value ds % bound = Hex.value ds := Nat.mod_eq_of_lt small
  simp only [text, ofNat, kept, written]

theorem parseTopic_eq_ok_iff_text {s : String} {a : Address} :
    parseTopic s = .ok a ↔ ∃ ds, Hex.Padded s ds ∧ ds.length = 64 ∧
      a.text = String.ofList ('0' :: 'x' :: (ds.drop 24).map Char.toLower) := by
  refine parseTopic_eq_ok_iff_padded.trans (exists_congr fun ds => and_congr_right fun padded =>
    and_congr_right fun length => ?_)
  have digits := (Hex.padded_iff.1 padded).2
  have low : (ds.drop 24).length = 40 := by rw [List.length_drop, length]
  rw [identifies.distinct, ofWord_value digits length,
    text_ofNat_value (fun c hc => digits c (List.mem_of_mem_drop hc)) low]

/-- The slice by bytes never fails, since sixty-four bytes of digits are sixty-four characters. -/
theorem cutTopic?_eq (s : String) : cutTopic? s = some (parseTopic s) := by
  cases found : Word.parse? s with
  | some w =>
      obtain ⟨ds, padded, length, rfl⟩ := Word.parse?_eq_some_iff.1 found
      obtain ⟨rfl, digits⟩ := Hex.padded_iff.1 padded
      have bytes : Text.utf8Length (identifierDigits s) = 64 := (Hex.utf8Length_of_isDigit digits).trans length
      have cut := Hex.dropBytes?_of_isDigit (n := 24) digits (by omega)
      have low : parse (String.ofList ((identifierDigits s).drop 24)) =
          .ok (ofNat (Hex.value ((identifierDigits s).drop 24))) := by
        refine parse_eq_ok_iff.2 ⟨_, ⟨[], [], [], ?_, List.forall_mem_nil _, by decide, ?_⟩, ?_, rfl⟩
        · simp only [String.toList_ofList, List.nil_append, List.append_nil]
        · exact fun c hc => digits c (List.mem_of_mem_drop hc)
        · rw [List.length_drop, length]
      rw [cutTopic?, if_pos ⟨bytes, List.all_eq_true.2 digits⟩, cut, Option.map_some, low,
        ← ofWord_value digits length, parseTopic, found]
  | none =>
      have refused : ¬(Text.utf8Length (identifierDigits s) = 64 ∧ (identifierDigits s).all Hex.isDigit) := by
        rintro ⟨bytes, digits⟩
        rw [List.all_eq_true] at digits
        rw [Hex.utf8Length_of_isDigit digits] at bytes
        have read := Word.parse?_eq_some_iff.2 ⟨_, Hex.padded_iff.2 ⟨rfl, digits⟩, bytes, rfl⟩
        rw [found] at read
        cases read
      rw [cutTopic?, if_neg refused, parseTopic, found]

/-- Sixty-four bytes, the twenty-fourth of which begins a character: no place for a cut. -/
example :
    let s := "0xa" ++ String.ofList (List.replicate 31 'é') ++ "a"
    Text.utf8Length (identifierDigits s) = 64 ∧ Text.dropBytes? 24 (identifierDigits s) = none ∧
      cutTopic? s = some (.error (.topic s)) := by
  decide +kernel

end Address

/-! ## Logs -/

/-- Whether a log makes `a` involved: it has the form of a transfer, and `parseTopic` finds `a` in one of
its topics. -/
def EventLog.names (l : EventLog) (a : Address) : Bool :=
  let isParty (topic : String) : Bool :=
    match Address.parseTopic topic with
    | .ok party => party = a
    | .error _ => false
  TransferEvent.isTransfer l &&
    match l.topics with
    | _ :: second :: third :: _ => isParty second || isParty third
    | _ => false

theorem isInvolved_iff_names {tx : ChainTransaction} {receipt : Receipt} {a : Address} :
    isInvolved tx receipt a = true ↔
      tx.sender = a ∨ tx.recipient = some a ∨ ∃ l ∈ receipt.logs, l.names a = true := by
  have whole : isInvolved tx receipt a =
      (tx.sender = a || tx.recipient = some a || receipt.logs.any fun l => l.names a) := rfl
  rw [whole, Bool.or_eq_true, Bool.or_eq_true, decide_eq_true_eq, decide_eq_true_eq, List.any_eq_true, or_assoc]

namespace TransferEvent

theorem Lawful.names_iff {read : Binding} {l : EventLog} {e : TransferEvent} (lawful : Lawful read)
    (h : decodeWith read l = .ok e) (a : Address) :
    l.names a = true ↔ a = e.sender ∨ a = e.recipient := by
  obtain ⟨shape, first, second, third, rest, topics, sender, recipient⟩ := lawful.topics_of_decodeWith h
  simp only [EventLog.names, shape, topics, sender, recipient, Bool.true_and, Bool.or_eq_true,
    decide_eq_true_eq, @eq_comm _ a]

end TransferEvent

/-- The two readers of topics agree. In a log that is decoded, `parseTopic` finds the parties of the
event, so the log `names` exactly these. Involved are the sender, the recipient and the addresses that a
log names. `cutTopic?`, which slices bytes, never fails and is `parseTopic`, which takes exactly
sixty-four padded digits and gives the address of the last forty. -/
theorem parseTopic_of_decodeWith (read : TransferEvent.Binding) (lawful : TransferEvent.Lawful read) :
    (∀ l e, TransferEvent.decodeWith read l = .ok e →
      (∃ first second third rest, l.topics = first :: second :: third :: rest ∧
        Address.parseTopic second = .ok e.sender ∧ Address.parseTopic third = .ok e.recipient) ∧
      ∀ a, l.names a = true ↔ a = e.sender ∨ a = e.recipient) ∧
    (∀ tx receipt a, isInvolved tx receipt a = true ↔
      tx.sender = a ∨ tx.recipient = some a ∨ ∃ l ∈ receipt.logs, l.names a = true) ∧
    (∀ s, Address.cutTopic? s = some (Address.parseTopic s)) ∧
    ∀ s a, Address.parseTopic s = .ok a ↔ ∃ ds, Hex.Padded s ds ∧ ds.length = 64 ∧
      a.text = String.ofList ('0' :: 'x' :: (ds.drop 24).map Char.toLower) :=
  ⟨fun _ _ h => ⟨(lawful.topics_of_decodeWith h).2, lawful.names_iff h⟩, fun _ _ _ => isInvolved_iff_names,
    Address.cutTopic?_eq, fun _ _ => Address.parseTopic_eq_ok_iff_text⟩

/-- Topics with a capital marker and with none, and with nonzero digits before their addresses, and a
topic with blanks around it, which only `parseTopic` takes. -/
theorem parseTopic_of_decodeWith_two_markers :
    let second := "0Xffffffffffffffffffffffff1111111111111111111111111111111111111111"
    let third := "000000000000000000000001ABCDEFABCDEFABCDEFABCDEFABCDEFABCDEFABCD"
    let l : EventLog := ⟨"0x3333333333333333333333333333333333333333",
      [TransferEvent.signature, second, third], "0x0f"⟩
    ∃ e a, TransferEvent.decode l = .ok e ∧ Address.parseTopic second = .ok e.sender ∧
      Address.parseTopic third = .ok e.recipient ∧ l.names e.recipient = true ∧ l.names .zero = false ∧
      Address.cutTopic? ("\u3000" ++ third ++ "\n") = some (.ok a) ∧
      a.text = "0xabcdefabcdefabcdefabcdefabcdefabcdefabcd" := by
  intro second third l
  have decoded : TransferEvent.decode l = .ok ⟨.ofNat 0x3333333333333333333333333333333333333333,
      .ofNat 0x1111111111111111111111111111111111111111,
      .ofNat 0xabcdefabcdefabcdefabcdefabcdefabcdefabcd, 15⟩ := by
    decide +kernel
  obtain ⟨logs, -, cuts, texts⟩ := parseTopic_of_decodeWith TransferEvent.binding TransferEvent.lawful_binding
  obtain ⟨⟨_, _, _, _, topics, sender, recipient⟩, named⟩ := logs l _ decoded
  cases topics
  refine ⟨_, .ofNat 0xabcdefabcdefabcdefabcdefabcdefabcdefabcd, decoded, sender, recipient, (named _).2 (.inr rfl),
    ?_, (cuts _).trans (congrArg some ((texts _ _).2 ⟨third.toList, ?_, ?_, ?_⟩)), ?_⟩
  · rw [← Bool.not_eq_true, named]
    decide
  · exact Hex.padded_iff.2 ⟨by decide +kernel, List.all_eq_true.1 (by decide +kernel)⟩
  all_goals decide +kernel

end WalletWatch
