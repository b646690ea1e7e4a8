import WalletWatch.Chain.TransferEvent
import WalletWatch.Proofs.Address
import WalletWatch.Proofs.Hex.Bytes
import WalletWatch.Proofs.Result

/-!
# Decoding transfer events

A log is `Framed` if it has the signature, an emitter and topics that can be read, with any data. A framed
log whose data are bytes is a transfer, and no other log is. The decoder in `read` is a parameter with the
laws of `Lawful`: where the data hold a word it finds the parties and the amount, and where they do not the
parties come from the topics and the amount is all of the data.
-/

namespace WalletWatch

namespace TransferEvent

/-! ## Topics -/

/-- `IsWord topic ds`: the topic is the sixty-four digits `ds`, with or without a marker. -/
structure IsWord (topic : String) (ds : List Char) : Prop where
  marked : ∃ marker ∈ Hex.markers, topic.toList = marker ++ ds
  digits : ∀ c ∈ ds, Hex.isDigit c = true
  length : ds.length = 64

namespace IsWord

theorem dropMarker {topic : String} {ds : List Char} (h : IsWord topic ds) :
    Hex.dropMarker topic.toList = ds := by
  obtain ⟨marker, known, spelled⟩ := h.marked
  rw [spelled, Hex.dropMarker_append known h.digits]

theorem of_dropMarker {topic : String} (digits : ∀ c ∈ Hex.dropMarker topic.toList, Hex.isDigit c = true)
    (length : (Hex.dropMarker topic.toList).length = 64) :
    IsWord topic (Hex.dropMarker topic.toList) :=
  ⟨Hex.exists_marker _, digits, length⟩

theorem value_lt {topic : String} {ds : List Char} (h : IsWord topic ds) : Hex.value ds < Word.bound := by
  have small := Hex.value_lt ds
  rwa [h.length] at small

end IsWord

theorem readTopic_eq_ok_iff {topic : String} {w : Word} :
    readTopic topic = .ok w ↔ ∃ ds, IsWord topic ds ∧ w.toNat = Hex.value ds := by
  constructor
  · intro h
    unfold readTopic at h
    split at h
    · next n hn =>
        cases h
        obtain ⟨digits, length, rfl⟩ := Hex.decodeSized_eq_ok_iff.1 hn
        have word := IsWord.of_dropMarker digits length
        exact ⟨_, word, Nat.mod_eq_of_lt word.value_lt⟩
    · cases h
  · rintro ⟨ds, word, number⟩
    have read : Hex.decodeSized 32 ds = .ok w.toNat :=
      Hex.decodeSized_eq_ok_iff.2 ⟨word.digits, word.length, number⟩
    simp only [readTopic, word.dropMarker, read, Word.ofNat_toNat]

theorem parseTopic_of_readTopic {topic : String} {w : Word} (h : readTopic topic = .ok w) :
    Address.parseTopic topic = .ok (.ofWord w) := by
  obtain ⟨ds, word, number⟩ := readTopic_eq_ok_iff.1 h
  have plain := Text.trim_of_not_blank (Hex.not_isBlank_of_dropMarker (word.dropMarker ▸ word.digits))
  have found : identifierDigits topic = ds := by rw [identifierDigits, plain, word.dropMarker]
  have value : Hex.value? ds = some w.toNat := by
    rw [Hex.value?, if_pos (List.all_eq_true.2 word.digits), number]
  simp only [Address.parseTopic, Word.parse?, found, word.length, value, Option.map_some,
    Word.ofNat_toNat, if_true]

theorem toNat_ofWord {topic : String} {ds : List Char} {w : Word} (word : IsWord topic ds)
    (number : w.toNat = Hex.value ds) : (Address.ofWord w).toNat = Hex.value (ds.drop 24) := by
  have low : (ds.drop 24).length = 40 := by simp [word.length]
  have bound : (16 : Nat) ^ 40 = Address.bound := by decide
  calc w.toNat % Address.bound
      = Hex.value (ds.take 24 ++ ds.drop 24) % 16 ^ 40 := by
        rw [number, List.take_append_drop, bound]
    _ = Hex.value (ds.drop 24) % 16 ^ 40 := by
        rw [Hex.value_append, low, Nat.mul_add_mod_self_right]
    _ = Hex.value (ds.drop 24) := Nat.mod_eq_of_lt (low ▸ Hex.value_lt _)

/-! ## The signature -/

theorem readTopic_signature {topic : String} (h : sameLetters topic signature = true) :
    readTopic topic = .ok signatureWord := by
  have lower : signature.toList.map Char.toLower =
      '0' :: 'x' :: Hex.dropMarker signature.toList := by decide +kernel
  have letters : topic.toList.map Char.toLower = '0' :: 'x' :: Hex.dropMarker signature.toList :=
    (of_decide_eq_true h).trans lower
  obtain ⟨zero, _, spelled, isZero, letters⟩ := List.map_eq_cons_iff.1 letters
  obtain ⟨x, ds, rfl, isX, letters⟩ := List.map_eq_cons_iff.1 letters
  have marker : [zero, x] ∈ Hex.markers := by
    have zeros := Hex.eq_or_eq_toUpper_toLower zero
    have xs := Hex.eq_or_eq_toUpper_toLower x
    rw [isZero] at zeros
    rw [isX] at xs
    rcases zeros with rfl | rfl <;> rcases xs with rfl | rfl <;> decide
  have length : ds.length = 64 := by
    rw [← List.length_map, letters]
    decide +kernel
  have digits : ∀ c ∈ ds, Hex.isDigit c = true := by
    intro c hc
    have all : (Hex.dropMarker signature.toList).all Hex.isDigit = true := by decide +kernel
    rw [← Hex.isDigit_toLower]
    exact List.all_eq_true.1 all _ (letters ▸ List.mem_map_of_mem hc)
  refine readTopic_eq_ok_iff.2 ⟨ds, ⟨⟨_, marker, spelled⟩, digits, length⟩, ?_⟩
  rw [← Hex.value_map_toLower, letters]
  decide +kernel

/-! ## Logs -/

theorem isTransfer_eq_true_iff {l : EventLog} :
    isTransfer l = true ↔ ∃ first second third rest, l.topics = first :: second :: third :: rest ∧
      sameLetters first signature = true := by
  unfold isTransfer
  constructor
  · intro h
    split at h
    · next first second third rest topics => exact ⟨first, second, third, rest, topics, h⟩
    · cases h
  · rintro ⟨first, second, third, rest, topics, signed⟩
    rw [topics]
    exact signed

/-- A log with the signature, an emitter that is an address, and two topics that are words. -/
structure Framed (l : EventLog) (token : Address) (sender recipient : List Char) : Prop where
  emitter : Address.parse l.emitter = .ok token
  topics : ∃ first second third rest, l.topics = first :: second :: third :: rest ∧
    sameLetters first signature = true ∧ (∃ ds, IsWord first ds) ∧
      IsWord second sender ∧ IsWord third recipient

def Holds (l : EventLog) (bytes : List UInt8) : Prop :=
  ∃ marker ∈ Hex.markers, ∃ ds, l.data.toList = marker ++ ds ∧ Hex.Spells ds bytes

theorem decode_data_eq_ok_iff {l : EventLog} {bytes : List UInt8} :
    Hex.decode (Hex.dropMarker l.data.toList) = .ok bytes ↔ Holds l bytes := by
  rw [Hex.decode_eq_ok_iff]
  constructor
  · intro spelled
    obtain ⟨marker, known, text⟩ := Hex.exists_marker l.data.toList
    exact ⟨marker, known, _, text, spelled⟩
  · rintro ⟨marker, known, ds, text, spelled⟩
    rwa [text, Hex.dropMarker_append known (Hex.spells_iff.1 spelled).1]

/-- The documented behaviour of a decoder: on a log with the signature and two more topics it finds an
event exactly if the data hold a word, with the parties in the low bytes of the topics. -/
structure Lawful (read : Binding) : Prop where
  short : ∀ second third bytes, bytes.length < 32 → read [signatureWord, second, third] bytes = none
  long : ∀ second third word rest, word.length = 32 →
    read [signatureWord, second, third] (word ++ rest) =
      some (.ofWord second, .ofWord third, .ofNat (Hex.ofBytes word))

theorem lawful_binding : Lawful binding where
  short second third bytes h := by
    rw [binding, if_neg fun hs => Nat.not_le.2 h hs.2]
  long second third word rest h := by
    have front : (word ++ rest).take 32 = word := List.take_left' h
    have whole : 32 ≤ (word ++ rest).length := by
      rw [List.length_append, h]
      omega
    rw [binding, if_pos ⟨rfl, whole⟩, front]

/-- The amount of some bytes: their first word, or all of them if they are fewer. -/
def amountIn (bytes : List UInt8) : Nat :=
  if 32 ≤ bytes.length then Hex.ofBytes (bytes.take 32) else Hex.ofBytes bytes

theorem amountIn_lt (bytes : List UInt8) : amountIn bytes < 2 ^ 256 := by
  have bytesLt : ∀ bytes : List UInt8, bytes.length ≤ 32 → Hex.ofBytes bytes < 2 ^ 256 := by
    intro bytes small
    calc Hex.ofBytes bytes < 256 ^ bytes.length := Hex.ofBytes_lt bytes
      _ ≤ 256 ^ 32 := Nat.pow_le_pow_right (by decide) small
      _ = 2 ^ 256 := by decide
  unfold amountIn
  split
  · exact bytesLt _ (List.length_take_le _ _)
  · exact bytesLt _ (by omega)

/-- The parties and the amount are the same with and without the decoder, so only the laws of the decoder
matter. -/
theorem Lawful.ofParts_eq {read : Binding} (lawful : Lawful read) (token : Address) (second third : Word)
    (bytes : List UInt8) : ofParts read token signatureWord second third bytes =
      ⟨token, .ofWord second, .ofWord third, amountIn bytes⟩ := by
  unfold ofParts amountIn
  by_cases long : 32 ≤ bytes.length
  · have word : (bytes.take 32).length = 32 := List.length_take_of_le long
    have found := lawful.long second third (bytes.take 32) (bytes.drop 32) word
    have small : Hex.ofBytes (bytes.take 32) < Word.bound := by
      have bound := Hex.ofBytes_lt (bytes.take 32)
      rwa [word] at bound
    have amount : (Word.ofNat (Hex.ofBytes (bytes.take 32))).toNat = Hex.ofBytes (bytes.take 32) :=
      Nat.mod_eq_of_lt small
    rw [List.take_append_drop] at found
    simp only [found, amount, if_pos long]
  · simp only [lawful.short second third bytes (Nat.not_le.1 long), if_neg long]

/-- The emitter of a log and the words that hold its parties. -/
structure Frame (l : EventLog) (token : Address) (w w' : Word) : Prop where
  emitter : Address.parse l.emitter = .ok token
  topics : ∃ first second third rest, l.topics = first :: second :: third :: rest ∧
    sameLetters first signature = true ∧ readTopic second = .ok w ∧ readTopic third = .ok w'

theorem Frame.decodeWith_eq {read : Binding} {l : EventLog} {token : Address} {w w' : Word}
    (frame : Frame l token w w') :
    decodeWith read l = match Hex.decode (Hex.dropMarker l.data.toList) with
      | .ok bytes => .ok (ofParts read token signatureWord w w' bytes)
      | .error fault => .error (.data l.data fault) := by
  obtain ⟨first, second, third, rest, topics, signed, sender, recipient⟩ := frame.topics
  rw [decodeWith, if_pos (isTransfer_eq_true_iff.2 ⟨_, _, _, _, topics, signed⟩)]
  simp only [topics, frame.emitter, readTopic_signature signed, sender, recipient]
  cases Hex.decode (Hex.dropMarker l.data.toList) <;> rfl

theorem readTopic_error {topic : String} {fault : EventFault} (h : readTopic topic = .error fault) :
    ∃ text, fault.toError = .logParsing text := by
  unfold readTopic at h
  split at h
  · cases h
  · cases h
    exact ⟨_, rfl⟩

/-- A log without a frame is refused before its data are read. -/
theorem exists_frame_or_refused (read : Binding) (l : EventLog) :
    (∃ token w w', Frame l token w w') ∨
      ∃ fault text, decodeWith read l = .error fault ∧ fault.toError = .logParsing text := by
  cases transfer : isTransfer l with
  | false => exact .inr ⟨.notTransfer, _, by simp [decodeWith, transfer], rfl⟩
  | true =>
      obtain ⟨first, second, third, rest, topics, signed⟩ := isTransfer_eq_true_iff.1 transfer
      rw [decodeWith, if_pos transfer]
      simp only [topics, readTopic_signature signed]
      cases emitter : Address.parse l.emitter with
      | error fault => exact .inr ⟨_, _, rfl, rfl⟩
      | ok token =>
          cases sender : readTopic second with
          | error fault =>
              obtain ⟨text, shown⟩ := readTopic_error sender
              exact .inr ⟨fault, text, rfl, shown⟩
          | ok w =>
              cases recipient : readTopic third with
              | error fault =>
                  obtain ⟨text, shown⟩ := readTopic_error recipient
                  exact .inr ⟨fault, text, rfl, shown⟩
              | ok w' =>
                  exact .inl ⟨token, w, w', emitter, _, _, _, _, topics, signed, sender, recipient⟩

theorem Frame.framed {l : EventLog} {token : Address} {w w' : Word} (frame : Frame l token w w') :
    ∃ sender recipient, Framed l token sender recipient := by
  obtain ⟨first, second, third, rest, topics, signed, readSecond, readThird⟩ := frame.topics
  obtain ⟨ds, signature, -⟩ := readTopic_eq_ok_iff.1 (readTopic_signature signed)
  obtain ⟨sender, hs, -⟩ := readTopic_eq_ok_iff.1 readSecond
  obtain ⟨recipient, hr, -⟩ := readTopic_eq_ok_iff.1 readThird
  exact ⟨sender, recipient, frame.emitter, _, _, _, _, topics, signed, ⟨ds, signature⟩, hs, hr⟩

theorem Framed.frame {l : EventLog} {token : Address} {sender recipient : List Char}
    (framed : Framed l token sender recipient) : ∃ w w', Frame l token w w' ∧
      (Address.ofWord w).toNat = Hex.value (sender.drop 24) ∧
      (Address.ofWord w').toNat = Hex.value (recipient.drop 24) := by
  obtain ⟨first, second, third, rest, topics, signed, -, hs, hr⟩ := framed.topics
  have number : ∀ {topic ds}, IsWord topic ds → (Word.ofNat (Hex.value ds)).toNat = Hex.value ds :=
    fun word => Nat.mod_eq_of_lt word.value_lt
  have readSecond := readTopic_eq_ok_iff.2 ⟨_, hs, number hs⟩
  have readThird := readTopic_eq_ok_iff.2 ⟨_, hr, number hr⟩
  exact ⟨_, _, ⟨framed.emitter, _, _, _, _, topics, signed, readSecond, readThird⟩,
    toNat_ofWord hs (number hs), toNat_ofWord hr (number hr)⟩

theorem exists_frame_of_ok {read : Binding} {l : EventLog} {e : TransferEvent}
    (h : decodeWith read l = .ok e) :
    ∃ token w w' bytes, Frame l token w w' ∧ Holds l bytes ∧
      e = ofParts read token signatureWord w w' bytes := by
  rcases exists_frame_or_refused read l with ⟨token, w, w', frame⟩ | ⟨fault, _, refused, -⟩
  · rw [frame.decodeWith_eq] at h
    cases data : Hex.decode (Hex.dropMarker l.data.toList) with
    | error fault =>
        rw [data] at h
        cases h
    | ok bytes =>
        rw [data] at h
        exact ⟨token, w, w', bytes, frame, decode_data_eq_ok_iff.1 data, (Except.ok.inj h).symm⟩
  · rw [refused] at h
    cases h

theorem Lawful.topics_of_decodeWith {read : Binding} {l : EventLog} (lawful : Lawful read)
    {e : TransferEvent} (h : decodeWith read l = .ok e) :
    isTransfer l = true ∧ ∃ first second third rest, l.topics = first :: second :: third :: rest ∧
      Address.parseTopic second = .ok e.sender ∧ Address.parseTopic third = .ok e.recipient := by
  obtain ⟨token, w, w', bytes, frame, -, rfl⟩ := exists_frame_of_ok h
  obtain ⟨first, second, third, rest, topics, signed, sender, recipient⟩ := frame.topics
  rw [lawful.ofParts_eq]
  exact ⟨isTransfer_eq_true_iff.2 ⟨_, _, _, _, topics, signed⟩, _, _, _, _, topics,
    parseTopic_of_readTopic sender, parseTopic_of_readTopic recipient⟩

theorem topics_of_decode {l : EventLog} {e : TransferEvent} (h : decode l = .ok e) :
    isTransfer l = true ∧ ∃ first second third rest, l.topics = first :: second :: third :: rest ∧
      Address.parseTopic second = .ok e.sender ∧ Address.parseTopic third = .ok e.recipient :=
  lawful_binding.topics_of_decodeWith h

theorem decode_of_not_isTransfer {l : EventLog} (h : isTransfer l = false) :
    decode l = .error .notTransfer := by
  simp [decode, decodeWith, h]

/-- A log is decoded exactly if it is `Framed` and its data are bytes (`Holds`). The event has the
emitter as its token, the last forty digits of the second and the third topic as its parties, and
`amountIn` of the data as its amount; all other digits and topics are ignored. A framed log with other
data is refused for its amount, and every other log as an event. -/
theorem decodeWith_eq_ok_iff_framed (read : Binding) (lawful : Lawful read) (l : EventLog) :
    (∀ token sender recipient bytes, Framed l token sender recipient → Holds l bytes →
      ∃ e, decodeWith read l = .ok e ∧ e.token = token ∧
        e.sender.toNat = Hex.value (sender.drop 24) ∧
        e.recipient.toNat = Hex.value (recipient.drop 24) ∧
        e.amount = amountIn bytes ∧ e.amount < 2 ^ 256) ∧
    (∀ e, decodeWith read l = .ok e →
      (∃ token sender recipient, Framed l token sender recipient) ∧ ∃ bytes, Holds l bytes) ∧
    ((∃ token sender recipient, Framed l token sender recipient) → (¬ ∃ bytes, Holds l bytes) →
      ∃ fault text, decodeWith read l = .error fault ∧ fault.toError = .amountParsing text) ∧
    ((¬ ∃ token sender recipient, Framed l token sender recipient) →
      ∃ fault text, decodeWith read l = .error fault ∧ fault.toError = .logParsing text) := by
  refine ⟨?read, ?framed, ?data, ?frame⟩
  case read =>
    intro token sender recipient bytes framed holds
    obtain ⟨w, w', frame, hs, hr⟩ := framed.frame
    refine ⟨⟨token, .ofWord w, .ofWord w', amountIn bytes⟩, ?_, rfl, hs, hr, rfl, amountIn_lt bytes⟩
    simp only [frame.decodeWith_eq, decode_data_eq_ok_iff.2 holds, lawful.ofParts_eq]
  case framed =>
    intro e h
    obtain ⟨token, w, w', bytes, frame, holds, -⟩ := exists_frame_of_ok h
    exact ⟨⟨token, frame.framed⟩, bytes, holds⟩
  case data =>
    rintro ⟨token, sender, recipient, framed⟩ unreadable
    obtain ⟨w, w', frame, -⟩ := framed.frame
    cases data : Hex.decode (Hex.dropMarker l.data.toList) with
    | error fault => exact ⟨.data l.data fault, _, by rw [frame.decodeWith_eq, data], rfl⟩
    | ok bytes => exact absurd ⟨bytes, decode_data_eq_ok_iff.1 data⟩ unreadable
  case frame =>
    intro unframed
    exact (exists_frame_or_refused read l).resolve_left fun ⟨token, w, w', frame⟩ =>
      unframed ⟨token, frame.framed⟩

/-- A log with a signature in capital letters, high digits in its topics, a fourth topic and a byte after
the amount, the same log with an odd number of digits in its data, and one without a topic for the
recipient. -/
theorem decodeWith_eq_ok_iff_framed_three_logs :
    let first := "0XDDF252AD1BE2C89B69C2B068FC378DAA952BA7F163C4A11628F55A4DF523B3EF"
    let second := "0xffffffffffffffffffffffff1111111111111111111111111111111111111111"
    let third := "0000000000000000000000012222222222222222222222222222222222222222"
    let log (topics : List String) (data : String) : EventLog :=
      ⟨"0x3333333333333333333333333333333333333333", topics, data⟩
    Lawful binding ∧
      (∃ e, decodeWith binding (log [first, second, third, "fourth"]
          "0x0000000000000000000000000000000000000000000000000000000000000F4240") = .ok e ∧
        e.token.toNat = 0x3333333333333333333333333333333333333333 ∧
        e.sender.toNat = 0x1111111111111111111111111111111111111111 ∧
        e.recipient.toNat = 0x2222222222222222222222222222222222222222 ∧ e.amount = 0xf42) ∧
      (∃ fault text, decodeWith binding (log [first, second, third] "0x0") = .error fault ∧
        fault.toError = .amountParsing text) ∧
      ∃ fault text, decodeWith binding (log [first, second] "0x0") = .error fault ∧
        fault.toError = .logParsing text := by
  intro first second third log
  have words : (∃ ds, IsWord first ds) ∧ IsWord second (second.toList.drop 2) ∧
      IsWord third third.toList :=
    ⟨⟨first.toList.drop 2, ⟨['0', 'X'], by decide, by decide +kernel⟩,
        List.all_eq_true.1 (by decide +kernel), by decide +kernel⟩,
      ⟨⟨['0', 'x'], by decide, by decide +kernel⟩, List.all_eq_true.1 (by decide +kernel),
        by decide +kernel⟩,
      ⟨[], by decide, by decide +kernel⟩, List.all_eq_true.1 (by decide +kernel), by decide +kernel⟩
  have framed : ∀ rest data, Framed (log (first :: second :: third :: rest) data)
      (.ofNat 0x3333333333333333333333333333333333333333) (second.toList.drop 2) third.toList :=
    fun rest data => ⟨show Address.parse "0x3333333333333333333333333333333333333333" = _ by
      decide +kernel, _, _, _, _, rfl, by decide +kernel, words⟩
  refine ⟨lawful_binding, ?_, ?_, ?_⟩
  · have bytes : Holds (log [first, second, third, "fourth"]
          "0x0000000000000000000000000000000000000000000000000000000000000F4240")
        (List.replicate 30 0 ++ [0x0f, 0x42, 0x40]) :=
      ⟨['0', 'x'], by decide, List.replicate 61 '0' ++ ['F', '4', '2', '4', '0'], by decide +kernel,
        by decide +kernel⟩
    obtain ⟨e, read, token, sender, recipient, amount, -⟩ :=
      (decodeWith_eq_ok_iff_framed binding lawful_binding _).1 _ _ _ _ (framed _ _) bytes
    refine ⟨e, read, token ▸ rfl, sender.trans ?_, recipient.trans ?_, amount.trans ?_⟩
    all_goals decide +kernel
  · refine (decodeWith_eq_ok_iff_framed binding lawful_binding _).2.2.1 ⟨_, _, _, framed _ _⟩ ?_
    rintro ⟨bytes, holds⟩
    have odd : Hex.decode (Hex.dropMarker "0x0".toList) = .error .oddLength := by decide +kernel
    cases odd.symm.trans (decode_data_eq_ok_iff.2 holds)
  · refine (decodeWith_eq_ok_iff_framed binding lawful_binding _).2.2.2 ?_
    rintro ⟨_, _, _, -, _, _, _, _, topics, -⟩
    cases topics

/-- A topic may have the capital marker, which a small marker alone would not allow. -/
theorem decode_capital_marker :
    let second := "0X0000000000000000000000001111111111111111111111111111111111111111"
    let third := "0x0000000000000000000000002222222222222222222222222222222222222222"
    let l : EventLog := ⟨"0x3333333333333333333333333333333333333333", [signature, second, third],
      "0x00000000000000000000000000000000000000000000000000000000000f4240"⟩
    decode l = .ok ⟨.ofNat 0x3333333333333333333333333333333333333333,
        .ofNat 0x1111111111111111111111111111111111111111,
        .ofNat 0x2222222222222222222222222222222222222222, 1000000⟩ ∧
      ¬ ∃ ds, (second.toList = ds ∨ second.toList = '0' :: 'x' :: ds) ∧ ds.length = 64 ∧
        ∀ c ∈ ds, Hex.isDigit c = true := by
  intro second third l
  refine ⟨by decide +kernel, ?_⟩
  rintro ⟨ds, whole | marked, length, -⟩
  · rw [← whole] at length
    exact absurd length (by decide +kernel)
  · have capital : second.toList.take 2 ≠ ['0', 'x'] := by decide +kernel
    exact capital (by rw [marked]; rfl)

end TransferEvent

end WalletWatch
