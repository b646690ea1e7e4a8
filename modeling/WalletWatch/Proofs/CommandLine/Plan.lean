import WalletWatch.CommandLine.Plan
import WalletWatch.Proofs.Command

/-!
# What a call publishes

A call for a change of a subscription is read from its words. If its address cannot be read, nothing is sent
to the store; otherwise at most one payload is, which decodes to the command of the call.
-/

namespace WalletWatch

namespace Decimal

theorem integer?_toString (n : Int) : integer? (toString n).toList = some n := by
  have magnitude : digits? (Json.Numeral.ofNat n.natAbs).text = some n.natAbs := by
    rw [Json.Numeral.text_of_isPlain rfl]
    exact digits?_toDigits _
  rw [Json.Numeral.toString_int, Json.Numeral.text_ofInt, String.toList_ofList]
  by_cases negative : n < 0
  · have value : -(n.natAbs : Int) = n := by omega
    rw [if_pos negative, integer?, magnitude]
    exact congrArg some value
  · obtain ⟨c, cs, hc, digit⟩ := Json.Numeral.exists_digit_ofNat n.natAbs
    have value : (n.natAbs : Int) = n := by omega
    rw [if_neg negative]
    rw [hc] at magnitude ⊢
    rw [integer?, natural?, magnitude]
    · exact congrArg some value
    · rintro _ ⟨⟩
      cases digit
    · rintro _ ⟨⟩
      cases digit

theorem word?_toString {n : Int} (fits : Width.fitsSigned64 n = true) :
    word? (toString n).toList = some n := by
  rw [word?, integer?_toString]
  exact if_pos fits

end Decimal

theorem Text.cutAt?_singleton {mark : Char} {before : List Char} (absent : mark ∉ before)
    (after : List Char) : cutAt? [mark] (before ++ mark :: after) = some (before, after) := by
  induction before with
  | nil => simp [cutAt?, dropMark?]
  | cons c before ih =>
      obtain ⟨other, absent⟩ := not_or.1 (List.mem_cons.not.1 absent)
      simp [cutAt?, dropMark?, other, ih absent]

namespace CommandLine

def Slot.word (slot : Slot) (value : String) : String :=
  "--" ++ slot.name ++ "=" ++ value

theorem Word.ofString_word (slot : Slot) (value : String) :
    Word.ofString (slot.word value) = .long slot.name (some value) := by
  have absent : '=' ∉ slot.name.toList := by cases slot <;> decide
  have cut := Text.cutAt?_singleton absent value.toList
  have text : (slot.word value).toList = '-' :: '-' :: (slot.name.toList ++ '=' :: value.toList) := by
    simp [Slot.word]
  obtain ⟨c, cs, hc⟩ : ∃ c cs, slot.name.toList ++ '=' :: value.toList = c :: cs :=
    List.exists_cons_of_ne_nil (by simp)
  rw [Word.ofString, text]
  rw [hc] at cut ⊢
  simp [cut]

namespace Request

def words : Request → List String
  | add address user => [Subcommand.add.name, Slot.address.word address, Slot.user.word (toString user)]
  | remove address user =>
    [Subcommand.remove.name, Slot.address.word address, Slot.user.word (toString user)]
  | sample => [Subcommand.sample.name]

end Request

theorem Subcommand.ofName?_name (c : Subcommand) : ofName? c.name = some c := by
  cases c <;> rfl

theorem readBoth_words (topic : Subcommand) (address : String) {text : String} {user : UserId}
    (value : Decimal.word? text.toList = some user) :
    readBoth topic [Slot.address.word address, Slot.user.word text] = .ok (address, user) := by
  simp [readBoth, readOptions, Word.ofString_word, Draft.step, Draft.settle, Draft.fill, Draft.has,
    Slot.name, value, bind, Except.bind]

namespace Request

/-- `Asks address user kind request`: the request changes the subscription of `user` to `address` by a
command of this kind. -/
inductive Asks (address : String) (user : UserId) : CommandKind → Request → Prop where
  | add : Asks address user .add (add address user)
  | remove : Asks address user .remove (remove address user)

theorem Asks.parse_words {address : String} {user : UserId} {kind : CommandKind} {r : Request}
    (asks : Asks address user kind r) (fits : Width.fitsSigned64 user = true) :
    parse r.words = .ok r := by
  have value := Decimal.word?_toString fits
  cases asks with
  | add =>
      have both := readBoth_words .add address value
      simp only [words, parse, Subcommand.ofName?_name, both]
      rfl
  | remove =>
      have both := readBoth_words .remove address value
      simp only [words, parse, Subcommand.ofName?_name, both]
      rfl

theorem Asks.plan_eq {address : String} {user : UserId} {kind : CommandKind} {r : Request}
    (asks : Asks address user kind r) (settings : Settings) (now : Instant) :
    r.plan settings now = match Address.parse address with
      | .error fault => .finish (misaddressed fault)
      | .ok a => .publish settings.redis settings.service.commandChannel ⟨kind, a, user, some now⟩ := by
  cases asks <;> rw [plan, toCommand] <;> cases Address.parse address <;> rfl

end Request

namespace StoreAnswers

def Opens (answers : StoreAnswers) (store : StoreSettings) : Prop :=
  (∃ opening, Store.connect store answers.reached = .ok opening) ∧ answers.opened = .ok ()

end StoreAnswers

def messages (sent : List StoreCommand) : List (String × String) :=
  sent.filterMap fun
    | .publish channel payload => some (channel, payload)
    | _ => none

theorem messages_opening (t : StoreTarget) : messages (Store.opening t) = [] := by
  rw [messages, Store.opening]
  cases t.password <;> by_cases db : t.db = 0 <;> simp [db]

theorem messages_of_connect {store : StoreSettings} {reached : Except IoCause Unit}
    {opening : List StoreCommand} (h : Store.connect store reached = .ok opening) :
    messages opening = [] := by
  unfold Store.connect at h
  split at h
  · cases h
  · cases h
    exact messages_opening _
  · cases h

theorem Plan.carryOut_of_not_opens {answers : StoreAnswers} {store : StoreSettings} (channel : String)
    (c : Command) (closed : ¬ answers.Opens store) :
    ∃ sent e, (publish store channel c).carryOut answers = (sent, unpublished e) ∧ messages sent = [] := by
  rw [carryOut]
  cases connection : Store.connect store answers.reached with
  | error e => exact ⟨[], e, rfl, rfl⟩
  | ok opening =>
      cases opened : answers.opened with
      | error e => exact ⟨opening, e, rfl, messages_of_connect connection⟩
      | ok _ => exact absurd ⟨⟨opening, connection⟩, opened⟩ closed

theorem Plan.messages_carryOut {answers : StoreAnswers} {store : StoreSettings} (channel : String)
    (c : Command) (opens : answers.Opens store) :
    messages ((publish store channel c).carryOut answers).1 = [(channel, c.encode)] := by
  obtain ⟨⟨opening, connection⟩, opened⟩ := opens
  have before := messages_of_connect connection
  rw [messages] at before
  rw [carryOut]
  simp [connection, opened, messages, before]

/-- Every command that can be decoded is read back from its own text, and so is every command but those
of an unknown kind with the text of a known one. A call for a change of a subscription publishes nothing
if the settings or the address cannot be read, or the store cannot be opened. Else it publishes one
message, which decodes to the command. -/
theorem decode_encode_carryOut_plan :
    (∀ c : Command, c.kind ≠ .other "add_wallet" → c.kind ≠ .other "remove_wallet" →
      Width.fitsSigned64 c.user = true → Command.decode c.encode = .ok c) ∧
    (∀ payload c, Command.decode payload = .ok c →
      c.kind ≠ .other "add_wallet" ∧ c.kind ≠ .other "remove_wallet" ∧ Command.decode c.encode = .ok c) ∧
    ∀ address user kind request, Request.Asks address user kind request → Width.fitsSigned64 user = true →
      parse request.words = .ok request ∧
      ∀ words, parse words = .ok request → ∀ file env now answers,
        let call := (plan words file env now).carryOut answers
        (∀ e, Settings.load file env = .error e → call = ([], unsettled e)) ∧
        ∀ settings, Settings.load file env = .ok settings →
          (∀ fault, Address.parse address = .error fault → call = ([], misaddressed fault)) ∧
          ∀ a, Address.parse address = .ok a →
            (answers.Opens settings.redis →
              ∃ payload, messages call.1 = [(settings.service.commandChannel, payload)] ∧
                Command.decode payload = .ok ⟨kind, a, user, some now⟩) ∧
            (¬ answers.Opens settings.redis → messages call.1 = [] ∧ ∃ e, call.2 = unpublished e) := by
  refine ⟨fun c add remove user => Command.decode_encode ⟨⟨add, remove⟩, user⟩, fun payload c h => ?_, ?_⟩
  · have sound := Command.sound_of_decode h
    exact ⟨sound.kind.1, sound.kind.2, Command.decode_encode sound⟩
  · intro address user kind request asks fits
    refine ⟨asks.parse_words fits, fun words meant file env now answers => ⟨fun e unread => ?_, ?_⟩⟩
    · simp only [plan, meant, unread]
      rfl
    · intro settings loaded
      have planned : plan words file env now = request.plan settings now := by
        simp only [plan, meant, loaded]
      rw [planned, asks.plan_eq]
      refine ⟨fun fault refused => ?_, fun a parsed => ⟨fun opens => ?_, fun closed => ?_⟩⟩
      · rw [refused]
        rfl
      · rw [parsed]
        have told : kind.Told := by cases asks <;> exact ⟨nofun, nofun⟩
        exact ⟨_, Plan.messages_carryOut _ _ opens, Command.decode_encode ⟨told, fits⟩⟩
      · rw [parsed]
        obtain ⟨sent, e, call, none⟩ := Plan.carryOut_of_not_opens settings.service.commandChannel
          ⟨kind, a, user, some now⟩ closed
        dsimp only
        rw [call]
        exact ⟨none, e, rfl⟩

/-- A command of an unknown kind is read back, and so is the removal of an address that is spelled with a
capital marker. -/
theorem decode_encode_carryOut_plan_removal :
    Command.decode (Command.encode ⟨.other "add_wallet\"", .zero, -1, none⟩) =
      .ok ⟨.other "add_wallet\"", .zero, -1, none⟩ ∧
    Address.parse " 0XF977814e90dA44bFA03b6295A0616a897441aceC" =
      .ok (.ofNat 0xf977814e90da44bfa03b6295a0616a897441acec) ∧
    StoreAnswers.Opens ⟨.ok (), .ok (), .ok 0⟩ {} ∧
    ∃ payload,
      messages ((plan (Request.remove " 0XF977814e90dA44bFA03b6295A0616a897441aceC" (-7)).words .missing
        (fun _ => none) default).carryOut ⟨.ok (), .ok (), .ok 0⟩).1 = [("wallet_commands", payload)] ∧
      Command.decode payload =
        .ok ⟨.remove, .ofNat 0xf977814e90da44bfa03b6295a0616a897441acec, -7, some default⟩ := by
  obtain ⟨back, -, arrive⟩ := decode_encode_carryOut_plan
  have parsed : Address.parse " 0XF977814e90dA44bFA03b6295A0616a897441aceC" =
      .ok (.ofNat 0xf977814e90da44bfa03b6295a0616a897441acec) := by rfl
  have opens : StoreAnswers.Opens ⟨.ok (), .ok (), .ok 0⟩ {} := ⟨⟨[], by rfl⟩, rfl⟩
  obtain ⟨meant, calls⟩ := arrive _ (-7) .remove _ .remove (by decide)
  obtain ⟨-, settled⟩ := calls _ meant .missing (fun _ => none) default ⟨.ok (), .ok (), .ok 0⟩
  obtain ⟨-, sent⟩ := settled {} (by rfl)
  exact ⟨back _ (by decide) (by decide) (by decide), parsed, opens, (sent _ parsed).1 opens⟩

end CommandLine

end WalletWatch
