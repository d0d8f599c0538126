import VelaWallet.Ctap.SharedKey

/-!
# A whole conversation on a shared key

An opening and the exchanges after it, beside the same conversation on a port that
only the client's own reports reach.
-/

namespace VelaWallet.Ctap

variable {alone : HidCable}

/-- A request of a conversation: its command, its payload and the touch it asks for. -/
structure CableRequest where
  command : CtapHidCommand
  payload : List UInt8
  touch : Option TouchKind

namespace HidCable

def answer (cable : HidCable) (request : CableRequest) :
    Option (Except CableError (List UInt8) × HidCable) :=
  { cable with touch := request.touch }.exchangeRaw request.command request.payload

/-- The request goes out whole, so that the exchange comes to its reading loop. -/
def Sends (cable : HidCable) (command : CtapHidCommand) (payload : List UInt8) : Prop :=
  (cable.send command payload).1 = .ok ()

/-- The same cable on a port that only its own channel's reports reach. -/
structure Alone (cable alone : HidCable) : Prop where
  channel : alone.channel = cable.channel
  port : alone.port =
    cable.port.reading (keptReadings (onChannel cable.channel) cable.port.readings)

end HidCable

/-- An exchange that returns the same and leaves the same own readings; the payload it
returns is that of a message on the cable's own channel. -/
structure AnswersAlike (channel : Nat) (readings : List Reading)
    (answer alone : Except CableError (List UInt8) × HidCable) : Prop where
  returned : answer.1 = alone.1
  left : keptReadings (onChannel channel) answer.2.port.readings = alone.2.port.readings
  own : ∀ payload, answer.1 = .ok payload →
    ∃ heard message, hear {} false readings = some heard ∧ heard.outcome = .ok message ∧
      message.channel = channel ∧ message.payload = payload

/-- Every exchange of a conversation comes out alike. -/
def ConversesAlike : HidCable → HidCable → List CableRequest → Prop
  | _, _, [] => True
  | cable, alone, request :: requests =>
    Option.Rel
      (fun answer answerAlone =>
        AnswersAlike cable.channel cable.port.readings answer answerAlone ∧
          ConversesAlike answer.2 answerAlone.2 requests)
      (cable.answer request) (alone.answer request)

/-- No exchange of a conversation is disturbed by a foreign report. -/
def ConversesUndisturbed : HidCable → List CableRequest → Prop
  | _, [] => True
  | cable, request :: requests =>
    (cable.Sends request.command request.payload →
      Undisturbed (onChannel cable.channel) {} {} cable.port.readings) ∧
    ∀ answer, cable.answer request = some answer → ConversesUndisturbed answer.2 requests

/-- An opening that returns the same, the channel its own `INIT` reply allocates where
it adopts one, and leaves the same own readings. -/
structure OpensAlike (nonce : List UInt8) (readings : List Reading)
    (opened alone : Except CableError Nat × HidCable) : Prop where
  returned : opened.1 = alone.1
  left : LeavesAlike nonce readings opened.1 opened.2.port.readings alone.2.port.readings

namespace HidCable

variable {cable : HidCable} {command : CtapHidCommand} {payload : List UInt8}

theorem writeReport_reading (port : HidPort) (readings : List Reading) (report : Report) :
    (port.reading readings).writeReport report =
      ((port.writeReport report).1, (port.writeReport report).2.reading readings) ∧
    (port.writeReport report).2.readings = port.readings := by
  obtain ⟨_, _, _, refusals, _⟩ := port
  match refusals with
  | [] => exact ⟨rfl, rfl⟩
  | none :: _ => exact ⟨rfl, rfl⟩
  | some _ :: _ => exact ⟨rfl, rfl⟩

theorem writeReports_reading (port : HidPort) (readings : List Reading) (reports : List Report) :
    (port.reading readings).writeReports reports =
      ((port.writeReports reports).1, (port.writeReports reports).2.reading readings) ∧
    (port.writeReports reports).2.readings = port.readings := by
  induction reports generalizing port with
  | nil => exact ⟨rfl, rfl⟩
  | cons report _ ih =>
    obtain ⟨written, kept⟩ := writeReport_reading port readings report
    simp only [HidPort.writeReports]
    rw [written]
    revert kept
    match port.writeReport report with
    | (.ok (), next) =>
      intro kept
      obtain ⟨rest, keptRest⟩ := ih next
      exact ⟨rest, keptRest.trans kept⟩
    | (.error _, _) => exact fun kept => ⟨rfl, kept⟩

theorem send_reading (cable : HidCable) (readings : List Reading) (command : CtapHidCommand)
    (payload : List UInt8) :
    { cable with port := cable.port.reading readings }.send command payload =
      ((cable.send command payload).1, (cable.send command payload).2.reading readings) ∧
    (cable.send command payload).2.readings = cable.port.readings := by
  simp only [send]
  match encode cable.channel command payload with
  | .error _ => exact ⟨rfl, rfl⟩
  | .ok frames =>
    obtain ⟨written, kept⟩ := writeReports_reading cable.port readings frames
    dsimp only
    rw [written]
    revert kept
    match cable.port.writeReports frames with
    | (.ok (), _) => exact fun kept => ⟨rfl, kept⟩
    | (.error _, _) => exact fun kept => ⟨rfl, kept⟩

/-- The cable after an exchange whose loop ended. -/
def heardOn (cable : HidCable) (command : CtapHidCommand) (payload : List UInt8) (heard : Heard) :
    HidCable :=
  { cable with
    port := (cable.send command payload).2.reading heard.readings
    announced := cable.announcing heard }

theorem exchangeRaw_sent (sends : cable.Sends command payload) :
    cable.exchangeRaw command payload =
      (hear {} false cable.port.readings).map fun heard =>
        (heard.outcome.map (·.payload), cable.heardOn command payload heard) := by
  have kept := (send_reading cable [] command payload).2
  simp only [Sends] at sends
  simp only [exchangeRaw, heardOn]
  revert sends kept
  match cable.send command payload with
  | (.ok (), port) =>
    intro _ kept
    rw [← show port.readings = cable.port.readings from kept]
    rfl
  | (.error _, _) => exact nofun

theorem exchangeRaw_unsent (unsent : ¬ cable.Sends command payload) :
    ∃ error, (cable.send command payload).1 = .error error ∧
      cable.exchangeRaw command payload =
        some (.error error, { cable with port := (cable.send command payload).2 }) := by
  simp only [Sends] at unsent
  simp only [exchangeRaw]
  revert unsent
  match cable.send command payload with
  | (.ok (), _) => exact fun unsent => absurd rfl unsent
  | (.error error, _) => exact fun _ => ⟨error, rfl, rfl⟩

namespace Alone

variable {alone : HidCable}

theorem send (beside : Alone cable alone) (command : CtapHidCommand) (payload : List UInt8) :
    alone.send command payload =
      ((cable.send command payload).1, (cable.send command payload).2.reading
        (keptReadings (onChannel cable.channel) cable.port.readings)) := by
  rw [← (send_reading cable _ command payload).1, ← beside.port]
  simp only [HidCable.send, beside.channel]

theorem sends (beside : Alone cable alone) :
    alone.Sends command payload ↔ cable.Sends command payload := by
  rw [Sends, Sends, beside.send]

end Alone

theorem rel_map {α β α' β' : Type} {related : α' → β' → Prop} {first : α → α'} {second : β → β'}
    {left : Option α} {right : Option β} :
    Option.Rel related (left.map first) (right.map second) ↔
      Option.Rel (fun a b => related (first a) (second b)) left right := by
  cases left <;> cases right
  · exact ⟨fun _ => .none, fun _ => .none⟩
  · exact ⟨nofun, nofun⟩
  · exact ⟨nofun, nofun⟩
  · exact ⟨fun | .some related => .some related, fun | .some related => .some related⟩

theorem rel_imp {α β : Type} {related other : α → β → Prop} {left : Option α} {right : Option β}
    (both : Option.Rel related left right)
    (weaker : ∀ a b, left = some a → right = some b → related a b → other a b) :
    Option.Rel other left right := by
  cases both with
  | some related => exact .some (weaker _ _ rfl rfl related)
  | none => exact .none

/-- An exchange that was sent comes out as it does alone exactly where nothing is
disturbed. -/
theorem sent_iff (beside : Alone cable alone) (sends : cable.Sends command payload) :
    Option.Rel (AnswersAlike cable.channel cable.port.readings) (cable.exchangeRaw command payload)
        (alone.exchangeRaw command payload) ↔
      Undisturbed (onChannel cable.channel) {} {} cable.port.readings := by
  rw [exchangeRaw_sent sends, exchangeRaw_sent (beside.sends.mpr sends), rel_map, beside.port]
  constructor
  · intro alike
    refine .of_heard (.start _) false false ?_
    exact rel_imp alike fun _ _ _ _ answered => ⟨answered.returned, answered.left⟩
  · intro quiet
    refine rel_imp (quiet.heard (.start _) false false) ?_
    intro heard heardAlone ended endedAlone ⟨same, alike⟩
    refine ⟨alike.returned, alike.left, ?_⟩
    intro payload returned
    cases whole : heard.outcome with
    | error =>
      rw [whole] at returned
      cases returned
    | ok message =>
      rw [whole] at returned
      refine ⟨heard, message, ended, whole, ?_, Except.ok.inj returned⟩
      refine hear_channel endedAlone (same ▸ whole) ?_
      exact fun report member => beq_iff_eq.mp (mem_keptReadings member)

theorem unsent_alike (beside : Alone cable alone) (unsent : ¬ cable.Sends command payload) :
    Option.Rel (AnswersAlike cable.channel cable.port.readings) (cable.exchangeRaw command payload)
      (alone.exchangeRaw command payload) := by
  obtain ⟨error, failed, answered⟩ := exchangeRaw_unsent unsent
  obtain ⟨errorAlone, failedAlone, answeredAlone⟩ :=
    exchangeRaw_unsent (mt beside.sends.mp unsent)
  rw [beside.send, failed] at failedAlone
  cases failedAlone
  rw [answered, answeredAlone, beside.send]
  refine .some ⟨rfl, ?_, nofun⟩
  rw [(send_reading cable [] command payload).2]
  rfl

theorem exchangeRaw_iff {alone : HidCable} (beside : Alone cable alone) :
    Option.Rel (AnswersAlike cable.channel cable.port.readings) (cable.exchangeRaw command payload)
        (alone.exchangeRaw command payload) ↔
      (cable.Sends command payload →
        Undisturbed (onChannel cable.channel) {} {} cable.port.readings) := by
  by_cases sends : cable.Sends command payload
  · rw [sent_iff beside sends]
    exact ⟨fun quiet _ => quiet, fun quiet => quiet sends⟩
  · exact ⟨fun _ sends' => absurd sends' sends, fun _ => unsent_alike beside sends⟩

theorem exchangeRaw_port {answer : Except CableError (List UInt8) × HidCable}
    (answered : cable.exchangeRaw command payload = some answer) :
    answer.2.channel = cable.channel ∧
      answer.2.port = (cable.send command payload).2.reading answer.2.port.readings := by
  by_cases sends : cable.Sends command payload
  · rw [exchangeRaw_sent sends] at answered
    obtain ⟨heard, _, rfl⟩ := Option.map_eq_some_iff.mp answered
    exact ⟨rfl, rfl⟩
  · obtain ⟨_, _, failed⟩ := exchangeRaw_unsent sends
    rw [failed] at answered
    cases answered
    exact ⟨rfl, rfl⟩

theorem Alone.after (beside : Alone cable alone)
    {answer answerAlone : Except CableError (List UInt8) × HidCable}
    (answered : cable.exchangeRaw command payload = some answer)
    (answeredAlone : alone.exchangeRaw command payload = some answerAlone)
    (alike : AnswersAlike cable.channel cable.port.readings answer answerAlone) : Alone answer.2 answerAlone.2 := by
  obtain ⟨channel, port⟩ := exchangeRaw_port answered
  obtain ⟨channelAlone, portAlone⟩ := exchangeRaw_port answeredAlone
  refine ⟨by rw [channel, channelAlone, beside.channel], ?_⟩
  rw [portAlone, beside.send, ← alike.left, port, channel]
  rfl

/-- The exchanges of a conversation come out as they do alone exactly where none is
disturbed. -/
theorem converses_iff (beside : Alone cable alone) (requests : List CableRequest) :
    ConversesAlike cable alone requests ↔ ConversesUndisturbed cable requests := by
  induction requests generalizing cable alone with
  | nil => exact Iff.rfl
  | cons request _ ih =>
    have besideTouch : Alone { cable with touch := request.touch }
        { alone with touch := request.touch } := ⟨beside.channel, beside.port⟩
    have exchange := @exchangeRaw_iff _ request.command request.payload _ besideTouch
    rw [ConversesAlike, ConversesUndisturbed]
    constructor
    · intro alike
      refine ⟨exchange.mp (rel_imp alike fun _ _ _ _ both => both.1), ?_⟩
      intro answer answered
      rw [answered] at alike
      generalize answeredAlone : alone.answer request = answerAlone at alike
      cases alike with
      | some both => exact (ih (besideTouch.after answered answeredAlone both.1)).mp both.2
    · rintro ⟨quiet, later⟩
      refine rel_imp (exchange.mpr quiet) ?_
      intro answer answerAlone answered answeredAlone alike
      exact ⟨alike, (ih (besideTouch.after answered answeredAlone alike)).mpr
        (later answer answered)⟩

theorem adopting_result (nonce : List UInt8) (reply : Except CableError (List UInt8))
    (cable : HidCable) :
    (adopting nonce reply cable).1 = reply.bind (adopted nonce) ∧
      (adopting nonce reply cable).2.port = cable.port := by
  rw [adopting]
  cases reply.bind (adopted nonce) with
  | error _ | ok _ => exact ⟨rfl, rfl⟩

theorem adopting_channel {nonce : List UInt8} {reply : Except CableError (List UInt8)}
    {cable : HidCable} {channel : Nat} (opened : (adopting nonce reply cable).1 = .ok channel) :
    (adopting nonce reply cable).2.channel = channel := by
  rw [(adopting_result nonce reply cable).1] at opened
  rw [adopting, opened]

theorem send_unopened (port : HidPort) (readings : List Reading) (nonce : List UInt8) :
    (unopened (port.reading readings)).send .init nonce =
      (((unopened port).send .init nonce).1,
        ((unopened port).send .init nonce).2.reading readings) :=
  (send_reading (unopened port) readings .init nonce).1

/-- An opening comes out as it does on the own traffic exactly where nothing is
disturbed. -/
theorem openCable_iff (port : HidPort) (nonce : List UInt8) :
    Option.Rel (OpensAlike nonce port.readings) (openCable port nonce)
        (openCable (port.reading (ownTraffic nonce port.readings)) nonce) ↔
      ((unopened port).Sends .init nonce →
        Undisturbed (fun report => decide (AnswersNonce nonce report)) {} {} port.readings) := by
  have sent := send_unopened port (ownTraffic nonce port.readings) nonce
  by_cases sends : (unopened port).Sends .init nonce
  · have sendsAlone : (unopened (port.reading (ownTraffic nonce port.readings))).Sends .init nonce := by
      rw [Sends, sent]
      exact sends
    rw [openCable, openCable, exchangeRaw_sent sends, exchangeRaw_sent sendsAlone, Option.map_map,
      Option.map_map, rel_map]
    have heardAlike := @opening_heard_iff nonce {} port.readings false false
    constructor
    · intro alike _
      refine heardAlike.mp (rel_imp alike ?_)
      intro heard heardAlone _ _ opened
      obtain ⟨returned, left⟩ := opened
      simp only [Function.comp, adopting_result] at returned left
      exact ⟨returned, left⟩
    · intro quiet
      refine rel_imp (heardAlike.mpr (quiet sends)) ?_
      intro heard heardAlone _ _ alike
      refine ⟨?_, ?_⟩
      · simp only [Function.comp, adopting_result]
        exact alike.returned
      · simp only [Function.comp, adopting_result]
        exact alike.left
  · refine ⟨fun _ sends' => absurd sends' sends, fun _ => ?_⟩
    have unsentAlone : ¬ (unopened (port.reading (ownTraffic nonce port.readings))).Sends
        .init nonce := by
      rw [Sends, sent]
      exact sends
    obtain ⟨error, failed, answered⟩ := exchangeRaw_unsent sends
    obtain ⟨errorAlone, failedAlone, answeredAlone⟩ := exchangeRaw_unsent unsentAlone
    rw [sent, failed] at failedAlone
    cases failedAlone
    rw [openCable, openCable, answered, answeredAlone, sent]
    refine .some ⟨rfl, ?_⟩
    change ownTraffic nonce ((unopened port).send .init nonce).2.readings = _
    rw [(send_reading (unopened port) [] .init nonce).2]
    rfl

theorem openCable_alone {port : HidPort} {nonce : List UInt8} {channel : Nat}
    {opened openedAlone : Except CableError Nat × HidCable}
    (answered : openCable port nonce = some opened)
    (answeredAlone : openCable (port.reading (ownTraffic nonce port.readings)) nonce =
      some openedAlone)
    (alike : OpensAlike nonce port.readings opened openedAlone) (adopts : opened.1 = .ok channel) :
    Alone opened.2 openedAlone.2 ∧ opened.2.channel = channel := by
  obtain ⟨reply, replied, rfl⟩ := Option.map_eq_some_iff.mp answered
  obtain ⟨replyAlone, repliedAlone, rfl⟩ := Option.map_eq_some_iff.mp answeredAlone
  have left := alike.left
  rw [adopts] at left
  have channels := adopting_channel adopts
  have channelsAlone := adopting_channel (alike.returned.symm.trans adopts)
  refine ⟨⟨channelsAlone.trans channels.symm, ?_⟩, channels⟩
  rw [channels, left.2, (adopting_result ..).2, (adopting_result ..).2,
    (exchangeRaw_port repliedAlone).2, (exchangeRaw_port replied).2, send_unopened]
  rfl

end HidCable

/-- A conversation comes out as it does on the client's own traffic: the opening returns
the same and adopts only what its own `INIT` reply allocates, and so does each exchange
after it, with payloads of the cable's own channel only. -/
def ConversationAlike (port : HidPort) (nonce : List UInt8) (requests : List CableRequest) : Prop :=
  Option.Rel
    (fun opened alone => OpensAlike nonce port.readings opened alone ∧
      ∀ channel, opened.1 = .ok channel → opened.2.channel = channel ∧
        ConversesAlike opened.2 alone.2 requests)
    (HidCable.openCable port nonce)
    (HidCable.openCable (port.reading (ownTraffic nonce port.readings)) nonce)

/-- No foreign report disturbs the opening or an exchange after it. -/
def ConversationUndisturbed (port : HidPort) (nonce : List UInt8) (requests : List CableRequest) :
    Prop :=
  ((HidCable.unopened port).Sends .init nonce →
    Undisturbed (fun report => decide (AnswersNonce nonce report)) {} {} port.readings) ∧
  ∀ opened channel, HidCable.openCable port nonce = some opened → opened.1 = .ok channel →
    ConversesUndisturbed opened.2 requests

/-- A conversation on a shared key comes out as on a key of one's own exactly where
nothing in it is disturbed. -/
theorem conversation_alike_iff (port : HidPort) (nonce : List UInt8)
    (requests : List CableRequest) :
    ConversationAlike port nonce requests ↔ ConversationUndisturbed port nonce requests := by
  rw [ConversationAlike, ConversationUndisturbed]
  have opening := HidCable.openCable_iff port nonce
  constructor
  · intro alike
    refine ⟨opening.mp (HidCable.rel_imp alike fun _ _ _ _ both => both.1), ?_⟩
    intro opened channel answered adopts
    rw [answered] at alike
    generalize answeredAlone :
      HidCable.openCable (port.reading (ownTraffic nonce port.readings)) nonce = alone at alike
    cases alike with
    | some both =>
      have beside := (HidCable.openCable_alone answered answeredAlone both.1 adopts).1
      exact (HidCable.converses_iff beside requests).mp (both.2 channel adopts).2
  · rintro ⟨quiet, later⟩
    refine HidCable.rel_imp (opening.mpr quiet) ?_
    intro opened alone answered answeredAlone alike
    refine ⟨alike, fun channel adopts => ?_⟩
    obtain ⟨beside, channels⟩ := HidCable.openCable_alone answered answeredAlone alike adopts
    exact ⟨channels, (HidCable.converses_iff beside requests).mpr
      (later opened channel answered adopts)⟩

/-- A whole message in one initialization packet. -/
def initReport (channel : Nat) (command : CtapHidCommand) (body : List UInt8) : Report :=
  Report.padded <| Bytes.beBytes 4 channel ++ [0x80 ||| command.toByte] ++
    Bytes.beBytes 2 body.length ++ body

/-- A key that answers an opening, then another client on channel 1, then this one. -/
def sharedKey : HidPort where
  product := "Key"
  path := "usb:0"
  readings := [
    .ok (initReport broadcastChannel .init
      [1, 2, 3, 4, 5, 6, 7, 8, 0, 0, 0, 7, 2, 1, 0, 0, 0]),
    .ok (initReport 1 .cbor [0x00, 0xa1]),
    .ok (initReport 7 .cbor [0x00, 0xa0])]

/-- The other client's answer is returned as this one's. -/
theorem sharedKey_mixes :
    ¬ ∀ port nonce requests, ConversationAlike port nonce requests := by
  intro every
  have alike := every sharedKey [1, 2, 3, 4, 5, 6, 7, 8] [⟨.cbor, [4], none⟩]
  rw [ConversationAlike] at alike
  generalize opens : HidCable.openCable sharedKey [1, 2, 3, 4, 5, 6, 7, 8] = opened at alike
  generalize opensAlone : HidCable.openCable (sharedKey.reading
    (ownTraffic [1, 2, 3, 4, 5, 6, 7, 8] sharedKey.readings)) [1, 2, 3, 4, 5, 6, 7, 8] = alone
    at alike
  cases alike with
  | none => exact absurd opens (by decide)
  | @some opened alone both =>
    have adopts : opened.1 = .ok 7 := by
      have result := congrArg (Option.map (·.1)) opens
      exact Option.some.inj (result.symm.trans (by decide))
    have answers := (both.2 7 adopts).2
    have asked := congrArg (Option.bind · fun opened =>
      (opened.2.answer ⟨.cbor, [4], none⟩).map (·.1)) opens
    have askedAlone := congrArg (Option.bind · fun opened =>
      (opened.2.answer ⟨.cbor, [4], none⟩).map (·.1)) opensAlone
    simp only [Option.bind_some] at asked askedAlone
    rw [ConversesAlike] at answers
    cases answered : opened.2.answer ⟨.cbor, [4], none⟩ with
    | none =>
      rw [answered] at asked
      exact absurd asked (by decide)
    | some answer =>
      cases answeredAlone : alone.2.answer ⟨.cbor, [4], none⟩ with
      | none =>
        rw [answeredAlone] at askedAlone
        exact absurd askedAlone (by decide)
      | some =>
        rw [answered, answeredAlone] at answers
        cases answers with
        | some answers =>
          rw [answered] at asked
          rw [answeredAlone] at askedAlone
          have returned := congrArg some answers.1.returned
          exact absurd (asked.trans (returned.trans askedAlone.symm)) (by decide)

end VelaWallet.Ctap
