import VelaWallet.Ctap.HidCable

/-!
# A key several clients talk to

Every client of a security key reads every report.  This module says which of the
reports are a cable's own, and exactly when an opening and each exchange come out
as they do with the other clients' reports taken away.
-/

namespace VelaWallet.Ctap

open Bytes (beNat)

variable {announced : Bool} {outcome : Except CableError Message} {readings : List Reading}
  {alone collecting : Reassembler} {reply report : Report} {mine : Report → Bool}
  {message : Message}

def keptReadings (mine : Report → Bool) (readings : List Reading) : List Reading :=
  readings.filter fun
    | .ok report => mine report
    | .error _ => true

/-- The reports on a cable's own channel. -/
def onChannel (channel : Nat) (report : Report) : Bool := report.channel == channel

/-- The `INIT` reply that echoes this nonce, whole in its one report. -/
def AnswersNonce (nonce : List UInt8) (report : Report) : Prop :=
  report.StartsMessage ∧ report.command = some .init ∧ report.channel = broadcastChannel ∧
    17 ≤ report.declared ∧ report.declared ≤ initPayload ∧ report.head.take 8 = nonce

instance (nonce : List UInt8) (report : Report) : Decidable (AnswersNonce nonce report) :=
  inferInstanceAs (Decidable (_ ∧ _ ∧ _ ∧ _ ∧ _ ∧ _))

/-- The channel an `INIT` reply allocates. -/
def allocated (reply : Report) : Nat := beNat ((reply.head.drop 8).take 4)

/-- A client's own traffic: its `INIT` reply, then the reports on the channel that
reply allocates. -/
def ownTraffic (nonce : List UInt8) : List Reading → List Reading
  | [] => []
  | .error error :: readings => .error error :: ownTraffic nonce readings
  | .ok report :: readings =>
    if AnswersNonce nonce report then
      .ok report :: keptReadings (onChannel (allocated report)) readings
    else ownTraffic nonce readings

def HidPort.reading (port : HidPort) (readings : List Reading) : HidPort := { port with readings }

/-- The loop goes on after this: nothing is whole yet, or it was a keepalive. -/
def goesOn : Except HidError (Option Message) → Bool
  | .ok none => true
  | .ok (some message) => message.command == .keepAlive
  | .error _ => false

/-- A report that does not end the loop: it opens a message that it leaves unfinished
or that is a keepalive, or continues one so, in its turn. -/
def Harmless (collecting : Reassembler) (report : Report) : Prop :=
  if report.StartsMessage then
    report.declared ≤ maxMessageLen ∧
      (report.command = some .keepAlive ∨ report.command.isSome ∧ initPayload < report.declared)
  else
    collecting.channel = some report.channel ∧
      report.marker.toNat = collecting.nextSequence ∧
      (collecting.command = some .keepAlive ∨
        collecting.buffer.length + contPayload < collecting.declared)

/-- Up to the report that ends the loop: no foreign report ends it, and an own
continuation finds the own message still being collected.  `alone` is what the own
reports would have been collected to. -/
def Undisturbed (mine : Report → Bool) : (collecting alone : Reassembler) → List Reading → Prop
  | _, _, [] => True
  | collecting, alone, .error .wouldBlock :: readings =>
    Undisturbed mine collecting alone readings
  | _, _, .error _ :: _ => True
  | collecting, alone, .ok report :: readings =>
    if mine report then
      (report.StartsMessage ∨ collecting.channel = alone.channel) ∧
        (goesOn (alone.push report).1 →
          Undisturbed mine (collecting.push report).2 (alone.push report).2 readings)
    else
      Harmless collecting report ∧ Undisturbed mine (collecting.push report).2 alone readings

namespace Report

theorem head_length (report : Report) : report.head.length = min report.declared initPayload := by
  have whole := report.size
  simp only [head, List.length_take, List.length_drop, whole, initHeader, initPayload,
    hidReportSize]
  omega

end Report

namespace Reassembler

variable {collecting other : Reassembler} {report : Report}

theorem complete_opened (command : CtapHidCommand) :
    (opened report command).complete report.channel =
      if initPayload < report.declared then (.ok none, opened report command)
      else (.ok (some ⟨report.channel, command, report.head⟩), {}) := by
  have unfinished : report.head.length < report.declared ↔ initPayload < report.declared := by
    rw [report.head_length]
    omega
  simp [complete, opened, unfinished]

theorem push_starts (starts : report.StartsMessage) (collecting other : Reassembler) :
    (collecting.push report).1 = (other.push report).1 ∧
      (goesOn (collecting.push report).1 → (collecting.push report).2 = (other.push report).2) := by
  simp only [push, if_pos starts]
  split
  · exact ⟨rfl, nofun⟩
  split
  · exact ⟨rfl, nofun⟩
  · exact ⟨rfl, fun _ => rfl⟩

theorem extended_length (collecting : Reassembler) (report : Report) :
    (collecting.extended report).buffer.length =
      collecting.buffer.length + min (collecting.declared - collecting.buffer.length) contPayload := by
  have whole := report.size
  simp only [extended, List.length_append, List.length_take, List.length_drop, whole, contHeader,
    contPayload, hidReportSize]
  omega

theorem extended_unfinished (collecting : Reassembler) (report : Report) :
    (collecting.extended report).buffer.length < collecting.declared ↔
      collecting.buffer.length + contPayload < collecting.declared := by
  rw [extended_length]
  have : 0 < contPayload := by decide
  omega

theorem goesOn_push (collecting : Reassembler) (report : Report) :
    goesOn (collecting.push report).1 = true ↔ Harmless collecting report := by
  by_cases starts : report.StartsMessage
  · simp only [push, Harmless, if_pos starts]
    cases named : report.command with
    | none => simp [goesOn]
    | some =>
      by_cases long : maxMessageLen < report.declared
      · simp [goesOn, long]
      dsimp only
      rw [if_neg long, complete_opened]
      by_cases unfinished : initPayload < report.declared
      · simp [goesOn, unfinished, Nat.not_lt.mp long]
      · simp [goesOn, unfinished, Nat.not_lt.mp long]
  · simp only [push, Harmless, if_neg starts]
    cases expected : collecting.channel with
    | none => simp [goesOn]
    | some channel =>
      by_cases same : report.channel = channel
      · subst same
        by_cases turn : report.marker.toNat = collecting.nextSequence
        · have unfinished := extended_unfinished collecting report
          simp only [ne_eq, not_true_eq_false, if_false, turn, true_and]
          by_cases more : collecting.buffer.length + contPayload < collecting.declared
          · simp [complete, goesOn, unfinished.mpr more, more, show
              (collecting.extended report).declared = collecting.declared from rfl]
          · simp only [complete, show
              (collecting.extended report).declared = collecting.declared from rfl,
              show (collecting.extended report).command = collecting.command from rfl,
              if_neg (mt unfinished.mp more), more, or_false]
            cases collecting.command <;> simp [goesOn]
        · simp [goesOn, turn]
      · have other : ¬ channel = report.channel := fun same' => same same'.symm
        simp [goesOn, same, other]

theorem push_stray (continues : ¬ report.StartsMessage)
    (stray : collecting.channel ≠ some report.channel) :
    (collecting.push report).1 =
      match collecting.channel with
      | none => .error .unexpectedContinuation
      | some expected => .error (.foreignChannel expected report.channel) := by
  simp only [push, if_neg continues]
  cases expected : collecting.channel with
  | none => rfl
  | some channel =>
    have other : ¬ report.channel = channel := fun same => stray (by rw [expected, same])
    simp [other]

theorem push_continues (continues : ¬ report.StartsMessage)
    (expected : collecting.channel = some report.channel) :
    collecting.push report =
      if report.marker.toNat ≠ collecting.nextSequence then
        (.error (.sequenceOutOfOrder collecting.nextSequence report.marker.toNat), collecting)
      else (collecting.extended report).complete report.channel := by
  simp [push, continues, expected]

theorem push_channel
    (whole : (collecting.push report).1 = .ok (some message)) : message.channel = report.channel := by
  by_cases starts : report.StartsMessage
  · simp only [push, if_pos starts] at whole
    split at whole
    · cases whole
    split at whole
    · cases whole
    rw [complete_opened] at whole
    split at whole
    · cases whole
    · cases whole
      rfl
  · by_cases expected : collecting.channel = some report.channel
    · rw [push_continues starts expected] at whole
      split at whole
      · cases whole
      rw [complete] at whole
      split at whole
      · cases whole
      split at whole
      · cases whole
      · cases whole
        exact congrArg (Option.getD · report.channel) expected
    · rw [push_stray starts expected] at whole
      split at whole <;> cases whole

end Reassembler

/-- What the loop ends with after this, when it does not go on. -/
def verdict : Except HidError (Option Message) → Option (Except CableError Message)
  | .ok none => none
  | .ok (some message) =>
    match message.command with
    | .keepAlive => none
    | .error => some (.error (.ctap (Status.fromByte (message.payload.head?.getD 0x7f))))
    | _ => some (.ok message)
  | .error error => some (.error (framing error))

theorem verdict_none {pushed : Except HidError (Option Message)} :
    verdict pushed = none ↔ goesOn pushed = true := by
  match pushed with
  | .ok none => simp [verdict, goesOn]
  | .ok (some ⟨_, command, _⟩) => cases command <;> simp [verdict, goesOn]
  | .error _ => simp [verdict, goesOn]

theorem verdict_channel
    (ended : verdict (collecting.push report).1 = some (.ok message)) :
    message.channel = report.channel := by
  have whole : (collecting.push report).1 = .ok (some message) := by
    revert ended
    match (collecting.push report).1 with
    | .ok none => exact nofun
    | .ok (some ⟨_, command, _⟩) => cases command <;> simp [verdict]
    | .error _ => exact nofun
  exact Reassembler.push_channel whole

theorem hear_ends (ended : verdict (collecting.push report).1 = some outcome) (announced : Bool)
    (readings : List Reading) :
    hear collecting announced (.ok report :: readings) = some ⟨outcome, readings, announced⟩ := by
  rw [hear]
  revert ended
  match collecting.push report with
  | (.ok none, _) => nofun
  | (.ok (some ⟨_, command, _⟩), _) => cases command <;> simp [verdict]
  | (.error _, _) => simp [verdict]

theorem hear_goesOn
    (on : goesOn (collecting.push report).1 = true) (announced : Bool) (readings : List Reading) :
    ∃ announcedLater, hear collecting announced (.ok report :: readings) =
      hear (collecting.push report).2 announcedLater readings := by
  rw [hear]
  revert on
  match collecting.push report with
  | (.ok none, _) => exact fun _ => ⟨_, rfl⟩
  | (.ok (some ⟨_, command, _⟩), _) =>
    cases command with
    | keepAlive => exact fun _ => ⟨_, rfl⟩
    | _ => exact nofun
  | (.error _, _) => exact nofun

theorem hear_shorter {heard : Heard} (ended : hear collecting announced readings = some heard) :
    heard.readings.length < readings.length := by
  induction readings generalizing collecting announced with
  | nil => cases ended
  | cons reading readings ih =>
    match reading with
    | .error .wouldBlock => exact Nat.lt_succ_of_lt (ih ended)
    | .error .timedOut =>
      cases ended
      exact Nat.lt_succ_self _
    | .error (.io _) =>
      cases ended
      exact Nat.lt_succ_self _
    | .ok report =>
      cases outcome : verdict (collecting.push report).1 with
      | none =>
        obtain ⟨_, later⟩ := hear_goesOn (verdict_none.mp outcome) announced readings
        exact Nat.lt_succ_of_lt (ih (later.symm.trans ended))
      | some =>
        rw [hear_ends outcome] at ended
        cases ended
        exact Nat.lt_succ_self _

/-- The loop returns the same, and leaves the same of the own readings. -/
structure HeardAlike (mine : Report → Bool) (heard alone : Heard) : Prop where
  returned : heard.outcome.map (·.payload) = alone.outcome.map (·.payload)
  left : keptReadings mine heard.readings = alone.readings

/-- What is collected beside what the own reports alone are collected to: the same, or
a foreign message or none. -/
structure Beside (channel : Nat) (collecting alone : Reassembler) : Prop where
  own : alone.channel = none ∨ alone.channel = some channel ∧ alone.command ≠ none
  shared : collecting = alone ∨ collecting.channel ≠ some channel

theorem push_goesOn (on : goesOn (collecting.push report).1 = true) :
    (collecting.push report).2.channel = none ∨
      (collecting.push report).2.channel = some report.channel ∧
        ((collecting.push report).2.command ≠ none ∨ ¬ report.StartsMessage ∧
          (collecting.push report).2.command = collecting.command) := by
  by_cases starts : report.StartsMessage
  · simp only [Reassembler.push, if_pos starts] at on ⊢
    cases named : report.command with
    | none => simp [named, goesOn] at on
    | some =>
      simp only [named] at on ⊢
      by_cases long : maxMessageLen < report.declared
      · simp [long, goesOn] at on
      rw [if_neg long, Reassembler.complete_opened]
      split
      · exact .inr ⟨rfl, .inl nofun⟩
      · exact .inl rfl
  · by_cases expected : collecting.channel = some report.channel
    · rw [Reassembler.push_continues starts expected] at on ⊢
      split
      case isTrue turn => simp [turn, goesOn] at on
      case isFalse turn =>
        rw [Reassembler.complete]
        split
        · exact .inr ⟨expected, .inr ⟨starts, rfl⟩⟩
        · split
          · exact .inl rfl
          · exact .inl rfl
    · rw [Reassembler.push_stray starts expected] at on
      cases none : collecting.channel <;> simp [none, goesOn] at on

namespace Beside

variable {channel : Nat} {collecting alone : Reassembler} {report : Report}

theorem start (channel : Nat) : Beside channel {} {} := ⟨.inl rfl, .inl rfl⟩

section

variable (beside : Beside channel collecting alone)
include beside

theorem foreign (other : report.channel ≠ channel)
    (harmless : Harmless collecting report) : Beside channel (collecting.push report).2 alone := by
  refine ⟨beside.own, .inr ?_⟩
  rcases push_goesOn ((Reassembler.goesOn_push _ _).mpr harmless) with idle | ⟨busy, _⟩
  · rw [idle]
    exact nofun
  · rw [busy]
    exact fun same => other (Option.some.inj same)

theorem ours (own : report.channel = channel)
    (same : (collecting.push report).2 = (alone.push report).2)
    (on : goesOn (alone.push report).1 = true) :
    Beside channel (collecting.push report).2 (alone.push report).2 := by
  refine ⟨?_, .inl same⟩
  rcases push_goesOn on with idle | ⟨busy, named | ⟨continues, kept⟩⟩
  · exact .inl idle
  · exact .inr ⟨own ▸ busy, named⟩
  · refine .inr ⟨own ▸ busy, ?_⟩
    rw [kept]
    rcases beside.own with idle | ⟨_, named⟩
    · have stray : alone.channel ≠ some report.channel := by
        rw [idle]
        exact nofun
      rw [Reassembler.push_stray continues stray, idle] at on
      exact absurd on nofun
    · exact named

/-- An own report is taken in the same way when it opens a message or continues the
one being collected. -/
theorem push_same (own : report.channel = channel)
    (known : report.StartsMessage ∨ collecting.channel = alone.channel) :
    (collecting.push report).1 = (alone.push report).1 ∧
      (goesOn (alone.push report).1 = true →
        (collecting.push report).2 = (alone.push report).2) := by
  rcases known with starts | same
  · obtain ⟨pushed, left⟩ := Reassembler.push_starts starts collecting alone
    exact ⟨pushed, fun on => left (pushed ▸ on)⟩
  rcases beside.shared with rfl | lost
  · exact ⟨rfl, fun _ => rfl⟩
  by_cases starts : report.StartsMessage
  · obtain ⟨pushed, left⟩ := Reassembler.push_starts starts collecting alone
    exact ⟨pushed, fun on => left (pushed ▸ on)⟩
  have stray : collecting.channel ≠ some report.channel := own ▸ lost
  have refused := Reassembler.push_stray starts stray
  have refusedAlone := Reassembler.push_stray starts (same ▸ stray)
  rw [← same] at refusedAlone
  refine ⟨refused.trans refusedAlone.symm, fun on => ?_⟩
  rw [refusedAlone] at on
  cases idle : collecting.channel <;> simp [idle, goesOn] at on

end

end Beside

/-- The kind of a framing error, which the first letter of its text shows. -/
def HidError.letter : HidError → Char
  | .tooLong _ => 'T'
  | .unexpectedContinuation => 'U'
  | .sequenceOutOfOrder _ _ => 'S'
  | .foreignChannel _ _ => 'F'
  | .unknownCommand _ => 'U'

theorem head_append {text : String} {letter : Char} (first : text.toList.head? = some letter)
    (rest : String) : (text ++ rest).toList.head? = some letter := by
  rw [String.toList_append, List.head?_append, first, Option.some_or]

theorem debug_letter (error : HidError) : error.debug.toList.head? = some error.letter := by
  cases error with
  | tooLong =>
    have first : "TooLong(".toList.head? = some 'T' := by decide
    exact head_append (head_append first _) _
  | unexpectedContinuation => decide
  | sequenceOutOfOrder =>
    have first : "SequenceOutOfOrder \x7b expected: ".toList.head? = some 'S' := by decide
    exact head_append (head_append (head_append (head_append first _) _) _) _
  | foreignChannel =>
    have first : "ForeignChannel \x7b expected: ".toList.head? = some 'F' := by decide
    exact head_append (head_append (head_append (head_append first _) _) _) _
  | unknownCommand =>
    have first : "UnknownCommand(".toList.head? = some 'U' := by decide
    exact head_append (head_append first _) _

theorem framing_letter {first second : HidError} (same : framing first = framing second) :
    first.letter = second.letter := by
  have texts := congrArg String.toList (CableError.other.inj same)
  rw [String.toList_append, String.toList_append] at texts
  have heads := congrArg List.head? (List.append_cancel_left texts)
  rw [debug_letter, debug_letter] at heads
  exact Option.some.inj heads

/-- An own continuation that finds another message being collected ends the exchange
in another way than it would end alone. -/
theorem stray_differs {channel : Nat}
    (beside : Beside channel collecting alone) (own : report.channel = channel)
    (continues : ¬ report.StartsMessage) (apart : collecting.channel ≠ alone.channel)
    {outcomeAlone : Except CableError Message}
    (ended : verdict (collecting.push report).1 = some outcome)
    (endedAlone : verdict (alone.push report).1 = some outcomeAlone) :
    outcome.map (·.payload) ≠ outcomeAlone.map (·.payload) := by
  have lost : collecting.channel ≠ some channel := by
    rcases beside.shared with rfl | lost
    · exact absurd rfl apart
    · exact lost
  rw [Reassembler.push_stray continues (own ▸ lost)] at ended
  intro same
  rcases beside.own with idle | ⟨busy, named⟩
  · have stray : alone.channel ≠ some report.channel := by
      rw [idle]
      exact nofun
    rw [Reassembler.push_stray continues stray, idle] at endedAlone
    cases foreign : collecting.channel with
    | none => exact apart (foreign.trans idle.symm)
    | some =>
      rw [foreign] at ended
      cases ended
      cases endedAlone
      exact absurd (framing_letter (Except.error.inj same)) (by simp [HidError.letter])
  · obtain ⟨expected, failed, letters⟩ : ∃ error, outcome = .error (framing error) ∧
        error.letter ≠ 'S' := by
      cases foreign : collecting.channel with
      | none | some =>
        rw [foreign] at ended
        cases ended
        exact ⟨_, rfl, by simp [HidError.letter]⟩
    subst failed
    rw [Reassembler.push_continues continues (own ▸ busy)] at endedAlone
    by_cases turn : report.marker.toNat = alone.nextSequence
    · rw [if_neg (not_not_intro turn), Reassembler.complete] at endedAlone
      split at endedAlone
      · cases endedAlone
      split at endedAlone
      case h_1 unnamed => exact named unnamed
      case h_2 =>
        simp only [verdict] at endedAlone
        split at endedAlone
        · cases endedAlone
        · cases endedAlone
          cases same
        · cases endedAlone
          cases same
    · rw [if_pos turn] at endedAlone
      cases endedAlone
      exact letters (framing_letter (Except.error.inj same))

section Exchange

variable {channel : Nat}

theorem mem_keptReadings (member : .ok report ∈ keptReadings mine readings) : mine report = true :=
  (List.mem_filter.mp member).2

theorem keptReadings_own (own : mine report = true) (readings : List Reading) :
    keptReadings mine (.ok report :: readings) = .ok report :: keptReadings mine readings := by
  simp [keptReadings, own]

theorem keptReadings_foreign (foreign : ¬ mine report = true) (readings : List Reading) :
    keptReadings mine (.ok report :: readings) = keptReadings mine readings := by
  simp [keptReadings, foreign]

theorem hear_channel
    {heard : Heard} (ended : hear collecting announced readings = some heard)
    (whole : heard.outcome = .ok message)
    (own : ∀ report, .ok report ∈ readings → report.channel = channel) :
    message.channel = channel := by
  induction readings generalizing collecting announced with
  | nil => cases ended
  | cons reading readings ih =>
    have ownRest : ∀ report, .ok report ∈ readings → report.channel = channel :=
      fun report member => own report (List.mem_cons_of_mem _ member)
    match reading with
    | .error .wouldBlock => exact ih ended ownRest
    | .error .timedOut =>
      cases ended
      cases whole
    | .error (.io _) =>
      cases ended
      cases whole
    | .ok report =>
      cases outcome : verdict (collecting.push report).1 with
      | none =>
        obtain ⟨_, later⟩ := hear_goesOn (verdict_none.mp outcome) announced readings
        exact ih (later.symm.trans ended) ownRest
      | some =>
        rw [hear_ends outcome] at ended
        cases ended
        cases whole
        rw [verdict_channel outcome]
        exact own report List.mem_cons_self

theorem left_shorter {announcedAlone : Bool} :
    ¬ Option.Rel (HeardAlike mine) (some ⟨outcome, readings, announced⟩)
      (hear alone announcedAlone (keptReadings mine readings)) := by
  intro alike
  generalize ended : hear alone announcedAlone (keptReadings mine readings) = heard at alike
  cases alike with
  | some alike =>
    have shorter := hear_shorter ended
    rw [← alike.left] at shorter
    exact Nat.lt_irrefl _ shorter

theorem Undisturbed.heard (beside : Beside channel collecting alone)
    (quiet : Undisturbed (onChannel channel) collecting alone readings)
    (announced announcedAlone : Bool) :
    Option.Rel
      (fun heard heardAlone => heard.outcome = heardAlone.outcome ∧
        HeardAlike (onChannel channel) heard heardAlone)
      (hear collecting announced readings)
      (hear alone announcedAlone (keptReadings (onChannel channel) readings)) := by
  induction readings generalizing collecting alone announced announcedAlone with
  | nil => exact .none
  | cons reading readings ih =>
    match reading with
    | .error .wouldBlock => exact ih beside quiet announced announcedAlone
    | .error .timedOut => exact .some ⟨rfl, rfl, rfl⟩
    | .error (.io _) => exact .some ⟨rfl, rfl, rfl⟩
    | .ok report =>
      by_cases mine : onChannel channel report = true
      · rw [Undisturbed, if_pos mine] at quiet
        rw [keptReadings_own mine]
        have own : report.channel = channel := beq_iff_eq.mp mine
        obtain ⟨pushed, left⟩ := beside.push_same own quiet.1
        cases outcome : verdict (alone.push report).1 with
        | none =>
          have on := verdict_none.mp outcome
          obtain ⟨_, later⟩ := hear_goesOn (pushed ▸ on) announced readings
          obtain ⟨_, laterAlone⟩ := hear_goesOn on announcedAlone
            (keptReadings (onChannel channel) readings)
          rw [later, laterAlone]
          exact ih (beside.ours own (left on) on) (quiet.2 on) _ _
        | some =>
          rw [hear_ends outcome, hear_ends (pushed ▸ outcome)]
          exact .some ⟨rfl, rfl, rfl⟩
      · rw [Undisturbed, if_neg mine] at quiet
        rw [keptReadings_foreign mine]
        have other : report.channel ≠ channel := fun same => mine (beq_iff_eq.mpr same)
        obtain ⟨_, later⟩ := hear_goesOn ((Reassembler.goesOn_push _ _).mpr quiet.1) announced
          readings
        rw [later]
        exact ih (beside.foreign other quiet.1) quiet.2 _ _

/-- Where the loop returns the same and leaves the same own readings, nothing was
disturbed. -/
theorem Undisturbed.of_heard
    (beside : Beside channel collecting alone) (announced announcedAlone : Bool)
    (alike : Option.Rel (HeardAlike (onChannel channel)) (hear collecting announced readings)
      (hear alone announcedAlone (keptReadings (onChannel channel) readings))) :
    Undisturbed (onChannel channel) collecting alone readings := by
  induction readings generalizing collecting alone announced announcedAlone with
  | nil => trivial
  | cons reading readings ih =>
    match reading with
    | .error .wouldBlock => exact ih beside announced announcedAlone alike
    | .error .timedOut => trivial
    | .error (.io _) => trivial
    | .ok report =>
      by_cases mine : onChannel channel report = true
      · rw [Undisturbed, if_pos mine]
        rw [keptReadings_own mine] at alike
        have own : report.channel = channel := beq_iff_eq.mp mine
        have known : report.StartsMessage ∨ collecting.channel = alone.channel := by
          by_contra stray
          obtain ⟨continues, apart⟩ := not_or.mp stray
          have lost : collecting.channel ≠ some report.channel := by
            rcases beside.shared with same | lost
            · exact absurd (congrArg Reassembler.channel same) apart
            · exact own ▸ lost
          obtain ⟨outcome, ended⟩ : ∃ outcome, verdict (collecting.push report).1 = some outcome := by
            rw [Reassembler.push_stray continues lost]
            cases collecting.channel <;> exact ⟨_, rfl⟩
          rw [hear_ends ended] at alike
          cases outcomeAlone : verdict (alone.push report).1 with
          | none =>
            obtain ⟨_, laterAlone⟩ := hear_goesOn (verdict_none.mp outcomeAlone)
              announcedAlone (keptReadings (onChannel channel) readings)
            rw [laterAlone] at alike
            exact (left_shorter alike).elim
          | some =>
            rw [hear_ends outcomeAlone] at alike
            cases alike with
            | some alike =>
              exact stray_differs beside own continues apart ended outcomeAlone
                alike.returned
        refine ⟨known, fun on => ?_⟩
        obtain ⟨pushed, left⟩ := beside.push_same own known
        obtain ⟨_, later⟩ := hear_goesOn (pushed ▸ on) announced readings
        obtain ⟨_, laterAlone⟩ := hear_goesOn on announcedAlone
          (keptReadings (onChannel channel) readings)
        rw [later, laterAlone] at alike
        exact ih (beside.ours own (left on) on) _ _ alike
      · rw [Undisturbed, if_neg mine]
        rw [keptReadings_foreign mine] at alike
        have other : report.channel ≠ channel := fun same => mine (beq_iff_eq.mpr same)
        cases outcome : verdict (collecting.push report).1 with
        | none =>
          have on := verdict_none.mp outcome
          have harmless := (Reassembler.goesOn_push _ _).mp on
          obtain ⟨_, later⟩ := hear_goesOn on announced readings
          rw [later] at alike
          exact ⟨harmless, ih (beside.foreign other harmless) _ _ alike⟩
        | some =>
          rw [hear_ends outcome] at alike
          exact (left_shorter alike).elim

end Exchange

section Opening

variable {nonce : List UInt8}

/-- The channel that what the loop heard makes an opening adopt. -/
def Heard.adopts (heard : Heard) (nonce : List UInt8) : Except CableError Nat :=
  (heard.outcome.map (·.payload)).bind (HidCable.adopted nonce)

/-- What an opening leaves unread: on success the report it ended with is this nonce's
`INIT` reply, and the rest is own by the channel that reply allocates. -/
def LeavesAlike (nonce : List UInt8) (readings : List Reading) (result : Except CableError Nat)
    (left leftAlone : List Reading) : Prop :=
  match result with
  | .ok channel =>
    (∃ earlier reply, readings = earlier ++ .ok reply :: left ∧ AnswersNonce nonce reply ∧
      allocated reply = channel) ∧
    keptReadings (onChannel channel) left = leftAlone
  | .error _ => ownTraffic nonce left = leftAlone

/-- An opening ends the same, on this nonce's `INIT` reply where it adopts a channel. -/
structure OpeningAlike (nonce : List UInt8) (readings : List Reading) (heard alone : Heard) :
    Prop where
  returned : heard.adopts nonce = alone.adopts nonce
  left : LeavesAlike nonce readings (heard.adopts nonce) heard.readings alone.readings

/-- A reading that is not the nonce's reply changes nothing in what an opening must
come to. -/
theorem openingAlike_cons {reading : Reading} {heard alone : Heard}
    (foreign : ∀ report, reading = .ok report → ¬ AnswersNonce nonce report) :
    OpeningAlike nonce (reading :: readings) heard alone ↔
      OpeningAlike nonce readings heard alone := by
  constructor
  · rintro ⟨returned, left⟩
    refine ⟨returned, ?_⟩
    revert left
    cases heard.adopts nonce with
    | error => exact id
    | ok =>
      rintro ⟨⟨earlier, reply, split, answers⟩, kept⟩
      cases earlier with
      | nil => exact absurd answers.1 (foreign reply (List.cons.inj split).1)
      | cons _ earlier => exact ⟨⟨earlier, reply, (List.cons.inj split).2, answers⟩, kept⟩
  · rintro ⟨returned, left⟩
    refine ⟨returned, ?_⟩
    revert left
    cases heard.adopts nonce with
    | error => exact id
    | ok =>
      rintro ⟨⟨earlier, reply, split, answers⟩, kept⟩
      exact ⟨⟨reading :: earlier, reply, by rw [split, List.cons_append], answers⟩, kept⟩

theorem openingAlike_cons_rel {reading : Reading} {heard alone : Option Heard}
    (foreign : ∀ report, reading = .ok report → ¬ AnswersNonce nonce report) :
    Option.Rel (OpeningAlike nonce (reading :: readings)) heard alone ↔
      Option.Rel (OpeningAlike nonce readings) heard alone := by
  constructor
  · rintro (alike | _)
    · exact .some ((openingAlike_cons foreign).mp alike)
    · exact .none
  · rintro (alike | _)
    · exact .some ((openingAlike_cons foreign).mpr alike)
    · exact .none

theorem AnswersNonce.ends {reply : Report} (answers : AnswersNonce nonce reply)
    (collecting : Reassembler) :
    verdict (collecting.push reply).1 = some (.ok ⟨broadcastChannel, .init, reply.head⟩) := by
  obtain ⟨starts, named, channel, _, fits, _⟩ := answers
  have short : ¬ maxMessageLen < reply.declared := by
    have : initPayload ≤ maxMessageLen := by decide
    omega
  simp only [Reassembler.push, if_pos starts, named, if_neg short]
  rw [Reassembler.complete_opened, if_neg (Nat.not_lt.mpr fits), channel]
  rfl

theorem AnswersNonce.adopted (answers : AnswersNonce nonce reply) :
    HidCable.adopted nonce reply.head = .ok (allocated reply) := by
  obtain ⟨_, _, _, long, fits, echoes⟩ := answers
  have length := reply.head_length
  rw [Nat.min_eq_left fits] at length
  rw [HidCable.adopted, if_neg]
  · rfl
  rintro (short | other)
  · omega
  · exact other echoes

theorem ownTraffic_own (answers : AnswersNonce nonce reply) (readings : List Reading) :
    ownTraffic nonce (.ok reply :: readings) =
      .ok reply :: keptReadings (onChannel (allocated reply)) readings := by
  rw [ownTraffic, if_pos answers]

theorem ownTraffic_foreign (foreign : ¬ AnswersNonce nonce report) (readings : List Reading) :
    ownTraffic nonce (.ok report :: readings) = ownTraffic nonce readings := by
  rw [ownTraffic, if_neg foreign]

theorem openingAlike_reply (answers : AnswersNonce nonce reply)
    (announced announcedAlone : Bool) (readings : List Reading) :
    OpeningAlike nonce (.ok reply :: readings)
      ⟨.ok ⟨broadcastChannel, .init, reply.head⟩, readings, announced⟩
      ⟨.ok ⟨broadcastChannel, .init, reply.head⟩,
        keptReadings (onChannel (allocated reply)) readings, announcedAlone⟩ := by
  have adopts : ∀ readings announced,
      Heard.adopts ⟨.ok ⟨broadcastChannel, .init, reply.head⟩, readings, announced⟩ nonce =
        .ok (allocated reply) := fun _ _ => answers.adopted
  refine ⟨by rw [adopts, adopts], ?_⟩
  rw [adopts]
  exact ⟨⟨[], reply, rfl, answers, rfl⟩, rfl⟩

theorem openingAlike_failed (error : CableError) (failed : Reading)
    (announced announcedAlone : Bool) (readings : List Reading) :
    OpeningAlike nonce (failed :: readings) ⟨.error error, readings, announced⟩
      ⟨.error error, ownTraffic nonce readings, announcedAlone⟩ :=
  ⟨rfl, rfl⟩

/-- A foreign report that ends the loop does not end it as the nonce's own reply
would. -/
theorem foreign_ends (foreign : ¬ AnswersNonce nonce report) {announcedAlone : Bool} :
    ¬ Option.Rel (OpeningAlike nonce (.ok report :: readings))
      (some ⟨outcome, readings, announced⟩) (hear {} announcedAlone (ownTraffic nonce readings)) := by
  intro alike
  generalize ended : hear {} announcedAlone (ownTraffic nonce readings) = heard at alike
  cases alike with
  | some alike =>
    have left := alike.left
    revert left
    cases Heard.adopts ⟨outcome, readings, announced⟩ nonce with
    | error =>
      intro left
      have shorter := hear_shorter ended
      rw [← left] at shorter
      exact Nat.lt_irrefl _ shorter
    | ok =>
      rintro ⟨⟨earlier, reply, split, answers, _⟩, _⟩
      have lengths := congrArg List.length split
      simp only [List.length_cons, List.length_append] at lengths
      obtain rfl : earlier = [] := List.length_eq_zero_iff.mp (by omega)
      cases split
      exact foreign answers

/-- An opening comes out as it does on the own traffic exactly where nothing is
disturbed. -/
theorem opening_heard_iff {collecting : Reassembler} {readings : List Reading}
    (announced announcedAlone : Bool) :
    Option.Rel (OpeningAlike nonce readings) (hear collecting announced readings)
        (hear {} announcedAlone (ownTraffic nonce readings)) ↔
      Undisturbed (fun report => decide (AnswersNonce nonce report)) collecting {} readings := by
  induction readings generalizing collecting announced announcedAlone with
  | nil => exact ⟨fun _ => trivial, fun _ => .none⟩
  | cons reading readings ih =>
    match reading with
    | .error .wouldBlock =>
      have foreign : ∀ report, (.error .wouldBlock : Reading) = .ok report →
          ¬ AnswersNonce nonce report := nofun
      rw [openingAlike_cons_rel foreign]
      exact ih announced announcedAlone
    | .error .timedOut =>
      exact ⟨fun _ => trivial, fun _ => .some (openingAlike_failed _ _ _ _ _)⟩
    | .error (.io _) =>
      exact ⟨fun _ => trivial, fun _ => .some (openingAlike_failed _ _ _ _ _)⟩
    | .ok report =>
      by_cases answers : AnswersNonce nonce report
      · rw [ownTraffic_own answers, hear_ends (answers.ends _), hear_ends (answers.ends _),
          Undisturbed, if_pos (by simpa using answers)]
        constructor
        · intro _
          refine ⟨.inl answers.1, fun on => ?_⟩
          exact absurd (verdict_none.mpr on) (by rw [answers.ends]; exact nofun)
        · intro _
          exact .some (openingAlike_reply answers _ _ _)
      · rw [ownTraffic_foreign answers, Undisturbed, if_neg (by simpa using answers),
          ← Reassembler.goesOn_push]
        cases outcome : verdict (collecting.push report).1 with
        | none =>
          have on := verdict_none.mp outcome
          obtain ⟨_, later⟩ := hear_goesOn on announced readings
          have foreign : ∀ other, (.ok report : Reading) = .ok other →
              ¬ AnswersNonce nonce other := fun _ same => Except.ok.inj same ▸ answers
          rw [later, openingAlike_cons_rel foreign, ih]
          exact ⟨fun quiet => ⟨on, quiet⟩, fun quiet => quiet.2⟩
        | some =>
          rw [hear_ends outcome]
          constructor
          · exact fun alike => absurd alike (foreign_ends answers)
          · intro quiet
            exact absurd (verdict_none.mpr quiet.1) (by rw [outcome]; exact nofun)

end Opening

end VelaWallet.Ctap
