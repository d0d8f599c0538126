import VelaWallet.Signer.Connection

/-!
# What one frame does

The cases of a connection's answer to a frame, and what the loop over the frames
that have come makes of them.
-/

namespace VelaWallet.TrustedSigner

open Json (Value Reader Writer)

@[simp] theorem Step.then_write (first second : Step) :
    (first.then second).write = first.write ++ second.write := rfl

@[simp] theorem Step.then_outcome (first second : Step) :
    (first.then second).outcome = second.outcome.or first.outcome := rfl

@[simp] theorem Step.empty_then (step : Step) : ({} : Step).then step = step := by
  simp [Step.then]

@[simp] theorem Step.then_empty (step : Step) : step.then {} = step := by
  simp [Step.then]

theorem Step.then_assoc (first second third : Step) :
    (first.then second).then third = first.then (second.then third) := by
  simp [Step.then, Option.or_assoc, Bool.or_assoc, List.append_assoc]

/-- The phases after an answer: no outcome comes before the next request. -/
def Phase.Settled (phase : Phase) : Prop := phase = .idle ∨ phase = .done

namespace Connection

variable [Reader] {connection next : Connection} {frame : Frame} {step : Step}

/-- The text a frame completes, its earlier pieces before it. -/
def textWith (connection : Connection) (payload : List UInt8) : List Char :=
  Chars.fromUtf8Lossy (connection.fragments ++ payload)

/-- What a frame can do. -/
inductive FrameCase (connection : Connection) : Frame → Connection → Step → Prop where
  /-- A ping, a piece of a message or a message that is ignored. -/
  | kept (frame : Frame) (fragments write : List UInt8) :
      FrameCase connection frame { connection with fragments } { write }
  /-- The page says hello with the right token, and the intent is written. -/
  | greeted (payload : List UInt8) (token : String) (hello : connection.phase = .hello)
      (said : parseMessage (connection.textWith payload) = .hello token)
      (right : same token connection.token = true) :
      FrameCase connection (.text true payload)
        { connection with fragments := [], phase := .answer }
        { write := encode 0x1 connection.intent }
  /-- The page answers the current request. -/
  | answered (payload : List UInt8) (result : Value) (asked : connection.phase = .answer)
      (said : parseMessage (connection.textWith payload) = .result connection.id result) :
      FrameCase connection (.text true payload)
        { connection with fragments := [], phase := .idle } { outcome := some (.ok result) }
  /-- The page refuses the current request. -/
  | refused (payload : List UInt8) (error : TrustedSignerError)
      (asked : connection.phase = .answer)
      (said : parseMessage (connection.textWith payload) = .error connection.id error) :
      FrameCase connection (.text true payload)
        { connection with fragments := [], phase := .idle } { outcome := some (.error error) }
  /-- A fault or a closing frame. -/
  | ended (frame : Frame) (fragments : List UInt8) (code : Nat) (error : TrustedSignerError) :
      FrameCase connection frame { connection with fragments, phase := .done }
        { write := closeFrame code
          close := true
          outcome := if connection.phase = .answer then some (.error error) else none }

theorem message_cases (connection : Connection) (payload : List UInt8) :
    FrameCase connection (.text true payload)
      ({ connection with fragments := [] }.message (connection.textWith payload)).1
      ({ connection with fragments := [] }.message (connection.textWith payload)).2 := by
  unfold message
  split
  case h_1 hello said =>
    split
    case isTrue right => exact .greeted payload _ hello said right
    case isFalse => exact .ended _ [] 1008 _
  case h_2 asked said =>
    split
    case isTrue same => exact .answered payload _ asked (same ▸ said)
    case isFalse => exact .kept _ [] []
  case h_3 asked said =>
    split
    case isTrue same => exact .refused payload _ asked (same ▸ said)
    case isFalse => exact .kept _ [] []
  case h_4 => exact .kept _ [] []

theorem frame_cases (connection : Connection) (frame : Frame) :
    FrameCase connection frame (connection.frame frame).1 (connection.frame frame).2 := by
  cases frame with
  | bad | close => exact .ended _ _ _ _
  | ping payload | pong | binary => exact .kept _ _ _
  | text =>
    simp only [Connection.frame]
    split
    · exact .ended _ _ _ _
    split
    case isTrue whole =>
      subst whole
      exact message_cases _ _
    case isFalse => exact .kept _ _ _

theorem FrameCase.stays (taken : FrameCase connection frame next step)
    (after : connection.phase ≠ .handshake) : next.phase ≠ .handshake := by
  cases taken with
  | kept => exact after
  | greeted | answered | refused | ended => exact nofun

theorem FrameCase.settled (taken : FrameCase connection frame next step)
    (settled : connection.phase.Settled) : next.phase.Settled ∧ step.outcome = none := by
  have quiet : connection.phase ≠ .answer := by
    rcases settled with idle | done
    · rw [idle]
      exact nofun
    · rw [done]
      exact nofun
  cases taken with
  | kept => exact ⟨settled, rfl⟩
  | greeted _ _ hello =>
    rcases settled with idle | done
    · rw [hello] at idle
      cases idle
    · rw [hello] at done
      cases done
  | answered payload result asked | refused payload error asked => exact absurd asked quiet
  | ended => exact ⟨.inr rfl, if_neg quiet⟩

theorem FrameCase.settles (taken : FrameCase connection frame next step)
    (told : step.outcome.isSome = true) : next.phase.Settled := by
  cases taken with
  | kept | greeted => cases told
  | answered | refused => exact .inl rfl
  | ended => exact .inr rfl

theorem drain_done (done : connection.phase = .done) : connection.drain = (connection, {}) := by
  rw [drain, if_pos done]

theorem drain_waiting (waiting : decode connection.inbox = none) :
    connection.drain = (connection, {}) := by
  rw [drain]
  split
  · rfl
  split
  · rw [if_neg (Nat.not_lt.mpr (decode_none waiting))]
  · rename_i decoded
    rw [waiting] at decoded
    cases decoded

theorem drain_frame (active : connection.phase ≠ .done) {frame : Frame} {used : Nat}
    (decoded : decode connection.inbox = some (frame, used)) :
    connection.drain =
      ((({ connection with inbox := connection.inbox.drop used }.frame frame).1.drain).1,
        ({ connection with inbox := connection.inbox.drop used }.frame frame).2.then
          (({ connection with inbox := connection.inbox.drop used }.frame frame).1.drain).2) := by
  rw [drain, if_neg active]
  split
  case h_1 waiting =>
    rw [decoded] at waiting
    cases waiting
  case h_2 decoded' =>
    rw [decoded] at decoded'
    cases decoded'
    rfl

theorem drain_induction (holds : Connection → Connection → Step → Prop)
    (stops : ∀ connection, connection.phase = .done ∨ decode connection.inbox = none →
      holds connection connection {})
    (goes : ∀ connection frame used last rest, connection.phase ≠ .done →
      decode connection.inbox = some (frame, used) →
      holds ({ connection with inbox := connection.inbox.drop used }.frame frame).1 last rest →
      holds connection last
        (({ connection with inbox := connection.inbox.drop used }.frame frame).2.then rest))
    (connection : Connection) : holds connection connection.drain.1 connection.drain.2 := by
  by_cases done : connection.phase = .done
  · rw [drain_done done]
    exact stops _ (.inl done)
  cases decoded : decode connection.inbox with
  | none =>
    rw [drain_waiting decoded]
    exact stops _ (.inr decoded)
  | some decodedFrame =>
    obtain ⟨frame, used⟩ := decodedFrame
    rw [drain_frame done decoded]
    exact goes _ frame used _ _ done decoded (drain_induction holds stops goes _)
  termination_by connection.inbox.length
  decreasing_by
    have := decode_used decoded
    simp only [frame_inbox, List.length_drop]
    omega

theorem drain_stays (connection : Connection) :
    connection.phase ≠ .handshake → connection.drain.1.phase ≠ .handshake := by
  refine drain_induction (fun before last _ => before.phase ≠ .handshake → last.phase ≠ .handshake)
    ?_ ?_ connection
  · exact fun _ _ after => after
  · intro before frame used last rest _ _ ih after
    exact ih ((frame_cases { before with inbox := before.inbox.drop used } frame).stays after)

theorem drain_settled (connection : Connection) :
    connection.phase.Settled → connection.drain.1.phase.Settled ∧ connection.drain.2.outcome = none := by
  refine drain_induction (fun before last step =>
    before.phase.Settled → last.phase.Settled ∧ step.outcome = none) ?_ ?_ connection
  · exact fun _ _ settled => ⟨settled, rfl⟩
  · intro before frame used last rest _ _ ih settled
    obtain ⟨next, quiet⟩ :=
      (frame_cases { before with inbox := before.inbox.drop used } frame).settled settled
    obtain ⟨after, quietRest⟩ := ih next
    exact ⟨after, by rw [Step.then_outcome, quietRest, quiet, Option.or_none]⟩

theorem drain_settles (connection : Connection) :
    connection.drain.2.outcome.isSome = true → connection.drain.1.phase.Settled := by
  have both := drain_induction (fun before last step =>
    (step.outcome.isSome = true → last.phase.Settled) ∧
      (before.phase.Settled → last.phase.Settled)) ?_ ?_ connection
  · exact both.1
  · exact fun _ _ => ⟨nofun, fun settled => settled⟩
  · intro before frame used last rest _ _ ih
    have taken := frame_cases { before with inbox := before.inbox.drop used } frame
    refine ⟨fun told => ?_, fun settled => ih.2 (taken.settled settled).1⟩
    rw [Step.then_outcome, Option.isSome_or, Bool.or_eq_true] at told
    rcases told with told | told
    · exact ih.1 told
    · exact ih.2 (taken.settles told)

theorem drain_stops (connection : Connection) :
    connection.drain.1.phase = .done ∨ decode connection.drain.1.inbox = none :=
  drain_induction (fun _ last _ => last.phase = .done ∨ decode last.inbox = none)
    (fun _ stopped => stopped) (fun _ _ _ _ _ _ _ stopped => stopped) connection

theorem frame_more (connection : Connection) (inbox : List UInt8) (frame : Frame) :
    { connection with inbox }.frame frame =
      ({ (connection.frame frame).1 with inbox }, (connection.frame frame).2) := by
  cases frame with
  | bad | ping payload | pong | binary | close => rfl
  | text =>
    simp only [Connection.frame]
    split
    · rfl
    split
    · unfold message
      dsimp only
      split
      · split <;> rfl
      · split <;> rfl
      · split <;> rfl
      · rfl
    · rfl

end Connection

end VelaWallet.TrustedSigner
