import VelaWallet.Signer.Runs

/-!
# The story of a run

A run of a connection told turn by turn: the bytes it gathers, the head and every frame
it takes out of them, and the shell's calls.  Every run has such a story.
-/

namespace VelaWallet.TrustedSigner

open Json (Value)
open Utf8 (bytes)

/-- What happens in one turn. -/
inductive Event where
  | gathers (arrived : List UInt8)
  | head (text : List Char)
  | overlong
  | frame (frame : Frame)
  | send (id : String) (request : Value)
  | finish
  | closed

structure Turn where
  before : Connection
  event : Event
  after : Connection
  step : Step

namespace Turn

variable [SignerRuntime]

/-- What a connection does in one turn, and when. -/
inductive Happens : Turn → Prop where
  | gathers {connection : Connection} (arrived : List UInt8) (active : connection.phase ≠ .done) :
      Happens ⟨connection, .gathers arrived,
        { connection with inbox := connection.inbox ++ arrived }, {}⟩
  | ignores {connection : Connection} (arrived : List UInt8) (done : connection.phase = .done) :
      Happens ⟨connection, .gathers arrived, connection, {}⟩
  /-- A whole head is answered. -/
  | accepts {connection : Connection} {place : Nat} {response : List UInt8}
      (handshake : connection.phase = .handshake)
      (whole : find (bytes "\r\n\r\n") connection.inbox = some place)
      (accepted : accept (Chars.fromUtf8Lossy (connection.inbox.take place)) connection.origin =
        some response) :
      Happens ⟨connection, .head (Chars.fromUtf8Lossy (connection.inbox.take place)),
        { connection with inbox := connection.inbox.drop (place + 4), phase := .hello },
        { write := response }⟩
  /-- A whole head is refused. -/
  | refuses {connection : Connection} {place : Nat} (handshake : connection.phase = .handshake)
      (whole : find (bytes "\r\n\r\n") connection.inbox = some place)
      (refused : accept (Chars.fromUtf8Lossy (connection.inbox.take place)) connection.origin =
        none) :
      Happens ⟨connection, .head (Chars.fromUtf8Lossy (connection.inbox.take place)),
        ({ connection with inbox := connection.inbox.drop (place + 4) }.refuseHttp).1,
        connection.refuseHttp.2⟩
  /-- A head that is too long is refused before it is whole. -/
  | overlong {connection : Connection} (handshake : connection.phase = .handshake)
      (long : maxHead < connection.inbox.length) :
      Happens ⟨connection, .overlong, connection.refuseHttp.1, connection.refuseHttp.2⟩
  /-- A frame that has come whole is taken. -/
  | takes {connection : Connection} {frame : Frame} {used : Nat}
      (handshaken : connection.phase ≠ .handshake) (active : connection.phase ≠ .done)
      (decoded : decode connection.inbox = some (frame, used)) :
      Happens ⟨connection, .frame frame,
        ({ connection with inbox := connection.inbox.drop used }.frame frame).1,
        ({ connection with inbox := connection.inbox.drop used }.frame frame).2⟩
  | sends (connection : Connection) (id : String) (request : Value) :
      Happens ⟨connection, .send id request, (connection.send id request).1,
        (connection.send id request).2⟩
  | finishes (connection : Connection) :
      Happens ⟨connection, .finish, connection.finish.1, connection.finish.2⟩
  | closes (connection : Connection) :
      Happens ⟨connection, .closed, connection.closed.1,
        { outcome := connection.closed.2.map .error }⟩

end Turn

/-- Turns that follow one another, from a connection on. -/
inductive Story [SignerRuntime] : Connection → List Turn → Connection → Prop where
  | nil (connection : Connection) : Story connection [] connection
  | cons {turn : Turn} {turns : List Turn} {last : Connection} (happens : turn.Happens)
      (rest : Story turn.after turns last) : Story turn.before (turn :: turns) last

/-- What a shell sees of a story. -/
def seen (turns : List Turn) : Observed :=
  turns.foldr (fun turn rest => turn.step.observed.then rest) {}

def takenIn : List Turn → List Item
  | [] => []
  | turn :: turns =>
    (match turn.event with
      | .gathers arrived => arrived.map .byte
      | .head _ | .overlong | .frame _ => []
      | .send id request => [.send id request]
      | .finish => [.finish]
      | .closed => [.closed]) ++ takenIn turns

theorem seen_append (turns later : List Turn) : seen (turns ++ later) = (seen turns).then (seen later) := by
  induction turns with
  | nil => exact (Observed.empty_then _).symm
  | cons _ _ ih =>
    rw [List.cons_append, seen, List.foldr_cons, ← seen, ih, ← Observed.then_assoc]
    rfl

theorem takenIn_append (turns later : List Turn) :
    takenIn (turns ++ later) = takenIn turns ++ takenIn later := by
  induction turns with
  | nil => rfl
  | cons _ _ ih => rw [List.cons_append, takenIn, takenIn, ih, List.append_assoc]

variable [SignerRuntime]

theorem Story.append {first middle last : Connection} {turns later : List Turn}
    (story : Story first turns middle) (rest : Story middle later last) :
    Story first (turns ++ later) last := by
  induction story with
  | nil => exact rest
  | cons happens _ ih => exact .cons happens (ih rest)

theorem Story.single {turn : Turn} (happens : turn.Happens) : Story turn.before [turn] turn.after :=
  .cons happens (.nil _)

namespace Connection

theorem drain_story (connection : Connection) (handshaken : connection.phase ≠ .handshake) :
    ∃ turns, Story connection turns connection.drain.1 ∧
      seen turns = connection.drain.2.observed ∧ takenIn turns = [] := by
  have told := drain_induction (fun before last step =>
    (before.phase ≠ .handshake → ∃ turns, Story before turns last ∧
      seen turns = step.observed ∧ takenIn turns = []) ∧
    (before.phase.Settled → step.outcome = none)) ?_ ?_ connection
  · exact told.1 handshaken
  · exact fun before _ => ⟨fun _ => ⟨[], .nil before, rfl, rfl⟩, fun _ => rfl⟩
  · intro before frame used last rest active decoded ih
    have taken := frame_cases { before with inbox := before.inbox.drop used } frame
    constructor
    · intro handshaken
      obtain ⟨turns, story, shown, quiet⟩ := ih.1 (taken.stays handshaken)
      refine ⟨_ :: turns, .cons (.takes handshaken active decoded) story, ?_, quiet⟩
      rw [seen, List.foldr_cons, ← seen, shown,
        Step.then_observed fun told => ih.2 (taken.settles told)]
    · intro settled
      obtain ⟨still, silent⟩ := taken.settled settled
      rw [Step.then_outcome, ih.2 still, silent]
      rfl

theorem feed_story (connection : Connection) (arrived : List UInt8) :
    ∃ turns, Story connection turns (connection.feed arrived).1 ∧
      seen turns = (connection.feed arrived).2.observed ∧ takenIn turns = arrived.map .byte := by
  by_cases done : connection.phase = .done
  · rw [feed_done done]
    exact ⟨_, .single (.ignores arrived done), rfl, List.append_nil _⟩
  have gathers := Story.single (Turn.Happens.gathers arrived done)
  have taken : ∀ turns, takenIn turns = [] → takenIn
      (⟨connection, .gathers arrived, { connection with inbox := connection.inbox ++ arrived }, {}⟩ ::
        turns) = arrived.map .byte := by
    intro turns quiet
    rw [takenIn, quiet, List.append_nil]
  by_cases handshake : connection.phase = .handshake
  · cases found : find (bytes "\r\n\r\n") (connection.inbox ++ arrived) with
    | none =>
      rw [feed_waiting handshake found]
      split
      case isTrue long =>
        have refused := Story.single (@Turn.Happens.overlong _
          { connection with inbox := connection.inbox ++ arrived } handshake long)
        exact ⟨_, gathers.append refused, rfl, taken _ rfl⟩
      case isFalse => exact ⟨_, gathers, rfl, taken _ rfl⟩
    | some place =>
      cases accepted : accept (Chars.fromUtf8Lossy ((connection.inbox ++ arrived).take place))
          connection.origin with
      | none =>
        rw [feed_refused handshake found accepted]
        have refused := Story.single (@Turn.Happens.refuses _
          { connection with inbox := connection.inbox ++ arrived } _ handshake found accepted)
        exact ⟨_, gathers.append refused, rfl, taken _ rfl⟩
      | some response =>
        rw [feed_accepted handshake found accepted]
        obtain ⟨turns, story, shown, quiet⟩ := drain_story { connection with
          inbox := (connection.inbox ++ arrived).drop (place + 4), phase := .hello } nofun
        have answered := Story.single (@Turn.Happens.accepts _
          { connection with inbox := connection.inbox ++ arrived } _ _ handshake found accepted)
        refine ⟨_, gathers.append (answered.append story), ?_, taken _ quiet⟩
        rw [@Step.then_observed { write := response } _ nofun, ← shown]
        exact Observed.empty_then _
  · rw [feed_after handshake done]
    obtain ⟨turns, story, shown, quiet⟩ := drain_story
      { connection with inbox := connection.inbox ++ arrived } handshake
    exact ⟨_, gathers.append story, shown, taken _ quiet⟩

theorem run_story (connection : Connection) (moves : List Move) :
    ∃ turns, Story connection turns (connection.run moves).1 ∧
      seen turns = (connection.run moves).2 ∧ takenIn turns = stream moves := by
  induction moves generalizing connection with
  | nil => exact ⟨[], .nil _, rfl, rfl⟩
  | cons move _ ih =>
    obtain ⟨later, rest, shownRest, takenRest⟩ := ih (connection.move move).1
    cases move with
    | bytes arrived =>
      obtain ⟨turns, story, shown, taken⟩ := connection.feed_story arrived
      refine ⟨_, story.append rest, ?_, ?_⟩
      · rw [seen_append, shown, shownRest]
        rfl
      · rw [takenIn_append, taken, takenRest]
        rfl
    | send id request =>
      refine ⟨_, .cons (.sends connection id request) rest, ?_, ?_⟩
      · exact congrArg (Observed.then _) shownRest
      · exact congrArg (List.cons _) takenRest
    | finish =>
      refine ⟨_, .cons (.finishes connection) rest, ?_, ?_⟩
      · exact congrArg (Observed.then _) shownRest
      · exact congrArg (List.cons _) takenRest
    | closed =>
      refine ⟨_, .cons (.closes connection) rest, ?_, ?_⟩
      · exact congrArg (Observed.then _) shownRest
      · exact congrArg (List.cons _) takenRest

end Connection

end VelaWallet.TrustedSigner
