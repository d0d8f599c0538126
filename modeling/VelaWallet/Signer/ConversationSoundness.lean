import VelaWallet.Signer.Story

/-!
# Who may answer, and how often

Only the page the wallet opened can give an outcome: behind a handshake from its
origin, a hello with the right token and an intent that has no outcome yet.
-/

namespace VelaWallet.TrustedSigner

open Json (Value)

variable {connection : Connection}

namespace Turn

variable [SignerRuntime]

def Says (turn : Turn) (message : Message) : Prop :=
  ∃ payload, turn.event = .frame (.text true payload) ∧
    parseMessage (turn.before.textWith payload) = message

/-- A handshake that carries this origin is answered. -/
def AcceptsOrigin (turn : Turn) (origin : List Char) : Prop :=
  ∃ head response, turn.event = .head head ∧ accept head origin = some response ∧
    turn.step.write = response ∧ (readHead head).2.origin = some origin ∧ origin ≠ []

def Greets (turn : Turn) (token : String) : Prop :=
  ∃ said, turn.Says (.hello said) ∧ Connection.same said token = true

/-- The intent message of a request is written, and its answer is waited for. -/
def Asks (turn : Turn) (id : String) : Prop :=
  ∃ request, turn.step.write = encode 0x1 (intentMessage id request) ∧
    turn.step.outcome = none ∧ turn.before.phase ≠ .answer ∧ turn.after.phase = .answer

end Turn

variable [SignerRuntime] {turns : List Turn} {turn : Turn} {origin : List Char}
  {token id : String}

/-- A handshake from the origin, and behind it a hello with the token. -/
def Proven (origin : List Char) (token : String) (turns : List Turn) : Prop :=
  ∃ first handshake between hello after,
    turns = first ++ handshake :: (between ++ hello :: after) ∧
      handshake.AcceptsOrigin origin ∧ hello.Greets token

/-- The last intent written is this request's, and it has no outcome yet. -/
def AskedLast (id : String) (turns : List Turn) : Prop :=
  ∃ earlier ask later, turns = earlier ++ ask :: later ∧ ask.Asks id ∧
    ∀ turn ∈ later, turn.step.outcome = none ∧ ∀ other, ¬ turn.Asks other

/-- What an outcome rests on: the page proved itself, its request has no outcome yet, and
an answer is a message that names this request. -/
structure Justified (origin : List Char) (token : String) (before : List Turn) (turn : Turn)
    (outcome : Except TrustedSignerError Value) : Prop where
  proven : Proven origin token before
  asked : ∃ id, AskedLast id before ∧
    ∀ result, outcome = .ok result → turn.Says (.result id result)

theorem Proven.more (proven : Proven origin token turns) (turn : Turn) :
    Proven origin token (turns ++ [turn]) := by
  obtain ⟨first, handshake, between, hello, after, rfl, both⟩ := proven
  exact ⟨first, handshake, between, hello, after ++ [turn], by simp, both⟩

theorem Proven.greeted {handshake : Turn} (member : handshake ∈ turns)
    (accepts : handshake.AcceptsOrigin origin) (greets : turn.Greets token) :
    Proven origin token (turns ++ [turn]) := by
  obtain ⟨first, between, rfl⟩ := List.append_of_mem member
  exact ⟨first, handshake, between, turn, [], by simp, accepts, greets⟩

theorem AskedLast.more (asked : AskedLast id turns) (silent : turn.step.outcome = none)
    (waiting : turn.before.phase = .answer) : AskedLast id (turns ++ [turn]) := by
  obtain ⟨earlier, ask, later, rfl, asks, quiet⟩ := asked
  refine ⟨earlier, ask, later ++ [turn], by simp, asks, ?_⟩
  intro other member
  rcases List.mem_append.mp member with member | member
  · exact quiet other member
  · obtain rfl := List.mem_singleton.mp member
    exact ⟨silent, fun _ ⟨_, _, _, before, _⟩ => before waiting⟩

theorem AskedLast.asked (asks : turn.Asks id) : AskedLast id (turns ++ [turn]) :=
  ⟨turns, turn, [], rfl, asks, fun _ member => absurd member List.not_mem_nil⟩

theorem accept_origin {head : List Char} {response : List UInt8}
    (accepted : accept head origin = some response) :
    (readHead head).2.origin = some origin ∧ origin ≠ [] := by
  simp only [accept] at accepted
  split at accepted
  · cases accepted
  split at accepted
  · cases accepted
  case isFalse passed =>
    refine ⟨?_, fun empty => passed (.inr (.inl empty))⟩
    by_contra other
    exact passed (.inr (.inr other))

structure Known (origin : List Char) (token : String) (turns : List Turn)
    (connection : Connection) : Prop where
  sameOrigin : connection.origin = origin
  sameToken : connection.token = token
  intent : connection.phase = .handshake ∨ connection.phase = .hello →
    ∃ request, connection.intent = intentMessage connection.id request
  accepted : connection.phase = .hello → ∃ handshake ∈ turns, handshake.AcceptsOrigin origin
  proven : connection.phase = .answer ∨ connection.phase = .idle → Proven origin token turns
  asked : connection.phase = .answer → AskedLast connection.id turns

theorem Known.done (done : connection.phase = .done)
    (origins : connection.origin = origin) (tokens : connection.token = token) :
    Known origin token turns connection where
  sameOrigin := origins
  sameToken := tokens
  intent early := by simp [done] at early
  accepted early := by
    rw [done] at early
    cases early
  proven early := by simp [done] at early
  asked early := by
    rw [done] at early
    cases early

section

variable (known : Known origin token turns connection)
include known

theorem Known.keeps {next : Connection}
    {event : Event} {write : List UInt8}
    (same : next.origin = connection.origin ∧ next.token = connection.token ∧
      next.intent = connection.intent ∧ next.id = connection.id ∧ next.phase = connection.phase) :
    Known origin token (turns ++ [⟨connection, event, next, { write }⟩]) next where
  sameOrigin := same.1.trans known.sameOrigin
  sameToken := same.2.1.trans known.sameToken
  intent early := by
    rw [same.2.2.2.2] at early
    rw [same.2.2.1, same.2.2.2.1]
    exact known.intent early
  accepted hello := by
    rw [same.2.2.2.2] at hello
    obtain ⟨handshake, member, accepts⟩ := known.accepted hello
    exact ⟨handshake, List.mem_append_left _ member, accepts⟩
  proven proven := by
    rw [same.2.2.2.2] at proven
    exact (known.proven proven).more _
  asked asked := by
    rw [same.2.2.2.2] at asked
    rw [same.2.2.2.1]
    exact (known.asked asked).more rfl asked

theorem Known.justifies
    (asked : connection.phase = .answer) {turn : Turn}
    {outcome : Except TrustedSignerError Value}
    (spoken : ∀ result, outcome = .ok result → turn.Says (.result connection.id result)) :
    Justified origin token turns turn outcome :=
  ⟨known.proven (.inl asked), connection.id, known.asked asked, spoken⟩

theorem Known.taken {next : Connection} {inbox : List UInt8} {frame : Frame} {step : Step}
    (taken : Connection.FrameCase { connection with inbox } frame next step) :
    (∀ outcome, step.outcome = some outcome →
      Justified origin token turns ⟨connection, .frame frame, next, step⟩ outcome) ∧
      Known origin token (turns ++ [⟨connection, .frame frame, next, step⟩]) next := by
  cases taken with
  | kept => exact ⟨nofun, known.keeps ⟨rfl, rfl, rfl, rfl, rfl⟩⟩
  | greeted payload said hello spoken right =>
    obtain ⟨request, intent⟩ := known.intent (.inr hello)
    obtain ⟨handshake, member, accepts⟩ := known.accepted hello
    have tokens := known.sameToken
    refine ⟨nofun, known.sameOrigin, known.sameToken, ?_, nofun, fun _ => ?_, fun _ => ?_⟩
    · rintro (early | early) <;> cases early
    · exact .greeted member accepts ⟨said, ⟨payload, rfl, spoken⟩, tokens ▸ right⟩
    · refine .asked ⟨request, ?_, rfl, ?_, rfl⟩
      · exact congrArg (encode 0x1) intent
      · dsimp only at hello ⊢
        rw [hello]
        exact nofun
  | answered payload _ asked spoken =>
    refine ⟨?_, known.sameOrigin, known.sameToken, ?_, nofun, fun _ => ?_, nofun⟩
    · intro outcome told
      cases told
      refine known.justifies asked ?_
      intro result' same
      cases same
      exact ⟨payload, rfl, spoken⟩
    · rintro (early | early) <;> cases early
    · exact (known.proven (.inl asked)).more _
  | refused _ _ asked =>
    refine ⟨?_, known.sameOrigin, known.sameToken, ?_, nofun, fun _ => ?_, nofun⟩
    · intro outcome told
      cases told
      exact known.justifies asked nofun
    · rintro (early | early) <;> cases early
    · exact (known.proven (.inl asked)).more _
  | ended =>
    refine ⟨?_, .done rfl known.sameOrigin known.sameToken⟩
    intro outcome told
    dsimp only at told
    split at told
    case isTrue asked =>
      cases told
      exact known.justifies asked nofun
    case isFalse => cases told

end

/-- What a turn tells is justified by the turns before it, and what is known stays known. -/
theorem Known.next (happens : turn.Happens) (known : Known origin token turns turn.before) :
    (∀ outcome, turn.step.outcome = some outcome → Justified origin token turns turn outcome) ∧
      Known origin token (turns ++ [turn]) turn.after := by
  cases happens with
  | gathers arrived active | ignores arrived done =>
    exact ⟨nofun, known.keeps ⟨rfl, rfl, rfl, rfl, rfl⟩⟩
  | accepts handshake _ accepted =>
    have origins := known.sameOrigin
    dsimp only at origins accepted
    rw [origins] at accepted
    refine ⟨nofun, known.sameOrigin, known.sameToken, fun _ => known.intent (.inl handshake), ?_, nofun,
      nofun⟩
    intro _
    exact ⟨_, List.mem_append_right _ List.mem_cons_self, _, _, rfl, accepted, rfl,
      accept_origin accepted⟩
  | refuses | overlong | finishes connection =>
    exact ⟨nofun, .done rfl known.sameOrigin known.sameToken⟩
  | @takes connection frame used handshaken active decoded =>
    exact known.taken (Connection.frame_cases { connection with inbox := connection.inbox.drop used } frame)
  | sends connection id request =>
    simp only [Connection.send]
    by_cases idle : connection.phase = .idle
    · rw [if_pos idle]
      have asks : Turn.Asks ⟨connection, .send id request, { connection with id, phase := .answer },
          { write := encode 0x1 (intentMessage id request) }⟩ id :=
        ⟨request, rfl, rfl, by rw [idle]; exact nofun, rfl⟩
      refine ⟨nofun, known.sameOrigin, known.sameToken, ?_, nofun, ?_, ?_⟩
      · rintro (early | early) <;> cases early
      · intro _
        exact (known.proven (.inr idle)).more _
      · intro _
        exact .asked asks
    · rw [if_neg idle]
      exact ⟨nofun, known.keeps ⟨rfl, rfl, rfl, rfl, rfl⟩⟩
  | closes connection =>
    refine ⟨?_, .done rfl known.sameOrigin known.sameToken⟩
    intro outcome told
    by_cases asked : connection.phase = .answer
    · simp only [Connection.closed, if_pos asked, Option.map_some, Option.some.injEq] at told
      subst told
      exact known.justifies asked nofun
    · simp [Connection.closed, if_neg asked] at told

theorem Story.justified {last : Connection} {story earlier : List Turn}
    (told : Story connection story last) (known : Known origin token earlier connection)
    {before after : List Turn} {turn : Turn} (split : story = before ++ turn :: after)
    {outcome : Except TrustedSignerError Value} (tells : turn.step.outcome = some outcome) :
    Justified origin token (earlier ++ before) turn outcome := by
  induction told generalizing earlier before with
  | nil => simp at split
  | @cons first turns last happens rest ih =>
    obtain ⟨justified, later⟩ := known.next happens
    cases before with
    | nil =>
      cases split
      rw [List.append_nil]
      exact justified outcome tells
    | cons =>
      obtain rfl := (List.cons.inj split).1
      have tail := ih later (List.cons.inj split).2
      rw [List.append_assoc] at tail
      exact tail

/-- A turn of a connection that is done tells nothing, and writes nothing but the closing
frame of a further end. -/
theorem Turn.Happens.afterDone (happens : turn.Happens) (done : turn.before.phase = .done) :
    turn.after.phase = .done ∧ turn.step.outcome = none ∧
      (turn.step.write = [] ∨ turn.event = .finish ∧ turn.step.write = closeFrame 1000) := by
  cases happens with
  | gathers arrived active | takes _ active => exact absurd done active
  | ignores => exact ⟨done, rfl, .inl rfl⟩
  | accepts handshake | refuses handshake | overlong handshake =>
    exact absurd (done.symm.trans handshake) nofun
  | sends =>
    dsimp only at done
    simp [Connection.send, done]
  | finishes =>
    dsimp only at done
    exact ⟨rfl, rfl, .inr ⟨rfl, by simp [Connection.finish, done]⟩⟩
  | closes =>
    dsimp only at done
    simp [Connection.closed, done]

theorem Story.happens {last : Connection} {story : List Turn}
    (told : Story connection story last) : ∀ turn ∈ story, turn.Happens := by
  induction told with
  | nil => exact fun _ member => absurd member List.not_mem_nil
  | cons happens _ ih =>
    intro turn member
    rcases List.mem_cons.mp member with rfl | member
    · exact happens
    · exact ih turn member

theorem AskedLast.between {before between : List Turn} {first : Turn}
    (asked : AskedLast id (before ++ first :: between)) (tells : first.step.outcome.isSome = true) :
    ∃ ask ∈ between, ask.Asks id := by
  obtain ⟨earlier, ask, later, split, asks, quiet⟩ := asked
  have silent : first ∉ ask :: later := by
    intro member
    have none : first.step.outcome = none := by
      rcases List.mem_cons.mp member with rfl | member
      · exact asks.choose_spec.2.1
      · exact (quiet first member).1
    rw [none] at tells
    cases tells
  rcases List.append_eq_append_iff.mp split with ⟨part, rfl, rest⟩ | ⟨part, rfl, rest⟩
  · cases part with
    | nil => exact absurd (List.mem_of_mem_head? (by rw [List.nil_append] at rest; rw [← rest]; rfl)) silent
    | cons =>
      obtain ⟨rfl, rfl⟩ := List.cons.inj rest
      exact ⟨ask, by simp, asks⟩
  · exact absurd (by rw [rest]; simp) silent

/-- What a run of a new connection shows is a story in which every outcome is justified,
two outcomes have an intent written between them, and a connection that is done tells
nothing and writes nothing but the closing frame of a further end. -/
theorem conversation_sound (signerUrl : List Char) (token id : String) (request : Value)
    (moves : List Move) :
    ∃ turns, Story (.new signerUrl token id request) turns
        (Connection.run (.new signerUrl token id request) moves).1 ∧
      seen turns = (Connection.run (.new signerUrl token id request) moves).2 ∧
      takenIn turns = stream moves ∧
      (∀ before turn after outcome, turns = before ++ turn :: after →
        turn.step.outcome = some outcome →
        Justified (originOf signerUrl) token before turn outcome) ∧
      (∀ before first between second after,
        turns = before ++ first :: (between ++ second :: after) →
        first.step.outcome.isSome = true → second.step.outcome.isSome = true →
        ∃ ask ∈ between, ∃ id, ask.Asks id) ∧
      ∀ turn ∈ turns, turn.before.phase = .done → turn.after.phase = .done ∧
        turn.step.outcome = none ∧
        (turn.step.write = [] ∨ turn.event = .finish ∧ turn.step.write = closeFrame 1000) := by
  obtain ⟨turns, story, shown, taken⟩ :=
    Connection.run_story (.new signerUrl token id request) moves
  have known : Known (originOf signerUrl) token []
      (Connection.new signerUrl token id request) :=
    { sameOrigin := rfl, sameToken := rfl, intent := fun _ => ⟨request, rfl⟩, accepted := nofun
      proven := by rintro (early | early) <;> cases early
      asked := nofun }
  refine ⟨turns, story, shown, taken, ?_, ?_, ?_⟩
  · intro before turn after outcome split tells
    exact story.justified known split tells
  · intro before first between second after split tells tells'
    obtain ⟨outcome, told⟩ := Option.isSome_iff_exists.mp tells'
    rw [← List.cons_append, ← List.append_assoc] at split
    obtain ⟨id', asked, _⟩ := (story.justified known split told).asked
    obtain ⟨ask, member, asks⟩ := asked.between tells
    exact ⟨ask, member, id', asks⟩
  · exact fun turn member => (story.happens turn member).afterDone

omit [SignerRuntime] in
/-- An end after the end writes again. -/
theorem finish_writes_again :
    ¬ ∀ signerUrl token id request moves move,
      (@Connection.run bareRuntime
        (@Connection.new bareRuntime.toWriter signerUrl token id request) moves).1.phase = .done →
      (@Connection.move bareRuntime (@Connection.run bareRuntime
        (@Connection.new bareRuntime.toWriter signerUrl token id request) moves).1 move).2.write =
          [] := by
  intro every
  have silent := every [] "token" "1" .null [.finish] .finish rfl
  cases silent

end VelaWallet.TrustedSigner
