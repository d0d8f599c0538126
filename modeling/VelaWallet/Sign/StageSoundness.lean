import VelaWallet.Sign.Session
import VelaWallet.Sign.SubmitSoundness

/-!
# The pipeline is never stranded

In every run of the session the pipeline in flight has exactly one operation out whose
answer its stage waits for, as long as no other record is being written when a submit's
answer must be recorded before it is passed on; and the wait for the simulation has its
timer.
-/

namespace VelaWallet.SignRequest

open Json (Value)

def awaitedUnder (attempt : Nat) (kind : Awaited) (request : Nat × SignOperation) : Bool :=
  request.1 == attempt && request.2.awaitedAs == some kind

/-- The operations handed out are as many as the pipeline waits for. -/
structure Paired (core : Core) (requests : List (Nat × SignOperation)) : Prop where
  past : ∀ request ∈ requests, request.1 ≤ core.attempt
  awaited : ∀ kind, kind ≠ .record →
    requests.countP (awaitedUnder core.attempt kind) = if core.awaits = some kind then 1 else 0
  record : core.awaits = some .record →
    requests.countP (awaitedUnder core.attempt .record) = 1

/-- A submit's answer that must be recorded first arrives while no record is being
written. -/
def recordsAlone (move : Move Event) (served : Served Model (Nat × SignOperation)) : Bool :=
  !recordsFirst served.state move.event ||
    served.requests.countP (awaitedUnder served.state.attempt .record) == 0

section Stages

variable {event : Event} {model next : Model} {core : Core}
  {issued requests rest : List (Nat × SignOperation)} {attempt : Nat} {kind : Awaited}

@[simp] theorem countP_unawaited {operations : List SignOperation} (quiet : Unawaited operations) :
    (under attempt operations).countP (awaitedUnder attempt kind) = 0 := by
  rw [List.countP_eq_zero]
  intro request member awaited
  have unawaited := quiet _ (mem_under.mp member).2
  simp [awaitedUnder, unawaited] at awaited

theorem countP_under_append {first second : List SignOperation} :
    (under attempt (first ++ second)).countP (awaitedUnder attempt kind) =
      (under attempt first).countP (awaitedUnder attempt kind) +
        (under attempt second).countP (awaitedUnder attempt kind) := by
  rw [under, List.map_append, List.countP_append]
  rfl

theorem countP_asks {operations : List SignOperation} {operation : SignOperation}
    {asked : Awaited} (quiet : Unawaited operations) (asks : operation.awaitedAs = some asked) :
    (under attempt (operations ++ [operation])).countP (awaitedUnder attempt kind) =
      if asked = kind then 1 else 0 := by
  rw [countP_under_append, countP_unawaited quiet]
  simp [under, awaitedUnder, asks]

theorem countP_later (past : ∀ request ∈ requests, request.1 ≤ core.attempt)
    (later : core.attempt < attempt) : requests.countP (awaitedUnder attempt kind) = 0 := by
  rw [List.countP_eq_zero]
  intro request member awaited
  rw [awaitedUnder, Bool.and_eq_true, beq_iff_eq] at awaited
  have before := past request member
  rw [awaited.1] at before
  exact absurd later (Nat.not_lt.mpr before)

theorem answer_hears {request : Nat × SignOperation}
    (answers : signShell.answers request event = true)
    (awaited : awaitedUnder model.attempt kind request = true) :
    ∃ result, event = .shellCompleted model.attempt result ∧ result.awaitedAs = some kind := by
  simp only [awaitedUnder, Bool.and_eq_true, beq_iff_eq] at awaited
  cases event with
  | shellCompleted _ result =>
    simp only [Bool.and_eq_true, beq_iff_eq] at answers
    refine ⟨result, by rw [answers.1, awaited.1], ?_⟩
    rw [← SignOperation.awaitedAs_of_answeredBy answers.2, awaited.2]
  | _ => contradiction

namespace Paired

theorem once (paired : Paired core requests) (waits : core.awaits = some kind) :
    requests.countP (awaitedUnder core.attempt kind) = 1 := by
  by_cases record : kind = .record
  · subst record
    exact paired.record waits
  · rw [paired.awaited kind record, if_pos waits]

theorem waits (paired : Paired core requests) (different : kind ≠ .record)
    {request : Nat × SignOperation} (member : request ∈ requests)
    (awaited : awaitedUnder core.attempt kind request = true) : core.awaits = some kind := by
  by_contra other
  have none_out := paired.awaited kind different
  rw [if_neg other, List.countP_eq_zero] at none_out
  exact none_out request member awaited

theorem freed (paired : Paired model.core requests) (takes : signShell.Takes event requests rest)
    (freed : Freed model event) (different : kind ≠ .record) :
    rest.countP (awaitedUnder model.attempt kind) = 0 := by
  by_cases waits : model.core.awaits = some kind
  case neg =>
    have none_out := paired.awaited kind different
    rw [if_neg waits, List.countP_eq_zero] at none_out
    rw [List.countP_eq_zero]
    exact fun request member => none_out request (takes.subset member)
  case pos =>
    have out : requests.countP (awaitedUnder model.attempt kind) = 1 := paired.once waits
    rcases freed with idle | ⟨fl, running, result, rfl, heard⟩
    · rw [awaits_of_idle idle] at waits
      contradiction
    · rw [awaits_of_running running] at waits
      rw [waits] at heard
      cases takes with
      | none => contradiction
      | @one request before after answers =>
        simp only [Bool.and_eq_true, beq_iff_eq] at answers
        have awaited : awaitedUnder model.attempt kind request = true := by
          simp only [awaitedUnder, Bool.and_eq_true, beq_iff_eq]
          exact ⟨answers.1.symm,
            (SignOperation.awaitedAs_of_answeredBy answers.2).trans heard⟩
        rw [List.countP_append, List.countP_cons_of_pos awaited] at out
        rw [List.countP_append]
        exact Nat.succ.inj out

theorem kept [SignRuntime] (paired : Paired model.core requests)
    (takes : signShell.Takes event requests rest)
    (stepped : signing.step event model = some (next, issued))
    (waits : next.core.awaits = model.core.awaits)
    (asked : kind ≠ .record ∨ model.core.awaits = some kind) :
    rest.countP (awaitedUnder model.attempt kind) =
      requests.countP (awaitedUnder model.attempt kind) := by
  rcases takes.countP (awaitedUnder model.attempt kind) with
    same | ⟨request, member, answers, awaited, _⟩
  · exact same.symm
  · obtain ⟨result, rfl, heard⟩ := answer_hears answers awaited
    have asking : model.core.awaits = some kind := by
      rcases asked with different | asking
      · exact paired.waits different member awaited
      · exact asking
    exact absurd (waits.trans asking) (awaited_leaves stepped asking heard)

theorem init : Paired ({} : Model).core [] where
  past := by simp
  awaited := fun _ _ => rfl
  record := fun waits => by contradiction

/-- A step keeps the operations paired with the pipeline's wait, unless a record is still
being written when the submit's answer must be recorded first. -/
theorem step [SignRuntime] (paired : Paired model.core requests)
    (takes : signShell.Takes event requests rest)
    (stepped : signing.step event model = some (next, issued))
    (alone : recordsFirst model event = true →
      requests.countP (awaitedUnder model.attempt .record) = 0) :
    Paired next.core (rest ++ issued) := by
  obtain ⟨operations, rfl, wait⟩ := (signing_change stepped).wait_cases
  have restPast : ∀ request ∈ rest, request.1 ≤ model.core.attempt :=
    fun request member => paired.past request (takes.subset member)
  have none_left : ∀ kind, next.core.attempt ≠ model.core.attempt →
      model.core.attempt ≤ next.core.attempt →
      rest.countP (awaitedUnder next.core.attempt kind) = 0 := fun kind different onward =>
    countP_later restPast (Nat.lt_of_le_of_ne onward (Ne.symm different))
  have past : model.core.attempt ≤ next.core.attempt →
      ∀ request ∈ rest ++ under next.core.attempt operations,
        request.1 ≤ next.core.attempt := by
    intro onward request member
    rcases List.mem_append.mp member with old | new
    · exact Nat.le_trans (restPast request old) onward
    · exact (mem_under.mp new).1.le
  cases wait with
  | stays waits attempt quiet =>
    refine ⟨past attempt.ge, ?_, ?_⟩
    · intro kind different
      have silent : (under model.attempt operations).countP
          (awaitedUnder model.attempt kind) = 0 := by
        rcases quiet with quiet | ⟨before, record, _, quiet, rfl⟩
        · exact countP_unawaited quiet
        · rw [countP_asks quiet rfl, if_neg (Ne.symm different)]
      rw [attempt, waits, List.countP_append, silent, Nat.add_zero]
      exact (paired.kept takes stepped waits (.inl different)).trans
        (paired.awaited kind different)
    · intro recording
      have quiet : Unawaited operations := by
        rcases quiet with quiet | ⟨_, _, submitting, _, _⟩
        · exact quiet
        · rw [recording] at submitting
          contradiction
      rw [waits] at recording
      rw [attempt, List.countP_append, countP_unawaited quiet, Nat.add_zero]
      exact (paired.kept takes stepped waits (.inr recording)).trans (paired.record recording)
  | @begins before operation asked waits freed attempt quiet asks records =>
    refine ⟨past attempt, ?_, ?_⟩
    · intro kind different
      have left : rest.countP (awaitedUnder next.core.attempt kind) = 0 := by
        by_cases same : next.core.attempt = model.core.attempt
        · rw [same]
          exact paired.freed takes freed different
        · exact none_left kind same attempt
      rw [List.countP_append, left, countP_asks quiet asks, waits, Nat.zero_add]
      simp
    · intro recording
      obtain rfl : asked = .record := Option.some.inj (waits.symm.trans recording)
      have left : rest.countP (awaitedUnder next.core.attempt .record) = 0 := by
        by_cases same : next.core.attempt = model.core.attempt
        · have out := alone (records rfl same)
          rw [List.countP_eq_zero] at out
          rw [same, List.countP_eq_zero]
          exact fun request member => out request (takes.subset member)
        · exact none_left .record same attempt
      rw [List.countP_append, left, countP_asks quiet asks]
      rfl
  | ends idle freed attempt quiet =>
    refine ⟨past attempt, ?_, ?_⟩
    · intro kind different
      rw [idle, if_neg nofun, List.countP_append, countP_unawaited quiet, Nat.add_zero]
      by_cases same : next.core.attempt = model.core.attempt
      · rw [same]
        rcases freed with freed | later
        · exact paired.freed takes freed different
        · exact absurd same (Nat.ne_of_gt later)
      · exact none_left kind same attempt
    · intro waits
      rw [idle] at waits
      contradiction

end Paired

/-- Every wait for the simulation has its timer. -/
def Timed (core : Core) (requests : List (Nat × SignOperation)) : Prop :=
  ∀ pending round, core.pending = some pending → pending.sim = .checking round →
    ∃ request ∈ requests, ∃ ms, request.2 = .simVerdictTimer pending.id round ms

/-- A wait of the sheet was there before the change, or begins with its timer. -/
def Waits (model : Model) (core : Core) (issued : List (Nat × SignOperation)) : Prop :=
  ∀ pending round, core.pending = some pending → pending.sim = .checking round →
    (∃ before, model.pending = some before ∧ before.id = pending.id ∧
      before.sim = .checking round) ∨
    ∃ request ∈ issued, ∃ ms, request.2 = .simVerdictTimer pending.id round ms

theorem Waits.sheet (same : core.pending = model.pending) : Waits model core issued :=
  fun pending _ shown checking => .inl ⟨pending, same.symm.trans shown, rfl, checking⟩

theorem Waits.hidden (hidden : core.pending = none) : Waits model core issued := by
  intro pending round shown
  rw [hidden] at shown
  contradiction

theorem Waits.changed {before pending : Pending} (was : model.pending = some before)
    (shown : core.pending = some pending) (id : pending.id = before.id)
    (sim : pending.sim = before.sim ∨ ∀ round, pending.sim ≠ .checking round) :
    Waits model core issued := by
  intro other round same checking
  obtain rfl := Option.some.inj (shown.symm.trans same)
  rcases sim with sim | free
  · exact .inl ⟨before, was, id.symm, sim.symm.trans checking⟩
  · exact absurd checking (free round)

theorem Waits.clearedIf {id : String} (waits : Waits model core issued) :
    Waits model (core.clearedIf id) issued := by
  unfold Core.clearedIf
  split
  · exact .hidden rfl
  · exact waits

theorem Change.sheet_waits [SignRuntime] (change : Change event model core issued) :
    Waits model core issued := by
  cases change
  case kept | unfunded | arrivalRefused | switchAnswered => exact .sheet rfl
  case arrivalShown =>
    intro pending round shown checking
    cases shown
    contradiction
  case switchCancelled | rejected | dismissed | fundingCancelled => exact .hidden rfl
  case tapped tapped => exact .sheet tapped.pending
  case refusedTap takes | startedFailed takes => exact .changed takes.shown rfl rfl (.inl rfl)
  case started starts _ | startedSubmit starts _ => exact .sheet starts.tapped.pending
  case failedShown shown _ _ | trackedHeld shown _ | submitFailedShown shown _
      | retried shown _ => exact .changed shown rfl rfl (.inl rfl)
  case batchAnswered | trackedAnswered | recordAnswered => exact .clearedIf (.sheet rfl)
  case submitQuiet submitted | submitRefused submitted _ | submitRecorded submitted _ _
      | submitUnderfunded submitted | submitFailedAnswered submitted _ =>
    exact .sheet submitted.pending
  case submitGone submitted | submitAnswered submitted _ _ =>
    exact .clearedIf (.sheet submitted.pending)
  case simStarted same =>
    intro other now same_ checking
    cases same_
    cases checking
    exact .inr ⟨_, List.mem_singleton_self _, simVerdictWaitMs, by rw [← same]⟩
  case simEnded sim shown finished =>
    have ended : ∀ round, sim ≠ .checking round := by
      rcases finished with rfl | rfl <;> nofun
    exact .changed shown rfl rfl (.inr ended)
  case dropped sheet | droppedStopped sheet =>
    rcases sheet with rfl | rfl
    · exact .sheet rfl
    · exact .hidden rfl
  all_goals exact .sheet rfl

theorem deadline_ends [SignRuntime] {id : String} {round : UInt32}
    (stepped : signing.step (.shellCompleted attempt (.simVerdictTimerFired id round)) model =
      some (next, issued)) {pending : Pending} (shown : next.pending = some pending)
    (same : pending.id = id) : pending.sim ≠ .checking round := by
  obtain ⟨cmd, updated, _⟩ := signing_step.mp stepped
  have accepted : onSimDeadline id round model = (next, cmd) := by
    unfold update shellCompleted at updated
    simpa [SignShellResult.ownCorrelation, accept] using updated
  unfold onSimDeadline at accepted
  split at accepted
  case _ absent =>
    cases accepted
    simp [Model.pendingNamed, Option.filter_eq_none_iff] at absent
    exact absurd same (absent pending shown)
  case _ named =>
    split at accepted
    case isTrue =>
      cases accepted
      cases shown
      nofun
    case isFalse different =>
      cases accepted
      obtain ⟨was, _⟩ := Option.filter_eq_some_iff.mp named
      obtain rfl := Option.some.inj (was.symm.trans shown)
      exact different

theorem Timed.step [SignRuntime] (timed : Timed model.core requests)
    (takes : signShell.Takes event requests rest)
    (stepped : signing.step event model = some (next, issued)) :
    Timed next.core (rest ++ issued) := by
  intro pending round shown checking
  rcases (signing_change stepped).sheet_waits pending round shown checking with
    ⟨before, was, sameId, waited⟩ | ⟨request, member, timer⟩
  case inr => exact ⟨request, List.mem_append_right _ member, timer⟩
  case inl =>
    obtain ⟨request, member, ms, timer⟩ := timed before round was waited
    rw [sameId] at timer
    refine ⟨request, List.mem_append_left _ ?_, ms, timer⟩
    cases takes with
    | none => exact member
    | @one answered first last answers =>
      rcases List.mem_append.mp member with early | late
      · exact List.mem_append_left _ early
      · rcases List.mem_cons.mp late with rfl | late
        · -- the timer of the wait fires, so the wait is over
          cases event with
          | shellCompleted _ result =>
            simp only [Bool.and_eq_true, beq_iff_eq] at answers
            rw [timer] at answers
            cases result with
            | simVerdictTimerFired =>
              simp only [SignOperation.answeredBy, Bool.and_eq_true, beq_iff_eq] at answers
              obtain ⟨_, rfl, rfl⟩ := answers
              exact absurd checking (deadline_ends stepped shown rfl)
            | _ => exact absurd answers.2 nofun
          | _ => contradiction
        · exact List.mem_append_right _ late

end Stages

/-- The pipeline in flight has exactly one operation out whose answer its stage waits for,
and any answer to it ends that stage's wait; and every wait for the simulation has its
timer out. -/
structure Unstranded [SignRuntime] (served : Served Model (Nat × SignOperation)) : Prop where
  awaited : ∀ fl, served.state.inflight = some fl →
    served.requests.countP (awaitedUnder served.state.attempt fl.stage.awaits) = 1
  taken : ∀ fl, served.state.inflight = some fl → ∀ request ∈ served.requests,
    awaitedUnder served.state.attempt fl.stage.awaits request = true →
    ∀ event next issued, signShell.answers request event = true →
      signing.step event served.state = some (next, issued) →
      next.core.awaits ≠ some fl.stage.awaits
  timed : ∀ pending round, served.state.pending = some pending → pending.sim = .checking round →
    ∃ request ∈ served.requests, ∃ ms, request.2 = .simVerdictTimer pending.id round ms

theorem timed_of_run [SignRuntime]
    {allowed : Move Event → Served Model (Nat × SignOperation) → Bool}
    {history : List (Move Event × List ((Nat × SignOperation) × Nat))}
    {served : Served Model (Nat × SignOperation)} (run : session.Run allowed history served) :
    Timed served.state.core served.requests := by
  apply run.state_invariant fun served => Timed served.state.core served.requests
  · exact fun _ _ shown => by contradiction
  · intro move before after output _ stepped timed
    obtain ⟨_, requests, serves, _⟩ := Process.served_step stepped
    obtain ⟨left, takes, out⟩ := serves.takes
    rw [out]
    exact timed.step takes serves.stepped

theorem paired_of_run [SignRuntime]
    {history : List (Move Event × List ((Nat × SignOperation) × Nat))}
    {served : Served Model (Nat × SignOperation)}
    (run : session.Run recordsAlone history served) :
    Paired served.state.core served.requests := by
  apply run.state_invariant fun served => Paired served.state.core served.requests
  · exact .init
  · intro move before after output alone stepped paired
    obtain ⟨_, requests, serves, _⟩ := Process.served_step stepped
    obtain ⟨left, takes, out⟩ := serves.takes
    rw [out]
    apply paired.step takes serves.stepped
    intro first
    simpa [recordsAlone, first] using alone

/-- In every run the pipeline in flight waits for exactly one operation that is out, as
long as every submit's answer that must be recorded first arrives while no record is
being written. -/
theorem pipeline_unstranded [SignRuntime]
    {history : List (Move Event × List ((Nat × SignOperation) × Nat))}
    {served : Served Model (Nat × SignOperation)}
    (run : session.Run recordsAlone history served) : Unstranded served where
  awaited := fun _ running => (paired_of_run run).once (awaits_of_running running)
  taken := by
    intro fl running request _ awaited event next issued answers stepped
    obtain ⟨result, rfl, heard⟩ := answer_hears answers awaited
    exact awaited_leaves stepped (awaits_of_running running) heard
  timed := timed_of_run run

@[reducible] def mixedRuntime : SignRuntime :=
  sampleRuntime [(moduleText, moduleParams), ("[]", .array [])]

/-- The request for a message's signature. -/
def messageAsked (id : String) : Arrival :=
  { sampleArrival id "[]" with method := "personal_sign" }

/-- A transaction is approved and named by the relay, its record slow to be written; its
receipt answers the site, and a message is approved and signed. -/
def slowRecord : List (Move Event) :=
  [.arrives (.accountsChanged [sampleOwner, sampleOther] 1),
    .arrives (.requestArrived (sampleArrival "1" moduleText)),
    .arrives (.approveTapped {}),
    .answers 0 (.shellCompleted 0 (.preCheck none)),
    .arrives (.opSubmitted "1" "0xaa" 1 false none),
    .answers 1 (.shellCompleted 0 (.submit (.succeeded "0xbb") 2)),
    .arrives (.requestArrived (messageAsked "2")),
    .arrives (.approveTapped {}),
    .answers 4 (.shellCompleted 0 (.submit (.succeeded "0xcc") 3))]

theorem slowRecord_stranded : ∃ history served,
    (@session mixedRuntime).Run Process.unrestricted history served ∧
      ¬ @Unstranded mixedRuntime served := by
  have played : ((@session mixedRuntime).play Process.unrestricted slowRecord).any
      (fun reached => reached.2.state.inflight.any fun fl =>
        reached.2.requests.countP (awaitedUnder reached.2.state.attempt fl.stage.awaits) == 2) =
      true := by decide +kernel
  obtain ⟨history, served, run, twice⟩ := Process.exists_run_of_play played
  refine ⟨history, served, run, fun unstranded => ?_⟩
  rw [Option.any_eq_true] at twice
  obtain ⟨fl, running, two⟩ := twice
  have once := @Unstranded.awaited mixedRuntime served unstranded fl running
  rw [beq_iff_eq, once] at two
  exact absurd two nofun

/-- The same with the record of the transaction written in time. -/
def promptRecord : List (Move Event) :=
  slowRecord.take 5 ++ [.answers 2 (.shellCompleted 0 .recordPersisted)] ++ slowRecord.drop 5

theorem promptRecord_unstranded : ∃ history served,
    (@session mixedRuntime).Run recordsAlone history served ∧
      served.state.inflight.isSome = true ∧ @Unstranded mixedRuntime served := by
  have played : ((@session mixedRuntime).play recordsAlone promptRecord).any
      (fun reached => reached.2.state.inflight.isSome) = true := by decide +kernel
  obtain ⟨history, served, run, running⟩ := Process.exists_run_of_play played
  exact ⟨history, served, run, running, @pipeline_unstranded mixedRuntime history served run⟩

end VelaWallet.SignRequest
