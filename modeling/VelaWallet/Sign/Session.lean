import VelaWallet.Base.Shell
import VelaWallet.Sign.Runs

/-!
# The signing machine with its shell

The session of the signing machine: the shell answers each operation once at most, under
the attempt it was issued under; and what a change does to the pipeline's wait, and to the
wait for the simulation.
-/

namespace VelaWallet.SignRequest

variable {kind : Awaited} {fl : Inflight} {operations : List SignOperation} {result : Model × Cmd}
  {opts : SignApproveOpts} {operation : SignOperation} {outcome : SignSubmitOutcome}

def SignOperation.answeredBy : SignOperation → SignShellResult → Bool
  | sendResponse .., .responded => true
  | checkBundlerFunding .., .preCheck _ => true
  | attemptSponsorship .., .sponsorship _ => true
  | signAndSubmit .., .submit .. => true
  | persistRecord _, .recordPersisted => true
  | updateRecord .., .recordUpdated => true
  | clearToPost .., .responded => true
  | deleteRecord _, .recordUpdated => true
  | switchActiveAccount _, .accountSwitched => true
  | simVerdictTimer id round _, .simVerdictTimerFired id_ round_ => id == id_ && round == round_
  | _, _ => false

/-- An operation's answer carries the attempt the operation was issued under. -/
@[reducible] def signShell : Shell Event (Nat × SignOperation) where
  external
    | .shellCompleted .. => false
    | _ => true
  answers request
    | .shellCompleted attempt result => attempt == request.1 && request.2.answeredBy result
    | _ => false

/-- The signing machine with its shell. -/
@[reducible] def session [SignRuntime] :
    Process (Served Model (Nat × SignOperation)) (Move Event) (List ((Nat × SignOperation) × Nat)) :=
  signing.served signShell

def SignOperation.awaitedAs : SignOperation → Option Awaited
  | checkBundlerFunding .. => some .check
  | attemptSponsorship .. => some .sponsorship
  | signAndSubmit .. => some .submit
  | persistRecord _ => some .record
  | _ => none

theorem SignOperation.awaitedAs_of_answeredBy
    {result : SignShellResult} (answered : operation.answeredBy result = true) :
    operation.awaitedAs = result.awaitedAs := by
  cases operation <;> cases result <;> first | rfl | contradiction

/-- The answer the pipeline in flight waits for. -/
def Core.awaits (core : Core) : Option Awaited := core.inflight.map (·.stage.awaits)

section Session

variable {event : Event} {model next : Model} {core : Core}
  {issued : List (Nat × SignOperation)}

theorem failInflight_inflight (code : Int) (kind : SignErrorKind) (detail : Option String)
    (model : Model) : (failInflight code kind detail model).1.inflight = none := by
  unfold failInflight
  split
  case _ idle => exact idle
  case _ => split <;> rfl

theorem clearIfShown_inflight (id : String) (model : Model) :
    (model.clearIfShown id).inflight = model.inflight := by
  unfold Model.clearIfShown
  split <;> rfl

theorem awaits_of_idle (idle : model.inflight = none) : model.core.awaits = none :=
  congrArg (Option.map fun fl : Inflight => fl.stage.awaits) idle

theorem leaves_of_idle (idle : model.inflight = none) :
    model.core.awaits ≠ some kind := by
  rw [awaits_of_idle idle]
  nofun

theorem awaits_of_running (running : model.inflight = some fl) :
    model.core.awaits = some fl.stage.awaits :=
  congrArg (Option.map fun fl : Inflight => fl.stage.awaits) running

theorem proceedSubmit_leaves [SignRuntime]
    (running : model.inflight = some fl) (proceeded : proceedSubmit model = .ok result) :
    result.1.core.awaits = some .submit ∨ result.1.core.awaits = none := by
  obtain ⟨_, rfl⟩ | ⟨code, kind, detail, blocked, rfl⟩ := proceedSubmit_cases running proceeded
  · exact .inl rfl
  · exact .inr (awaits_of_idle (failInflight_inflight code kind detail { model with blocked }))

theorem onPrecheck_leaves [SignRuntime] {funding : Option SignFundingNeeded}
    (answered : onPrecheck funding model = .ok result)
    (waits : model.core.awaits = some .check) : result.1.core.awaits ≠ some .check := by
  unfold onPrecheck at answered
  split at answered
  case _ idle =>
    rw [awaits_of_idle idle] at waits
    contradiction
  case _ fl running =>
    rw [awaits_of_running running, Option.some.injEq] at waits
    have precheck : fl.stage = .precheck := by
      cases stage : fl.stage <;> rw [stage] at waits <;> first | rfl | contradiction
    rw [precheck] at answered
    cases funding with
    | none =>
      rcases proceedSubmit_leaves running answered with leaves | leaves
      all_goals
        rw [leaves]
        nofun
    | some =>
      cases answered
      nofun

theorem onSponsorship_leaves [SignRuntime] {outcome : SignSponsorship}
    (answered : onSponsorship outcome model = .ok result)
    (waits : model.core.awaits = some .sponsorship) :
    result.1.core.awaits ≠ some .sponsorship := by
  unfold onSponsorship at answered
  split at answered
  case _ idle =>
    rw [awaits_of_idle idle] at waits
    contradiction
  case _ fl running =>
    rw [awaits_of_running running, Option.some.injEq] at waits
    split at answered
    case _ =>
      split at answered
      · cases answered
        exact leaves_of_idle (failInflight_inflight _ _ _ _)
      · split at answered
        · rcases proceedSubmit_leaves running answered with leaves | leaves
          all_goals
            rw [leaves]
            nofun
        all_goals
          cases answered
          nofun
    case _ =>
      split at answered
      · cases answered
        exact leaves_of_idle (failInflight_inflight _ _ _ _)
      · split at answered <;> cases answered
        all_goals nofun
    case _ sponsors reactive =>
      cases stage : fl.stage with
      | sponsoring funding => exact (sponsors funding stage).elim
      | reactiveSponsoring funding message => exact (reactive funding message stage).elim
      | precheck | submitting | persistingResult =>
        rw [stage] at waits
        contradiction

theorem onSubmitOutcome_leaves (fl : Inflight) (outcome : SignSubmitOutcome) (nowMs : Float)
    (model : Model) : (onSubmitOutcome fl outcome nowMs model).1.core.awaits ≠ some .submit := by
  unfold onSubmitOutcome
  split
  case _ =>
    unfold passkeyCancelled
    dsimp only
    split <;> nofun
  case _ =>
    exact leaves_of_idle (clearIfShown_inflight _ _)
  case _ =>
    dsimp only
    split
    · exact leaves_of_idle (clearIfShown_inflight _ _)
    · nofun
  case _ =>
    dsimp only
    split
    · nofun
    · exact leaves_of_idle (clearIfShown_inflight _ _)
  case _ =>
    dsimp only
    split
    · nofun
    · exact leaves_of_idle (clearIfShown_inflight _ _)
  case _ =>
    dsimp only
    split
    · nofun
    · exact leaves_of_idle (clearIfShown_inflight _ _)
  case _ => nofun
  case _ => exact leaves_of_idle (failInflight_inflight _ _ _ _)
  case _ message refused signer _ =>
    have idle := failInflight_inflight codeInternal (signerFailure signer)
      (some (if refused then refusedDappDetail else message)) model
    exact leaves_of_idle idle
  case _ =>
    have idle := failInflight_inflight codeInternal .venueBlocked none model
    exact leaves_of_idle idle

theorem onSubmit_leaves {nowMs : Float} (waits : model.core.awaits = some .submit) :
    (onSubmit outcome nowMs model).1.core.awaits ≠ some .submit := by
  unfold onSubmit
  split
  case _ idle =>
    rw [awaits_of_idle idle] at waits
    contradiction
  case _ fl running =>
    rw [awaits_of_running running, Option.some.injEq] at waits
    have submitting : fl.stage = .submitting := by
      cases stage : fl.stage <;> rw [stage] at waits <;> first | rfl | contradiction
    rw [submitting]
    split
    case isTrue different => simp at different
    case isFalse =>
      split
      case _ wa ahead unrecorded =>
        obtain ⟨next, taken, _⟩ := @settleWriteAhead_written model fl wa outcome ahead unrecorded
        dsimp only
        rw [taken]
        dsimp only [behindRecords]
        split
        · exact onSubmitOutcome_leaves _ _ _ _
        · exact onSubmitOutcome_leaves _ _ _ _
      case _ => exact onSubmitOutcome_leaves _ _ _ _

theorem onRecordPersisted_leaves (waits : model.core.awaits = some .record) :
    (onRecordPersisted model).1.core.awaits ≠ some .record := by
  unfold onRecordPersisted
  split
  case _ idle => exact leaves_of_idle idle
  case _ fl running =>
    rw [awaits_of_running running, Option.some.injEq] at waits
    cases stage : fl.stage with
    | persistingResult => exact leaves_of_idle (clearIfShown_inflight _ _)
    | precheck | sponsoring _ | reactiveSponsoring _ _ | submitting =>
      rw [stage] at waits
      contradiction

theorem awaited_leaves [SignRuntime] {result : SignShellResult}
    (stepped : signing.step (.shellCompleted model.attempt result) model = some (next, issued))
    (waits : model.core.awaits = some kind) (heard : result.awaitedAs = some kind) :
    next.core.awaits ≠ some kind := by
  obtain ⟨cmd, updated, _⟩ := signing_step.mp stepped
  unfold update shellCompleted at updated
  simp only [ne_eq, not_true_eq_false, false_and, if_false] at updated
  cases result with
  | preCheck =>
    cases heard
    exact onPrecheck_leaves updated waits
  | sponsorship =>
    cases heard
    exact onSponsorship_leaves updated waits
  | submit outcome nowMs =>
    cases heard
    have same : (onSubmit outcome nowMs model).1 = next :=
      congrArg Prod.fst (Except.ok.inj updated)
    rw [← same]
    exact onSubmit_leaves waits
  | recordPersisted =>
    cases heard
    have same : (onRecordPersisted model).1 = next := congrArg Prod.fst (Except.ok.inj updated)
    rw [← same]
    exact onRecordPersisted_leaves waits
  | responded | recordUpdated | accountSwitched | simVerdictTimerFired _ _ => contradiction

/-! ## What a change does to the wait -/

def Unawaited (operations : List SignOperation) : Prop :=
  ∀ operation ∈ operations, operation.awaitedAs = none

@[simp] theorem unawaited_nil : Unawaited [] := by simp [Unawaited]

@[simp] theorem unawaited_cons {rest : List SignOperation} :
    Unawaited (operation :: rest) ↔ operation.awaitedAs = none ∧ Unawaited rest := by
  simp [Unawaited]

@[simp] theorem unawaited_append {first second : List SignOperation} :
    Unawaited (first ++ second) ↔ Unawaited first ∧ Unawaited second := by
  simp only [Unawaited, List.mem_append, or_imp, forall_and]

@[simp] theorem unawaited_owed (pending : Option Pending) :
    Unawaited ((pending.map Pending.owed).getD []) := by
  cases pending with
  | none => exact unawaited_nil
  | some =>
    intro operation member
    obtain ⟨payload, _, rfl⟩ := Pending.mem_owed member
    rfl

@[simp] theorem unawaited_switchAnswer (id transportId : Option String)
    (payload : SignResponsePayload) : Unawaited (switchAnswer id transportId payload) := by
  unfold switchAnswer
  split
  · exact unawaited_cons.mpr ⟨rfl, unawaited_nil⟩
  · exact unawaited_nil

@[simp] theorem unawaited_closeFailed (fl : Inflight) : Unawaited (closeFailed fl) := by
  unfold closeFailed
  split
  · exact unawaited_cons.mpr ⟨rfl, unawaited_nil⟩
  · exact unawaited_nil

theorem Written.unawaited {next : Inflight} {before : Core}
    (written : Written outcome fl before next core operations) : Unawaited operations := by
  cases written
  case kept => exact unawaited_nil
  case adopted patches =>
    rcases patches with rfl | rfl
    · exact unawaited_nil
    · exact unawaited_cons.mpr ⟨rfl, unawaited_nil⟩
  case withdrawn => exact unawaited_cons.mpr ⟨rfl, unawaited_nil⟩

theorem Submitted.unawaited (submitted : Submitted model event fl core operations outcome) :
    Unawaited operations := by
  obtain ⟨_, _, _, _, _, _, written, _⟩ := submitted
  exact written.unawaited

/-- The pipeline's wait may end: there is none, or its answer is here. -/
def Freed (model : Model) (event : Event) : Prop :=
  model.inflight = none ∨ ∃ fl, model.inflight = some fl ∧ Hears model fl event

theorem Submitted.freed (submitted : Submitted model event fl core operations outcome) :
    Freed model event := by
  obtain ⟨nowMs, before, raw, rfl, running, stage, _, _⟩ := submitted
  exact .inr ⟨before, running, .submit raw nowMs, rfl, by rw [stage]; rfl⟩

/-- The outcome names an operation that went out. -/
def SignSubmitOutcome.wentOut : SignSubmitOutcome → Bool
  | succeeded _ | receiptPending _ | reverted .. | notConfirmed _ => true
  | _ => false

/-- The submit's answer is to be recorded before its request is answered, under the
attempt it came with. -/
def recordsFirst (model : Model) : Event → Bool
  | .shellCompleted attempt (.submit outcome _) =>
    attempt == model.attempt && outcome.wentOut &&
      model.inflight.any fun fl =>
        fl.stage == .submitting && fl.recordId.isNone &&
          fl.writeAhead.all fun wa => wa.cleared && !sameOp outcome wa.userOpHash
  | _ => false

/-- What a change does to the wait of the pipeline: it stays as it is, another begins with
its own operation, or it ends. -/
inductive WaitCase (event : Event) (model : Model) (core : Core) : List SignOperation → Prop where
  | stays {operations : List SignOperation} (waits : core.awaits = model.core.awaits)
      (attempt : core.attempt = model.attempt)
      (quiet : Unawaited operations ∨ ∃ before record, core.awaits = some .submit ∧
        Unawaited before ∧ operations = before ++ [.persistRecord record]) :
      WaitCase event model core operations
  | begins {operations : List SignOperation} {operation : SignOperation} {kind : Awaited}
      (waits : core.awaits = some kind) (freed : Freed model event)
      (attempt : model.attempt ≤ core.attempt) (quiet : Unawaited operations)
      (asks : operation.awaitedAs = some kind)
      (records : kind = .record → core.attempt = model.attempt →
        recordsFirst model event = true) :
      WaitCase event model core (operations ++ [operation])
  | ends {operations : List SignOperation} (idle : core.awaits = none)
      (freed : Freed model event ∨ model.attempt < core.attempt)
      (attempt : model.attempt ≤ core.attempt) (quiet : Unawaited operations) :
      WaitCase event model core operations

@[simp] theorem Core.clearedIf_attempt (id : String) (core : Core) :
    (core.clearedIf id).attempt = core.attempt := by
  unfold Core.clearedIf
  split <;> rfl

@[simp] theorem Core.clearedIf_awaits (id : String) (core : Core) :
    (core.clearedIf id).awaits = core.awaits := by
  unfold Core.clearedIf
  split <;> rfl

theorem Written.attempt {next : Inflight} {before : Core}
    (written : Written outcome fl before next core operations) :
    before.attempt ≤ core.attempt := by
  cases written
  case kept | adopted => exact Nat.le_refl _
  case withdrawn =>
    dsimp only
    split
    · exact Nat.le_refl _
    · exact Nat.le_succ _

theorem Submitted.attempt (submitted : Submitted model event fl core operations outcome) :
    model.attempt ≤ core.attempt := by
  obtain ⟨_, _, _, _, _, _, written, _⟩ := submitted
  exact written.attempt

theorem Takes.freed {pending : Pending}
    (takes : Takes model event opts core pending) : Freed model event := .inl takes.free

theorem Tapped.attempt (tapped : Tapped model event opts core) :
    core.attempt = model.attempt := by
  cases tapped <;> rfl

theorem Tapped.awaits (tapped : Tapped model event opts core) :
    core.awaits = model.core.awaits := by
  cases tapped <;> rfl

theorem Core.stoppedFor_cases (id : String) (core : Core) :
    core.stoppedFor id = core ∨ core.stoppedFor id = core.stopped := by
  unfold Core.stoppedFor
  split
  · exact .inr rfl
  · exact .inl rfl

@[simp] theorem respondOp_awaitedAs (transportId id : String) (payload : SignResponsePayload) :
    (respondOp transportId id payload).awaitedAs = none := rfl

@[simp] theorem Pending.respond_awaitedAs (pending : Pending) (payload : SignResponsePayload) :
    (pending.respond payload).awaitedAs = none := rfl

@[simp] theorem Inflight.respond_awaitedAs (fl : Inflight) (payload : SignResponsePayload) :
    (fl.respond payload).awaitedAs = none := rfl

@[simp] theorem updateRecord_awaitedAs (recordId : String) (close : SignRecordClose) :
    (SignOperation.updateRecord recordId close).awaitedAs = none := rfl

@[simp] theorem unawaited_withdraw (ahead : Option WriteAhead) :
    Unawaited ((ahead.map fun wa => [SignOperation.deleteRecord wa.recordId]).getD []) := by
  cases ahead with
  | none => exact unawaited_nil
  | some => exact unawaited_cons.mpr ⟨rfl, unawaited_nil⟩

theorem WaitCase.asks (waits : core.awaits = some kind) (freed : Freed model event)
    (attempt : core.attempt = model.attempt) (asks : operation.awaitedAs = some kind)
    (different : kind ≠ .record) : WaitCase event model core [operation] := by
  have begins : WaitCase event model core ([] ++ [operation]) :=
    .begins waits freed attempt.ge unawaited_nil asks fun same => (different same).elim
  exact begins

/-- The pipeline as the write-ahead record leaves it still has no record of its own, and
the outcome went out: the record comes before the answer. -/
theorem recordsFirst_of_unrecorded (submitted : Submitted model event fl core operations outcome)
    (unrecorded : fl.recordId = none) (answers : (outcomeAnswer fl outcome).isSome = true)
    (attempt : core.attempt = model.attempt) : recordsFirst model event = true := by
  obtain ⟨nowMs, before, raw, rfl, running, stage, written, rfl⟩ := submitted
  have wentOut : raw.wentOut = true := by
    unfold readOutcome at answers
    rw [unrecorded] at answers
    cases raw with
    | succeeded | receiptPending | reverted | notConfirmed => rfl
    | failed _ _ signer =>
      rcases signer with _ | kind
      · simp [outcomeAnswer] at answers
      · cases kind <;> simp [outcomeAnswer] at answers
    | passkeyCancelled | underfunded | askerGone | venueBlocked =>
      simp [outcomeAnswer] at answers
  simp only [recordsFirst, beq_self_eq_true, wentOut, running, Option.any_some, stage,
    Bool.true_and]
  cases written with
  | kept kept =>
    rcases kept with ahead | recorded
    · rw [unrecorded, ahead]
      rfl
    · rw [unrecorded] at recorded
      contradiction
  | adopted => contradiction
  | @withdrawn wa ahead absent other =>
    rw [absent, ahead]
    cases cleared : wa.cleared with
    | true => simp [other, cleared]
    | false =>
      rw [cleared] at attempt
      exact absurd attempt (Nat.succ_ne_self _)

theorem Starts.stage [SignRuntime] {pending : Pending}
    (starts : Starts model event opts core pending fl) : fl.stage = .precheck := by
  obtain ⟨_, _, _, _, _, rfl⟩ := starts.captured
  rfl

theorem Inflight.takesSigned_awaits {id : String}
    (takes : fl.takesSigned id = true) : fl.stage.awaits = .submit := by
  simp only [Inflight.takesSigned, Bool.and_eq_true, beq_iff_eq] at takes
  rw [takes.1.1.2]
  rfl

theorem Inflight.takesSubmitted_awaits {id : String}
    (takes : fl.takesSubmitted id = true) : fl.stage.awaits = .submit := by
  simp only [Inflight.takesSubmitted, Bool.and_eq_true, beq_iff_eq] at takes
  rw [takes.1.2]
  rfl

theorem ends_clearedIf (core : Core) {id : String} (idle : core.awaits = none)
    (freed : Freed model event ∨ model.attempt < core.attempt)
    (attempt : model.attempt ≤ core.attempt) (quiet : Unawaited operations) :
    ∃ said, under core.attempt operations = under (core.clearedIf id).attempt said ∧
      WaitCase event model (core.clearedIf id) said := by
  refine ⟨operations, by rw [Core.clearedIf_attempt], .ends ?_ ?_ ?_ quiet⟩
  · rw [Core.clearedIf_awaits, idle]
  · rw [Core.clearedIf_attempt]
    exact freed
  · rw [Core.clearedIf_attempt]
    exact attempt

/-- What a change hands out goes under its own attempt, and either leaves the wait of the
pipeline, or begins one with its operation, or ends it. -/
theorem Change.wait_cases [SignRuntime] (change : Change event model core issued) :
    ∃ operations, issued = under core.attempt operations ∧
      WaitCase event model core operations := by
  cases change
  case kept | unfunded | accountsListed | accountSwitched =>
    exact ⟨[], rfl, .stays rfl rfl (.inl unawaited_nil)⟩
  case arrivalRefused => exact ⟨_, rfl, .stays rfl rfl (.inl (by simp))⟩
  case arrivalShown asks =>
    refine ⟨_, rfl, .stays rfl rfl (.inl ?_)⟩
    rcases asks with rfl | ⟨index, rfl⟩
    all_goals simp [SignOperation.awaitedAs]
  case switchAnswered => exact ⟨_, rfl, .stays rfl rfl (.inl (unawaited_switchAnswer _ _ _))⟩
  case switchCancelled id transportId _ pending payload reply _ _ _ _ =>
    have quiet : Unawaited (pending.respond payload :: switchAnswer id transportId reply) := by
      simp
    refine ⟨_, rfl, ?_⟩
    rcases Core.stoppedFor_cases pending.id model.core with same | stopped
    · rw [same]
      exact .stays rfl rfl (.inl quiet)
    · rw [stopped]
      exact .ends rfl (.inr (Nat.lt_succ_self _)) (Nat.le_succ _) quiet
  -- the approve tap
  case tapped tapped => exact ⟨[], rfl, .stays tapped.awaits tapped.attempt (.inl unawaited_nil)⟩
  case refusedTap pending code kind detail takes =>
    refine ⟨[pending.respond (errPayload code kind detail)], ?_, ?_⟩
    · exact congrArg (under · _) takes.tapped.attempt.symm
    · exact .stays takes.tapped.awaits takes.tapped.attempt (.inl (by simp))
  case started fl _ starts _ =>
    have waits : some fl.stage.awaits = some .check :=
      congrArg (fun stage : Stage => some stage.awaits) starts.stage
    refine ⟨_, congrArg (under · _) starts.tapped.attempt.symm, ?_⟩
    exact .asks waits starts.freed starts.tapped.attempt rfl nofun
  case startedSubmit starts _ =>
    refine ⟨_, congrArg (under · _) starts.tapped.attempt.symm, ?_⟩
    exact .asks rfl starts.freed starts.tapped.attempt rfl nofun
  case startedFailed takes =>
    exact ⟨[], rfl, .stays takes.tapped.awaits takes.tapped.attempt (.inl unawaited_nil)⟩
  -- the checks before the submit
  case sponsoring fl _ answered running stage =>
    have freed : Freed model event := .inr ⟨fl, running, _, answered, by rw [stage]; rfl⟩
    exact ⟨_, rfl, .asks rfl freed rfl rfl nofun⟩
  case submits fl running answered _ =>
    exact ⟨_, rfl, .asks rfl (.inr ⟨fl, running, answered.hears⟩) rfl rfl nofun⟩
  case failedShown fl _ _ running _ _ _ hears =>
    exact ⟨_, rfl, .ends rfl (.inl (.inr ⟨fl, running, hears⟩)) (Nat.le_refl _)
      (unawaited_closeFailed fl)⟩
  case failedAnswered fl _ _ _ running _ _ hears =>
    exact ⟨_, rfl, .ends rfl (.inl (.inr ⟨fl, running, hears⟩)) (Nat.le_refl _) (by simp)⟩
  case fundingWait fl _ running _ _ hears =>
    exact ⟨[], rfl, .ends rfl (.inl (.inr ⟨fl, running, hears⟩)) (Nat.le_refl _)
      unawaited_nil⟩
  -- the operation in flight
  case signed running takes =>
    have waits : model.core.awaits = some .submit :=
      (awaits_of_running running).trans (congrArg some (Inflight.takesSigned_awaits takes))
    refine ⟨_, rfl, .stays (awaits_of_running running).symm rfl (.inr ?_)⟩
    exact ⟨[], _, (awaits_of_running running).symm.trans waits, unawaited_nil, rfl⟩
  case submittedAhead running _ _ patches =>
    refine ⟨_, rfl, .stays (awaits_of_running running).symm rfl (.inl ?_)⟩
    rcases patches with rfl | rfl
    all_goals simp [SignOperation.awaitedAs]
  case batchAnswered fl _ id _ _ _ _ _ _ _ _ | trackedAnswered fl _ _ _ _ _ _ _ _ _ _ =>
    apply ends_clearedIf (model.core.settle fl.id .submitted).stopped rfl
      (.inr (Nat.lt_succ_self _)) (Nat.le_succ _)
    simp
  case submittedAfresh running takes =>
    have waits : model.core.awaits = some .submit :=
      (awaits_of_running running).trans (congrArg some (Inflight.takesSubmitted_awaits takes))
    refine ⟨_, rfl, .stays (awaits_of_running running).symm rfl (.inr ?_)⟩
    exact ⟨_, _, (awaits_of_running running).symm.trans waits, unawaited_withdraw _, rfl⟩
  case trackedHeld =>
    exact ⟨[], rfl, .ends rfl (.inr (Nat.lt_succ_self _)) (Nat.le_succ _) unawaited_nil⟩
  case prompted running =>
    exact ⟨[], rfl, .stays (awaits_of_running running).symm rfl (.inl unawaited_nil)⟩
  -- the submit's outcome
  case submitQuiet submitted =>
    exact ⟨_, rfl, .ends rfl (.inl submitted.freed) submitted.attempt submitted.unawaited⟩
  case submitRefused submitted _ | submitFailedShown submitted _ _
      | submitFailedAnswered submitted _ =>
    refine ⟨_, rfl, .ends rfl (.inl submitted.freed) submitted.attempt ?_⟩
    simp [submitted.unawaited]
  case submitGone submitCore _ submitted =>
    exact ends_clearedIf submitCore.ended rfl (.inl submitted.freed) submitted.attempt submitted.unawaited
  case submitAnswered fl submitCore _ _ _ submitted _ _ =>
    apply ends_clearedIf (submitCore.settle fl.id .submitted).ended rfl (.inl submitted.freed) submitted.attempt
    simp [submitted.unawaited]
  case submitRecorded submitted unrecorded answers =>
    exact ⟨_, rfl, .begins rfl submitted.freed submitted.attempt submitted.unawaited rfl
      fun _ attempt => recordsFirst_of_unrecorded submitted unrecorded answers attempt⟩
  case submitUnderfunded submitted =>
    exact ⟨_, rfl, .begins rfl submitted.freed submitted.attempt submitted.unawaited rfl nofun⟩
  -- the records
  case postCleared running _ _ _ _ =>
    refine ⟨_, rfl, .stays (awaits_of_running running).symm rfl (.inl ?_)⟩
    simp [SignOperation.awaitedAs]
  case recordAnswered fl _ answered running stage =>
    have freed : Freed model event := .inr ⟨fl, running, _, answered, by rw [stage]; rfl⟩
    exact ends_clearedIf model.core.ended rfl (.inl freed) (Nat.le_refl _) (by simp)
  -- the sheet
  case rejected pending code kind detail _ _ _ _ =>
    have quiet : Unawaited [pending.respond (errPayload code kind detail)] := by simp
    rw [Core.stoppedFor_settle]
    refine ⟨_, rfl, ?_⟩
    rcases Core.stoppedFor_cases pending.id model.core with same | stopped
    · rw [same]
      exact .stays rfl rfl (.inl quiet)
    · rw [stopped]
      exact .ends rfl (.inr (Nat.lt_succ_self _)) (Nat.le_succ _) quiet
  case dismissed => exact ⟨_, rfl, .stays rfl rfl (.inl (unawaited_owed _))⟩
  case retried | simEnded => exact ⟨[], rfl, .stays rfl rfl (.inl unawaited_nil)⟩
  case fundingCancelled => exact ⟨_, rfl, .stays rfl rfl (.inl (by simp))⟩
  case simStarted =>
    refine ⟨_, rfl, .stays rfl rfl (.inl ?_)⟩
    simp [SignOperation.awaitedAs]
  case dropped transportId sheetCore sheet =>
    have attempt : sheetCore.attempt = model.attempt := by
      rcases sheet with rfl | rfl <;> rfl
    refine ⟨[], rfl, .stays ?_ attempt (.inl unawaited_nil)⟩
    cases running : model.inflight with
    | none => exact (awaits_of_idle running).symm
    | some fl =>
      have stage : (fl.leftBy transportId).stage = fl.stage := by
        unfold Inflight.leftBy
        split <;> rfl
      rw [awaits_of_running running, ← stage]
      rfl
  case droppedStopped sheetCore _ _ sheet =>
    have attempt : sheetCore.attempt = model.attempt := by
      rcases sheet with rfl | rfl <;> rfl
    refine ⟨[], rfl, .ends rfl (.inr ?_) ?_ unawaited_nil⟩
    · exact Nat.lt_succ_of_le attempt.ge
    · exact Nat.le_succ_of_le attempt.ge

end Session

end VelaWallet.SignRequest
