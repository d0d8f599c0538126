import VelaWallet.Send.Changes

/-!
# The verdict of a submit

What the updates about an operation that is out do to the slot: they free it of
the submit they are about and of nothing else, and none of them hands out an
operation or clears a POST but the acknowledgement of a write-ahead.
-/

namespace VelaWallet.Send

variable {cmd : Cmd} {lines : List SendLine} {model : Model} {gen : Nat}
  {failure : SendSubmitFailure} {chainId : UInt32} {submitBlock : Option UInt64}
  {userOpHash : String} {maybeSent : Bool} {nowMs : Float}

/-- The operation an effect hands out. -/
def SendEffect.submitted : SendEffect → Option SubmitRequest
  | request _ (.submitUserOp operation) => some operation
  | _ => none

/-- The hash an effect clears the POST of. -/
def SendEffect.cleared : SendEffect → Option String
  | request _ (.clearToPost userOpHash) => some userOpHash
  | _ => none

/-- The effect neither hands an operation out nor clears its POST. -/
def SendEffect.sendsNothing (effect : SendEffect) : Bool :=
  effect.submitted.isNone && effect.cleared.isNone

theorem SendEffect.sendsNothing_of_quiet {effect : SendEffect} (quiet : effect.isQuiet = true) :
    effect.sendsNothing = true := by
  cases effect with
  | render => rfl
  | request _ operation => cases operation <;> first | rfl | cases quiet

/-- The effect takes the passkey prompt down. -/
def SendEffect.cancels : SendEffect → Bool
  | request _ .cancelPasskeySign => true
  | _ => false

/-- The effect sends nothing, and leaves the passkey prompt alone. -/
def SendEffect.isCalm (effect : SendEffect) : Bool := effect.sendsNothing && !effect.cancels

theorem sendsNothing_of_calm (calm : cmd.all SendEffect.isCalm = true) :
    cmd.all SendEffect.sendsNothing = true := by
  rw [List.all_eq_true] at calm ⊢
  intro effect inside
  exact (Bool.and_eq_true_iff.mp (calm effect inside)).1

theorem cancels_of_calm (calm : cmd.all SendEffect.isCalm = true) :
    cmd.any SendEffect.cancels = false := by
  rw [List.all_eq_true] at calm
  rw [List.any_eq_false]
  intro effect inside cancels
  have both := Bool.and_eq_true_iff.mp (calm effect inside)
  rw [cancels] at both
  cases both.2

/-- An update that leaves the slot to the run in it, and sends nothing. -/
structure RunKept (before : Model) (result : Model × Cmd) : Prop where
  counted : before.attempt ≤ result.1.attempt
  pipeline : result.1.pipeline = before.pipeline
  lock : result.1.lock = before.lock
  estimating : result.1.fees.estimatingGas = before.fees.estimatingGas
  confirmed : result.1.confirmedReview = before.confirmedReview
  withdrawn : result.1.withdrawnSubmit = before.withdrawnSubmit
  written : result.1.writeAhead = before.writeAhead ∨ result.1.writeAhead = none
  effects : result.2.all SendEffect.isCalm = true

namespace RunKept

theorem written_trans {first second third : Option WriteAhead}
    (left : second = first ∨ second = none) (right : third = second ∨ third = none) :
    third = first ∨ third = none := by
  rcases right with rfl | dropped
  · exact left
  · exact Or.inr dropped

theorem of_all {updates : List (Model → Model × Cmd)}
    (kept : ∀ update ∈ updates, ∀ model, RunKept model (update model)) (model : Model) :
    RunKept model (all updates model) := by
  induction updates generalizing model with
  | nil => exact ⟨Nat.le_refl _, rfl, rfl, rfl, rfl, rfl, Or.inl rfl, rfl⟩
  | cons update _ ih =>
    have first := kept update List.mem_cons_self model
    have rest := ih (fun later member => kept later (List.mem_cons_of_mem _ member))
      (update model).1
    exact {
      counted := Nat.le_trans first.counted rest.counted
      pipeline := rest.pipeline.trans first.pipeline
      lock := rest.lock.trans first.lock
      estimating := rest.estimating.trans first.estimating
      confirmed := rest.confirmed.trans first.confirmed
      withdrawn := rest.withdrawn.trans first.withdrawn
      written := written_trans first.written rest.written
      effects := by
        simp only [all, List.all_append, first.effects, rest.effects, Bool.and_self] }

end RunKept

theorem render_runKept (model : Model) : RunKept model (render model) :=
  ⟨Nat.le_refl _, rfl, rfl, rfl, rfl, rfl, Or.inl rfl, rfl⟩

theorem ask_runKept {operation : SendOperation}
    (nothing : ∀ id, (SendEffect.request id operation).isCalm = true) (model : Model) :
    RunKept model (ask operation model) where
  counted := Nat.le_succ _
  pipeline := rfl
  lock := rfl
  estimating := rfl
  confirmed := rfl
  withdrawn := rfl
  written := Or.inl rfl
  effects := by
    rw [ask, List.all_cons, List.all_nil, Bool.and_true]
    exact nothing _

theorem announceSubmitted_runKept (maybeSent : Bool) (model : Model) :
    RunKept model (announceSubmitted maybeSent model) := by
  unfold announceSubmitted
  dsimp only
  split
  · exact ask_runKept (fun _ => rfl) _
  · apply RunKept.of_all
    intro update member
    simp only [List.mem_cons, List.not_mem_nil, or_false] at member
    rcases member with rfl | rfl
    · exact ask_runKept (fun _ => rfl)
    · exact ask_runKept (fun _ => rfl)

theorem trackSubmitted_runKept (request : TrackRequest) (model : Model) :
    RunKept model (trackSubmitted request model) :=
  ⟨Nat.le_succ _, rfl, rfl, rfl, rfl, rfl, Or.inl rfl, rfl⟩

theorem handOver_runKept (written : WriteAhead) (chainId : UInt32) (maybeSent : Bool)
    (submitBlock : Option UInt64) (model : Model) :
    RunKept model (handOver written chainId maybeSent submitBlock model) := by
  unfold handOver
  dsimp only
  split
  · exact trackSubmitted_runKept _ _
  · apply RunKept.of_all
    intro update member
    simp only [List.mem_cons, List.not_mem_nil, or_false] at member
    rcases member with rfl | rfl
    · exact ask_runKept (fun _ => rfl)
    · exact trackSubmitted_runKept _

theorem withdrawWriteAhead_runKept (pipelineId : Nat) (model : Model) :
    RunKept model (withdrawWriteAhead pipelineId model) := by
  unfold withdrawWriteAhead
  split
  · exact ⟨Nat.le_refl _, rfl, rfl, rfl, rfl, rfl, Or.inl rfl, rfl⟩
  · exact ⟨Nat.le_add_right _ 2, rfl, rfl, rfl, rfl, rfl, Or.inr rfl, rfl⟩

theorem persistSubmitted_runKept [Runtime] (lines : List SendLine) (chainId : UInt32)
    (userOpHash : String) (nowMs : Float) (maybeSent : Bool) (submitBlock : Option UInt64)
    (model : Model) :
    RunKept model (persistSubmitted lines chainId userOpHash nowMs maybeSent submitBlock model) := by
  unfold persistSubmitted
  generalize txRecords model lines chainId userOpHash nowMs maybeSent submitBlock = records
  exact ⟨Nat.le_succ _, rfl, rfl, rfl, rfl, rfl, Or.inl rfl, rfl⟩

/-- The report of a signature that is taken: its records are written ahead. -/
structure Signs [Runtime] (userOpHash : String) (submitBlock : Option UInt64) (nowMs : Float)
    (model : Model) (result : Model × Cmd) where
  pipelineId : Nat
  gen : Nat
  chainId : UInt32
  lines : List SendLine
  records : List SendTxRecord
  waiting : model.pipeline = .submitting pipelineId gen chainId lines
  unwritten : writtenFor model.writeAhead pipelineId = false
  nothingOwed : model.withdrawnSubmit = none
  recorded : records = txRecords model lines chainId userOpHash nowMs true submitBlock
  slot : result.1.slot = { model.slot with
    writeAhead := some ⟨pipelineId, userOpHash, records.map (·.id), submitBlock⟩
    persist := some (model.nextId,
      ⟨userOpHash, records.map (·.id), chainId, true, submitBlock, true⟩) }
  counted : result.1.attempt = model.attempt + 1
  effects : result.2 = [.request model.nextId (.persistTxRecords records), .render]

theorem opSigned_cases [Runtime] (userOpHash : String) (submitBlock : Option UInt64)
    (nowMs : Float) (model : Model) :
    opSigned userOpHash submitBlock nowMs model = done model ∨
      Nonempty (Signs userOpHash submitBlock nowMs model
        (opSigned userOpHash submitBlock nowMs model)) := by
  unfold opSigned
  split
  · next pipelineId gen chainId lines waiting =>
      split
      · exact Or.inl rfl
      · next taken =>
          simp only [Bool.or_eq_true, not_or, Bool.not_eq_true, Option.isSome_eq_false_iff,
            Option.isNone_iff_eq_none] at taken
          refine Or.inr ⟨{
            pipelineId, gen, chainId, lines, waiting
            records := txRecords model lines chainId userOpHash nowMs true submitBlock
            unwritten := taken.1
            nothingOwed := taken.2
            recorded := rfl
            slot := ?_
            counted := rfl
            effects := rfl }⟩
          generalize txRecords model lines chainId userOpHash nowMs true submitBlock = records
          rfl
  · exact Or.inl rfl

/-- A cancel that is taken: the lock goes to the next generation, and a submit in
the slot still owes its result. -/
structure Cancels (model : Model) (result : Model × Cmd) : Prop where
  asked : model.tx = .preparing ∨ model.tx = .signing
  unwritten : model.pipeline.submitId.any (writtenFor model.writeAhead) = false
  slot : result.1.slot = { model.slot with
    lock := model.lock.cancel
    pipeline := model.pipeline.afterCancel
    withdrawn := model.pipeline.submitId.or model.withdrawnSubmit }
  counted : result.1.attempt = model.attempt + 1
  effects : result.2 = [.request model.nextId .cancelPasskeySign, .render]

theorem cancelSigning_cases (model : Model) :
    cancelSigning model = done model ∨ Cancels model (cancelSigning model) := by
  unfold cancelSigning
  split
  · exact Or.inl rfl
  · next early =>
      split
      · exact Or.inl rfl
      · next open_ =>
          refine Or.inr ⟨?_, Bool.eq_false_of_not_eq_true open_, rfl, rfl, rfl⟩
          rwa [not_and_or, not_not, not_not] at early

/-- The cancelled submit that is remembered, once one of them has answered. -/
def answeredBy (id : Nat) (withdrawn : Option Nat) : Option Nat :=
  if withdrawn = some id then none else withdrawn

/-- The end of a submit: the slot is free, and its own run's lock with it. -/
structure Settled (id gen : Nat) (before : Model) (result : Model × Cmd) : Prop where
  counted : before.attempt ≤ result.1.attempt
  pipeline : result.1.pipeline = .idle
  lock : result.1.lock = before.lock.endRun gen
  estimating : result.1.fees.estimatingGas = before.fees.estimatingGas
  confirmed : result.1.confirmedReview = before.confirmedReview
  withdrawn : result.1.withdrawnSubmit = answeredBy id before.withdrawnSubmit
  written : result.1.writeAhead = before.writeAhead ∨ result.1.writeAhead = none
  effects : result.2.all SendEffect.isCalm = true

variable {id : Nat}

theorem Settled.go_on {before accepted : Model} {updates : List (Model → Model × Cmd)}
    (kept : ∀ update ∈ updates, ∀ model, RunKept model (update model))
    (settled : Settled id gen before (done accepted)) :
    Settled id gen before (all updates accepted) := by
  have rest := RunKept.of_all kept accepted
  exact {
    counted := Nat.le_trans settled.counted rest.counted
    pipeline := rest.pipeline.trans settled.pipeline
    lock := rest.lock.trans settled.lock
    estimating := rest.estimating.trans settled.estimating
    confirmed := rest.confirmed.trans settled.confirmed
    withdrawn := rest.withdrawn.trans settled.withdrawn
    written := RunKept.written_trans settled.written rest.written
    effects := rest.effects }

theorem submitted_unheld [Runtime]
    (unheld : model.pipeline.submitId ≠ some id) :
    submitted id userOpHash nowMs maybeSent submitBlock model =
      done { model with withdrawnSubmit := answeredBy id model.withdrawnSubmit } := by
  unfold submitted acceptSubmitted answeredBy
  dsimp only
  split
  · next waiting =>
      rw [if_pos]
      intro mine
      apply unheld
      rw [waiting, mine]
      rfl
  · rfl

theorem submitted_held [Runtime]
    (waiting : model.pipeline = .submitting id gen chainId lines) :
    Settled id gen model (submitted id userOpHash nowMs maybeSent submitBlock model) := by
  unfold submitted acceptSubmitted
  simp only [waiting, ne_eq, not_true_eq_false, if_false]
  split
  · refine Settled.go_on ?_ ⟨Nat.le_refl _, rfl, rfl, rfl, rfl, rfl, Or.inr rfl, rfl⟩
    intro update member
    simp only [List.mem_cons, List.not_mem_nil, or_false] at member
    rcases member with rfl | rfl | rfl
    · exact announceSubmitted_runKept _
    · exact handOver_runKept _ _ _ _
    · exact render_runKept
  · refine Settled.go_on ?_ ⟨Nat.le_refl _, rfl, rfl, rfl, rfl, rfl, Or.inl rfl, rfl⟩
    intro update member
    simp only [List.mem_cons, List.not_mem_nil, or_false] at member
    rcases member with rfl | rfl | rfl | rfl
    · exact withdrawWriteAhead_runKept _
    · exact announceSubmitted_runKept _
    · exact persistSubmitted_runKept _ _ _ _ _ _
    · exact render_runKept

structure Failed (gen : Nat) (before : Model) (result : Model × Cmd) : Prop where
  counted : before.attempt ≤ result.1.attempt
  outcome : (result.1.pipeline = .idle ∧ result.1.lock = before.lock.endRun gen) ∨
    ∃ probeId fallback, result.1.pipeline = .failureProbe probeId gen fallback ∧
      result.1.lock = before.lock
  estimating : result.1.fees.estimatingGas = before.fees.estimatingGas
  confirmed : result.1.confirmedReview = before.confirmedReview
  withdrawn : result.1.withdrawnSubmit = before.withdrawnSubmit
  writeAhead : result.1.writeAhead = before.writeAhead
  persist : result.1.flights.persist = before.flights.persist
  effects : result.2.all SendEffect.isCalm = true

theorem failureProbe_failed (gen : Nat) (fallback : FailureFallback) (model : Model) :
    Failed gen model (failureProbe gen fallback model) := by
  unfold failureProbe
  split
  · exact ⟨Nat.le_succ _, Or.inl ⟨rfl, rfl⟩, rfl, rfl, rfl, rfl, rfl, rfl⟩
  · exact ⟨Nat.le_succ _, Or.inr ⟨_, _, rfl, rfl⟩, rfl, rfl, rfl, rfl, rfl, rfl⟩

theorem submitFailed_failed (idle : model.pipeline = .idle) (gen : Nat)
    (failure : SendSubmitFailure) : Failed gen model (submitFailed gen failure model) := by
  unfold submitFailed
  split
  · exact ⟨Nat.le_refl _, Or.inl ⟨idle, rfl⟩, rfl, rfl, rfl, rfl, rfl, rfl⟩
  · exact failureProbe_failed _ _ _
  · exact failureProbe_failed _ _ _
  · exact ⟨Nat.le_succ _, Or.inl ⟨idle, rfl⟩, rfl, rfl, rfl, rfl, rfl, rfl⟩
  · exact ⟨Nat.le_refl _, Or.inl ⟨idle, rfl⟩, rfl, rfl, rfl, rfl, rfl, rfl⟩
  · exact ⟨Nat.le_succ _, Or.inl ⟨idle, rfl⟩, rfl, rfl, rfl, rfl, rfl, rfl⟩

theorem submitFailedAnswer_withdrawn (owed : model.withdrawnSubmit = some id) :
    submitFailedAnswer id failure model = render { model with
      withdrawnSubmit := none
      pipeline := if model.pipeline.submitId = some id then .idle else model.pipeline } :=
  if_pos owed

theorem submitFailedAnswer_unheld
    (owed : model.withdrawnSubmit ≠ some id) (unheld : model.pipeline.submitId ≠ some id) :
    submitFailedAnswer id failure model = done model := by
  unfold submitFailedAnswer acceptSubmitFailed
  rw [if_neg owed]
  split
  · next waiting =>
      rw [if_pos]
      intro mine
      apply unheld
      rw [waiting, mine]
      rfl
  · rfl

theorem submitFailedAnswer_held (waiting : model.pipeline = .submitting id gen chainId lines)
    (owed : model.withdrawnSubmit ≠ some id) :
    submitFailedAnswer id failure model =
      all [withdrawWriteAhead id, submitFailed gen failure] { model with pipeline := .idle } := by
  unfold submitFailedAnswer acceptSubmitFailed
  rw [if_neg owed, waiting]
  exact if_neg fun other => other rfl

theorem submitFailedAnswer_failed (failure : SendSubmitFailure)
    (waiting : model.pipeline = .submitting id gen chainId lines)
    (owed : model.withdrawnSubmit ≠ some id) :
    ∃ freed : Model, RunKept { model with pipeline := .idle }
        (withdrawWriteAhead id { model with pipeline := .idle }) ∧
      freed = (withdrawWriteAhead id { model with pipeline := .idle }).1 ∧
      Failed gen freed (submitFailed gen failure freed) ∧
      (submitFailedAnswer id failure model).1 = (submitFailed gen failure freed).1 ∧
      (submitFailedAnswer id failure model).2.all SendEffect.isCalm = true := by
  have kept := withdrawWriteAhead_runKept id { model with pipeline := .idle }
  have failed := submitFailed_failed kept.pipeline gen failure
  refine ⟨_, kept, rfl, failed, ?_, ?_⟩
  · rw [submitFailedAnswer_held waiting owed]
    rfl
  · rw [submitFailedAnswer_held waiting owed]
    simp only [all, done, List.append_nil, List.all_append, kept.effects, failed.effects,
      Bool.and_self]

def PersistCtx.track (ctx : PersistCtx) (model : Model) : TrackRequest where
  userOpHash := ctx.userOpHash
  recordIds := if ctx.writeAhead then [] else ctx.recordIds
  chainId := ctx.chainId
  maybeSent := ctx.maybeSent
  submitBlock := ctx.submitBlock
  admitted := false
  sender := model.account.map (·.address)

/-- The acknowledgement of the write in flight: the operation is tracked, and a
write-ahead clears its POST behind that. -/
structure Acknowledges (id : Nat) (model : Model) (result : Model × Cmd) where
  ctx : PersistCtx
  waiting : model.flights.persist = some (id, ctx)
  slot : result.1.slot = { model.slot with persist := none }
  counted : model.attempt ≤ result.1.attempt
  effects : result.2 = .request model.nextId (.trackSubmitted (ctx.track model)) ::
    if ctx.writeAhead then [.request (model.nextId + 1) (.clearToPost ctx.userOpHash)] else []

theorem recordsPersisted_cases (id : Nat) (model : Model) :
    (model.flights.persist.any (·.1 == id) = false ∧ recordsPersisted id model = done model) ∨
      Nonempty (Acknowledges id model (recordsPersisted id model)) := by
  unfold recordsPersisted
  split
  · next idle =>
      rw [idle]
      exact Or.inl ⟨rfl, rfl⟩
  · next ctx waiting =>
      split
      · next other =>
          rw [waiting]
          exact Or.inl ⟨beq_false_of_ne other, rfl⟩
      · next mine =>
          cases not_not.mp mine
          dsimp only
          cases ahead : ctx.writeAhead with
          | false =>
            refine Or.inr ⟨{ ctx, waiting, slot := rfl, counted := Nat.le_succ _, effects := ?_ }⟩
            simp only [PersistCtx.track, ahead, Bool.false_eq_true, if_false]
          | true =>
            refine Or.inr ⟨{
              ctx, waiting, slot := rfl, counted := Nat.le_add_right _ 2, effects := ?_ }⟩
            simp only [PersistCtx.track, ahead, if_true]
            rfl

theorem recordsPersisted_slot (id : Nat) (model : Model) :
    ((recordsPersisted id model).1.slot = { model.slot with persist := none } ∨
      (recordsPersisted id model).1.slot = model.slot) ∧
      model.attempt ≤ (recordsPersisted id model).1.attempt := by
  rcases recordsPersisted_cases id model with ⟨_, nothing⟩ | taken
  · rw [nothing]
    exact ⟨Or.inr rfl, Nat.le_refl _⟩
  · obtain ⟨acknowledges⟩ := taken
    exact ⟨Or.inl acknowledges.slot, acknowledges.counted⟩

def Flights.writesAhead (flights : Flights) : Bool := flights.persist.any (·.2.writeAhead)

theorem Flights.dropWriteAhead_writesAhead (flights : Flights) :
    flights.dropWriteAhead.writesAhead = false := by
  unfold writesAhead dropWriteAhead
  cases flights.persist with
  | none => rfl
  | some persist => cases persist.2.writeAhead <;> simp

/-- The records written ahead of a submit are of the hash its answer names. -/
def answersWritten [Runtime] (id : Nat) (userOpHash : String) (model : Model) : Bool :=
  model.writeAhead.any fun written =>
    written.pipelineId == id && FeePolicy.sameText written.userOpHash userOpHash

theorem announceSubmitted_flights (maybeSent : Bool) (model : Model) :
    (announceSubmitted maybeSent model).1.flights = model.flights := by
  unfold announceSubmitted
  dsimp only
  split
  · rfl
  · rfl

theorem handOver_persist (written : WriteAhead) (chainId : UInt32) (maybeSent : Bool)
    (submitBlock : Option UInt64) (model : Model) :
    (handOver written chainId maybeSent submitBlock model).1.flights.persist =
      model.flights.persist := by
  unfold handOver
  dsimp only
  split
  · rfl
  · rfl

/-- A submit that answers its write-ahead leaves the write in flight alone; any
other takes it back. -/
theorem submitted_held_flights [Runtime] {id gen : Nat} {chainId : UInt32} {lines : List SendLine}
    {model : Model} (waiting : model.pipeline = .submitting id gen chainId lines) :
    (submitted id userOpHash nowMs maybeSent submitBlock model).1.flights.writesAhead =
      (answersWritten id userOpHash model && model.flights.writesAhead) := by
  unfold submitted acceptSubmitted answersWritten
  simp only [waiting, ne_eq, not_true_eq_false, if_false]
  split
  · next matching =>
      obtain ⟨held, fits⟩ := Option.filter_eq_some_iff.mp matching
      rw [held, Option.any_some, fits, Bool.true_and]
      simp only [all, done, render, Flights.writesAhead, handOver_persist,
        announceSubmitted_flights]
  · next other =>
      have unmatched : (model.writeAhead.any fun written => written.pipelineId == id &&
          FeePolicy.sameText written.userOpHash userOpHash) = false := by
        rw [Option.any_eq_false]
        intro written held
        exact Bool.eq_false_of_not_eq_true (Option.filter_eq_none_iff.mp other written held)
      rw [unmatched, Bool.false_and]
      simp only [all, done, render, persistSubmitted]
      rfl

theorem withdrawWriteAhead_flights (id : Nat) (model : Model) :
    (withdrawWriteAhead id model).1.flights.writesAhead =
      (!writtenFor model.writeAhead id && model.flights.writesAhead) := by
  unfold withdrawWriteAhead writtenFor
  cases held : model.writeAhead with
  | none => rfl
  | some written =>
    rw [Option.filter_some, Option.any_some]
    cases written.pipelineId == id with
    | false => rfl
    | true => exact Flights.dropWriteAhead_writesAhead model.flights

theorem submitFailedAnswer_held_flights (failure : SendSubmitFailure)
    (waiting : model.pipeline = .submitting id gen chainId lines)
    (owed : model.withdrawnSubmit ≠ some id) :
    (submitFailedAnswer id failure model).1.flights.writesAhead =
      (!writtenFor model.writeAhead id && model.flights.writesAhead) := by
  obtain ⟨freed, _, rfl, failed, same, _⟩ := submitFailedAnswer_failed failure waiting owed
  rw [same, Flights.writesAhead, failed.persist]
  exact withdrawWriteAhead_flights id { model with pipeline := .idle }

theorem sendsNothing_of_quiet (quiet : cmd.all SendEffect.isQuiet = true) :
    cmd.all SendEffect.sendsNothing = true := by
  rw [List.all_eq_true] at quiet ⊢
  intro effect inside
  exact SendEffect.sendsNothing_of_quiet (quiet effect inside)

theorem opSigned_silent [Runtime] (userOpHash : String) (submitBlock : Option UInt64)
    (nowMs : Float) (model : Model) :
    (opSigned userOpHash submitBlock nowMs model).2.all SendEffect.sendsNothing = true := by
  rcases opSigned_cases userOpHash submitBlock nowMs model with nothing | taken
  · rw [nothing]
    rfl
  · obtain ⟨signs⟩ := taken
    rw [signs.effects]
    rfl

theorem cancelSigning_silent (model : Model) :
    (cancelSigning model).2.all SendEffect.sendsNothing = true := by
  rcases cancelSigning_cases model with nothing | cancels
  · rw [nothing]
    rfl
  · rw [cancels.effects]
    rfl

theorem submitting_of_submitId {pipeline : Pipeline} (held : pipeline.submitId = some id) :
    ∃ gen chainId lines, pipeline = .submitting id gen chainId lines := by
  cases pipeline with
  | submitting _ gen chainId lines =>
    cases held
    exact ⟨gen, chainId, lines, rfl⟩
  | _ => cases held

theorem submitted_calm [Runtime] (id : Nat) (userOpHash : String) (nowMs : Float)
    (maybeSent : Bool) (submitBlock : Option UInt64) (model : Model) :
    (submitted id userOpHash nowMs maybeSent submitBlock model).2.all
      SendEffect.isCalm = true := by
  by_cases held : model.pipeline.submitId = some id
  · obtain ⟨gen, chainId, lines, waiting⟩ := submitting_of_submitId held
    exact (submitted_held waiting).effects
  · rw [submitted_unheld held]
    rfl

theorem submitFailedAnswer_calm (id : Nat) (failure : SendSubmitFailure) (model : Model) :
    (submitFailedAnswer id failure model).2.all SendEffect.isCalm = true := by
  by_cases owed : model.withdrawnSubmit = some id
  · rw [submitFailedAnswer_withdrawn owed]
    rfl
  · by_cases held : model.pipeline.submitId = some id
    · obtain ⟨gen, chainId, lines, waiting⟩ := submitting_of_submitId held
      obtain ⟨_, _, _, _, _, silent⟩ := submitFailedAnswer_failed failure waiting owed
      exact silent
    · rw [submitFailedAnswer_unheld owed held]
      rfl

theorem recordsPersisted_submits_nothing (id : Nat) (model : Model) :
    (recordsPersisted id model).2.all (·.submitted.isNone) = true := by
  unfold recordsPersisted
  split
  · rfl
  · split
    · rfl
    · dsimp only
      split
      · rfl
      · rfl

/-- The operation the commands hand out. -/
def handedOut (cmd : Cmd) : Option SubmitRequest := cmd.findSome? SendEffect.submitted

theorem mem_of_handedOut {operation : SubmitRequest} (handed : handedOut cmd = some operation) :
    ∃ id, SendEffect.request id (.submitUserOp operation) ∈ cmd := by
  obtain ⟨effect, member, named⟩ := List.exists_of_findSome?_eq_some handed
  cases effect with
  | render => cases named
  | request id inner =>
    cases inner with
    | submitUserOp =>
      cases named
      exact ⟨id, member⟩
    | _ => cases named

theorem emitted_by_submit [Runtime] {event : Event} {operation : SubmitRequest}
    (emitted : SendEffect.request id (.submitUserOp operation) ∈ (update event model).2) :
    ∃ submits : Submits event model (step event model),
      operation = submitRequest submits.plan submits.review submits.publicKeyHex := by
  have member : SendEffect.request id (.submitUserOp operation) ∈ (step event model).2 := emitted
  have loud : (step event model).2.all SendEffect.sendsNothing ≠ true := by
    intro silent
    cases List.all_eq_true.mp silent _ member
  cases step_change event model with
  | quiet _ quiet => exact (loud (sendsNothing_of_quiet quiet.effects)).elim
  | reopened _ reopened => exact (loud (sendsNothing_of_quiet reopened.effects)).elim
  | submits submits =>
    refine ⟨submits, ?_⟩
    rw [submits.handed] at member
    have named : id = model.nextId ∧
        operation = submitRequest submits.plan submits.review submits.publicKeyHex := by
      simpa using member
    exact named.2
  | signed _ same => exact (loud (same ▸ opSigned_silent _ _ _ _)).elim
  | cancelled _ same => exact (loud (same ▸ cancelSigning_silent _)).elim
  | submitted _ same => exact (loud (same ▸ sendsNothing_of_calm (submitted_calm _ _ _ _ _ _))).elim
  | failed _ same => exact (loud (same ▸ sendsNothing_of_calm (submitFailedAnswer_calm _ _ _))).elim
  | persisted _ same =>
    rw [same] at member
    cases List.all_eq_true.mp (recordsPersisted_submits_nothing _ _) _ member

end VelaWallet.Send
