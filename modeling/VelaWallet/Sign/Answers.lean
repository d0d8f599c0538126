import VelaWallet.Sign.Submitting

/-!
# The shell's answers

What the machine does with each answer of its shell: the checks before the submit, the
submit's outcome, the records' acknowledgements, and the simulation's deadline
(`sign_request.rs`).
-/

namespace VelaWallet.SignRequest

open FeePolicy (sameText)
open Send (VenueBlock)

/-- The request on the sheet, when it has the id. -/
def Model.pendingNamed (model : Model) (id : String) : Option Pending :=
  model.pending.filter (·.id == id)

def onSimStarted (id : String) (model : Model) : Model × Cmd :=
  match model.pendingNamed id with
  | none => done model
  | some pending =>
    let round := model.simRound + 1
    request (.simVerdictTimer id round simVerdictWaitMs)
      { model with
        simRound := round
        pending := some { pending with sim := .checking round } }

def onSimSettled (id : String) (model : Model) : Model × Cmd :=
  match model.pendingNamed id with
  | none => done model
  | some pending =>
    if pending.sim = .landed then done model
    else render { model with pending := some { pending with sim := .landed } }

/-- `on_sim_deadline`: only the wait it was started for ends. -/
def onSimDeadline (id : String) (round : UInt32) (model : Model) : Model × Cmd :=
  match model.pendingNamed id with
  | none => done model
  | some pending =>
    if pending.sim = .checking round then
      render { model with pending := some { pending with sim := .waitedOut } }
    else done model

section Checks

variable [SignRuntime]

def onPrecheck (funding : Option SignFundingNeeded) (model : Model) : Outcome :=
  match model.inflight with
  | none => .ok (done model)
  | some fl =>
    match fl.stage, funding with
    | .precheck, none => proceedSubmit model
    | .precheck, some funding =>
      .ok (request (.attemptSponsorship funding false)
        { model with inflight := some { fl with stage := .sponsoring funding } })
    | _, _ => .ok (done model)

/-- The pipeline's request left the sheet: it is answered, and asks for nothing. -/
def superseded (message : String) (model : Model) : Outcome :=
  .ok (failInflight codeInternal .submitFailed (some message) model)

def onSponsorship (outcome : SignSponsorship) (model : Model) : Outcome :=
  match model.inflight with
  | none => .ok (done model)
  | some fl =>
    match fl.stage with
    | .sponsoring funding =>
      if !model.shows fl.id then superseded "superseded before funding" model
      else
        match outcome with
        | .funded => proceedSubmit model
        | .confirming => .ok (toFundingWait funding .confirming none model)
        | .denied reason => .ok (toFundingWait funding .topup reason model)
    | .reactiveSponsoring funding message =>
      if !model.shows fl.id then superseded message model
      else
        match outcome with
        | .denied reason => .ok (toFundingWait funding .topup reason model)
        | _ => .ok (toFundingWait funding .confirming none model)
    | _ => .ok (done model)

end Checks

/-- The outcome stands for the operation written ahead. -/
def sameOp (outcome : SignSubmitOutcome) (userOpHash : String) : Bool :=
  match outcome with
  | .succeeded _ => true
  | .receiptPending hash | .reverted hash _ | .notConfirmed hash => sameText hash userOpHash
  | _ => false

/-- A receipt, reverted or not: the relay took the operation. -/
def isReceipt : SignSubmitOutcome → Bool
  | .succeeded _ | .reverted .. => true
  | _ => false

/-- Nothing was sent, or nobody knows. -/
def isUnsent : SignSubmitOutcome → Bool
  | .failed .. | .underfunded .. | .passkeyCancelled | .askerGone => true
  | _ => false

/-- The outcome as `on_submit_outcome` reads it: an operation already recorded never
failed, a transaction never answers its operation's hash, a batch answers no other. -/
def readOutcome (fl : Inflight) (outcome : SignSubmitOutcome) : SignSubmitOutcome :=
  let isTx := fl.method == "eth_sendTransaction"
  let isBatch := methodKind fl.method == .batch
  let plain := match outcome with
    | .receiptPending userOpHash => if isTx then .notConfirmed userOpHash else outcome
    | .failed _ _ (some .cancelled) => .passkeyCancelled
    | _ => outcome
  match fl.opHash, fl.recordId with
  | some opHash, some _ =>
    match outcome with
    | .succeeded _ | .notConfirmed _ => if isBatch then .receiptPending opHash else plain
    | _ =>
      if isUnsent outcome then
        if isTx then .notConfirmed opHash else .receiptPending opHash
      else plain
  | _, _ => plain

/-- The pipeline ends with its answer, and the sheet that shows it closes. -/
def answerInflight (fl : Inflight) (payload : SignResponsePayload) (model : Model) :
    Model × Cmd :=
  opsAndRender [fl.respond payload] ({ model with inflight := none }.clearIfShown fl.id)

/-- What an after-record answer says: `answer_reverted` and `answer_still_landing` the
error, the result its `Ok`. -/
def AfterRecord.payload (fl : Inflight) : AfterRecord → SignResponsePayload
  | .result answer => okAnswer fl answer
  | .reverted detail | .notConfirmed detail =>
    errPayload codeInternal .submitFailed (some detail)

/-- `persist_pending_then`: the operation is recorded pending, then answered. -/
def persistPendingThen (fl : Inflight) (userOpHash : String) (nowMs : Float)
    (next : AfterRecord) (model : Model) : Model × Cmd :=
  let recordId := recordIdFor fl.method nowMs
  let followed := match next with
    | .result _ => model
    | _ =>
      if model.inflightMatchesPending then { model with pendingOpHash := some userOpHash }
      else model
  request
    (.persistRecord { pendingTxRecord fl recordId userOpHash nowMs false none with
      kind := (recordShape fl.method).1 })
    { followed with
      trackerHandoff := some {
        userOpHash
        sender := some fl.address
        recordIds := [recordId]
        chainId := fl.chainId
        maybeSent := false
        submitBlock := none
        admitted := false }
      inflight := some { fl with
        opHash := some userOpHash
        recordId := some recordId
        stage := .persistingResult next } }

/-- The record of a result: a signature stays with its page. -/
def resultRecord (fl : Inflight) (result : String) (nowMs : Float) : SignRecord :=
  let kind := (recordShape fl.method).1
  { pendingTxRecord fl (recordIdFor fl.method nowMs) (fl.opHash.getD "") nowMs false none with
    kind
    result := if kind = .dappTx then result else ""
    status := .confirmed }

/-- The record of a result, then its answer. -/
def persistResult (fl : Inflight) (result : String) (nowMs : Float) (model : Model) :
    Model × Cmd :=
  let record := resultRecord fl result nowMs
  request (.persistRecord record)
    { model with
      inflight := some { fl with
        recordId := some record.recordId
        stage := .persistingResult (.result result) } }

/-- The pipeline of a dismissed prompt ends; a request off the sheet hears the
person's refusal. -/
def passkeyCancelled (fl : Inflight) (model : Model) : Model × Cmd :=
  let ended := { model with inflight := none }
  if !model.shows fl.id && !fl.pageGone && fl.opHash.isNone then
    opsAndRender [fl.respond (errPayload codeUserRejected .userRejected none)]
      (ended.settle fl.id .rejected)
  else render ended

/-- The failure a passkey gives its error. -/
def signerFailure : Option FailureKind → SignErrorKind
  | some .notSupported => .signerUnavailable
  | some .notDiscoverable => .signerNotDiscoverable
  | some .other => .signerFailed
  | _ => .submitFailed

/-- The pipeline fails, and the sheet says whether it was a refusal. -/
def submitFailed (message : String) (refused : Bool) (signer : Option FailureKind)
    (model : Model) : Model × Cmd :=
  let detail := if refused then refusedDappDetail else message
  let failed := failInflight codeInternal (signerFailure signer) (some detail) model
  let isRefusal := refused && failed.1.signError.isSome
  ({ failed.1 with
      signErrorRefused := isRefusal
      signErrorRefusalKey :=
        if message = previousPendingDetail then some notSentBodyKey
        else if isRefusal then some refusedKey
        else none },
    failed.2)

/-- The pipeline fails for its venue, whose block the sheet draws. -/
def venueBlocked (block : VenueBlock) (model : Model) : Model × Cmd :=
  let failed := failInflight codeInternal .venueBlocked none model
  ({ failed.1 with signError := failed.1.signError.map fun notice =>
      { notice with venueBlock := some block } }, failed.2)

def onSubmitOutcome (fl : Inflight) (outcome : SignSubmitOutcome) (nowMs : Float)
    (model : Model) : Model × Cmd :=
  match readOutcome fl outcome with
  | .passkeyCancelled => passkeyCancelled fl model
  | .askerGone => render ({ model with inflight := none }.clearIfShown fl.id)
  | .succeeded result =>
    let settled := model.settle fl.id .submitted
    if fl.recordId.isSome then answerInflight fl (okAnswer fl result) settled
    else persistResult fl result nowMs settled
  | .receiptPending userOpHash =>
    let settled := model.settle fl.id .submitted
    if fl.recordId.isNone then
      persistPendingThen fl userOpHash nowMs (.result userOpHash) settled
    else answerInflight fl (okAnswer fl userOpHash) settled
  | .reverted userOpHash txHash =>
    let settled := model.settle fl.id .submitted
    let next := AfterRecord.reverted (revertedDetail txHash)
    if fl.recordId.isNone then persistPendingThen fl userOpHash nowMs next settled
    else answerInflight fl (next.payload fl) settled
  | .notConfirmed userOpHash =>
    let settled := model.settle fl.id .submitted
    let next := AfterRecord.notConfirmed (notConfirmedDetail userOpHash)
    if fl.recordId.isNone then persistPendingThen fl userOpHash nowMs next settled
    else answerInflight fl (next.payload fl) settled
  | .underfunded message (some funding) =>
    request (.attemptSponsorship funding true)
      { model with inflight := some { fl with stage := .reactiveSponsoring funding message } }
  | .underfunded message none =>
    failInflight codeInternal .submitFailed (some message) model
  | .failed message refused signer => submitFailed message refused signer model
  | .venueBlocked block => venueBlocked block model

/-- What becomes of the write-ahead record of a submit the relay said nothing of:
adopted when the outcome stands for its operation, else withdrawn.  The record's
acknowledgement, still out, is dropped by a new attempt. -/
def settleWriteAhead (fl : Inflight) (wa : WriteAhead) (outcome : SignSubmitOutcome)
    (model : Model) : Model × List SignOperation :=
  if sameOp outcome wa.userOpHash then
    ({ model with
        inflight := some (fl.adopting wa)
        trackerHandoff := some (handoffOf wa fl.chainId (isReceipt outcome)) },
      if isReceipt outcome then [.updateRecord wa.recordId .admitted] else [])
  else
    let taken := withdrawn fl wa model
    (if wa.cleared then taken else { taken with attempt := taken.attempt + 1 },
      [.deleteRecord wa.recordId])

/-- The record operations go out first, under the attempt the outcome leaves. -/
def behindRecords (operations : List SignOperation) (result : Model × Cmd) : Model × Cmd :=
  if operations.isEmpty then result
  else (result.1, (opsAndRender operations result.1).2 ++ result.2)

def onSubmit (outcome : SignSubmitOutcome) (nowMs : Float) (model : Model) : Model × Cmd :=
  match model.inflight with
  | none => done model
  | some fl =>
    if fl.stage != .submitting then done model
    else
      match fl.writeAhead, fl.recordId with
      | some wa, none =>
        let written := settleWriteAhead fl wa outcome model
        match written.1.inflight with
        | none => done written.1
        | some fl => behindRecords written.2 (onSubmitOutcome fl outcome nowMs written.1)
      | _, _ => onSubmitOutcome fl outcome nowMs model

/-- `on_record_persisted`: the write-ahead record is on disk, so its operation may be
posted; or the record of a result is, so it may be answered. -/
def onRecordPersisted (model : Model) : Model × Cmd :=
  match model.inflight with
  | none => done model
  | some fl =>
    match fl.stage with
    | .submitting =>
      match fl.writeAhead.filter fun wa => !wa.cleared && fl.opHash.isNone with
      | none => done model
      | some wa =>
        request (.clearToPost fl.id wa.userOpHash)
          { model with
            inflight := some { fl with writeAhead := some { wa with cleared := true } } }
    | .persistingResult next => answerInflight fl (next.payload fl) model
    | _ => done model

def accept [SignRuntime] (result : SignShellResult) (model : Model) : Outcome :=
  match result with
  | .accountSwitched => .ok (render { model with reconciled := true })
  | .responded | .recordUpdated => .ok (done model)
  | .simVerdictTimerFired id round => .ok (onSimDeadline id round model)
  | .recordPersisted => .ok (onRecordPersisted model)
  | .preCheck funding => onPrecheck funding model
  | .sponsorship outcome => onSponsorship outcome model
  | .submit outcome nowMs => .ok (onSubmit outcome nowMs model)

/-- The answer belongs to a request, never to a pipeline. -/
def SignShellResult.ownCorrelation : SignShellResult → Bool
  | accountSwitched | simVerdictTimerFired .. => true
  | _ => false

/-- The `ShellCompleted` event: the answer of an older pipeline is dropped. -/
def shellCompleted [SignRuntime] (attempt : Nat) (result : SignShellResult) (model : Model) :
    Outcome :=
  if attempt ≠ model.attempt ∧ ¬ result.ownCorrelation then .ok (done model)
  else accept result model

end VelaWallet.SignRequest
