import VelaWallet.Send.Opening

/-!
# Continue and confirm

The pre-check that opens the confirm page, the relay stops, and the confirm tap
up to the operation handed out to be signed.
-/

namespace VelaWallet.Send

open FeePolicy

variable [Runtime]

def treasuryWatchMs : Nat := 10000

def clearRelayStops (model : Model) : Model := { model with stops := {} }

/-- `drop_foreign_relay_stops`: a stop is about one chain, the send's. -/
def dropForeignRelayStops (model : Model) : Model :=
  let stopChain := ((model.stops.treasuryBootstrap.map (·.chainId)).or
    (model.stops.relayUnreachable.map (·.chainId))).or (model.stops.treasuryWatch.map (·.chainId))
  let chain := model.holdings.selectedToken.map (·.chainId)
  if stopChain.isSome && stopChain != chain then clearRelayStops model else model

def relayStopped (model : Model) : Bool :=
  model.stops.treasuryBootstrap.isSome || model.stops.relayUnreachable.isSome

def watchTreasury (chainId : UInt32) (model : Model) : Model × Cmd :=
  ({ model.minted with stops := { model.stops with
      treasuryWatch := some ⟨chainId, model.nextId, none⟩ } },
    [.request model.nextId (.startTimer treasuryWatchMs .treasuryWatch)])

def openBootstrap (status : SendTreasuryStatus) (model : Model) : Model × Cmd :=
  all [watchTreasury status.chainId, render] { model with stops := { model.stops with
    treasuryBootstrap := some status, relayUnreachable := none } }

def openUnreachable (model : Model) : Model × Cmd :=
  match model.holdings.selectedToken with
  | none => render model
  | some token =>
    render { model with stops := { relayUnreachable := some ⟨token.chainId, false⟩ } }

def simulate (input : SimInput) (model : Model) : Model × Cmd :=
  ({ model.minted with
      flights := { model.flights with sim := some model.nextId }
      probes := { model.probes with simInput := some input } },
    [.request model.nextId (.simulateCalls input.chainId input.account input.calls)])

/-- The simulation of what the model holds now, when there is one. -/
def simulateNow (model : Model) : Model × Cmd :=
  match simInput model with
  | some input => simulate input model
  | none => done model

/-- The risk of a well-formed recipient on a chain. -/
def resolveRisk (chainId : UInt32) (model : Model) : Model × Cmd :=
  if isValidAddress model.form.recipient then
    ({ model.minted with flights := { model.flights with risk := some model.nextId } },
      [.request model.nextId (.resolveRisk chainId model.form.recipient)])
  else done model

def confirmProbes (model : Model) : Model × Cmd :=
  let cleared := { model with
    probes := { model.probes with simJson := none, simInput := none, recipientRisk := none }
    flights := { model.flights with sim := none, risk := none } }
  if model.step ≠ .confirm then done cleared
  else
    match model.holdings.selectedToken, model.account with
    | some token, some _ => all [resolveRisk token.chainId, simulateNow] cleared
    | _, _ => done cleared

/-- `reprobe_after_fee`: the simulation is asked again when its calls moved. -/
def reprobeAfterFee (model : Model) : Model × Cmd :=
  if simInput model = model.probes.simInput then done model
  else simulateNow { model with
    probes := { model.probes with simJson := none, simInput := none }
    flights := { model.flights with sim := none } }

def estimateTimeoutMs : Nat := 15000

def startPrecheck (publicKeyHex : String) (model : Model) : Model × Cmd :=
  match model.holdings.selectedToken, model.account with
  | some token, some account =>
    let asking := { model with
      publicKeyHex := some publicKeyHex
      fees := { model.fees with estimatingGas := true, feeEstimate := none } }
    let (tx, batch) := buildEstimateShape asking token
    let feeId := model.nextId
    let treasuryId := model.minted.nextId
    let timerId := model.minted.minted.nextId
    ({ asking with
        attempt := timerId
        pipeline := .preCheck feeId treasuryId timerId none none },
      [.request feeId (.estimateFee
          (estimateRequest asking token account.address tx batch (some publicKeyHex))),
        .request treasuryId (.probeTreasury token.chainId),
        .request timerId (.startTimer estimateTimeoutMs .estimateTimeout),
        .render])
  | _, _ => done model

/-- What `Continue` refuses on the form, or lets pass in silence: the alert it
shows (`some (some kind)`), nothing at all (`some none`), or no refusal. -/
def continueRefusal (model : Model) : Option (Option SendAlertKind) :=
  if model.form.multiSelectMode then
    if !isValidAddress model.form.recipient then some (some .invalidAddress)
    else if (pickedTokens model).isEmpty then some none
    else none
  else if model.form.splitMode then
    if !recipientsAreValid model.form.recipients then some (some .invalidAddress)
    else
      match model.holdings.selectedToken with
      | none => none
      | some token =>
        match sumSplitBaseUnits model.form.recipients token.decimals.toNat with
        | none => some none
        | some total =>
          if (toBaseUnits (fullBalance token) token.decimals.toNat).getD 0 < total then
            some (some .splitOverBalance)
          else none
  else if !isValidAddress model.form.recipient then some (some .invalidAddress)
  else if model.holdings.selectedToken.any fun token =>
      !isPositiveFigure (modelTokenAmount model token) then
    some (some .invalidAmount)
  else (deriveAmountWarning model).map fun warning => some (.insufficientBalance (some warning))

def handleContinue (model : Model) : Model × Cmd :=
  match continueRefusal model, feeAssetGate model with
  | some (some kind), _ => alert kind model
  | some none, _ => done model
  | none, some warning => alert (.insufficientBalance (some warning)) model
  | none, none =>
    match model.holdings.selectedToken, model.account, model.publicKeyHex with
    | some _, some _, some publicKeyHex => startPrecheck publicKeyHex model
    | some _, some account, none =>
      ({ model.minted with pipeline := .continueCredential model.nextId },
        [.request model.nextId (.loadAccountCredential account.id), .render])
    | _, _, _ => all [confirmProbes, render] { model with step := .confirm }

/-- The pre-check ended: the slot is free. -/
def precheckEnded (pipeline : Pipeline) (model : Model) : Model :=
  { model with pipeline, fees := { model.fees with estimatingGas := false } }

def precheckSettle (model : Model) : Model × Cmd :=
  match model.pipeline with
  | .preCheck _ _ _ (some fee) (some treasury) =>
    let ended := precheckEnded .idle model
    let settled := { ended with fees := { ended.fees with feeEstimate := some fee } }
    match treasury with
    | .lowFloat status => openBootstrap status settled
    | .unreachable => openUnreachable settled
    | .serves =>
      all [confirmProbes, render] { clearRelayStops settled with step := .confirm }
  | _ => done model

def precheckFail (kind : SendEstimateFailure) (model : Model) : Model × Cmd :=
  alert (.estimateFailed kind) (precheckEnded .idle model)

/-- `leave_confirm`: nobody chose the fee coin, and an estimate in a token goes. -/
def leaveConfirm (model : Model) : Model :=
  { model with fees := { model.fees with
      coin := .unchosen
      feeEstimate := model.fees.feeEstimate.filter fun fee => fee.feeAsset == .native } }

def editAmount (model : Model) : Model × Cmd :=
  all [scheduleFormEstimate, render]
    { leaveConfirm model with tx := .idle, txError := none, step := .enterDetails }

def backToPicker (keepRecipient : Bool) (model : Model) : Model × Cmd :=
  render { model with
    holdings := { model.holdings with selectedToken := none }
    form := { model.form with
      maxFill := none
      amount := .token ""
      recipient := if keepRecipient then model.form.recipient else ""
      splitMode := false
      recipients := [] }
    step := .selectToken }

def handleBack (model : Model) : Model × Cmd :=
  match model.step with
  | .confirm =>
    if model.tx ∈ [SendTxStatus.idle, .confirmed, .error] then
      all [scheduleFormEstimate, render] { leaveConfirm model with
        tx := .idle
        receipt := { model.receipt with txHash := none }
        txError := none
        step := .enterDetails }
    else done model
  | .enterDetails =>
    if model.form.multiSelectMode then render { model with step := .selectToken }
    else backToPicker model.form.recipientHandedIn model
  | .selectToken => fire .close model

def canChangeToken (model : Model) : Bool :=
  model.step == .enterDetails && model.holdings.selectedToken.isSome &&
    model.lockState.lockError.isNone &&
    (!model.params.locked || model.lockState.requestChain.isSome) &&
    !model.form.splitMode && !model.form.multiSelectMode && !model.fees.estimatingGas &&
    !model.pipeline.isContinue

def changeToken (model : Model) : Model × Cmd :=
  if !canChangeToken model then done model else backToPicker true model

/-- `previous_in_flight`: the account's previous operation on the form's chain. -/
def previousInFlight (model : Model) : Option InFlightOp := do
  let account ← model.account
  let chainId ← formChain model
  model.inFlight.find? fun op =>
    op.chainId == chainId && sameText op.sender (Utf8.trim account.address) &&
      !(model.receipt.userOpHash.any fun own => sameText own op.userOpHash)

def confirmGateOpen (model : Model) : Bool :=
  model.tx == .idle && !model.lock.busy && model.txError.isNone && !model.fees.estimatingGas &&
    !model.fees.feeBusy && !model.fees.feeFailed && !relayStopped model &&
    (previousInFlight model).isNone

def submitTreasuryRecheck (gen : Nat) (publicKeyHex : String) (model : Model) : Model × Cmd :=
  match model.holdings.selectedToken with
  | none => done model
  | some token =>
    ({ model.minted with pipeline := .submitTreasury model.nextId gen publicKeyHex },
      [.request model.nextId (.probeTreasury token.chainId), .render])

/-- The confirm takes the lock and freezes the review it is for. -/
def beginConfirm (lock : ReentryLock) (model : Model) : Model :=
  { model with
    lock
    confirmedReview := modelReview model
    cancelled := false
    tx := .preparing
    txError := none
    receipt := { receiptLines := model.receipt.receiptLines
                 receiptKind := model.receipt.receiptKind } }

/-- The confirm takes the lock, when it is free, and the checks before the
passkey start. -/
def startConfirm (account : SendAccountRef) (model : Model) : Model × Cmd :=
  match model.lock.begin? with
  | none => done model
  | some (gen, lock) =>
    let begun := beginConfirm lock model
    match model.publicKeyHex with
    | some publicKeyHex => submitTreasuryRecheck gen publicKeyHex begun
    | none =>
      ({ begun.minted with pipeline := .submitCredential begun.nextId gen },
        [.request begun.nextId (.loadAccountCredential account.id), .render])

/-- The single figure no longer resolves to an amount. -/
def isUnresolved (model : Model) : Bool :=
  !model.form.splitMode && !model.form.multiSelectMode &&
    model.holdings.selectedToken.any fun token => !isPositiveFigure (modelTokenAmount model token)

def slideConfirm (model : Model) : Model × Cmd :=
  if model.step ≠ .confirm || !confirmGateOpen model then done model
  else
    match model.holdings.selectedToken, model.account with
    | some _, some account =>
      if deriveSameAssetIssue model || isUnresolved model then editAmount model
      else
        match feeAssetGate model with
        | some warning => alert (.insufficientBalance (some warning)) model
        | none => startConfirm account model
    | _, _ => done model

/-- The `SlideConfirm` event: a tap drawn for another review confirms nothing. -/
def confirmTapped (review : Option String) (model : Model) : Model × Cmd :=
  match review with
  | some drawn => if reviewDigest model = some drawn then slideConfirm model else render model
  | none => slideConfirm model

/-- The flow a relay stop goes on with. -/
def resumeFlow (model : Model) : Model × Cmd :=
  match model.step with
  | .enterDetails => handleContinue model
  | .confirm => slideConfirm model
  | .selectToken => render model

/-- `retry_after_bootstrap`, and the `RetryRelayUnreachable` event. -/
def retryAfterBootstrap (model : Model) : Model × Cmd := resumeFlow (clearRelayStops model)

/-- The `Continue` event: on the form it takes a relay stop down first. -/
def continueTapped (model : Model) : Model × Cmd :=
  handleContinue (if model.step = .enterDetails then clearRelayStops model else model)

/-- The run of generation `gen` is over, before anything was signed. -/
def runEnded (tx : SendTxStatus) (gen : Nat) (model : Model) : Model :=
  { model with pipeline := .idle, tx, lock := model.lock.endRun gen }

def submitGenericError (gen : Nat) (model : Model) : Model × Cmd :=
  fire (.haptic .error) { runEnded .error gen model with txError := some .generic }

/-- What a plan hands out to be signed. -/
def submitRequest (plan : SubmitPlan) (review : SignedReview.Review) (publicKeyHex : String) :
    SubmitRequest where
  chainId := plan.chainId
  account := plan.account
  publicKeyHex
  calls := plan.calls
  maxFeePerGas := plan.maxFeePerGas
  gasFeeToken := plan.gasFeeToken
  quotedFee := plan.quotedFee
  review

/-- The operation of a plan goes out under the review the person confirmed. -/
def submitPlanned (gen : Nat) (publicKeyHex : String) (plan : SubmitPlan)
    (review : SignedReview.Review) (model : Model) : Model × Cmd :=
  if model.confirmedReview ≠ some review then
    render { runEnded .idle gen model with confirmedReview := none }
  else
    ({ model.minted with
        tx := .submitting
        pipeline := .submitting model.nextId gen plan.chainId plan.lines },
      [.request model.nextId (.submitUserOp (submitRequest plan review publicKeyHex)), .render])

def submitUserOp (gen : Nat) (publicKeyHex : String) (model : Model) : Model × Cmd :=
  match submitPlan model with
  | none => submitGenericError gen model
  | some plan =>
    match signedReview plan with
    | none => submitGenericError gen model
    | some review => submitPlanned gen publicKeyHex plan review model

/-- The write-ahead belongs to the submit. -/
def writtenFor (writeAhead : Option WriteAhead) (id : Nat) : Bool :=
  writeAhead.any fun written => written.pipelineId == id

/-- The slot after a cancel: what led up to the passkey goes, a submit stays. -/
def Pipeline.afterCancel : Pipeline → Pipeline
  | submitCredential .. | submitTreasury .. => idle
  | pipeline => pipeline

def cancelSigning (model : Model) : Model × Cmd :=
  if model.tx ≠ .preparing ∧ model.tx ≠ .signing then done model
  else if model.pipeline.submitId.any (writtenFor model.writeAhead) then done model
  else
    fire .cancelPasskeySign { model with
      cancelled := true
      lock := model.lock.cancel
      pipeline := model.pipeline.afterCancel
      withdrawnSubmit := model.pipeline.submitId.or model.withdrawnSubmit
      tx := .idle }

end VelaWallet.Send
