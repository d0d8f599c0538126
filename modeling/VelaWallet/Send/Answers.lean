import VelaWallet.Send.Confirming

/-!
# The shell's answers

What the answers to the machine's requests do: the write-ahead of a signed
operation, the verdict of a submit, and the estimates, probes and timers the
pipeline waits for.
-/

namespace VelaWallet.Send

open FeePolicy

variable [Runtime]

/-- One more request, its answer quoting the number it takes. -/
def ask (operation : SendOperation) (model : Model) : Model × Cmd :=
  (model.minted, [.request model.nextId operation])

/-- `op_signed`: the records are written before anything is sent. -/
def opSigned (userOpHash : String) (submitBlock : Option UInt64) (nowMs : Float) (model : Model) :
    Model × Cmd :=
  match model.pipeline with
  | .submitting pipelineId _ chainId lines =>
    -- once per submit, and never while a cancelled submit's result is owed
    if writtenFor model.writeAhead pipelineId || model.withdrawnSubmit.isSome then done model
    else
      let records := txRecords model lines chainId userOpHash nowMs true submitBlock
      let recordIds := records.map (·.id)
      ({ model.minted with
          writeAhead := some ⟨pipelineId, userOpHash, recordIds, submitBlock⟩
          tx := if model.tx = .signing then .submitting else model.tx
          flights := { model.flights with persist := some (model.nextId,
            ⟨userOpHash, recordIds, chainId, true, submitBlock, true⟩) } },
        [.request model.nextId (.persistTxRecords records), .render])
  | _ => done model

def Flights.dropWriteAhead (flights : Flights) : Flights :=
  { flights with persist := flights.persist.filter fun persist => !persist.2.writeAhead }

def withdrawWriteAhead (pipelineId : Nat) (model : Model) : Model × Cmd :=
  match model.writeAhead.filter (·.pipelineId == pipelineId) with
  | none => done model
  | some written =>
    all [ask (.deleteTxRecords written.recordIds),
      ask (.trackWithdrawn written.userOpHash written.recordIds)]
      { model with writeAhead := none, flights := model.flights.dropWriteAhead }

/-- The `RecordsPersisted` answer: the tracker learns of the operation, and a
write-ahead clears its POST. -/
def recordsPersisted (id : Nat) (model : Model) : Model × Cmd :=
  match model.flights.persist with
  | none => done model
  | some (expect, ctx) =>
    if expect ≠ id then done model
    else
      let tracking := { model.minted with flights := { model.flights with
        persist := none, track := some model.nextId } }
      let track := SendEffect.request model.nextId (.trackSubmitted {
        userOpHash := ctx.userOpHash
        recordIds := if ctx.writeAhead then [] else ctx.recordIds
        chainId := ctx.chainId
        maybeSent := ctx.maybeSent
        submitBlock := ctx.submitBlock
        admitted := false
        sender := model.account.map (·.address) })
      if ctx.writeAhead then
        (tracking.minted, [track, .request tracking.nextId (.clearToPost ctx.userOpHash)])
      else (tracking, [track])

/-- The receipt of the operation accepted, frozen. -/
def Model.submittedReceipt (model : Model) (lines : List SendLine) (userOpHash : String)
    (nowMs : Float) (maybeSent : Bool) : Receipt :=
  let isBatch := model.form.multiSelectMode || model.form.splitMode
  { model.receipt with
    receiptLines := if isBatch then some lines else none
    receiptKind := if !isBatch then none
      else if model.form.multiSelectMode then some .multiSelect else some .split
    receiptSigned := lines.head?
    userOpHash := some userOpHash
    submittedAtMs := some nowMs
    receiptMaybeSent := maybeSent }

/-- A lost reply has not earned the success haptic. -/
def announceSubmitted (maybeSent : Bool) (model : Model) : Model × Cmd :=
  let clear := ask (.clearTokenCache ((model.account.map (·.address)).getD ""))
  if maybeSent then clear model else all [ask (.haptic .success), clear] model

def trackSubmitted (request : TrackRequest) (model : Model) : Model × Cmd :=
  ({ model.minted with flights := { model.flights with track := some model.nextId } },
    [.request model.nextId (.trackSubmitted request)])

/-- The records written ahead name the operation: the tracker is handed them. -/
def handOver (written : WriteAhead) (chainId : UInt32) (maybeSent : Bool)
    (submitBlock : Option UInt64) (model : Model) : Model × Cmd :=
  let track := trackSubmitted {
    userOpHash := written.userOpHash
    recordIds := written.recordIds
    chainId
    maybeSent
    submitBlock := written.submitBlock.or submitBlock
    admitted := !maybeSent
    sender := model.account.map (·.address) }
  if maybeSent then track model else all [ask (.markAdmitted written.recordIds), track] model

/-- The records of an operation nothing was written ahead for. -/
def persistSubmitted (lines : List SendLine) (chainId : UInt32) (userOpHash : String)
    (nowMs : Float) (maybeSent : Bool) (submitBlock : Option UInt64) (model : Model) :
    Model × Cmd :=
  let records := txRecords model lines chainId userOpHash nowMs maybeSent submitBlock
  ({ model.minted with flights := { model.flights with persist := some (model.nextId,
      ⟨userOpHash, records.map (·.id), chainId, maybeSent, submitBlock, false⟩) } },
    [.request model.nextId (.persistTxRecords records)])

def acceptSubmitted (id : Nat) (userOpHash : String) (nowMs : Float) (maybeSent : Bool)
    (submitBlock : Option UInt64) (model : Model) : Model × Cmd :=
  match model.pipeline with
  | .submitting expect gen chainId lines =>
    if expect ≠ id then done model
    else
      let accepted := { model with
        pipeline := .idle
        receipt := model.submittedReceipt lines userOpHash nowMs maybeSent
        tx := .confirmed
        lock := model.lock.endRun gen }
      match model.writeAhead.filter fun written =>
          written.pipelineId == id && sameText written.userOpHash userOpHash with
      | some written =>
        all [announceSubmitted maybeSent, handOver written chainId maybeSent submitBlock, render]
          { accepted with writeAhead := none }
      | none =>
        all [withdrawWriteAhead id, announceSubmitted maybeSent,
          persistSubmitted lines chainId userOpHash nowMs maybeSent submitBlock, render] accepted
  | _ => done model

/-- The `Submitted` answer: a withdrawn submit that went out is recorded as any
other. -/
def submitted (id : Nat) (userOpHash : String) (nowMs : Float) (maybeSent : Bool)
    (submitBlock : Option UInt64) (model : Model) : Model × Cmd :=
  acceptSubmitted id userOpHash nowMs maybeSent submitBlock { model with
    withdrawnSubmit := if model.withdrawnSubmit = some id then none else model.withdrawnSubmit }

def failureProbe (gen : Nat) (fallback : FailureFallback) (model : Model) : Model × Cmd :=
  match model.holdings.selectedToken with
  | none => submitGenericError gen model
  | some token =>
    ({ model.minted with pipeline := .failureProbe model.nextId gen fallback },
      [.request model.nextId (.probeTreasury token.chainId), .render])

/-- The run of generation `gen` ended in an error the screen words. -/
def runFailed (key : SendTxErrorKey) (gen : Nat) (model : Model) : Model :=
  { model with tx := .error, txError := some key, lock := model.lock.endRun gen }

def submitFailed (gen : Nat) (failure : SendSubmitFailure) (model : Model) : Model × Cmd :=
  match failure with
  | .passkeyCancelled => render { model with tx := .idle, lock := model.lock.endRun gen }
  | .relayerUnavailable => failureProbe gen .generic model
  | .bundlerUnderfunded => failureProbe gen .bundlerFund model
  | .other _ => fire (.haptic .error) (runFailed .generic gen model)
  | .previousPending => render (runFailed .previousPending gen model)
  | .venueBlocked block =>
    fire (.haptic .error) { runFailed .venueBlocked gen model with venueBlock := some block }

/-- `accept_submit_failed`: a failure is proven not sent. -/
def acceptSubmitFailed (id : Nat) (failure : SendSubmitFailure) (model : Model) : Model × Cmd :=
  match model.pipeline with
  | .submitting expect gen _ _ =>
    if expect ≠ id then done model
    else all [withdrawWriteAhead id, submitFailed gen failure] { model with pipeline := .idle }
  | _ => done model

/-- The `SubmitFailed` answer: the end of a withdrawn submit leaves the form as
it is. -/
def submitFailedAnswer (id : Nat) (failure : SendSubmitFailure) (model : Model) : Model × Cmd :=
  if model.withdrawnSubmit = some id then
    render { model with
      withdrawnSubmit := none
      pipeline := if model.pipeline.submitId = some id then .idle else model.pipeline }
  else acceptSubmitFailed id failure model

/-- The credential a warm-up waited for. -/
def warmCredential (publicKeyHex : Option String) (model : Model) : Model × Cmd :=
  match publicKeyHex with
  | none => followMax { model with pipeline := .idle }
  | some publicKeyHex =>
    let keyed := { model with publicKeyHex := some publicKeyHex }
    match model.holdings.selectedToken, model.account with
    | some token, some account =>
      let tx := if model.form.multiSelectMode then none
        else maxEstimateCall model token account.address
      ({ keyed.minted with pipeline := .warmEstimate model.nextId },
        [.request model.nextId (.estimateFee
          (estimateRequest model token account.address tx none (some publicKeyHex)))])
    | _, _ => followMax { keyed with pipeline := .idle }

def pipelineCredential (id : Nat) (publicKeyHex : Option String) (model : Model) : Model × Cmd :=
  match model.pipeline, publicKeyHex with
  | .continueCredential expect, publicKeyHex =>
    if expect ≠ id then done model
    else
      match publicKeyHex with
      | some publicKeyHex => startPrecheck publicKeyHex { model with pipeline := .idle }
      | none => alert .accountUnavailable { model with pipeline := .idle }
  | .warmCredential expect, publicKeyHex =>
    if expect ≠ id then done model else warmCredential publicKeyHex model
  | .submitCredential expect gen, publicKeyHex =>
    if expect ≠ id then done model
    else
      match publicKeyHex with
      | some publicKeyHex => submitTreasuryRecheck gen publicKeyHex model
      | none => submitGenericError gen model
  | _, _ => done model

def acceptCredential (id : Nat) (publicKeyHex : Option String) (model : Model) : Model × Cmd :=
  if model.flights.prefetchCredential = some id then
    done { model with
      flights := { model.flights with prefetchCredential := none }
      publicKeyHex := publicKeyHex.or model.publicKeyHex }
  else pipelineCredential id publicKeyHex model

/-- The estimate an outcome carries, when it reads. -/
def SendFeeOutcome.fee : SendFeeOutcome → Option FeeEstimate
  | ok estimate => parseFeeView estimate
  | failed _ => none

def withFee (fee : FeeEstimate) (model : Model) : Model :=
  { model with fees := { model.fees with feeEstimate := some fee } }

/-- The pre-check's estimate. -/
def precheckFee (outcome : SendFeeOutcome) (model : Model) : Model × Cmd :=
  match model.pipeline, outcome with
  | .preCheck feeId treasuryId timerId _ treasury, .ok estimate =>
    match parseFeeView estimate with
    | some fee =>
      precheckSettle
        { model with pipeline := .preCheck feeId treasuryId timerId (some fee) treasury }
    | none => precheckFail .calculationFailed model
  | _, .failed kind => precheckFail kind model
  | _, _ => done model

/-- The estimate that comes in after the timeout. -/
def lateFee (outcome : SendFeeOutcome) (model : Model) : Model × Cmd :=
  match outcome.fee with
  | some fee => render (withFee fee { model with pipeline := .idle })
  | none => done { model with pipeline := .idle }

/-- The estimate `Max` asked for: kept, even where the fill is not wanted any
more. -/
def maxFee (outcome : SendFeeOutcome) (model : Model) : Model × Cmd :=
  let free := { model with pipeline := .idle }
  match model.holdings.selectedToken with
  | none => done free
  | some token =>
    if model.form.maxFill.isNone then
      all [scheduleFormEstimate, render] { free with fees := { free.fees with
        feeEstimate := match outcome with
          | .ok estimate => parseFeeView estimate
          | .failed _ => free.fees.feeEstimate } }
    else
      match outcome.fee with
      | some fee => render (setMax (maxWithFee token fee) (withFee fee free))
      | none => render (setMax (fullBalance token) free)

/-- The warm-up's estimate. -/
def warmFee (outcome : SendFeeOutcome) (model : Model) : Model × Cmd :=
  let free := { model with pipeline := .idle }
  all [followMax, scheduleFormEstimate, render] (match outcome.fee with
    | some fee => withFee fee free
    | none => free)

def formFee (key : String) (outcome : SendFeeOutcome) (model : Model) : Model × Cmd :=
  let free := { model with pipeline := .idle }
  match outcome.fee with
  | some fee =>
    all [followMax, render] { free with fees := { free.fees with
      feeEstimate := some fee, formQuoteKey := some key } }
  | none => followMax free

def acceptFee (id : Nat) (outcome : SendFeeOutcome) (model : Model) : Model × Cmd :=
  match model.pipeline with
  | .preCheck feeId _ _ _ _ => if feeId = id then precheckFee outcome model else done model
  | .lateFee feeId => if feeId = id then lateFee outcome model else done model
  | .maxEstimate expect => if expect = id then maxFee outcome model else done model
  | .warmEstimate expect => if expect = id then warmFee outcome model else done model
  | .formEstimate expect key => if expect = id then formFee key outcome model else done model
  | _ => done model

def watchTimerFired (watch : TreasuryWatch) (model : Model) : Model × Cmd :=
  if model.stops.treasuryBootstrap.isNone then
    done { model with stops := { model.stops with treasuryWatch := none } }
  else
    ({ model.minted with stops := { model.stops with
        treasuryWatch := some { watch with probeId := some model.nextId } } },
      [.request model.nextId (.probeTreasury watch.chainId)])

/-- The pre-check ran out of time; an estimate still out is listened for. -/
def precheckTimeout (feeId : Nat) (fee : Option FeeEstimate) (model : Model) : Model × Cmd :=
  alert (.estimateFailed .timeout)
    (precheckEnded (if fee.isSome then .idle else .lateFee feeId) model)

def acceptTimer (id : Nat) (model : Model) : Model × Cmd :=
  match model.stops.treasuryWatch.filter fun watch =>
      watch.timerId == id && watch.probeId.isNone with
  | some watch => watchTimerFired watch model
  | none =>
    match model.pipeline with
    | .formDebounce timerId => if timerId = id then formEstimateFire model else done model
    | .preCheck feeId _ timerId fee _ =>
      if timerId = id then precheckTimeout feeId fee model else done model
    | _ => done model

def acceptWatchProbe (watch : TreasuryWatch) (probe : SendTreasuryProbe) (model : Model) :
    Model × Cmd :=
  if model.stops.treasuryBootstrap.isNone then
    done { model with stops := { model.stops with treasuryWatch := none } }
  else
    match probe with
    | .lowFloat status =>
      all [watchTreasury watch.chainId, render]
        { model with stops := { model.stops with treasuryBootstrap := some status } }
    | .covered =>
      let closed := { model with stops := { model.stops with treasuryWatch := none } }
      if model.step = .enterDetails then retryAfterBootstrap closed
      else render { closed with stops := { closed.stops with treasuryBootstrap := none } }
    | .uncovered | .unknown => watchTreasury watch.chainId model

/-- The re-check of the treasury before the passkey. -/
def submitTreasuryAnswer (gen : Nat) (publicKeyHex : String) (answer : TreasuryAnswer)
    (model : Model) : Model × Cmd :=
  match answer with
  | .lowFloat status => openBootstrap status (runEnded .idle gen model)
  | .unreachable => openUnreachable (runEnded .idle gen model)
  | .serves => submitUserOp gen publicKeyHex model

/-- `FailureFallback` as the error it is worded with. -/
def FailureFallback.key : FailureFallback → SendTxErrorKey
  | generic => .generic
  | bundlerFund => .bundlerFund

/-- The probe behind a failed submit. -/
def failureAnswer (gen : Nat) (fallback : FailureFallback) (answer : TreasuryAnswer)
    (model : Model) : Model × Cmd :=
  match answer with
  | .lowFloat status => openBootstrap status (runEnded .idle gen model)
  | .unreachable => openUnreachable (runEnded .idle gen model)
  | .serves =>
    fire (.haptic .error) { runEnded .error gen model with txError := some fallback.key }

/-- `accept_treasury`: the open sheet's watch is answered first. -/
def acceptTreasury (id : Nat) (probe : SendTreasuryProbe) (model : Model) : Model × Cmd :=
  match model.stops.treasuryWatch.filter (·.probeId == some id) with
  | some watch => acceptWatchProbe watch probe model
  | none =>
    match model.pipeline with
    | .preCheck feeId treasuryId timerId fee _ =>
      if treasuryId = id then
        precheckSettle { model with
          pipeline := .preCheck feeId treasuryId timerId fee (some (.of probe)) }
      else done model
    | .submitTreasury expect gen publicKeyHex =>
      if expect = id then submitTreasuryAnswer gen publicKeyHex (.of probe) model
      else done model
    | .failureProbe expect gen fallback =>
      if expect = id then failureAnswer gen fallback (.of probe) model else done model
    | _ => done model

/-- The `TokensLoaded` answer. -/
def tokensAnswer (id : Nat) (tokens : Option (List SendToken)) (chains : List SendChainInfo)
    (model : Model) : Model × Cmd :=
  match model.flights.tokens with
  | none => done model
  | some (expect, purpose) =>
    if expect ≠ id then done model
    else tokensLoaded tokens purpose { model with
      flights := { model.flights with tokens := none }
      holdings := { model.holdings with chains } }

/-- The `TokenMetadata` answer. -/
def metadataAnswer (id : Nat) (tokenMeta : Option SendTokenMeta) (model : Model) : Model × Cmd :=
  if model.flights.lockMeta.any (·.1 == id) then lockMetaResolved tokenMeta model else done model

/-- The `IdentityResolved` answer. -/
def identityAnswer (id : Nat) (identity : Option SendRecipientIdentity) (model : Model) :
    Model × Cmd :=
  if model.flights.identity ≠ some id then done model
  else render { model with
    flights := { model.flights with identity := none }
    probes := { model.probes with recipientIdentity := identity } }

/-- The `RiskResolved` answer. -/
def riskAnswer (id : Nat) (risk : Option SendRecipientRisk) (model : Model) : Model × Cmd :=
  if model.flights.risk ≠ some id then done model
  else render { model with
    flights := { model.flights with risk := none }
    probes := { model.probes with recipientRisk := risk } }

/-- The `SimResolved` answer. -/
def simAnswer (id : Nat) (simJson : Option String) (model : Model) : Model × Cmd :=
  if model.flights.sim ≠ some id then done model
  else render { model with
    flights := { model.flights with sim := none }
    probes := { model.probes with simJson } }

/-- The `TrackHandedOff` answer. -/
def trackAnswer (id : Nat) (model : Model) : Model × Cmd :=
  done (if model.flights.track = some id then
    { model with flights := { model.flights with track := none } } else model)

def accept (id : Nat) (result : SendShellResult) (model : Model) : Model × Cmd :=
  match result with
  | .tokensLoaded tokens chains => tokensAnswer id tokens chains model
  | .tokenMetadata tokenMeta => metadataAnswer id tokenMeta model
  | .networkAdded outcome =>
    if model.flights.addNetwork ≠ some id then done model else networkAdded outcome model
  | .accountCredential publicKeyHex => acceptCredential id publicKeyHex model
  | .feeEstimated outcome => acceptFee id outcome model
  | .treasuryProbed probe => acceptTreasury id probe model
  | .timerElapsed _ => acceptTimer id model
  | .submitted userOpHash nowMs maybeSent submitBlock =>
    submitted id userOpHash nowMs maybeSent submitBlock model
  | .submitFailed failure => submitFailedAnswer id failure model
  | .recordsPersisted => recordsPersisted id model
  | .trackHandedOff => trackAnswer id model
  | .identityResolved identity => identityAnswer id identity model
  | .riskResolved risk => riskAnswer id risk model
  | .simResolved simJson => simAnswer id simJson model
  | .postCleared | .tokenCacheCleared | .feesPrewarmed | .passkeyCancelAcknowledged
  | .alertAcknowledged | .hapticPlayed | .closed => done model

end VelaWallet.Send
