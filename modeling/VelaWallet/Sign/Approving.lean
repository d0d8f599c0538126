import VelaWallet.Sign.Arriving

/-!
# Approving

The approve pipeline up to its submit, and what a person may tap besides the confirm:
reject, dismiss, retry, and the funding view (`sign_request.rs`).
-/

namespace VelaWallet.SignRequest

open ApprovalGuard (enforceNoUnlimited)
open FeePolicy
open Json (Value fromStr)
open SelfCallGuard (SelfCallBlock enforceNoSelfCall)
open Utf8 (SlicePanic)

/-- `fail_pending`: the error is answered and shown, the sheet stays. -/
def failPending (code : Int) (kind : SignErrorKind) (detail : Option String) (model : Model) :
    Model × Cmd :=
  match model.pending with
  | none => render { model with inflight := none }
  | some pending =>
    opsAndRender [respondOp pending.transportId pending.id (errPayload code kind detail)]
      ({ model with
        inflight := none
        pending := some { pending with responded := true } }.withError kind detail)

/-- The record of a failed pipeline is closed failed. -/
def closeFailed (fl : Inflight) : List SignOperation :=
  match fl.recordId with
  | some recordId => [.updateRecord recordId .failed]
  | none => []

/-- `fail_inflight`: the failure waits on its own sheet for the close, or is answered
at once when nobody is looking. -/
def failInflight (code : Int) (kind : SignErrorKind) (detail : Option String) (model : Model) :
    Model × Cmd :=
  match model.inflight with
  | none => render model
  | some fl =>
    let ended := { model with inflight := none }
    match model.pending.filter (·.id == fl.id) with
    | some pending =>
      opsAndRender (closeFailed fl)
        ({ ended with pending := some { pending with
          held := some (errPayload code kind detail) } }.withError kind detail)
    | none =>
      opsAndRender (closeFailed fl ++
        [respondOp fl.transportId fl.id (errPayload code kind detail)]) ended

section Chokepoint

variable [SignRuntime]

/-- One call of a batch as a standalone transaction. -/
def standalone (call : Value) : Value :=
  .array [.object [("data", (call.get? "data").getD .null), ("to", (call.get? "to").getD .null),
    ("value", (call.get? "value").getD .null)]]

/-- The first call of a batch that approves without a bound. -/
def firstUnlimited : List Value → Option ApprovalGuard.GuardUnlimitedApproval
  | [] => none
  | call :: rest =>
    match enforceNoUnlimited "eth_sendTransaction" (some (standalone call)) with
    | .error refusal => some refusal
    | .ok _ => firstUnlimited rest

/-- The unbounded approval the final params make: in the request itself, or in one
call of a batch. -/
def unlimitedIn (method : String) (params : Value) : Option ApprovalGuard.GuardUnlimitedApproval :=
  match enforceNoUnlimited method (some params) with
  | .error refusal => some refusal
  | .ok _ =>
    if method = "wallet_sendCalls" then
      firstUnlimited ((((params.at? 0).bind (·.get? "calls")).bind Value.asArray?).getD [])
    else none

def activeAddress (model : Model) : String := (model.activeAccount.map (·.address)).getD ""

/-- What is signed: the request as the pipeline captured it. -/
def Inflight.submit (fl : Inflight) : SignOperation :=
  .signAndSubmit fl.id fl.method fl.paramsJson fl.chainId fl.address fl.credentialId
    fl.maxFeePerGas fl.gasFeeToken fl.quotedFee

/-- The approval guard's half of `proceed_submit`, then the submit. -/
def submitGuarded (fl : Inflight) (params : Value) (model : Model) : Model × Cmd :=
  match if fl.unlimitedApproved then none else unlimitedIn fl.method params with
  | some refusal => failInflight codeInternal .unlimitedApproval (some refusal.amountRaw) model
  | none => request fl.submit { model with inflight := some { fl with stage := .submitting } }

def proceedSubmit (model : Model) : Outcome :=
  match model.inflight with
  | none => .ok (done model)
  | some fl =>
    match fromStr fl.paramsJson with
    | none => .ok (failInflight codeInternal .invalidParams (some "malformed params") model)
    | some params =>
      (enforceNoSelfCall fl.method (some params) (activeAddress model)).map fun
        | .error block =>
          failInflight codeInternal .selfCallBlocked (some block.function.asStr)
            { model with blocked := some (blockedView block) }
        | .ok _ => submitGuarded fl params model

/-- An approve is taken: nothing in flight, an unanswered request, no funding view,
the switch acknowledged, no earlier operation, the verdict on the sheet. -/
def takesApprove (model : Model) (pending : Pending) : Bool :=
  model.inflight.isNone && !pending.responded && pending.held.isNone && model.funding.isNone &&
    model.reconciled && model.previousInFlight.isNone && !model.simChecking

/-- Fresh error state for the approve. -/
def approving (model : Model) : Model :=
  { model.errorCleared with
    pendingOpHash := none
    pendingOpMaybeSent := false }

/-- Why the final params are refused before any pipeline work. -/
def refuseParams (method : String) (params : Value) (chainId : UInt32) : Option Refusal :=
  if requestNamesOtherChain method params chainId then
    some (.invalidParams (some chainMismatchMessage))
  else if method = "wallet_sendCalls" then
    let payload := (params.at? 0).getD .null
    let required := requiredCapabilities payload
    if !required.isEmpty then
      some ⟨codeUnsupportedCapability, .unsupportedCapability, some (", ".intercalate required)⟩
    else if hasNoCalls payload then
      some ⟨codeInternal, .invalidParams, some "no calls provided"⟩
    else none
  else none

/-- Who a record says asked: the site's claimed name, else the origin. -/
def recordOrigin (pending : Pending) : String :=
  match pending.dapp with
  | some dapp => if dapp.name = "" then pending.origin else dapp.name
  | none => pending.origin

def recordIntent (opts : SignApproveOpts) (method : String) (params : Value) : Option String :=
  (opts.intent.filter fun intent => Utf8.trim intent != "").or (plainSendIntent method params)

/-- The balance changes a record keeps: of a transaction or a batch, when any. -/
def recordBalanceChanges (opts : SignApproveOpts) (method : String) :
    Option (List TrustSimJudgment) :=
  opts.balanceChanges.filter fun changes => !changes.isEmpty && takesNonce method

/-- The displayed fee with the tier the relay accepts. -/
def wireFee (fee : SignQuotedFee) : SignQuotedFee := { fee with tier := fee.tier.bind wireTier }

/-- The batch wants its id as an object, by the params the page sent. -/
def wantsObject (pending : Pending) : Bool :=
  methodKind pending.method == .batch && (fromStr pending.paramsJson).any sendCallsAnswersObject

def pipelineOf (pending : Pending) (opts : SignApproveOpts) (signer : SignAccountRef)
    (chainId : UInt32) (finalParams : String) (params : Value) : Inflight where
  id := pending.id
  transportId := pending.transportId
  method := pending.method
  paramsJson := finalParams
  unlimitedApproved := opts.unlimitedApproved
  chainId := chainId
  address := signer.address
  credentialId := signer.credentialId
  recordOrigin := recordOrigin pending
  recordUrl := pending.origin
  intent := recordIntent opts pending.method params
  balanceChanges := recordBalanceChanges opts pending.method
  maxFeePerGas := opts.maxFeePerGas
  gasFeeToken := opts.gasFeeToken
  quotedFee := opts.quotedFee.map wireFee
  stage := .precheck
  recordId := none
  opHash := none
  ceremony := .notYet
  writeAhead := none
  accepted := false
  pageGone := false
  batchAnswersObject := wantsObject pending

/-- The pipeline starts: a transaction or a batch with its gas pre-check, anything
else with its submit. -/
def startPipeline (fl : Inflight) (opts : SignApproveOpts) (bustCache : Bool) (model : Model) :
    Outcome :=
  let started := { model with inflight := some fl }
  if takesNonce fl.method then
    .ok (request (.checkBundlerFunding fl.chainId fl.address opts.bundlerCostWei bustCache) started)
  else proceedSubmit started

/-- The rest of `approve_with`, for a tap that is taken. -/
def approveTaken (pending : Pending) (signer : SignAccountRef) (opts : SignApproveOpts)
    (bustCache : Bool) (model : Model) : Outcome :=
  let finalParams := opts.paramsOverrideJson.getD pending.paramsJson
  match fromStr finalParams with
  | none => .ok (failPending codeInternal .invalidParams (some "malformed params") model)
  | some params =>
    let chainId := model.chainOf pending
    match refuseParams pending.method params chainId with
    | some refusal => .ok (failPending refusal.code refusal.kind refusal.message model)
    | none =>
      if isTempoChain chainId && displayedFeeIsStale opts then
        .ok (render (model.withError .staleFeeQuote none))
      else
        startPipeline (pipelineOf pending opts signer chainId finalParams params) opts bustCache
          model

def approveWith (opts : SignApproveOpts) (bustCache : Bool) (model : Model) : Outcome :=
  match model.pending, model.activeAccount with
  | some pending, some signer =>
    if takesApprove model pending then
      approveTaken pending signer opts bustCache (approving model)
    else .ok (done model)
  | _, _ => .ok (done model)

/-- The `ApproveTapped` event. -/
def approveTapped (opts : SignApproveOpts) (model : Model) : Outcome :=
  approveWith opts false { model with lastOpts := some opts }

end Chokepoint

/-- `dismiss`: the one answer it sends is a held failure. -/
def dismiss (model : Model) : Model × Cmd :=
  let answered := answerHeld model
  opsAndRender answered.2.toList { answered.1.clearSheet with notice := none }

/-- The answer a reject sends: the refusal of a refused request, else a 4001. -/
def rejection (model : Model) : SignResponsePayload :=
  match model.blocked with
  | some blocked => errPayload codeInternal .selfCallBlocked (some blocked.function)
  | none => errPayload codeUserRejected .userRejected none

def reject (model : Model) : Model × Cmd :=
  match model.pending with
  | none => done model
  | some pending =>
    if model.committed then done model
    else if pending.responded || pending.held.isSome then dismiss model
    else
      opsAndRender [respondOp pending.transportId pending.id (rejection model)]
        (killPresubmitPipeline (model.settle pending.id .rejected)).clearSheet

def Pending.unheld (pending : Pending) : Pending := { pending with held := none }

/-- `retry`: a held failure goes back to review, unanswered. -/
def retry (model : Model) : Model × Cmd :=
  if !model.failureRetryable then done model
  else
    render { model.errorCleared with pending := model.pending.map Pending.unheld }

/-- `to_funding_wait`: the pipeline ends in the funding view. -/
def toFundingWait (data : SignFundingNeeded) (presentation : SignFundingPresentation)
    (denialReason : Option String) (model : Model) : Model × Cmd :=
  render { model with
    inflight := none
    funding := some { data, presentation, denialReason }
    fundingPinnedRid := model.inflight.map (·.id) }

def fundingCancel (model : Model) : Model × Cmd :=
  let closed := { model with
    funding := none
    fundingPinnedRid := none }
  match model.pending with
  | none => render closed
  | some pending =>
    opsAndRender [respondOp pending.transportId pending.id
        (errPayload codeInternal .fundingCancelled none)]
      { closed with
        pending := none
        pendingOpHash := none }.errorCleared

/-- `funding_complete`: the request pinned to the view is approved again with the
saved options, when it still owns the sheet. -/
def fundingComplete [SignRuntime] (model : Model) : Outcome :=
  if model.funding.isNone then .ok (done model)
  else
    let closed := { model with
      funding := none
      fundingPinnedRid := none }
    match model.pending with
    | none => .ok (render closed)
    | some pending =>
      if model.fundingPinnedRid.any (· != pending.id) then .ok (render closed)
      else approveWith (model.lastOpts.getD {}) true closed

inductive SignSwipeAction where
  | none
  | reject
  | dismiss
  | fundingCancel

/-- The pipeline of the request on the sheet has asked its passkey. -/
def pastPasskey (model : Model) : Bool :=
  model.inflightMatchesPending &&
    model.inflight.any fun fl =>
      match fl.stage with
      | .submitting | .persistingResult _ | .reactiveSponsoring .. => true
      | _ => false

def swipeAction (model : Model) : SignSwipeAction :=
  if model.pending.isNone then .none
  else if model.funding.isSome then .fundingCancel
  else if model.blocked.isSome then .reject
  else if model.signError.isSome || model.pendingOpHash.isSome || pastPasskey model then .dismiss
  else .reject

/-- The `SwipeDismissed` event. -/
def swipeDismissed (model : Model) : Model × Cmd :=
  match swipeAction model with
  | .reject => reject model
  | .dismiss => dismiss model
  | .fundingCancel => fundingCancel model
  | .none => done model

end VelaWallet.SignRequest
