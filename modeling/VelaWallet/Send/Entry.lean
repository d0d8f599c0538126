import VelaWallet.Send.Changes

/-!
# What the person sees of a send

The part of the model a send is entered through: the page, the request, the
holdings, the form and the review frozen at the confirm.  Most updates leave all
of it alone; here each update says what it leaves of it.
-/

namespace VelaWallet.Send

open FeePolicy
open Money (DenominatedAmount)
open SignedReview (Review)

variable {model : Model} {gen : Nat}

inductive Checking where
  | credential
  | estimate (feeId : Nat) (fee : Option FeeEstimate)

/-- The check of `Continue` in the slot. -/
def Pipeline.continuing : Pipeline → Option Checking
  | continueCredential _ => some .credential
  | preCheck feeId _ _ fee _ => some (.estimate feeId fee)
  | _ => none

namespace Pipeline

theorem continuing_isSome (pipeline : Pipeline) :
    pipeline.continuing.isSome = pipeline.isContinue := by
  cases pipeline <;> rfl

theorem continuing_of_run {pipeline : Pipeline} (run : pipeline.run = some gen) :
    pipeline.continuing = none := by
  cases pipeline <;> first | rfl | cases run

@[simp] theorem continuing_afterCancel (pipeline : Pipeline) :
    pipeline.afterCancel.continuing = pipeline.continuing := by
  cases pipeline <;> rfl

end Pipeline

/-- What the person sees of a send. -/
structure Entry where
  step : SendStep
  account : Option SendAccountRef
  params : SendOpenParams
  display : SendDisplayContext
  chains : List SendChainInfo
  tokens : List SendToken
  selectedToken : Option SendToken
  requestChain : Option UInt32
  lockMeta : Option (Nat × UInt32 × String)
  recipient : String
  recipientHandedIn : Bool
  amount : DenominatedAmount
  maxFill : Option MaxFill
  fiatOrigin : Option String
  splitMode : Bool
  recipients : List SendRecipientDraft
  multiSelectMode : Bool
  multiSelectedIds : List String
  multiChainId : Option UInt32
  continuing : Option Checking
  confirmedReview : Option Review

def Model.entry (model : Model) : Entry where
  step := model.step
  account := model.account
  params := model.params
  display := model.display
  chains := model.holdings.chains
  tokens := model.holdings.tokens
  selectedToken := model.holdings.selectedToken
  requestChain := model.lockState.requestChain
  lockMeta := model.flights.lockMeta
  recipient := model.form.recipient
  recipientHandedIn := model.form.recipientHandedIn
  amount := model.form.amount
  maxFill := model.form.maxFill
  fiatOrigin := model.form.fiatOrigin
  splitMode := model.form.splitMode
  recipients := model.form.recipients
  multiSelectMode := model.form.multiSelectMode
  multiSelectedIds := model.form.multiSelectedIds
  multiChainId := model.form.multiChainId
  continuing := model.pipeline.continuing
  confirmedReview := model.confirmedReview

theorem slot_entry {model : Model} {pipeline : Pipeline}
    (same : pipeline.continuing = model.pipeline.continuing) :
    Model.entry { model with pipeline } = model.entry := by
  simp only [Model.entry, same]

section

variable (model : Model)

@[simp] theorem all_nil_entry : (all [] model).1.entry = model.entry := rfl

@[simp] theorem fire_entry (operation : SendOperation) :
    (fire operation model).1.entry = model.entry := rfl

@[simp] theorem alert_entry (kind : SendAlertKind) :
    (alert kind model).1.entry = model.entry := rfl

@[simp] theorem syncIdentity_entry :
    (syncIdentity model).1.entry = model.entry := by
  unfold syncIdentity
  dsimp only
  split
  · rfl
  · rfl

@[simp] theorem prewarmFees_entry : (prewarmFees model).1.entry = model.entry := by
  unfold prewarmFees
  split
  · rfl
  · dsimp only
    split
    · rfl
    · rfl

@[simp] theorem refreshTokens_entry :
    (refreshTokens model).1.entry = model.entry := by
  unfold refreshTokens
  split
  · rfl
  · rfl

@[simp] theorem bootFetch_entry : (bootFetch model).1.entry = model.entry := by
  unfold bootFetch
  split
  · rfl
  · rfl

@[simp] theorem dropForeignRelayStops_entry :
    (dropForeignRelayStops model).entry = model.entry := by
  unfold dropForeignRelayStops
  dsimp only
  split
  · rfl
  · rfl

@[simp] theorem openBootstrap_entry (status : SendTreasuryStatus) :
    (openBootstrap status model).1.entry = model.entry := rfl

@[simp] theorem openUnreachable_entry :
    (openUnreachable model).1.entry = model.entry := by
  unfold openUnreachable
  split
  · rfl
  · rfl

@[simp] theorem simulateNow_entry : (simulateNow model).1.entry = model.entry := by
  unfold simulateNow
  split
  · rfl
  · rfl

@[simp] theorem resolveRisk_entry (chainId : UInt32) :
    (resolveRisk chainId model).1.entry = model.entry := by
  unfold resolveRisk
  split
  · rfl
  · rfl

@[simp] theorem confirmProbes_entry :
    (confirmProbes model).1.entry = model.entry := by
  unfold confirmProbes
  dsimp only
  split
  · rfl
  · split
    · simp only [all_cons_fst, all_nil_fst, simulateNow_entry, resolveRisk_entry]
      rfl
    · rfl

@[simp] theorem reprobeAfterFee_entry :
    (reprobeAfterFee model).1.entry = model.entry := by
  unfold reprobeAfterFee
  split
  · rfl
  · rw [simulateNow_entry]
    rfl

@[simp] theorem withFee_entry (fee : FeeEstimate) :
    (withFee fee model).entry = model.entry := rfl

end

def maxFollowed (model : Model) : Option String := do
  let token ← model.holdings.selectedToken
  if model.form.maxFill.isNone then none
  else
    match maxQuote model, model.account with
    | some fee, _ => some (maxWithFee token fee)
    | none, none => some (fullBalance token)
    | none, some _ => none

/-- The form once `Max` has followed. -/
def filled (model : Model) : Model :=
  match maxFollowed model with
  | some exact => setMax exact model
  | none => model

/-- The entry with `Max` in force for the amount given. -/
def Entry.maxed (entry : Entry) (exact : String) : Entry :=
  { entry with amount := .token (maxFigure exact), maxFill := some (.exact exact) }

theorem setMax_entry (exact : String) (model : Model) :
    (setMax exact model).entry = model.entry.maxed exact := by
  unfold setMax Entry.maxed
  generalize maxFigure exact = figure
  rfl

theorem filled_cases (model : Model) :
    filled model = model ∨ ∃ exact, model.form.maxFill.isSome = true ∧
      maxFollowed model = some exact ∧ filled model = setMax exact model := by
  unfold filled
  cases follows : maxFollowed model with
  | none => exact Or.inl rfl
  | some exact =>
    refine Or.inr ⟨exact, ?_, rfl, rfl⟩
    unfold maxFollowed at follows
    cases inForce : model.form.maxFill with
    | some => rfl
    | none =>
      rw [inForce] at follows
      cases selected : model.holdings.selectedToken <;> rw [selected] at follows <;> cases follows

/-- The entry with another figure in it. -/
def Entry.refigured (entry : Entry) (amount : DenominatedAmount) (maxFill : Option MaxFill)
    (fiatOrigin : Option String) : Entry :=
  { entry with amount, maxFill, fiatOrigin }

theorem filled_refigures (model : Model) :
    ∃ amount maxFill, (filled model).entry =
      model.entry.refigured amount maxFill model.form.fiatOrigin := by
  rcases filled_cases model with stays | ⟨exact, _, _, fills⟩
  · exact ⟨model.form.amount, model.form.maxFill, congrArg Model.entry stays⟩
  · exact ⟨.token (maxFigure exact), some (.exact exact), by rw [fills, setMax_entry]; rfl⟩

theorem toggleFiatInput_refigures [Runtime] (model : Model) :
    ∃ amount fiatOrigin, (toggleFiatInput model).1.entry =
      model.entry.refigured amount model.form.maxFill fiatOrigin := by
  unfold toggleFiatInput
  split
  · exact ⟨_, _, rfl⟩
  · dsimp only
    generalize (if model.form.amount.isFiat = true then Money.Denom.token
      else model.display.denom) = target
    split
    · exact ⟨_, _, rfl⟩
    · split
      · next exact _ =>
          generalize maxFigure exact = figure
          exact ⟨_, _, rfl⟩
      · split
        · exact ⟨_, _, rfl⟩
        · exact ⟨_, _, rfl⟩

theorem redenominateToDisplay_refigures (display : SendDisplayContext) (model : Model) :
    ∃ amount maxFill, (redenominateToDisplay { model with display }).entry =
      { model.entry with display }.refigured amount maxFill model.form.fiatOrigin := by
  unfold redenominateToDisplay
  split
  · exact ⟨model.form.amount, model.form.maxFill, rfl⟩
  · split
    · exact ⟨model.form.amount, model.form.maxFill, rfl⟩
    · exact ⟨.fiat "" display.code, none, rfl⟩

theorem maxFollowUp_entry {token : SendToken} {model : Model}
    (selected : model.holdings.selectedToken = some token)
    (inForce : model.form.maxFill.isSome = true) :
    (maxFollowUp token model).1.entry = (filled model).entry := by
  have wanted : model.form.maxFill.isNone = false := by
    rw [← Option.not_isSome, inForce]
    rfl
  unfold maxFollowUp filled maxFollowed
  simp only [selected, wanted, Option.bind_eq_bind, Option.bind_some, Bool.false_eq_true, if_false]
  split
  · next quoted =>
      simp only [quoted]
      rfl
  · next quoted held =>
      simp only [quoted, held]
      rfl
  · next quoted held =>
      simp only [quoted, held]
      split
      · rfl
      · split
        · rfl
        · next idle =>
            have free : model.pipeline.continuing = none := by
              rw [not_not.mp idle]
              rfl
            simp only [Model.entry, free]
            rfl

@[simp] theorem followMax_entry (model : Model) :
    (followMax model).1.entry = (filled model).entry := by
  unfold followMax
  split
  · next selected =>
      split
      · next inForce => exact maxFollowUp_entry selected inForce
      · next off =>
          have none_follows : maxFollowed model = none := by
            unfold maxFollowed
            rw [Option.not_isSome_iff_eq_none.mp off, selected]
            rfl
          rw [filled, none_follows]
          rfl
  · next unselected =>
      rw [filled, maxFollowed, unselected]
      rfl

def warmed (model : Model) : Model :=
  if model.account.isSome then { model with pipeline := .idle } else model

@[simp] theorem warmEstimateStart_entry (model : Model) :
    (warmEstimateStart model).1.entry = (warmed model).entry := by
  unfold warmEstimateStart warmed
  cases held : model.account with
  | none => rfl
  | some =>
    simp only [Option.isSome_some, if_true, Model.entry, Model.minted, Pipeline.continuing, held]

def selecting (token : SendToken) (model : Model) : Model :=
  { model with
    form := { model.form with multiSelectMode := false, maxFill := none }
    fees := { model.fees with feeEstimate := none, coin := .unchosen }
    holdings := { model.holdings with selectedToken := some token }
    step := .enterDetails }

theorem selectToken_missing {tokenId : String}
    (missing : model.holdings.tokens.find? (·.id == tokenId) = none) :
    selectToken tokenId model = done model := by
  rw [selectToken, missing]

theorem selectToken_found {tokenId : String} {token : SendToken}
    (found : model.holdings.tokens.find? (·.id == tokenId) = some token) :
    (selectToken tokenId model).1.entry = (warmed (selecting token model)).entry := by
  rw [selectToken, found]
  exact warmEstimateStart_entry _

/-- The picker is up, unless a token is selected. -/
def pickerShown (model : Model) : Model :=
  if model.holdings.selectedToken.isNone then { model with step := .selectToken } else model

section

variable (model : Model)

@[simp] theorem pickerWithoutAToken_entry :
    (pickerWithoutAToken model).1.entry = (pickerShown model).entry := by
  unfold pickerWithoutAToken pickerShown
  split
  · simp only [all_cons_fst, all_nil_fst, render_fst, prewarmFees_entry]
  · rfl

theorem pickerShown_entry : (pickerShown model).entry =
    if model.entry.selectedToken.isNone then { model.entry with step := .selectToken }
    else model.entry := by
  unfold pickerShown
  split
  · next missing => exact (if_pos missing).symm
  · next selected => exact (if_neg selected).symm

/-! ## The receipt and the answers about it -/

@[simp] theorem feeFailedChanged_entry (failed : Bool) :
    (feeFailedChanged failed model).1.entry = model.entry := by
  unfold feeFailedChanged
  split
  · rfl
  · rfl

@[simp] theorem receiptUpdate_entry (userOpHash : String) (outcome : SendReceiptOutcome) :
    (receiptUpdate userOpHash outcome model).1.entry = model.entry := by
  unfold receiptUpdate
  split
  · rfl
  · rfl

@[simp] theorem signingStarted_entry :
    (signingStarted model).1.entry = model.entry := by
  unfold signingStarted
  split
  · rfl
  · rfl

@[simp] theorem retryAfterError_entry :
    (retryAfterError model).1.entry = model.entry := by
  unfold retryAfterError
  split
  · rfl
  · rfl

@[simp] theorem inFlightOps_entry (ops : List InFlightOp) :
    (inFlightOps ops model).1.entry = model.entry := by
  unfold inFlightOps
  split
  · rfl
  · rfl

@[simp] theorem cancelSigning_entry :
    (cancelSigning model).1.entry = model.entry := by
  unfold cancelSigning
  split
  · rfl
  · split
    · rfl
    · rw [fire_entry]
      simp only [Model.entry, Pipeline.continuing_afterCancel]

end

theorem runEnded_entry (tx : SendTxStatus)
    (run : model.pipeline.run = some gen) : (runEnded tx gen model).entry = model.entry := by
  have same := Pipeline.continuing_of_run run
  exact @slot_entry model .idle same.symm

theorem submitGenericError_entry (run : model.pipeline.run = some gen) :
    (submitGenericError gen model).1.entry = model.entry := by
  rw [submitGenericError, fire_entry]
  exact runEnded_entry .error run

section

variable (model : Model)

@[simp] theorem withdrawWriteAhead_entry (pipelineId : Nat) :
    (withdrawWriteAhead pipelineId model).1.entry = model.entry := by
  unfold withdrawWriteAhead
  split
  · rfl
  · rfl

@[simp] theorem recordsPersisted_entry (id : Nat) :
    (recordsPersisted id model).1.entry = model.entry := by
  unfold recordsPersisted
  split
  · rfl
  · split
    · rfl
    · dsimp only
      split
      · rfl
      · rfl

@[simp] theorem announceSubmitted_entry (maybeSent : Bool) :
    (announceSubmitted maybeSent model).1.entry = model.entry := by
  unfold announceSubmitted
  dsimp only
  split
  · rfl
  · rfl

@[simp] theorem handOver_entry (written : WriteAhead) (chainId : UInt32) (maybeSent : Bool)
    (submitBlock : Option UInt64) :
    (handOver written chainId maybeSent submitBlock model).1.entry = model.entry := by
  unfold handOver
  dsimp only
  split
  · rfl
  · rfl

@[simp] theorem identityAnswer_entry (id : Nat) (identity : Option SendRecipientIdentity) :
    (identityAnswer id identity model).1.entry = model.entry := by
  unfold identityAnswer
  split
  · rfl
  · rfl

@[simp] theorem riskAnswer_entry (id : Nat) (risk : Option SendRecipientRisk) :
    (riskAnswer id risk model).1.entry = model.entry := by
  unfold riskAnswer
  split
  · rfl
  · rfl

@[simp] theorem simAnswer_entry (id : Nat) (simJson : Option String) :
    (simAnswer id simJson model).1.entry = model.entry := by
  unfold simAnswer
  split
  · rfl
  · rfl

@[simp] theorem trackAnswer_entry (id : Nat) :
    (trackAnswer id model).1.entry = model.entry := by
  unfold trackAnswer
  split
  · rfl
  · rfl

@[simp] theorem watchTimerFired_entry (watch : TreasuryWatch) :
    (watchTimerFired watch model).1.entry = model.entry := by
  unfold watchTimerFired
  split
  · rfl
  · rfl

end

theorem failureProbe_entry {fallback : FailureFallback} (idle : model.pipeline = .idle) :
    (failureProbe gen fallback model).1.entry = model.entry := by
  unfold failureProbe
  have out : model.pipeline.continuing = none := by
    rw [idle]
    rfl
  split
  · exact @slot_entry model .idle out.symm
  · next =>
      exact @slot_entry model (.failureProbe model.nextId gen fallback) out.symm

theorem submitFailed_entry (gen : Nat) (failure : SendSubmitFailure)
    (idle : model.pipeline = .idle) :
    (submitFailed gen failure model).1.entry = model.entry := by
  cases failure with
  | relayerUnavailable | bundlerUnderfunded => exact failureProbe_entry idle
  | passkeyCancelled | other _ | venueBlocked _ | previousPending => rfl

theorem failureAnswer_entry (fallback : FailureFallback) (answer : TreasuryAnswer)
    (run : model.pipeline.run = some gen) :
    (failureAnswer gen fallback answer model).1.entry = model.entry := by
  cases answer with
  | lowFloat =>
    rw [failureAnswer, openBootstrap_entry]
    exact runEnded_entry .idle run
  | unreachable =>
    rw [failureAnswer, openUnreachable_entry]
    exact runEnded_entry .idle run
  | serves =>
    rw [failureAnswer, fire_entry]
    exact runEnded_entry .error run

@[simp] theorem persistSubmitted_entry (lines : List SendLine) (chainId : UInt32)
    (userOpHash : String) (nowMs : Float) (maybeSent : Bool) (submitBlock : Option UInt64)
    (model : Model) : (persistSubmitted lines chainId userOpHash nowMs maybeSent submitBlock
      model).1.entry = model.entry := rfl

@[simp] theorem opSigned_entry (userOpHash : String) (submitBlock : Option UInt64) (nowMs : Float)
    (model : Model) : (opSigned userOpHash submitBlock nowMs model).1.entry = model.entry := by
  unfold opSigned
  split
  · split
    · rfl
    · rfl
  · rfl

@[simp] theorem submitted_entry (id : Nat) (userOpHash : String) (nowMs : Float)
    (maybeSent : Bool) (submitBlock : Option UInt64) (model : Model) :
    (submitted id userOpHash nowMs maybeSent submitBlock model).1.entry = model.entry := by
  unfold submitted acceptSubmitted
  split
  · next submitting =>
      have out : model.pipeline.continuing = none := by
        rw [show model.pipeline = _ from submitting]
        rfl
      split
      · rfl
      · dsimp only
        split
        · simp only [all_cons_fst, all_nil_fst, render_fst, handOver_entry, announceSubmitted_entry]
          exact @slot_entry model .idle out.symm
        · simp only [all_cons_fst, all_nil_fst, render_fst, persistSubmitted_entry,
            announceSubmitted_entry, withdrawWriteAhead_entry]
          exact @slot_entry model .idle out.symm
  · rfl

end VelaWallet.Send
