import VelaWallet.Send.ReceiptFrames

/-!
# What one event does to the payment

Every update of the send machine either only moves the slot, or starts over, or
hands an operation out, or is one of the five updates about an operation that is
out.
-/

namespace VelaWallet.Send

open FeePolicy
open SignedReview (Review)

variable {model : Model}

/-- The state the screen starts from. -/
def Slot.fresh : Slot where
  pipeline := .idle
  lock := {}
  estimatingGas := false
  confirmedReview := none
  withdrawn := none
  writeAhead := none
  persist := none

/-- An update that starts over. -/
structure Reopened (before : Model) (result : Model × Cmd) : Prop where
  slot : result.1.slot = Slot.fresh
  counted : before.attempt ≤ result.1.attempt
  effects : result.2.all SendEffect.isQuiet = true

theorem bootFetch_reopened {before : Model} (slot : model.slot = Slot.fresh)
    (counted : before.attempt ≤ model.attempt) : Reopened before (bootFetch model) := by
  unfold bootFetch
  split
  · exact ⟨slot, counted, rfl⟩
  · exact ⟨slot, Nat.le_succ_of_le counted, rfl⟩

section Changes

variable [Runtime]

/-- The event takes the slot from a check or a run that has not ended. -/
def takesSlot (event : Event) (model : Model) : Bool :=
  match event with
  | .selectToken tokenId => selectTakes tokenId model
  | .confirmMultiSelection => confirmMultiTakes model
  | .continueTapped => continueEventTakes model
  | .retryAfterBootstrap | .retryRelayUnreachable => resumeTakes model
  | .shellCompleted id (.tokensLoaded tokens chains) => tokensTake id tokens chains model
  | .shellCompleted id (.treasuryProbed probe) =>
    model.stops.treasuryWatch.any (·.probeId == some id) && watchTakes probe model
  | _ => false

/-- An operation handed out: the slot waits for a treasury answer, the relay
serves, and what the model holds now is what the person confirmed. -/
structure Submits (event : Event) (model : Model) (result : Model × Cmd) where
  id : Nat
  gen : Nat
  publicKeyHex : String
  probe : SendTreasuryProbe
  plan : SubmitPlan
  review : Review
  answered : event = .shellCompleted id (.treasuryProbed probe)
  unwatched : model.stops.treasuryWatch.any (·.probeId == some id) = false
  waiting : model.pipeline = .submitTreasury id gen publicKeyHex
  serves : TreasuryAnswer.of probe = .serves
  planned : submitPlan model = some plan
  reviewed : signedReview plan = some review
  confirmed : model.confirmedReview = some review
  handed : result = ({ model.minted with
      tx := .submitting
      pipeline := .submitting model.nextId gen plan.chainId plan.lines },
    [.request model.nextId (.submitUserOp (submitRequest plan review publicKeyHex)), .render])

/-- The event answers the request the confirm run in the slot waits for. -/
def endsRun (event : Event) (model : Model) : Bool :=
  match event with
  | .shellCompleted id _ => model.pipeline.awaits == some id
  | _ => false

def takenBy (event : Event) (model : Model) (slot : Slot) : Prop :=
  takesSlot event model = true ∧ slot = model.slot

/-- The event is about an operation that is out: a report of its signature, a
cancel, its verdict, or the acknowledgement of its records. -/
def Event.isVerdict : Event → Bool
  | opSigned .. | cancelSigning | shellCompleted _ (.submitted ..)
  | shellCompleted _ (.submitFailed _) | shellCompleted _ .recordsPersisted => true
  | _ => false

inductive Change (event : Event) (model : Model) (result : Model × Cmd) : Prop where
  | quiet (plain : event.isVerdict = false)
      (quiet : Quiet (takenBy event model) (endsRun event model = true) model result)
  | reopened (reopening : reopens event model = true) (reopened : Reopened model result)
  | submits (submits : Submits event model result)
  | signed {userOpHash : String} {submitBlock : Option UInt64} {nowMs : Float}
      (named : event = .opSigned userOpHash submitBlock nowMs)
      (same : result = opSigned userOpHash submitBlock nowMs model)
  | cancelled (named : event = .cancelSigning) (same : result = cancelSigning model)
  | submitted {id : Nat} {userOpHash : String} {nowMs : Float} {maybeSent : Bool}
      {submitBlock : Option UInt64}
      (named : event = .shellCompleted id (.submitted userOpHash nowMs maybeSent submitBlock))
      (same : result = submitted id userOpHash nowMs maybeSent submitBlock model)
  | failed {id : Nat} {failure : SendSubmitFailure}
      (named : event = .shellCompleted id (.submitFailed failure))
      (same : result = submitFailedAnswer id failure model)
  | persisted {id : Nat} (named : event = .shellCompleted id .recordsPersisted)
      (same : result = recordsPersisted id model)

/-- What one event does, and what becomes of the receipt. -/
structure Outcome (event : Event) (model : Model) (result : Model × Cmd) : Prop where
  change : Change event model result
  retells : Retells event model result.1

omit [Runtime] in
theorem Outcome.quiet {event : Event} {result : Model × Cmd} (plain : event.isVerdict = false)
    (hushed : Hushed (takenBy event model) (endsRun event model = true) model result) :
    Outcome event model result :=
  ⟨.quiet plain hushed.toQuiet, .kept hushed.told⟩

omit [Runtime] in
theorem Outcome.reopened {event : Event} {result : Model × Cmd}
    (reopening : reopens event model = true) (reopened : Reopened model result) :
    Outcome event model result :=
  ⟨.reopened reopening reopened, .reopened reopening⟩

section

variable {event : Event} {id gen : Nat} {publicKeyHex : String} {probe : SendTreasuryProbe}
  (answered : event = .shellCompleted id (.treasuryProbed probe))
  (waiting : model.pipeline = .submitTreasury id gen publicKeyHex)
include answered waiting

omit [Runtime] in
theorem ends_of_answered : model.pipeline.run = some gen ∧ model.pipeline.submitId = none ∧
    event.isVerdict = false ∧ endsRun event model = true := by
  subst answered
  rw [endsRun, waiting]
  exact ⟨rfl, rfl, rfl, beq_self_eq_true _⟩

variable (unwatched : model.stops.treasuryWatch.any (·.probeId == some id) = false)
include unwatched

omit [Runtime] in
theorem submitUserOp_outcome (serves : TreasuryAnswer.of probe = .serves) :
    Outcome event model (submitUserOp gen publicKeyHex model) := by
  obtain ⟨run, unsigned, plain, finished⟩ := ends_of_answered answered waiting
  unfold submitUserOp
  split
  · exact .quiet plain (submitGenericError_quiet finished run unsigned)
  · next plan planned =>
      split
      · exact .quiet plain (submitGenericError_quiet finished run unsigned)
      · next review reviewed =>
          unfold submitPlanned
          split
          · exact .quiet plain (.of_render (.moves 0 (.ended finished run unsigned) rfl rfl rfl))
          · next confirmed =>
              refine ⟨.submits ?_, .kept rfl⟩
              exact {
                id, gen, publicKeyHex, probe, plan, review, answered, unwatched, waiting, serves
                planned, reviewed
                confirmed := not_not.mp confirmed
                handed := rfl }

omit [Runtime] in
theorem submitTreasuryAnswer_outcome :
    Outcome event model (submitTreasuryAnswer gen publicKeyHex (.of probe) model) := by
  obtain ⟨run, unsigned, plain, finished⟩ := ends_of_answered answered waiting
  unfold submitTreasuryAnswer
  split
  · exact .quiet plain ((openBootstrap_quiet _ _).after_kept (runEnded_kept finished _ run unsigned))
  · exact .quiet plain ((openUnreachable_quiet _).after_kept (runEnded_kept finished _ run unsigned))
  · next serves => exact submitUserOp_outcome answered waiting unwatched serves

end

theorem acceptTreasury_outcome (id : Nat) (probe : SendTreasuryProbe) (model : Model) :
    Outcome (.shellCompleted id (.treasuryProbed probe)) model (acceptTreasury id probe model) := by
  unfold acceptTreasury
  split
  · next mine =>
      apply Outcome.quiet rfl
      apply acceptWatchProbe_quiet
      intro resumes
      have watched : model.stops.treasuryWatch.any (·.probeId == some id) = true := by
        obtain ⟨held, fits⟩ := Option.filter_eq_some_iff.mp mine
        rw [held]
        exact fits
      refine ⟨?_, rfl⟩
      show (_ && _) = true
      rw [watched, resumes]
      rfl
  · next other =>
      have unwatched : model.stops.treasuryWatch.any (·.probeId == some id) = false := by
        rw [Bool.eq_false_iff, ne_eq, Option.any_eq_true]
        exact fun ⟨watch, held, mine⟩ => Option.filter_eq_none_iff.mp other watch held mine
      split
      · next checking =>
          split
          · exact .quiet rfl ((precheckSettle_quiet _).after_kept
              (.moves 0 (.heard (by rw [Model.slot, checking]; rfl) rfl) rfl rfl rfl))
          · exact .quiet rfl (.of_done (.refl _))
      · next waiting =>
          split
          · next mine =>
              subst mine
              exact submitTreasuryAnswer_outcome rfl waiting unwatched
          · exact .quiet rfl (.of_done (.refl _))
      · next waiting =>
          split
          · next mine =>
              have finished : endsRun (.shellCompleted id (.treasuryProbed probe)) model = true := by
                rw [endsRun, waiting, mine]
                exact beq_self_eq_true _
              exact .quiet rfl
                (failureAnswer_quiet finished _ _ (by rw [waiting]; rfl) (by rw [waiting]; rfl))
          · exact .quiet rfl (.of_done (.refl _))
      · exact .quiet rfl (.of_done (.refl _))

omit [Runtime] in
theorem openScreen_reopened (account : Option SendAccountRef) (params : SendOpenParams)
    (display : SendDisplayContext) (before model : Model)
    (counted : before.attempt ≤ model.attempt) :
    Reopened before (openScreen account params display model) :=
  bootFetch_reopened rfl counted

theorem scanResolved_outcome (scan : SendScan) (model : Model) :
    Outcome (.scanResolved scan) model (scanResolved scan model) := by
  unfold scanResolved
  dsimp only
  split
  · exact .quiet rfl ((applyPickedAddress_quiet _ _).after_kept (.same rfl rfl rfl))
  · next single =>
      split
      · refine .reopened ?_ (openScreen_reopened _ _ _ _ _ (Nat.le_refl model.attempt))
        rw [reopens, Bool.eq_false_of_not_eq_true single]
        rfl
      · exact .quiet rfl ((handInRecipient_quiet _ _).after_kept (.same rfl rfl rfl))
      · exact .quiet rfl ((handInRecipient_quiet _ _).after_kept (.same rfl rfl rfl))

theorem accept_outcome (id : Nat) (answer : SendShellResult) (model : Model) :
    Outcome (.shellCompleted id answer) model (accept id answer model) := by
  cases answer with
  | tokensLoaded => exact .quiet rfl (tokensAnswer_quiet fun takes => ⟨takes, rfl⟩)
  | tokenMetadata => exact .quiet rfl (metadataAnswer_quiet _ _ _)
  | networkAdded =>
    unfold accept
    dsimp only
    split
    · exact .quiet rfl (.of_done (.refl _))
    · exact .quiet rfl (networkAdded_quiet _ _)
  | accountCredential =>
    exact .quiet rfl (acceptCredential_quiet _ fun mine => beq_iff_eq.mpr mine)
  | feeEstimated => exact .quiet rfl (acceptFee_quiet _ _ _)
  | treasuryProbed => exact acceptTreasury_outcome _ _ _
  | timerElapsed => exact .quiet rfl (acceptTimer_quiet _ _)
  | submitted => exact ⟨.submitted rfl rfl, submitted_retells model rfl⟩
  | submitFailed => exact ⟨.failed rfl rfl, .kept (submitFailedAnswer_told _ _ _)⟩
  | recordsPersisted => exact ⟨.persisted rfl rfl, .kept (recordsPersisted_told _ _)⟩
  | trackHandedOff => exact .quiet rfl (trackAnswer_quiet _ _)
  | identityResolved => exact .quiet rfl (identityAnswer_quiet _ _ _)
  | riskResolved => exact .quiet rfl (riskAnswer_quiet _ _ _)
  | simResolved => exact .quiet rfl (simAnswer_quiet _ _ _)
  | postCleared | tokenCacheCleared | feesPrewarmed | passkeyCancelAcknowledged
  | alertAcknowledged | hapticPlayed | closed => exact .quiet rfl (.of_done (.refl _))

theorem step_outcome (event : Event) (model : Model) : Outcome event model (step event model) := by
  cases event with
  | openScreen =>
    exact .reopened rfl (openScreen_reopened _ _ _ _ _ (Nat.le_refl model.attempt))
  | displayChanged =>
    exact .quiet rfl (.of_render ((redenominateToDisplay_kept _).behind (.same rfl rfl rfl)))
  | tokensPartial => exact .quiet rfl (tokensPartial_quiet _ _)
  | holdingsUpdated => exact .quiet rfl (holdingsUpdated_quiet _ _)
  | refreshTokens => exact .quiet rfl (refreshTokens_quiet _)
  | selectToken => exact .quiet rfl (selectToken_quiet fun takes => ⟨takes, rfl⟩)
  | toggleMultiToken => exact .quiet rfl (toggleMultiToken_quiet _ _)
  | toggleAllMultiTokens => exact .quiet rfl (toggleAllMulti_quiet _ _)
  | setMultiNetwork | openContactPicker | closeContactPicker | openScanner | closeScanner
  | openBatchImport | closeBatchImport | feeBusyChanged | dismissTreasurySheet
  | dismissRelayUnreachable => exact .quiet rfl (.of_render (.same rfl rfl rfl))
  | confirmMultiSelection => exact .quiet rfl (confirmMultiSelection_quiet fun takes => ⟨takes, rfl⟩)
  | setRecipient => exact .quiet rfl (setRecipient_quiet _ _)
  | setAmount => exact .quiet rfl (setAmount_quiet _ _)
  | toggleFiatInput => exact .quiet rfl (toggleFiatInput_quiet _)
  | tapMax => exact .quiet rfl (tapMax_quiet _)
  | enterSplitMode => exact .quiet rfl (enterSplitMode_quiet _)
  | seedSplitRecipients => exact .quiet rfl (seedSplit_quiet _ _)
  | appendSplitRecipients => exact .quiet rfl (appendSplit_quiet _ _)
  | recipientsChanged => exact .quiet rfl (recipientsChanged_quiet _ _)
  | pickedAddress => exact .quiet rfl (applyPickedAddress_quiet _ _)
  | scanResolved => exact scanResolved_outcome _ _
  | addNetworkTapped => exact .quiet rfl ⟨.asks 1 rfl rfl rfl, rfl⟩
  | continueTapped => exact .quiet rfl (continueTapped_quiet fun takes => ⟨takes, rfl⟩)
  | back => exact .quiet rfl (handleBack_quiet _)
  | changeToken => exact .quiet rfl (changeToken_quiet _)
  | editAmount => exact .quiet rfl (editAmount_quiet _)
  | chooseFeeToken => exact .quiet rfl (chooseFeeToken_quiet _ _)
  | feeUpdated estimate => exact .quiet rfl (feeUpdated_quiet estimate model)
  | feeFailedChanged => exact .quiet rfl (feeFailedChanged_quiet _ _)
  | feeTokenChanged => exact .quiet rfl (feeTokenChanged_quiet _ _)
  | slideConfirm => exact ⟨.quiet rfl (confirmTapped_quiet _ _), confirmTapped_retells _ _⟩
  | signingStarted => exact .quiet rfl (signingStarted_quiet _)
  | opSigned => exact ⟨.signed rfl rfl, .kept (opSigned_told _ _ _ _)⟩
  | cancelSigning => exact ⟨.cancelled rfl rfl, .kept (cancelSigning_told _)⟩
  | retryAfterBootstrap | retryRelayUnreachable =>
    exact ⟨.quiet rfl (retryAfterBootstrap_quiet fun takes => ⟨takes, rfl⟩),
      retryAfterBootstrap_retells _⟩
  | retryAfterError => exact .quiet rfl (retryAfterError_quiet _)
  | inFlightOps => exact .quiet rfl (inFlightOps_quiet _ _)
  | receiptUpdate => exact .quiet rfl (receiptUpdate_quiet _ _ _)
  | doneTapped => exact .quiet rfl (.of_fire (.refl _) rfl)
  | shellCompleted => exact accept_outcome _ _ _

theorem step_change (event : Event) (model : Model) : Change event model (step event model) :=
  (step_outcome event model).change

theorem update_slot (event : Event) (model : Model) :
    (update event model).1.slot = (step event model).1.slot := by
  show (dropForeignRelayStops (step event model).1).slot = _
  unfold dropForeignRelayStops
  dsimp only
  split
  · rfl
  · rfl

theorem update_attempt (event : Event) (model : Model) :
    (update event model).1.attempt = (step event model).1.attempt := by
  show (dropForeignRelayStops (step event model).1).attempt = _
  unfold dropForeignRelayStops
  dsimp only
  split
  · rfl
  · rfl

/-- The lines of the receipt move only when the screen is opened again, a confirm begins, or the
answer of the submit that is out comes in. -/
theorem update_retells (event : Event) (model : Model) :
    Retells event model (update event model).1 := by
  have lock : (update event model).1.lock = (step event model).1.lock := by
    rw [update, dropForeignRelayStops]
    dsimp only
    split <;> rfl
  have told : (update event model).1.told = (step event model).1.told :=
    dropForeignRelayStops_told _
  rcases (step_outcome event model).retells with same | ⟨free, taken⟩ | reopening | ⟨named, waiting⟩
  · exact .kept (told.trans same)
  · exact .begun free (lock ▸ taken)
  · exact .reopened reopening
  · exact .answered named waiting

end Changes

/-- The runtime of the sample runs: ASCII case, and no digest taken. -/
@[reducible] def plainRuntime : Runtime where
  toCaseTable := Utf8.asciiCaseTable
  describe _ _ := ""
  sha256 _ := []
  debugReview _ := ""

@[reducible] def plainSend : Machine Model Event SendEffect := @machine plainRuntime

def sampleAccount : SendAccountRef :=
  ⟨"account", "0x1111111111111111111111111111111111111111", none⟩

def sampleEther : SendToken where
  network := "ethereum"
  chainId := 1
  symbol := "ETH"
  balance := "2"
  decimals := 18
  tokenAddress := none
  priceUsd := some 1
  logoUrls := []
  spam := false

def samplePayee : String := "0x2222222222222222222222222222222222222222"

def nativeQuote (chainId : UInt32) (totalWei : String) : FeeEstimateView where
  chainId
  totalWei
  maxFeePerGas := "1"
  networkFeePerGas := "1"
  relayerFeePerGas := "0"
  bundlerGasPrice := "1"
  inBandGasBasis := "1"
  effectiveGasPrice := none
  maxGasPrice := none
  totalGas := "1"
  deployed := true
  tier := .standard
  quoted := true
  feeAsset := .native
  feeRecipient := some "0x3333333333333333333333333333333333333333"

/-- The form filled in and `Continue` tapped: the pre-check is out. -/
def sampleCheck : List Event :=
  [.openScreen (some sampleAccount) {} {},
    .shellCompleted 1 (.tokensLoaded (some [sampleEther]) [⟨1, "ethereum", "ETH"⟩]),
    .selectToken sampleEther.id,
    .setRecipient samplePayee,
    .setAmount "1",
    .continueTapped,
    .shellCompleted 5 (.accountCredential (some "04"))]

/-- The pre-check answered: the confirm page is open. -/
def sampleConfirm : List Event := sampleCheck ++
  [.shellCompleted 6 (.feeEstimated (.ok (nativeQuote 1 "1000"))),
    .shellCompleted 7 (.treasuryProbed .covered)]

/-- The confirm tapped and the treasury found to serve: the operation is out. -/
def sampleSubmit : List Event := sampleConfirm ++
  [.slideConfirm none, .shellCompleted 11 (.treasuryProbed .covered)]

end VelaWallet.Send
