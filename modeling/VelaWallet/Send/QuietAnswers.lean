import VelaWallet.Send.Quiet

/-!
# Checks, confirms and answers that only move the slot

`Continue`, the confirm tap and the answers a pre-check or a quote waits for.
-/

namespace VelaWallet.Send

open FeePolicy

variable [Runtime] {taken : Slot → Prop} {ends : Prop}

variable {model : Model} {gen : Nat}

omit [Runtime] in
theorem confirmPage_quiet {before after : Model} (kept : Still taken ends before after) :
    Hushed taken ends before (all [confirmProbes, render] after) :=
  .of_pair confirmProbes_quiet render_quiet kept

/-- `Continue` finds nothing to refuse, and an account and a token to check for. -/
def continues (model : Model) : Bool :=
  (continueRefusal model).isNone && (feeAssetGate model).isNone &&
    model.holdings.selectedToken.isSome && model.account.isSome

/-- `Continue` takes the slot from a run, or a wait takes it from a check. -/
def continueTakes (model : Model) : Bool :=
  continues model &&
    (if model.publicKeyHex.isSome then model.pipeline.run.isSome else !model.pipeline.isLoose)

omit [Runtime] in
theorem handleContinue_quiet (takes : continueTakes model = true → taken model.slot) :
    Hushed taken ends model (handleContinue model) := by
  unfold handleContinue
  split
  · exact .of_alert (.refl _)
  · exact .of_done (.refl _)
  · exact .of_alert (.refl _)
  · next refused gated =>
      have asked : ∀ token account, model.holdings.selectedToken = some token →
          model.account = some account → continues model = true := by
        intro token account selected held
        simp only [continues, refused, gated, selected, held]
        rfl
      split
      · next token account _ selected held keyed =>
          apply startPrecheck_quiet
          intro running
          apply takes
          simp only [continueTakes, asked token account selected held, keyed, running]
          rfl
      · next token account selected held keyless =>
          refine ⟨.taking 1 ?_ rfl rfl rfl rfl, rfl⟩
          intro busy
          apply takes
          simp only [continueTakes, asked token account selected held, keyless, busy]
          rfl
      · exact confirmPage_quiet (.same rfl rfl rfl)

omit [Runtime] in
theorem precheckSettle_quiet (model : Model) : Hushed taken ends model (precheckSettle model) := by
  unfold precheckSettle
  split
  · next checking =>
      have ended : Still taken ends model (precheckEnded .idle model) :=
        precheckEnded_kept rfl (by rw [checking]; rfl)
      dsimp only
      split
      · exact (openBootstrap_quiet _ _).after_kept (ended.trans (.same rfl rfl rfl))
      · exact (openUnreachable_quiet _).after_kept (ended.trans (.same rfl rfl rfl))
      · exact confirmPage_quiet
          (ended.trans (.trans (.same rfl rfl rfl) ((clearRelayStops_kept _).trans (.same rfl rfl rfl))))
  · exact .of_done (.refl _)

omit [Runtime] in
theorem precheckFail_quiet (kind : SendEstimateFailure)
    (checking : model.pipeline.isPreCheck = true) :
    Hushed taken ends model (precheckFail kind model) :=
  .of_alert (precheckEnded_kept rfl checking)

theorem editAmount_quiet (model : Model) : Hushed taken ends model (editAmount model) :=
  amountUpdates_quiet ((leaveConfirm_kept model).trans (.same rfl rfl rfl))

theorem handleBack_quiet (model : Model) : Hushed taken ends model (handleBack model) := by
  unfold handleBack
  split
  · split
    · exact amountUpdates_quiet ((leaveConfirm_kept model).trans (.same rfl rfl rfl))
    · exact .of_done (.refl _)
  · split
    · exact .of_render (.same rfl rfl rfl)
    · exact backToPicker_quiet _ _
  · exact .of_fire (.refl _) rfl

omit [Runtime] in
theorem changeToken_quiet (model : Model) : Hushed taken ends model (changeToken model) := by
  unfold changeToken
  split
  · exact .of_done (.refl _)
  · exact backToPicker_quiet _ _

omit [Runtime] in
theorem beginConfirm_moves {lock : ReentryLock} {after : Model}
    (locks : model.lock.begin? = some (gen, lock)) (quiet : model.fees.estimatingGas = false)
    (run : after.pipeline.prepares = some gen)
    (slot : after.slot = { (beginConfirm lock model).slot with pipeline := after.pipeline })
    (counted : after.attempt = model.attempt + 1) : Kept taken ends model after where
  counted := by
    rw [counted]
    exact Nat.le_succ _
  moved := by
    rw [slot]
    exact .single (.begun locks quiet run)

omit [Runtime] in
theorem startConfirm_quiet (account : SendAccountRef)
    (quiet : model.fees.estimatingGas = false) (selected : model.holdings.selectedToken.isSome = true) :
    Quiet taken ends model (startConfirm account model) := by
  unfold startConfirm
  split
  · exact Hushed.toQuiet (.of_done (.refl _))
  · next locks =>
      dsimp only
      split
      · unfold submitTreasuryRecheck
        split
        · next missing =>
            have absent : model.holdings.selectedToken = none := missing
            rw [absent] at selected
            cases selected
        · exact ⟨beginConfirm_moves locks quiet rfl rfl rfl, rfl⟩
      · exact ⟨beginConfirm_moves locks quiet rfl rfl rfl, rfl⟩

omit [Runtime] in
theorem not_estimating_of_gate (opened : confirmGateOpen model = true) :
    model.fees.estimatingGas = false := by
  simp only [confirmGateOpen, Bool.and_eq_true, Bool.not_eq_true'] at opened
  exact opened.1.1.1.1.2

theorem slideConfirm_quiet (model : Model) : Quiet taken ends model (slideConfirm model) := by
  unfold slideConfirm
  split
  · exact Hushed.toQuiet (.of_done (.refl _))
  · next passes =>
      have opened : confirmGateOpen model = true := by
        simp only [Bool.or_eq_true, not_or, Bool.not_eq_true, Bool.not_eq_false'] at passes
        exact passes.2
      split
      · next account selected _ =>
          split
          · exact (editAmount_quiet _).toQuiet
          · split
            · exact Hushed.toQuiet (.of_alert (.refl _))
            · exact startConfirm_quiet account (not_estimating_of_gate opened)
                (by rw [selected]; rfl)
      · exact Hushed.toQuiet (.of_done (.refl _))

theorem confirmTapped_quiet (review : Option String) (model : Model) :
    Quiet taken ends model (confirmTapped review model) := by
  unfold confirmTapped
  split
  · split
    · exact slideConfirm_quiet _
    · exact Hushed.toQuiet (.of_render (.refl _))
  · exact slideConfirm_quiet _

/-- A relay stop that is gone on with takes the slot. -/
def resumeTakes (model : Model) : Bool :=
  model.step == .enterDetails && continueTakes (clearRelayStops model)

theorem retryOnForm_quiet (onForm : model.step = .enterDetails)
    (takes : resumeTakes model = true → taken model.slot) :
    Hushed taken ends model (retryAfterBootstrap model) := by
  have page : (clearRelayStops model).step = .enterDetails := onForm
  rw [retryAfterBootstrap, resumeFlow, page]
  refine (handleContinue_quiet ?_).after_kept (clearRelayStops_kept model)
  intro busy
  apply takes
  simp only [resumeTakes, onForm, busy]
  rfl

theorem retryAfterBootstrap_quiet (takes : resumeTakes model = true → taken model.slot) :
    Quiet taken ends model (retryAfterBootstrap model) := by
  by_cases onForm : model.step = .enterDetails
  · exact (retryOnForm_quiet onForm takes).toQuiet
  · have resumed : Quiet taken ends (clearRelayStops model) (retryAfterBootstrap model) := by
      unfold retryAfterBootstrap resumeFlow
      split
      · next page => exact absurd page onForm
      · exact slideConfirm_quiet _
      · exact Hushed.toQuiet (.of_render (.refl _))
    exact ⟨⟨resumed.counted, resumed.moved⟩, resumed.effects⟩

variable (outcome : SendFeeOutcome)

/-- The `Continue` event takes the slot. -/
def continueEventTakes (model : Model) : Bool :=
  continueTakes (if model.step = .enterDetails then clearRelayStops model else model)

omit [Runtime] in
theorem continueTapped_quiet (takes : continueEventTakes model = true → taken model.slot) :
    Hushed taken ends model (continueTapped model) := by
  unfold continueTapped
  unfold continueEventTakes at takes
  split
  · next onForm =>
      rw [if_pos onForm] at takes
      exact (handleContinue_quiet takes).after_kept (clearRelayStops_kept model)
  · next elsewhere =>
      rw [if_neg elsewhere] at takes
      exact handleContinue_quiet takes

omit [Runtime] in
theorem submitGenericError_quiet (finished : ends)
    (run : model.pipeline.run = some gen) (unsigned : model.pipeline.submitId = none) :
    Hushed taken ends model (submitGenericError gen model) :=
  .of_fire ((runEnded_kept finished .error run unsigned).trans (.same rfl rfl rfl)) rfl

omit [Runtime] in
theorem warmCredential_quiet (publicKeyHex : Option String) (free : model.pipeline.isLoose = true) :
    Hushed taken ends model (warmCredential publicKeyHex model) := by
  unfold warmCredential
  split
  · exact (followMax_quiet _).after_kept (.quoted 0 free rfl rfl rfl rfl)
  · dsimp only
    split
    · exact ⟨.quoted 1 free rfl rfl rfl rfl, rfl⟩
    · exact (followMax_quiet _).after_kept (.quoted 0 free rfl rfl rfl rfl)

omit [Runtime] in
theorem pipelineCredential_quiet {id : Nat} (publicKeyHex : Option String)
    (finished : model.pipeline.awaits = some id → ends) :
    Hushed taken ends model (pipelineCredential id publicKeyHex model) := by
  unfold pipelineCredential
  split
  · next waiting =>
      have free : model.pipeline.isLoose = true := by rw [waiting]; rfl
      split
      · exact .of_done (.refl _)
      · split
        · refine (startPrecheck_quiet _ _ ?_).after_kept (.quoted 0 free rfl rfl rfl rfl)
          intro running
          cases running
        · exact .of_alert (.quoted 0 free rfl rfl rfl rfl)
  · next waiting =>
      split
      · exact .of_done (.refl _)
      · exact warmCredential_quiet _ (by rw [waiting]; rfl)
  · next gen waiting =>
      have run : model.pipeline.run = some gen := by rw [waiting]; rfl
      have unsigned : model.pipeline.submitId = none := by rw [waiting]; rfl
      split
      · exact .of_done (.refl _)
      · next mine =>
          split
          · exact submitTreasuryRecheck_quiet _ (by rw [waiting]; rfl)
          · apply submitGenericError_quiet _ run unsigned
            apply finished
            rw [waiting, ← not_not.mp mine]
            rfl
  · exact .of_done (.refl _)

omit [Runtime] in
theorem acceptCredential_quiet {id : Nat} (publicKeyHex : Option String)
    (finished : model.pipeline.awaits = some id → ends) :
    Hushed taken ends model (acceptCredential id publicKeyHex model) := by
  unfold acceptCredential
  split
  · exact .of_done (.same rfl rfl rfl)
  · exact pipelineCredential_quiet _ finished

omit [Runtime] in
theorem precheckFee_quiet (checking : model.pipeline.isPreCheck = true) :
    Hushed taken ends model (precheckFee outcome model) := by
  unfold precheckFee
  split
  · split
    · exact (precheckSettle_quiet _).after_kept (.moves 0 (.heard checking rfl) rfl rfl rfl)
    · exact precheckFail_quiet _ checking
  · exact precheckFail_quiet _ checking
  · exact .of_done (.refl _)

omit [Runtime] in
theorem lateFee_quiet
    (free : model.pipeline.isLoose = true) : Hushed taken ends model (lateFee outcome model) := by
  unfold lateFee
  split
  · exact .of_render ((withFee_kept _ _).behind (.quoted 0 free rfl rfl rfl rfl))
  · exact .of_done (.quoted 0 free rfl rfl rfl rfl)

theorem maxFee_quiet
    (free : model.pipeline.isLoose = true) : Hushed taken ends model (maxFee outcome model) := by
  have emptied : Still taken ends model { model with pipeline := .idle } := .quoted 0 free rfl rfl rfl rfl
  unfold maxFee
  dsimp only
  split
  · exact .of_done emptied
  · split
    · exact amountUpdates_quiet (emptied.trans (.same rfl rfl rfl))
    · split
      · exact .of_render (emptied.trans ((withFee_kept _ _).trans (setMax_kept _ _)))
      · exact .of_render (emptied.trans (setMax_kept _ _))

theorem warmFee_quiet
    (free : model.pipeline.isLoose = true) : Hushed taken ends model (warmFee outcome model) := by
  have emptied : Still taken ends model { model with pipeline := .idle } := .quoted 0 free rfl rfl rfl rfl
  unfold warmFee
  dsimp only
  split
  · exact .of_triple followMax_quiet scheduleFormEstimate_quiet render_quiet
      (emptied.trans (withFee_kept _ _))
  · exact .of_triple followMax_quiet scheduleFormEstimate_quiet render_quiet emptied

omit [Runtime] in
theorem formFee_quiet (key : String) (outcome : SendFeeOutcome)
    (free : model.pipeline.isLoose = true) : Hushed taken ends model (formFee key outcome model) := by
  have emptied : Still taken ends model { model with pipeline := .idle } := .quoted 0 free rfl rfl rfl rfl
  unfold formFee
  dsimp only
  split
  · exact quoteUpdates_quiet (emptied.trans (.same rfl rfl rfl))
  · exact (followMax_quiet _).after_kept emptied

theorem acceptFee_quiet (id : Nat) (outcome : SendFeeOutcome) (model : Model) :
    Hushed taken ends model (acceptFee id outcome model) := by
  unfold acceptFee
  split
  · next checking =>
      split
      · exact precheckFee_quiet _ (by rw [checking]; rfl)
      · exact .of_done (.refl _)
  · next waiting =>
      split
      · exact lateFee_quiet _ (by rw [waiting]; rfl)
      · exact .of_done (.refl _)
  · next waiting =>
      split
      · exact maxFee_quiet _ (by rw [waiting]; rfl)
      · exact .of_done (.refl _)
  · next waiting =>
      split
      · exact warmFee_quiet _ (by rw [waiting]; rfl)
      · exact .of_done (.refl _)
  · next waiting =>
      split
      · exact formFee_quiet _ _ (by rw [waiting]; rfl)
      · exact .of_done (.refl _)
  · exact .of_done (.refl _)

omit [Runtime] in
theorem precheckTimeout_quiet {feeId : Nat} {fee : Option FeeEstimate}
    (checking : model.pipeline.isPreCheck = true) :
    Hushed taken ends model (precheckTimeout feeId fee model) := by
  unfold precheckTimeout
  apply Hushed.of_alert
  apply precheckEnded_kept _ checking
  split
  · rfl
  · rfl

theorem acceptTimer_quiet (id : Nat) (model : Model) :
    Hushed taken ends model (acceptTimer id model) := by
  unfold acceptTimer
  split
  · exact watchTimerFired_quiet _ _
  · split
    · next waiting =>
        split
        · exact formEstimateFire_quiet (by rw [waiting]; rfl)
        · exact .of_done (.refl _)
    · next checking =>
        split
        · exact precheckTimeout_quiet (by rw [checking]; rfl)
        · exact .of_done (.refl _)
    · exact .of_done (.refl _)

/-- The float is back: the flow the treasury sheet stopped takes the slot. -/
def watchTakes (probe : SendTreasuryProbe) (model : Model) : Bool :=
  model.stops.treasuryBootstrap.isSome && probe == .covered && resumeTakes model

theorem acceptWatchProbe_quiet {watch : TreasuryWatch} {probe : SendTreasuryProbe}
    (takes : watchTakes probe model = true → taken model.slot) :
    Hushed taken ends model (acceptWatchProbe watch probe model) := by
  unfold acceptWatchProbe
  split
  · exact .of_done (.same rfl rfl rfl)
  · next sheet =>
      have shown : model.stops.treasuryBootstrap.isSome = true := by
        rwa [Bool.not_eq_true, Option.isNone_eq_false_iff] at sheet
      split
      · exact .of_pair (watchTreasury_quiet _) render_quiet (.same rfl rfl rfl)
      · dsimp only
        split
        · next form =>
            refine (retryOnForm_quiet form ?_).after_kept (.same rfl rfl rfl)
            intro resumes
            apply takes
            rw [watchTakes, shown]
            exact resumes
        · exact .of_render (.same rfl rfl rfl)
      · exact watchTreasury_quiet _ _
      · exact watchTreasury_quiet _ _

omit [Runtime] in
theorem failureAnswer_quiet (finished : ends) (fallback : FailureFallback)
    (answer : TreasuryAnswer) (run : model.pipeline.run = some gen)
    (unsigned : model.pipeline.submitId = none) :
    Hushed taken ends model (failureAnswer gen fallback answer model) := by
  unfold failureAnswer
  split
  · exact (openBootstrap_quiet _ _).after_kept (runEnded_kept finished _ run unsigned)
  · exact (openUnreachable_quiet _).after_kept (runEnded_kept finished _ run unsigned)
  · exact .of_fire ((runEnded_kept finished .error run unsigned).trans (.same rfl rfl rfl)) rfl

/-- The list's answer takes the slot, by the hand-off it routes. -/
def tokensTake (id : Nat) (tokens : Option (List SendToken)) (chains : List SendChainInfo)
    (model : Model) : Bool :=
  match tokens, model.flights.tokens with
  | some list, some (expect, .initial) =>
    expect == id && handOffTakes (withList list { model with
      flights := { model.flights with tokens := none }
      holdings := { model.holdings with chains } })
  | _, _ => false

theorem tokensAnswer_quiet {id : Nat} {tokens : Option (List SendToken)}
    {chains : List SendChainInfo}
    (takes : tokensTake id tokens chains model = true → taken model.slot) :
    Hushed taken ends model (tokensAnswer id tokens chains model) := by
  unfold tokensAnswer
  split
  · exact .of_done (.refl _)
  · next flying =>
      split
      · exact .of_done (.refl _)
      · next mine =>
          refine (tokensLoaded_quiet ?_).after_kept (.same rfl rfl rfl)
          rintro list rfl rfl busy
          apply takes
          simp only [tokensTake, flying, not_not.mp mine, beq_self_eq_true]
          exact busy

theorem metadataAnswer_quiet (id : Nat) (tokenMeta : Option SendTokenMeta) (model : Model) :
    Hushed taken ends model (metadataAnswer id tokenMeta model) := by
  unfold metadataAnswer
  split
  · exact lockMetaResolved_quiet _ _
  · exact .of_done (.refl _)

omit [Runtime] in
theorem feeUpdated_quiet (estimate : FeeEstimateView) (model : Model) :
    Hushed taken ends model (feeUpdated estimate model) := by
  unfold feeUpdated
  split
  · exact .of_done (.refl _)
  · dsimp only
    split
    · exact .of_pair reprobeAfterFee_quiet render_quiet (.same rfl rfl rfl)
    · exact quoteUpdates_quiet (.same rfl rfl rfl)

theorem chooseFeeToken_quiet (token : Option String) (model : Model) :
    Hushed taken ends model (chooseFeeToken token model) :=
  .of_triple scheduleFormEstimate_quiet followMax_quiet render_quiet (.same rfl rfl rfl)

end VelaWallet.Send
