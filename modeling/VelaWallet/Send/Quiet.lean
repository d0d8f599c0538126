import VelaWallet.Send.Moves

/-!
# Updates that only move the slot

The handlers of the send machine that sign, record and post nothing: each moves
the slot by single moves, and a handler that may take the slot from a check or a
run says when it does.
-/

namespace VelaWallet.Send

open FeePolicy

variable {taken : Slot → Prop} {ends : Prop} {before after : Model}

/-! ## Single updates -/

theorem render_quiet (model : Model) : Hushed taken ends model (render model) :=
  .of_render (.refl model)

theorem syncIdentity_quiet (model : Model) : Hushed taken ends model (syncIdentity model) := by
  unfold syncIdentity
  split
  · exact .of_done (.same rfl rfl rfl)
  · exact ⟨.asks 1 rfl rfl rfl, rfl⟩

/-- A wait for the warm-up takes the slot from a check or a run. -/
def warmTakes (model : Model) : Bool := model.account.isSome && !model.pipeline.isLoose

theorem warmEstimateStart_quiet {model : Model}
    (takes : warmTakes model = true → taken model.slot) :
    Hushed taken ends model (warmEstimateStart model) := by
  unfold warmEstimateStart
  split
  · exact .of_render (.refl _)
  · next held =>
      refine ⟨.taking 1 ?_ rfl rfl rfl rfl, rfl⟩
      intro busy
      apply takes
      rw [warmTakes, held, busy]
      rfl

section

variable (model : Model)

theorem setMax_kept (exact : String) : Still taken ends model (setMax exact model) := by
  unfold setMax
  generalize maxFigure exact = figure
  exact .same rfl rfl rfl

theorem redenominateToDisplay_kept : Still taken ends model (redenominateToDisplay model) := by
  unfold redenominateToDisplay
  split
  · exact .same rfl rfl rfl
  · split
    · exact .same rfl rfl rfl
    · exact .same rfl rfl rfl

theorem toggleFiatInput_quiet : Hushed taken ends model (toggleFiatInput model) := by
  unfold toggleFiatInput
  split
  · exact .of_done (.same rfl rfl rfl)
  · dsimp only
    generalize (if model.form.amount.isFiat = true then Money.Denom.token
      else model.display.denom) = target
    split
    · exact .of_done (.same rfl rfl rfl)
    · split
      · exact .of_render (.same rfl rfl rfl)
      · split
        · exact .of_render (.same rfl rfl rfl)
        · exact .of_render (.same rfl rfl rfl)

theorem intoSplit_kept (rows : List SendRecipientDraft) (seq : Nat) :
    Still taken ends model (intoSplit rows seq model) := by
  unfold intoSplit
  exact .same rfl rfl rfl

theorem enterSplitMode_quiet : Hushed taken ends model (enterSplitMode model) := by
  unfold enterSplitMode
  split
  · exact .of_done (.same rfl rfl rfl)
  · split
    · exact .of_done (.same rfl rfl rfl)
    · exact .of_render (.same rfl rfl rfl)

theorem bootFetch_quiet : Hushed taken ends model (bootFetch model) := by
  unfold bootFetch
  split
  · exact .of_render (.same rfl rfl rfl)
  · exact ⟨.asks 1 rfl rfl rfl, rfl⟩

theorem tokensPartial_quiet (tokens : List SendToken) :
    Hushed taken ends model (tokensPartial tokens model) := by
  unfold tokensPartial
  split
  · exact .of_done (.same rfl rfl rfl)
  · exact .of_render (.same rfl rfl rfl)

theorem refreshTokens_quiet : Hushed taken ends model (refreshTokens model) := by
  unfold refreshTokens
  split
  · exact .of_done (.same rfl rfl rfl)
  · exact ⟨.asks 2 rfl rfl rfl, rfl⟩

theorem prewarmFees_quiet : Hushed taken ends model (prewarmFees model) := by
  unfold prewarmFees
  split
  · exact .of_done (.same rfl rfl rfl)
  · dsimp only
    split
    · exact .of_done (.same rfl rfl rfl)
    · exact ⟨.asks 1 rfl rfl rfl, rfl⟩

theorem withPicks_kept (ids : List String) : Still taken ends model (withPicks ids model) := by
  unfold withPicks
  exact .same rfl rfl rfl

theorem intoMultiSelect_kept (first : SendToken) (model : Model) :
    Still taken ends model (intoMultiSelect first model) := by
  unfold intoMultiSelect
  exact .same rfl rfl rfl

theorem clearRelayStops_kept : Still taken ends model (clearRelayStops model) := by
  unfold clearRelayStops
  exact .same rfl rfl rfl

theorem watchTreasury_quiet (chainId : UInt32) (model : Model) :
    Hushed taken ends model (watchTreasury chainId model) := by
  unfold watchTreasury
  exact ⟨.asks 1 rfl rfl rfl, rfl⟩

theorem openUnreachable_quiet : Hushed taken ends model (openUnreachable model) := by
  unfold openUnreachable
  split
  · exact .of_render (.same rfl rfl rfl)
  · exact .of_render (.same rfl rfl rfl)

theorem simulate_quiet (input : SimInput) : Hushed taken ends model (simulate input model) := by
  unfold simulate
  exact ⟨.asks 1 rfl rfl rfl, rfl⟩

theorem resolveRisk_quiet (chainId : UInt32) (model : Model) :
    Hushed taken ends model (resolveRisk chainId model) := by
  unfold resolveRisk
  split
  · exact ⟨.asks 1 rfl rfl rfl, rfl⟩
  · exact .of_done (.same rfl rfl rfl)

theorem startPrecheck_quiet (publicKeyHex : String)
    (takes : model.pipeline.run.isSome = true → taken model.slot) :
    Hushed taken ends model (startPrecheck publicKeyHex model) := by
  unfold startPrecheck
  split
  · exact ⟨.moves 3 (.checking takes rfl) rfl rfl rfl, rfl⟩
  · exact .of_done (.refl _)

end

theorem precheckEnded_kept {target : Pipeline} (quote : target.isLoose = true) {model : Model}
    (checking : model.pipeline.isPreCheck = true) :
    Still taken ends model (precheckEnded target model) := by
  unfold precheckEnded
  exact .moves 0 (.checked checking quote) rfl rfl rfl

theorem leaveConfirm_kept (model : Model) : Still taken ends model (leaveConfirm model) := by
  unfold leaveConfirm
  exact .same rfl rfl rfl

theorem backToPicker_quiet (keepRecipient : Bool) (model : Model) :
    Hushed taken ends model (backToPicker keepRecipient model) :=
  .of_render (.same rfl rfl rfl)

theorem submitTreasuryRecheck_quiet {gen : Nat} {model : Model} (publicKeyHex : String)
    (run : model.pipeline.prepares = some gen) :
    Hushed taken ends model (submitTreasuryRecheck gen publicKeyHex model) := by
  unfold submitTreasuryRecheck
  split
  · exact .of_done (.refl _)
  · exact ⟨.moves 1 (.rechecked run rfl) rfl rfl rfl, rfl⟩

theorem runEnded_kept {gen : Nat} {model : Model} (finished : ends) (tx : SendTxStatus)
    (run : model.pipeline.run = some gen) (unsigned : model.pipeline.submitId = none) :
    Still taken ends model (runEnded tx gen model) := by
  unfold runEnded
  exact .moves 0 (.ended finished run unsigned) rfl rfl rfl

section

variable (model : Model)

theorem withFee_kept (fee : FeeEstimate) : Still taken ends model (withFee fee model) := by
  unfold withFee
  exact .same rfl rfl rfl

theorem watchTimerFired_quiet (watch : TreasuryWatch) :
    Hushed taken ends model (watchTimerFired watch model) := by
  unfold watchTimerFired
  split
  · exact .of_done (.same rfl rfl rfl)
  · exact ⟨.asks 1 rfl rfl rfl, rfl⟩

theorem identityAnswer_quiet (id : Nat) (identity : Option SendRecipientIdentity) :
    Hushed taken ends model (identityAnswer id identity model) := by
  unfold identityAnswer
  split
  · exact .of_done (.same rfl rfl rfl)
  · exact .of_render (.same rfl rfl rfl)

theorem riskAnswer_quiet (id : Nat) (risk : Option SendRecipientRisk) :
    Hushed taken ends model (riskAnswer id risk model) := by
  unfold riskAnswer
  split
  · exact .of_done (.same rfl rfl rfl)
  · exact .of_render (.same rfl rfl rfl)

theorem simAnswer_quiet (id : Nat) (simJson : Option String) :
    Hushed taken ends model (simAnswer id simJson model) := by
  unfold simAnswer
  split
  · exact .of_done (.same rfl rfl rfl)
  · exact .of_render (.same rfl rfl rfl)

theorem trackAnswer_quiet (id : Nat) : Hushed taken ends model (trackAnswer id model) := by
  unfold trackAnswer
  split
  · exact .of_done (.same rfl rfl rfl)
  · exact .of_done (.same rfl rfl rfl)

theorem feeFailedChanged_quiet (failed : Bool) :
    Hushed taken ends model (feeFailedChanged failed model) := by
  unfold feeFailedChanged
  split
  · exact .of_done (.same rfl rfl rfl)
  · exact .of_render (.same rfl rfl rfl)

theorem feeTokenChanged_quiet (feeToken : Option String) :
    Hushed taken ends model (feeTokenChanged feeToken model) := by
  unfold feeTokenChanged
  generalize Option.map _ _ = card
  exact .of_render (.same rfl rfl rfl)

end

theorem after_told (receipt : Receipt) (outcome : SendReceiptOutcome) :
    (receipt.after outcome).receiptLines = receipt.receiptLines ∧
      (receipt.after outcome).receiptSigned = receipt.receiptSigned := by
  unfold Receipt.after
  split
  · exact ⟨rfl, rfl⟩
  · split
    · split <;> exact ⟨rfl, rfl⟩
    · split <;> exact ⟨rfl, rfl⟩
  · exact ⟨rfl, rfl⟩
  · exact ⟨rfl, rfl⟩
  · exact ⟨rfl, rfl⟩

section

variable (model : Model)

theorem receiptUpdate_quiet (userOpHash : String) (outcome : SendReceiptOutcome) :
    Hushed taken ends model (receiptUpdate userOpHash outcome model) := by
  unfold receiptUpdate
  split
  · exact .of_done (.same rfl rfl rfl)
  · exact .of_render (.same rfl rfl (Prod.ext (after_told _ _).1 (after_told _ _).2))

theorem signingStarted_quiet : Hushed taken ends model (signingStarted model) := by
  unfold signingStarted
  split
  · exact .of_render (.same rfl rfl rfl)
  · exact .of_done (.same rfl rfl rfl)

theorem retryAfterError_quiet : Hushed taken ends model (retryAfterError model) := by
  unfold retryAfterError
  split
  · exact .of_done (.same rfl rfl rfl)
  · exact .of_render (.same rfl rfl rfl)

theorem inFlightOps_quiet (ops : List InFlightOp) :
    Hushed taken ends model (inFlightOps ops model) := by
  unfold inFlightOps
  split
  · exact .of_done (.same rfl rfl rfl)
  · exact .of_render (.same rfl rfl rfl)

theorem maxFollowUp_quiet (token : SendToken) :
    Hushed taken ends model (maxFollowUp token model) := by
  unfold maxFollowUp
  split
  · exact .of_done (.same rfl rfl rfl)
  · split
    · exact .of_render (setMax_kept _ _)
    · exact .of_render (setMax_kept _ _)
    · split
      · exact .of_render (.refl _)
      · split
        · exact .of_render (.refl _)
        · next idle =>
            exact ⟨.quoted 1 (by rw [not_not.mp idle]; rfl) rfl rfl rfl rfl, rfl⟩

theorem seedSplit_quiet (rows : List SendRecipientDraft) :
    Hushed taken ends model (seedSplit rows model) := by
  unfold seedSplit
  split
  · exact .of_done (.same rfl rfl rfl)
  · exact .of_render (intoSplit_kept _ _ _)

theorem appendSplit_quiet (rows : List SendRecipientDraft) :
    Hushed taken ends model (appendSplit rows model) := by
  unfold appendSplit
  split
  · exact .of_done (.same rfl rfl rfl)
  · exact .of_render (intoSplit_kept _ _ _)

theorem toggleMultiToken_quiet (tokenId : String) :
    Hushed taken ends model (toggleMultiToken tokenId model) := by
  unfold toggleMultiToken
  split
  · exact .of_render (withPicks_kept _ _)
  · split
    · exact .of_render (withPicks_kept _ _)
    · exact .of_done (.same rfl rfl rfl)

theorem toggleAllMulti_quiet (visibleIds : List String) :
    Hushed taken ends model (toggleAllMulti visibleIds model) := by
  unfold toggleAllMulti
  dsimp only
  split
  · exact .of_done (.same rfl rfl rfl)
  · split
    · exact .of_render (withPicks_kept _ _)
    · exact .of_render (withPicks_kept _ _)

end

theorem pickerUpdates_quiet (kept : Still taken ends before after) :
    Hushed taken ends before (all [prewarmFees, render] after) :=
  .of_pair prewarmFees_quiet render_quiet kept

theorem pickerWithoutAToken_quiet (model : Model) : Hushed taken ends model (pickerWithoutAToken model) := by
  unfold pickerWithoutAToken
  split
  · exact pickerUpdates_quiet (.same rfl rfl rfl)
  · exact .of_render (.same rfl rfl rfl)

/-- The token a hand-off names by symbol and network. -/
def selectedByName (symbol network : String) (model : Model) : Option SendToken :=
  model.holdings.tokens.find? fun token =>
    sameText token.symbol symbol && token.network == network

theorem followMax_quiet (model : Model) : Hushed taken ends model (followMax model) := by
  unfold followMax
  split
  · split
    · exact maxFollowUp_quiet _ _
    · exact .of_done (.same rfl rfl rfl)
  · exact .of_done (.same rfl rfl rfl)

theorem tapMax_quiet (model : Model) : Hushed taken ends model (tapMax model) := by
  unfold tapMax
  split
  · exact .of_done (.same rfl rfl rfl)
  · split
    · exact .of_done (.same rfl rfl rfl)
    · split
      · exact .of_done (.same rfl rfl rfl)
      · exact (maxFollowUp_quiet _ _).after_kept (.same rfl rfl rfl)

theorem networkAdded_quiet (outcome : SendAddNetworkOutcome) (model : Model) :
    Hushed taken ends model (networkAdded outcome model) := by
  unfold networkAdded
  dsimp only
  split
  · exact (bootFetch_quiet _).after_kept (.same rfl rfl rfl)
  · exact .of_render (.same rfl rfl rfl)
  · exact .of_render (.same rfl rfl rfl)
  · exact .of_render (.same rfl rfl rfl)

/-- Picking the token takes the slot from a check or a run. -/
def selectTakes (tokenId : String) (model : Model) : Bool :=
  (model.holdings.tokens.find? (·.id == tokenId)).isSome && warmTakes model

theorem selectToken_quiet {tokenId : String} {model : Model}
    (takes : selectTakes tokenId model = true → taken model.slot) :
    Hushed taken ends model (selectToken tokenId model) := by
  unfold selectToken
  split
  · exact .of_done (.refl _)
  · next found =>
      refine (warmEstimateStart_quiet ?_).after_kept (.same rfl rfl rfl)
      intro busy
      apply takes
      rw [selectTakes, found]
      exact busy

theorem openBootstrap_quiet (status : SendTreasuryStatus) (model : Model) :
    Hushed taken ends model (openBootstrap status model) :=
  .of_pair (watchTreasury_quiet _) render_quiet (.same rfl rfl rfl)

theorem simulateNow_quiet (model : Model) : Hushed taken ends model (simulateNow model) := by
  unfold simulateNow
  split
  · exact simulate_quiet _ _
  · exact .of_done (.same rfl rfl rfl)

theorem quoteUpdates_quiet (kept : Still taken ends before after) :
    Hushed taken ends before (all [followMax, render] after) :=
  .of_pair followMax_quiet render_quiet kept

theorem holdingsUpdated_quiet (tokens : List SendToken) (model : Model) :
    Hushed taken ends model (holdingsUpdated tokens model) := by
  unfold holdingsUpdated
  dsimp only
  split
  · exact .of_done (.same rfl rfl rfl)
  · split
    · exact .of_render (.same rfl rfl rfl)
    · exact quoteUpdates_quiet (.same rfl rfl rfl)

/-- Going on with the picks takes the slot from a check or a run. -/
def confirmMultiTakes (model : Model) : Bool := !(pickedTokens model).isEmpty && warmTakes model

theorem confirmMultiSelection_quiet {model : Model}
    (takes : confirmMultiTakes model = true → taken model.slot) :
    Hushed taken ends model (confirmMultiSelection model) := by
  unfold confirmMultiSelection
  split
  · exact .of_done (.refl _)
  · next picked =>
      apply selectToken_quiet
      intro busy
      apply takes
      rw [confirmMultiTakes, picked]
      exact (Bool.and_eq_true_iff.mp busy).2
  · next picked =>
      refine (warmEstimateStart_quiet ?_).after_kept (intoMultiSelect_kept _ _)
      intro busy
      apply takes
      rw [confirmMultiTakes, picked]
      exact busy

theorem openMulti_quiet {joined : String} {model : Model}
    (takes : handedOffTokens joined model ≠ [] → warmTakes model = true → taken model.slot) :
    Hushed taken ends model (openMulti joined model) := by
  unfold openMulti
  split
  · exact pickerWithoutAToken_quiet _
  · next first _ handed =>
      have some_handed : handedOffTokens joined model ≠ [] := by
        rw [handed]
        exact List.cons_ne_nil _ _
      refine (warmEstimateStart_quiet ?_).after_kept
        ((intoMultiSelect_kept first _).behind (.same rfl rfl rfl))
      exact takes some_handed

theorem openSelected_quiet {symbol network : String} {model : Model}
    (takes : (selectedByName symbol network model).isSome = true → warmTakes model = true →
      taken model.slot) :
    Hushed taken ends model (openSelected symbol network model) := by
  unfold openSelected
  split
  · exact pickerWithoutAToken_quiet _
  · next found =>
      have named : (selectedByName symbol network model).isSome = true := by
        rw [selectedByName, found]
        rfl
      refine (warmEstimateStart_quiet ?_).after_kept (.same rfl rfl rfl)
      exact takes named

theorem confirmProbes_quiet (model : Model) : Hushed taken ends model (confirmProbes model) := by
  unfold confirmProbes
  dsimp only
  split
  · exact .of_done (.same rfl rfl rfl)
  · split
    · exact .of_pair (resolveRisk_quiet _) simulateNow_quiet (.same rfl rfl rfl)
    · exact .of_done (.same rfl rfl rfl)

theorem reprobeAfterFee_quiet (model : Model) : Hushed taken ends model (reprobeAfterFee model) := by
  unfold reprobeAfterFee
  split
  · exact .of_done (.same rfl rfl rfl)
  · exact (simulateNow_quiet _).after_kept (.same rfl rfl rfl)

section Handlers

variable [Runtime]

theorem scheduleFormEstimate_quiet (model : Model) : Hushed taken ends model (scheduleFormEstimate model) := by
  unfold scheduleFormEstimate
  split
  · exact .of_done (.same rfl rfl rfl)
  · split
    · exact .of_done (.same rfl rfl rfl)
    · split
      · next idle => exact ⟨.quoted 1 (by rw [idle]; rfl) rfl rfl rfl rfl, rfl⟩
      · next waiting => exact ⟨.quoted 1 (by rw [waiting]; rfl) rfl rfl rfl rfl, rfl⟩
      · exact .of_done (.same rfl rfl rfl)

theorem formEstimateFire_quiet {model : Model} (free : model.pipeline.isLoose = true) :
    Hushed taken ends model (formEstimateFire model) := by
  unfold formEstimateFire
  split
  · exact ⟨.quoted 1 free rfl rfl rfl rfl, rfl⟩
  · exact .of_done (.quoted 0 free rfl rfl rfl rfl)

theorem recipientUpdates_quiet (kept : Still taken ends before after) :
    Hushed taken ends before (all [syncIdentity, scheduleFormEstimate, render] after) :=
  .of_triple syncIdentity_quiet scheduleFormEstimate_quiet render_quiet kept

theorem amountUpdates_quiet (kept : Still taken ends before after) :
    Hushed taken ends before (all [scheduleFormEstimate, render] after) :=
  .of_pair scheduleFormEstimate_quiet render_quiet kept

section

variable (model : Model)

theorem setRecipient_quiet (recipient : String) :
    Hushed taken ends model (setRecipient recipient model) := by
  unfold setRecipient
  split
  · exact .of_done (.same rfl rfl rfl)
  · exact recipientUpdates_quiet (.same rfl rfl rfl)

theorem setAmount_quiet (amount : String) :
    Hushed taken ends model (setAmount amount model) := by
  unfold setAmount
  split
  · exact .of_done (.same rfl rfl rfl)
  · exact amountUpdates_quiet (.same rfl rfl rfl)

theorem handInRecipient_quiet (address : String) :
    Hushed taken ends model (handInRecipient address model) :=
  recipientUpdates_quiet (.same rfl rfl rfl)

theorem recipientsChanged_quiet (rows : List SendRecipientDraft) :
    Hushed taken ends model (recipientsChanged rows model) := by
  unfold recipientsChanged
  split
  · exact recipientUpdates_quiet (.same rfl rfl rfl)
  · exact .of_render (.same rfl rfl rfl)

theorem applyPickedAddress_quiet (address : String) :
    Hushed taken ends model (applyPickedAddress address model) := by
  unfold applyPickedAddress
  dsimp only
  split
  · exact (handInRecipient_quiet _ _).after_kept (.same rfl rfl rfl)
  · split
    · exact .of_render (.same rfl rfl rfl)
    · split
      · exact .of_render (.same rfl rfl rfl)
      · exact .of_render (.same rfl rfl rfl)

theorem finishLockResolution_quiet (token : SendToken) :
    Hushed taken ends model (finishLockResolution token model) :=
  recipientUpdates_quiet (.same rfl rfl rfl)

theorem resolveOpenAsset_quiet : Hushed taken ends model (resolveOpenAsset model) := by
  unfold resolveOpenAsset
  split
  · exact finishLockResolution_quiet _ _
  · exact .of_triple syncIdentity_quiet prewarmFees_quiet render_quiet (.same rfl rfl rfl)

theorem resolveNamedAsset_quiet (full : List SendToken) (chainId : UInt32) :
    Hushed taken ends model (resolveNamedAsset full chainId model) := by
  unfold resolveNamedAsset
  dsimp only
  split
  · exact finishLockResolution_quiet _ _
  · exact finishLockResolution_quiet _ _
  · exact ⟨.asks 1 rfl rfl rfl, rfl⟩

theorem resolveLockedRequest_quiet (full : List SendToken) :
    Hushed taken ends model (resolveLockedRequest full model) := by
  unfold resolveLockedRequest
  split
  · exact .of_render (.same rfl rfl rfl)
  · split
    · exact .of_render (.same rfl rfl rfl)
    · split
      · exact (resolveOpenAsset_quiet _).after_kept (.same rfl rfl rfl)
      · exact (resolveNamedAsset_quiet _ _ _).after_kept (.same rfl rfl rfl)

theorem lockMetaResolved_quiet (tokenMeta : Option SendTokenMeta) :
    Hushed taken ends model (lockMetaResolved tokenMeta model) := by
  unfold lockMetaResolved
  split
  · exact .of_done (.same rfl rfl rfl)
  · dsimp only
    split
    · exact .of_render (.same rfl rfl rfl)
    · exact (finishLockResolution_quiet _ _).after_kept (.same rfl rfl rfl)

end

/-- The hand-off the screen was opened with takes the slot from a check or a run. -/
def handOffTakes (model : Model) : Bool :=
  !model.params.locked &&
    (match model.params.preselectedMulti, model.params.preselectedSymbol,
        model.params.preselectedNetwork with
    | some joined, _, _ => !(handedOffTokens joined model).isEmpty
    | none, some symbol, some network => (selectedByName symbol network model).isSome
    | none, _, _ => false) && warmTakes model

theorem routeHandOff_quiet {full : List SendToken} {model : Model}
    (takes : handOffTakes model = true → taken model.slot) :
    Hushed taken ends model (routeHandOff full model) := by
  unfold routeHandOff
  unfold handOffTakes at takes
  split
  · exact resolveLockedRequest_quiet _ _
  · next unlocked =>
      split
      · next preselected =>
          apply openMulti_quiet
          intro handed busy
          apply takes
          simp only [unlocked, preselected, busy, List.isEmpty_eq_false_iff.mpr handed]
          rfl
      · next preselected named onNetwork =>
          apply openSelected_quiet
          intro found busy
          apply takes
          simp only [unlocked, preselected, named, onNetwork, busy, found]
          rfl
      · split
        · exact .of_pair syncIdentity_quiet pickerWithoutAToken_quiet (.refl _)
        · exact pickerWithoutAToken_quiet _

/-- The model once the list is on the screen. -/
def withList (tokens : List SendToken) (model : Model) : Model :=
  let landed := { model with holdings := { model.holdings with loading := false } }
  { landed with holdings := { landed.holdings with
    tokens := offeredTokens landed (withDisplaySymbols tokens) } }

theorem tokensLoaded_quiet {tokens : Option (List SendToken)} {purpose : TokensPurpose}
    {model : Model} (takes : ∀ list, tokens = some list → purpose = .initial →
      handOffTakes (withList list model) = true → taken model.slot) :
    Hushed taken ends model (tokensLoaded tokens purpose model) := by
  unfold tokensLoaded
  dsimp only
  split
  · exact .of_alert (.same rfl rfl rfl)
  · exact .of_render (.same rfl rfl rfl)
  · next list =>
      split
      · exact (holdingsUpdated_quiet _ _).after_kept (.same rfl rfl rfl)
      · exact (routeHandOff_quiet (takes list rfl rfl)).after_kept (.same rfl rfl rfl)

end Handlers

end VelaWallet.Send
