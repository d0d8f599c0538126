import VelaWallet.Send.Edits

/-!
# Every event makes one edit

The handlers of the send machine, each with the edit it makes.
-/

namespace VelaWallet.Send

open FeePolicy
open Money (DenominatedAmount)

variable [Runtime]

variable {full : List SendToken} {model : Model} {gen : Nat} {outcome : SendFeeOutcome}
  {publicKeyHex : String} {account : SendAccountRef} {stops : RelayStops}

@[simp] theorem scheduleFormEstimate_entry (model : Model) :
    (scheduleFormEstimate model).1.entry = model.entry := by
  unfold scheduleFormEstimate
  split
  · rfl
  · split
    · rfl
    · split
      · next idle => exact @slot_entry model (.formDebounce model.nextId) (by rw [idle]; rfl)
      · next waiting => exact @slot_entry model (.formDebounce model.nextId) (by rw [waiting]; rfl)
      · rfl

theorem scheduleFormEstimate_fees (model : Model) :
    (scheduleFormEstimate model).1.fees = model.fees := by
  unfold scheduleFormEstimate
  split
  · rfl
  · split
    · rfl
    · split
      · rfl
      · rfl
      · rfl

theorem formEstimateFire_entry (free : model.pipeline.continuing = none) :
    (formEstimateFire model).1.entry = model.entry := by
  unfold formEstimateFire
  split
  · next key _ _ _ _ _ =>
      exact @slot_entry model (.formEstimate model.nextId key) free.symm
  · exact @slot_entry model .idle free.symm

@[simp] theorem recipientUpdates_entry (model : Model) :
    (all [syncIdentity, scheduleFormEstimate, render] model).1.entry = model.entry := by
  simp only [all_cons_fst, all_nil_fst, render_fst, scheduleFormEstimate_entry, syncIdentity_entry]

@[simp] theorem amountUpdates_entry (model : Model) :
    (all [scheduleFormEstimate, render] model).1.entry = model.entry := by
  simp only [all_cons_fst, all_nil_fst, render_fst, scheduleFormEstimate_entry]

omit [Runtime] in
@[simp] theorem quoteUpdates_entry (model : Model) :
    (all [followMax, render] model).1.entry = (filled model).entry := by
  simp only [all_cons_fst, all_nil_fst, render_fst, followMax_entry]

omit [Runtime] in
@[simp] theorem confirmPage_entry (model : Model) :
    (all [confirmProbes, render] model).1.entry = model.entry := by
  simp only [all_cons_fst, all_nil_fst, render_fst, confirmProbes_entry]

omit [Runtime] in
/-- Two models that show the same, quote the same and pay in the same coin follow
`Max` the same. -/
theorem filled_congr {left right : Model} (seen : left.entry = right.entry)
    (quoted : left.fees.feeEstimate = right.fees.feeEstimate)
    (coin : left.fees.coin = right.fees.coin) : (filled left).entry = (filled right).entry := by
  have selected : left.holdings.selectedToken = right.holdings.selectedToken :=
    congrArg Entry.selectedToken seen
  have inForce : left.form.maxFill = right.form.maxFill := congrArg Entry.maxFill seen
  have account : left.account = right.account := congrArg Entry.account seen
  have follows : maxFollowed left = maxFollowed right := by
    unfold maxFollowed maxQuote selectedFee quoteIsForFeeCoin
    rw [selected, inForce, account, quoted, coin]
  unfold filled
  rw [follows]
  cases maxFollowed right with
  | none => exact seen
  | some =>
    simp only [setMax_entry, seen]

theorem filled_edit {event : Event} {base : Model} {result : Model × Cmd}
    (free : model.pipeline.continuing = none) (seen : base.entry = model.entry)
    (same : result.1.entry = (filled base).entry) : Edit event model result := by
  rcases filled_cases base with stays | ⟨exact, inForce, _, fills⟩
  · rw [stays] at same
    exact .kept (same.trans seen)
  · rw [fills, setMax_entry, seen] at same
    have wanted : base.form.maxFill = model.form.maxFill := congrArg Entry.maxFill seen
    rw [wanted] at inForce
    exact .filledIn free inForce same

section Handlers

variable {event : Event} {model : Model}

theorem setRecipient_edit (recipient : String) :
    Edit (.setRecipient recipient) model (setRecipient recipient model) := by
  unfold setRecipient
  split
  · exact .kept rfl
  · next unlocked =>
      refine .addressed rfl (Bool.eq_false_of_not_eq_true unlocked) ?_
      exact recipientUpdates_entry (addressing recipient model)

theorem setAmount_edit (amount : String) :
    Edit (.setAmount amount) model (setAmount amount model) := by
  unfold setAmount
  split
  · exact .kept rfl
  · next unlocked =>
      refine .typed rfl (Bool.eq_false_of_not_eq_true unlocked) ?_
      exact amountUpdates_entry (typing amount model)

theorem handInRecipient_entry (address : String) (model : Model) :
    (handInRecipient address model).1.entry = (handingIn address model).entry :=
  recipientUpdates_entry (handingIn address model)

theorem tapMax_edit : Edit .tapMax model (tapMax model) := by
  unfold tapMax
  split
  · exact .kept rfl
  · next form =>
      split
      · exact .kept rfl
      · next owned =>
          split
          · exact .kept rfl
          · next token selected =>
              have free : model.pipeline.continuing = none := by
                rw [← Option.not_isSome_iff_eq_none, Pipeline.continuing_isSome]
                exact owned
              have single : model.form.splitMode = false ∧ model.form.multiSelectMode = false := by
                simpa using form
              refine .maxed rfl free single (by rw [selected]; rfl) ?_
              exact @maxFollowUp_entry token (waitingMax model) selected rfl

theorem enterSplitMode_edit : Edit .enterSplitMode model (enterSplitMode model) := by
  unfold enterSplitMode
  split
  · exact .kept rfl
  · next open_form =>
      have unlocked : model.params.locked = false := by
        simp only [splitLockedOut, Bool.or_eq_true, not_or, Bool.not_eq_true] at open_form
        exact open_form.1
      split
      · exact .kept rfl
      · exact .split rfl unlocked rfl

section

variable (rows : List SendRecipientDraft)
include rows

theorem unlocked_of_split (goes : ¬ (rows.isEmpty || splitLockedOut model) = true) :
    model.params.locked = false := by
  simp only [splitLockedOut, Bool.or_eq_true, not_or, Bool.not_eq_true] at goes
  exact goes.2

theorem seedSplit_edit :
    Edit (.seedSplitRecipients rows) model (seedSplit rows model) := by
  unfold seedSplit
  split
  · exact .kept rfl
  · next goes => exact .split rfl (unlocked_of_split rows goes) rfl

theorem appendSplit_edit :
    Edit (.appendSplitRecipients rows) model (appendSplit rows model) := by
  unfold appendSplit
  split
  · exact .kept rfl
  · next goes => exact .split rfl (unlocked_of_split rows goes) rfl

theorem recipientsChanged_edit :
    Edit (.recipientsChanged rows) model (recipientsChanged rows model) := by
  unfold recipientsChanged
  split
  · next few =>
      refine .single rfl few ?_
      exact recipientUpdates_entry (singleAgain rows model)
  · next several => exact .rowsChanged rfl (Nat.lt_of_not_le several) rfl

end

theorem applyPickedAddress_edit {address : String} {base : Model}
    (named : event.picked = some address) (seen : base.entry = model.entry)
    (target : base.form.pickerTarget = model.form.pickerTarget)
    (plain : reopens event model = false) :
    Edit event model (applyPickedAddress address base) := by
  have splits : base.form.splitMode = model.form.splitMode := congrArg Entry.splitMode seen
  have rows : base.form.recipients = model.form.recipients := congrArg Entry.recipients seen
  have picks : pickedRow base = pickedRow model := by
    unfold pickedRow
    rw [target, rows]
  have shown : ∀ rows : List SendRecipientDraft,
      { base.entry with recipients := rows } = (withRows rows model).entry :=
    fun rows => congrArg (fun entry : Entry => { entry with recipients := rows }) seen
  unfold applyPickedAddress
  dsimp only
  split
  · next single =>
      have one : model.form.splitMode = false := by simpa [splits] using single
      refine .handedIn named plain one ?_
      rw [handInRecipient_entry]
      exact congrArg (fun entry : Entry =>
        { entry with recipient := address, recipientHandedIn := true }) seen
  · next several =>
      have split : model.form.splitMode = true := by simpa [splits] using several
      split
      · next index picked =>
          refine .readdressed named split ?_ (shown (base.form.recipients.modify index _))
          exact .onto (picks.symm.trans picked) (by rw [rows])
      · next unpicked =>
          split
          · next room =>
              refine .readdressed named split ?_ (shown (base.form.recipients ++ _))
              exact .behind (picks.symm.trans unpicked) (rows ▸ room) (by rw [rows])
          · exact .kept seen

theorem tokensPartial_edit (tokens : List SendToken) :
    Edit (.tokensPartial tokens) model (tokensPartial tokens model) := by
  unfold tokensPartial
  split
  · exact .kept rfl
  · exact .partially rfl rfl

omit [Runtime] in
theorem holdingsUpdated_entry {tokens : List SendToken}
    (routed : ∀ id, model.flights.tokens ≠ some (id, .initial)) :
    (holdingsUpdated tokens model).1.entry = (relisted (withDisplaySymbols tokens) model).entry := by
  unfold holdingsUpdated relisted
  dsimp only
  split
  · next id flying => exact absurd flying (routed id)
  · split
    · rfl
    · next onForm =>
        rw [if_pos (not_not.mp onForm)]
        exact quoteUpdates_entry _

theorem holdingsUpdated_edit (tokens : List SendToken) :
    Edit (.holdingsUpdated tokens) model (holdingsUpdated tokens model) := by
  by_cases waiting : ∃ id, model.flights.tokens = some (id, .initial)
  · obtain ⟨id, flying⟩ := waiting
    refine .kept ?_
    unfold holdingsUpdated
    rw [flying]
    rfl
  · exact .updated rfl (holdingsUpdated_entry (not_exists.mp waiting))

theorem finishLockResolution_entry (token : SendToken) (model : Model) :
    (finishLockResolution token model).1.entry = (locking token model).entry :=
  recipientUpdates_entry _

section

variable (locked : model.params.locked = true)
include locked

theorem resolveOpenAsset_routed (narrow : model.lockState.requestChain.isSome = true) :
    Routed full model (resolveOpenAsset model).1.entry := by
  unfold resolveOpenAsset
  split
  · next only held =>
      exact .resolved locked (Or.inl ⟨narrow, held⟩) (finishLockResolution_entry only model)
  · refine .narrowed locked ?_
    simp only [all_cons_fst, all_nil_fst, render_fst, prewarmFees_entry, syncIdentity_entry]
    rfl

theorem resolveNamedAsset_routed {chainId : UInt32}
    (onChain : model.params.prefilledChainId.bind parseIntPrefix = some chainId) :
    Routed full model (resolveNamedAsset full chainId model).1.entry := by
  unfold resolveNamedAsset
  dsimp only
  cases found : requestedToken full chainId
      (model.params.prefilledTokenAddress.map Utf8.toLowercase) with
  | some token =>
    exact .resolved locked (Or.inr ⟨chainId, onChain, Or.inl found⟩)
      (finishLockResolution_entry token model)
  | none =>
    cases named : model.params.prefilledTokenAddress with
    | none =>
      exact .resolved locked (Or.inr ⟨chainId, onChain, Or.inr ⟨named, rfl⟩⟩)
        (finishLockResolution_entry (synthNativeToken model chainId) model)
    | some =>
      exact .looksUp locked onChain (congrArg (Option.map Utf8.toLowercase) named) rfl

theorem Routed.relocked {after : Entry} (lockError : Option SendLockError) (resolvingLock : Bool)
    (routed : Routed full { model with
      lockState := { model.lockState with lockError, resolvingLock } } after) :
    Routed full model after := by
  cases routed with
  | stays same => exact .stays same
  | narrowed locked same => exact .narrowed locked same
  | resolved locked named same => exact .resolved locked named same
  | looksUp locked onChain named same => exact .looksUp locked onChain named same
  | shown unlocked same | selected unlocked named same | swept unlocked named handed same =>
    cases locked.symm.trans unlocked

theorem resolveLockedRequest_routed :
    Routed full model (resolveLockedRequest full model).1.entry := by
  unfold resolveLockedRequest
  split
  · exact .stays rfl
  · next onChain =>
      split
      · exact .stays rfl
      · split
        · next narrow =>
            apply Routed.relocked locked none false
            apply resolveOpenAsset_routed
            · exact locked
            · exact narrow
        · apply Routed.relocked locked model.lockState.lockError true
          apply resolveNamedAsset_routed
          · exact locked
          · exact onChain

end

theorem routeHandOff_routed (full : List SendToken) (model : Model) :
    Routed full model (routeHandOff full model).1.entry := by
  unfold routeHandOff
  split
  · next locked => exact resolveLockedRequest_routed locked
  · next open_request =>
      have unlocked := Bool.eq_false_of_not_eq_true open_request
      split
      · next named =>
          unfold openMulti
          split
          · exact .shown unlocked (pickerWithoutAToken_entry model)
          · next handed =>
              exact .swept unlocked named handed (warmEstimateStart_entry _)
      · next =>
          unfold openSelected
          split
          · exact .shown unlocked (pickerWithoutAToken_entry model)
          · next found => exact .selected unlocked found (warmEstimateStart_entry _)
      · split
        · refine .shown unlocked ?_
          simp only [all_cons_fst, all_nil_fst, pickerWithoutAToken_entry, pickerShown_entry,
            syncIdentity_entry]
        · exact .shown unlocked (pickerWithoutAToken_entry model)

variable {id : Nat}

theorem tokensAnswer_edit {tokens : Option (List SendToken)} {chains : List SendChainInfo} :
    Edit (.shellCompleted id (.tokensLoaded tokens chains)) model
      (tokensAnswer id tokens chains model) := by
  unfold tokensAnswer
  split
  · exact .kept rfl
  · next flying =>
      split
      · exact .kept rfl
      · next mine =>
          rw [not_not.mp mine] at flying
          unfold tokensLoaded
          dsimp only
          split
          · exact .unlisted rfl
          · exact .unlisted rfl
          · next =>
              split
              · exact .refreshed rfl flying (holdingsUpdated_entry nofun)
              · exact .routed rfl flying (routeHandOff_routed _ _)

theorem metadataAnswer_edit {outcome : Option SendTokenMeta} :
    Edit (.shellCompleted id (.tokenMetadata outcome)) model (metadataAnswer id outcome model) := by
  unfold metadataAnswer
  split
  · unfold lockMetaResolved
    split
    · exact .kept rfl
    · next flying =>
        dsimp only
        split
        · exact .looked rfl flying rfl
        · exact .looked rfl flying (finishLockResolution_entry _ _)
  · exact .kept rfl

theorem selectToken_edit (tokenId : String) :
    Edit (.selectToken tokenId) model (selectToken tokenId model) := by
  cases found : model.holdings.tokens.find? (·.id == tokenId) with
  | none =>
    rw [selectToken_missing found]
    exact .kept rfl
  | some => exact .selected rfl found (selectToken_found found)

theorem toggleMultiToken_edit (tokenId : String) :
    Edit (.toggleMultiToken tokenId) model (toggleMultiToken tokenId model) := by
  unfold toggleMultiToken
  split
  · refine .picked rfl ?_ rfl
    intro id member
    exact Or.inl (List.mem_of_mem_erase member)
  · split
    · next visible =>
        refine .picked rfl ?_ rfl
        intro id member
        rcases List.mem_append.mp member with old | new
        · exact Or.inl old
        · obtain ⟨token, shown, named⟩ := List.any_eq_true.mp visible
          rw [List.mem_singleton.mp new]
          exact Or.inr ⟨token, shown, beq_iff_eq.mp named⟩
    · exact .kept rfl

omit [Runtime] in
theorem mem_foldl_withId {id : String} {ids more : List String}
    (member : id ∈ more.foldl withId ids) : id ∈ ids ∨ id ∈ more := by
  induction more generalizing ids with
  | nil => exact Or.inl member
  | cons _ _ ih =>
    rcases ih member with early | late
    · unfold withId at early
      split at early
      · exact Or.inl early
      · rcases List.mem_append.mp early with old | new
        · exact Or.inl old
        · rw [List.mem_singleton.mp new]
          exact Or.inr List.mem_cons_self
    · exact Or.inr (List.mem_cons_of_mem _ late)

theorem toggleAllMulti_edit (visibleIds : List String) :
    Edit (.toggleAllMultiTokens visibleIds) model (toggleAllMulti visibleIds model) := by
  unfold toggleAllMulti
  dsimp only
  split
  · exact .kept rfl
  · split
    · refine .picked rfl ?_ rfl
      intro id member
      exact Or.inl (List.mem_filter.mp member).1
    · refine .picked rfl ?_ rfl
      intro id member
      rcases mem_foldl_withId member with old | new
      · exact Or.inl old
      · have valuable := (List.mem_filter.mp new).1
        obtain ⟨token, shown, named⟩ := List.mem_map.mp valuable
        exact Or.inr ⟨token, (List.mem_filter.mp shown).1, named⟩

theorem confirmMultiSelection_edit :
    Edit .confirmMultiSelection model (confirmMultiSelection model) := by
  unfold confirmMultiSelection
  split
  · exact .kept rfl
  · next only picks =>
      cases found : model.holdings.tokens.find? (·.id == only.id) with
      | none =>
        rw [selectToken_missing found]
        exact .kept rfl
      | some => exact .chosen rfl picks found (selectToken_found found)
  · next rest picks several =>
      cases rest with
      | nil => exact absurd rfl picks
      | cons => exact .swept rfl several (warmEstimateStart_entry _)

omit [Runtime] in
theorem startPrecheck_cases (publicKeyHex : String) (model : Model) :
    (∃ token account, model.holdings.selectedToken = some token ∧ model.account = some account) ∨
      startPrecheck publicKeyHex model = done model := by
  unfold startPrecheck
  split
  · next token account selected held => exact Or.inl ⟨token, account, selected, held⟩
  · exact Or.inr rfl

omit [Runtime] in
theorem startPrecheck_entry {token : SendToken}
    (selected : model.holdings.selectedToken = some token)
    (held : model.account = some account) :
    (startPrecheck publicKeyHex model).1.entry =
      { model.entry with continuing := some (.estimate model.nextId none) } := by
  unfold startPrecheck
  simp only [selected, held]
  simp only [Model.entry, selected, held]
  rfl

omit [Runtime] in
theorem startPrecheck_asks {publicKeyHex : String} {token : SendToken}
    {model : Model} (selected : model.holdings.selectedToken = some token)
    (held : model.account = some account) : AsksFor model (startPrecheck publicKeyHex model).2 := by
  unfold startPrecheck
  simp only [selected, held]
  exact ⟨token, account, _, selected, held, List.mem_cons_self, rfl, rfl, rfl⟩

theorem handleContinue_edit (runs : runsContinue event model = true) :
    Edit event model (handleContinue { model with stops }) := by
  unfold handleContinue
  split
  · exact .kept rfl
  · exact .kept rfl
  · exact .kept rfl
  · next refused gated =>
      have asked : ∀ token account, model.holdings.selectedToken = some token →
          model.account = some account → continues model = true := by
        intro token account selected held
        have unrefused : continueRefusal model = none := refused
        have ungated : feeAssetGate model = none := gated
        simp only [continues, unrefused, ungated, selected, held]
        rfl
      split
      · next token account _ selected held _ =>
          have passes := asked token account selected held
          refine .continued runs passes (Or.inr ⟨rfl, ?_⟩) (startPrecheck_entry selected held)
          exact startPrecheck_asks selected held
      · next token account selected held _ =>
          exact .continued runs (asked token account selected held) (Or.inl rfl) rfl
      · next unkeyed unready =>
          refine .unchecked ?_ ?_
          · cases selected : model.holdings.selectedToken with
            | none => exact Or.inl rfl
            | some token =>
              cases held : model.account with
              | none => exact Or.inr rfl
              | some account =>
                exfalso
                cases keyed : model.publicKeyHex with
                | none => exact unready token account selected held keyed
                | some key => exact unkeyed token account key selected held keyed
          · exact confirmPage_entry _

theorem editAmount_edit : Edit event model (editAmount model) := by
  refine .left ?_
  exact amountUpdates_entry _

theorem handleBack_edit : Edit .back model (handleBack model) := by
  unfold handleBack
  split
  · split
    · refine .left ?_
      exact amountUpdates_entry _
    · exact .kept rfl
  · next onForm =>
      split
      · next sweeping => exact .picking rfl sweeping rfl
      · next single =>
          exact .returned onForm (Or.inl ⟨rfl, Bool.eq_false_of_not_eq_true single, rfl⟩) rfl
  · exact .kept rfl

theorem changeToken_edit : Edit .changeToken model (changeToken model) := by
  unfold changeToken
  split
  · exact .kept rfl
  · next changes =>
      have able : canChangeToken model = true := by simpa using changes
      have onForm : model.step = .enterDetails := by
        simp only [canChangeToken, Bool.and_eq_true, beq_iff_eq] at able
        exact able.1.1.1.1.1.1.1
      exact .returned onForm (Or.inr ⟨rfl, able, rfl⟩) rfl

omit [Runtime] in
theorem startConfirm_entry {model : Model}
    (selected : model.holdings.selectedToken.isSome = true) :
    (startConfirm account model).1.entry = model.entry ∨
      (startConfirm account model).1.entry =
        { model.entry with continuing := none, confirmedReview := modelReview model } := by
  unfold startConfirm
  split
  · exact Or.inl rfl
  · next =>
      right
      dsimp only
      split
      · unfold submitTreasuryRecheck
        split
        · next missing =>
            have absent : model.holdings.selectedToken = none := missing
            rw [absent] at selected
            cases selected
        · rfl
      · rfl

theorem slideConfirm_edit : Edit event model (slideConfirm { model with stops }) := by
  unfold slideConfirm
  split
  · exact .kept rfl
  · next passes =>
      have onPage : model.step = .confirm := by
        simp only [ne_eq, Bool.or_eq_true, decide_eq_true_eq, not_or, not_not] at passes
        exact passes.1
      split
      · next token account selected _ =>
          split
          · refine .left ?_
            exact amountUpdates_entry _
          · next settled =>
              split
              · exact .kept rfl
              · simp only [Bool.or_eq_true, not_or, Bool.not_eq_true] at settled
                have chosen : model.holdings.selectedToken.isSome = true := by
                  rw [show model.holdings.selectedToken = some token from selected]
                  rfl
                rcases @startConfirm_entry account { model with stops } chosen with stays | begins
                · exact .kept stays
                · exact .begun onPage chosen settled.2 settled.1 begins
      · exact .kept rfl

theorem confirmTapped_edit (review : Option String) :
    Edit (.slideConfirm review) model (confirmTapped review model) := by
  unfold confirmTapped
  split
  · split
    · exact @slideConfirm_edit _ model.stops _ model
    · exact .kept rfl
  · exact @slideConfirm_edit _ model.stops _ model

theorem resumeFlow_edit
    (runs : model.step = .enterDetails → runsContinue event model = true) :
    Edit event model (resumeFlow { model with stops }) := by
  unfold resumeFlow
  split
  · next onForm => exact handleContinue_edit (runs onForm)
  · exact slideConfirm_edit
  · exact .kept rfl

theorem continueTapped_edit : Edit .continueTapped model (continueTapped model) := by
  unfold continueTapped
  split
  · exact handleContinue_edit rfl
  · exact @handleContinue_edit _ model.stops _ model rfl

theorem warmCredential_edit {publicKeyHex : Option String}
    (free : model.pipeline.continuing = none) :
    Edit event model (warmCredential publicKeyHex model) := by
  unfold warmCredential
  split
  · apply filled_edit free (@slot_entry model .idle free.symm)
    exact followMax_entry _
  · next =>
      dsimp only
      split
      · exact .kept (@slot_entry model (.warmEstimate model.nextId) free.symm)
      · apply filled_edit free (@slot_entry model .idle free.symm)
        rw [followMax_entry]
        exact filled_congr rfl rfl rfl

omit [Runtime] in
theorem submitTreasuryRecheck_entry (free : model.pipeline.continuing = none) :
    (submitTreasuryRecheck gen publicKeyHex model).1.entry = model.entry := by
  unfold submitTreasuryRecheck
  split
  · rfl
  · exact @slot_entry model (.submitTreasury model.nextId gen publicKeyHex) free.symm

theorem pipelineCredential_edit {publicKeyHex : Option String} :
    Edit (.shellCompleted id (.accountCredential publicKeyHex)) model
      (pipelineCredential id publicKeyHex model) := by
  unfold pipelineCredential
  split
  · next waiting =>
      have credential : model.pipeline.continuing = some .credential := by
        rw [waiting]
        rfl
      split
      · exact .kept rfl
      · split
        · next key =>
            rcases startPrecheck_cases key { model with pipeline := .idle } with
              ⟨token, account, selected, held⟩ | unready
            · refine .keyed rfl credential ?_ (startPrecheck_entry selected held)
              exact @startPrecheck_asks account key token { model with pipeline := .idle }
                selected held
            · rw [unready]
              exact .dropped rfl
        · exact .dropped rfl
  · next waiting =>
      split
      · exact .kept rfl
      · exact warmCredential_edit (by rw [waiting]; rfl)
  · next waiting =>
      have free : model.pipeline.continuing = none := by
        rw [waiting]
        rfl
      split
      · exact .kept rfl
      · split
        · exact .kept (submitTreasuryRecheck_entry free)
        · exact .kept (submitGenericError_entry (by rw [waiting]; rfl))
  · exact .kept rfl

theorem acceptCredential_edit {publicKeyHex : Option String} :
    Edit (.shellCompleted id (.accountCredential publicKeyHex)) model
      (acceptCredential id publicKeyHex model) := by
  unfold acceptCredential
  split
  · exact .kept rfl
  · exact pipelineCredential_edit

omit [Runtime] in
theorem confirmProbes_fees (model : Model) : (confirmProbes model).1.fees = model.fees := by
  unfold confirmProbes
  dsimp only
  split
  · rfl
  · split
    · unfold resolveRisk simulateNow
      simp only [all_cons_fst, all_nil_fst]
      split
      · split
        · rfl
        · rfl
      · split
        · rfl
        · rfl
    · rfl

omit [Runtime] in
/-- The check as its last answer leaves it: settled, given up to a relay stop, or
still waiting. -/
theorem precheckSettle_cases (model : Model) : (∃ feeId treasuryId timerId fee, model.pipeline =
        .preCheck feeId treasuryId timerId (some fee) (some .serves) ∧
      (precheckSettle model).1.fees.feeEstimate = some fee ∧
      (precheckSettle model).1.entry =
        { model.entry with continuing := none, step := .confirm }) ∨
    (precheckSettle model).1.entry = { model.entry with continuing := none } ∨
    (precheckSettle model).1.entry = model.entry := by
  unfold precheckSettle
  split
  · next fee _ checking =>
      dsimp only
      split
      · exact Or.inr (Or.inl rfl)
      · exact Or.inr (Or.inl (openUnreachable_entry _))
      · refine Or.inl ⟨_, _, _, fee, checking, ?_, confirmPage_entry _⟩
        simp only [all_cons_fst, all_nil_fst, render_fst, confirmProbes_fees]
        rfl
  · exact Or.inr (Or.inr rfl)

theorem precheckFee_edit {feeId treasuryId timerId : Nat} {earlier : Option FeeEstimate}
    {treasury : Option TreasuryAnswer}
    (checking : model.pipeline = .preCheck feeId treasuryId timerId earlier treasury) :
    Edit (.shellCompleted feeId (.feeEstimated outcome)) model (precheckFee outcome model) := by
  unfold precheckFee
  rw [checking]
  cases outcome with
  | failed => exact .dropped rfl
  | ok estimate =>
    dsimp only
    cases read : parseFeeView estimate with
    | none => exact .dropped rfl
    | some fee =>
      have waiting : model.pipeline.continuing = some (.estimate feeId earlier) := by
        rw [checking]
        rfl
      dsimp only
      rcases precheckSettle_cases { model with
          pipeline := .preCheck feeId treasuryId timerId (some fee) treasury } with
        ⟨_, _, _, settledFee, complete, inHand, same⟩ | stopped | waits
      · simp only [Pipeline.preCheck.injEq, Option.some.injEq] at complete
        obtain ⟨rfl, rfl, rfl, rfl, rfl⟩ := complete
        exact .settled (.fee rfl checking read) inHand same
      · exact .dropped stopped
      · exact .heard rfl read waiting waits

section

variable (free : model.pipeline.continuing = none)
include free

theorem maxFee_edit :
    Edit event model (maxFee outcome model) := by
  have freed : Model.entry { model with pipeline := .idle } = model.entry :=
    @slot_entry model .idle free.symm
  unfold maxFee
  dsimp only
  split
  · exact .kept freed
  · split
    · refine .kept ?_
      rw [amountUpdates_entry]
      exact freed
    · next token _ _ =>
        have wanted : model.form.maxFill.isSome = true := by
          rwa [← Option.not_isNone, Bool.not_eq_true', ← Bool.not_eq_true]
        split
        · next fee _ =>
            have fills := setMax_entry (maxWithFee token fee)
              (withFee fee { model with pipeline := .idle })
            rw [withFee_entry, freed] at fills
            exact .filledIn free wanted fills
        · have fills := setMax_entry (fullBalance token) { model with pipeline := .idle }
          rw [freed] at fills
          exact .filledIn free wanted fills

theorem warmFee_edit :
    Edit event model (warmFee outcome model) := by
  have freed : Model.entry { model with pipeline := .idle } = model.entry :=
    @slot_entry model .idle free.symm
  unfold warmFee
  dsimp only
  split
  · next fee _ =>
      refine filled_edit free ((withFee_entry _ fee).trans freed) ?_
      simp only [all_cons_fst, all_nil_fst, render_fst, scheduleFormEstimate_entry, followMax_entry]
  · refine filled_edit free freed ?_
    simp only [all_cons_fst, all_nil_fst, render_fst, scheduleFormEstimate_entry, followMax_entry]

theorem formFee_edit {key : String} :
    Edit event model (formFee key outcome model) := by
  have freed : Model.entry { model with pipeline := .idle } = model.entry :=
    @slot_entry model .idle free.symm
  unfold formFee
  dsimp only
  split
  · refine filled_edit free ?_ (quoteUpdates_entry _)
    exact freed
  · exact filled_edit free freed (followMax_entry _)

end

theorem acceptFee_edit :
    Edit (.shellCompleted id (.feeEstimated outcome)) model (acceptFee id outcome model) := by
  unfold acceptFee
  split
  · next checking =>
      split
      · next mine =>
          subst mine
          exact precheckFee_edit checking
      · exact .kept rfl
  · next waiting =>
      have free : model.pipeline.continuing = none := by
        rw [waiting]
        rfl
      split
      · unfold lateFee
        split
        · exact .kept (@slot_entry model .idle free.symm)
        · exact .kept (@slot_entry model .idle free.symm)
      · exact .kept rfl
  · next waiting =>
      split
      · exact maxFee_edit (by rw [waiting]; rfl)
      · exact .kept rfl
  · next waiting =>
      split
      · exact warmFee_edit (by rw [waiting]; rfl)
      · exact .kept rfl
  · next waiting =>
      split
      · exact formFee_edit (by rw [waiting]; rfl)
      · exact .kept rfl
  · exact .kept rfl

theorem acceptTimer_edit (tag : SendTimerTag) :
    Edit (.shellCompleted id (.timerElapsed tag)) model (acceptTimer id model) := by
  unfold acceptTimer
  split
  · exact .kept (watchTimerFired_entry _ _)
  · split
    · next waiting =>
        split
        · exact .kept (formEstimateFire_entry (by rw [waiting]; rfl))
        · exact .kept rfl
    · next =>
        split
        · refine .dropped ?_
          unfold precheckTimeout
          rw [alert_entry]
          split
          · rfl
          · rfl
        · exact .kept rfl
    · exact .kept rfl

theorem acceptWatchProbe_edit {watch : TreasuryWatch} {probe : SendTreasuryProbe}
    (mine : model.stops.treasuryWatch.any (·.probeId == some id) = true) :
    Edit (.shellCompleted id (.treasuryProbed probe)) model
      (acceptWatchProbe watch probe model) := by
  unfold acceptWatchProbe
  split
  · exact .kept rfl
  · next sheet =>
      have shown : model.stops.treasuryBootstrap.isSome = true := by
        rwa [Bool.not_eq_true, Option.isNone_eq_false_iff] at sheet
      split
      · exact .kept rfl
      · dsimp only
        split
        · next onForm =>
            apply resumeFlow_edit
            intro _
            simp only [runsContinue, mine, shown, onForm]
            rfl
        · exact .kept rfl
      · exact .kept rfl
      · exact .kept rfl

section

variable (run : model.pipeline.run = some gen)
include run

theorem submitUserOp_edit
    : Edit event model (submitUserOp gen publicKeyHex model) := by
  unfold submitUserOp
  split
  · exact .kept (submitGenericError_entry run)
  · next plan _ =>
      split
      · exact .kept (submitGenericError_entry run)
      · next =>
          unfold submitPlanned
          split
          · refine .revoked ?_
            exact congrArg (fun entry : Entry => { entry with confirmedReview := none })
              (runEnded_entry .idle run)
          · exact .kept (@slot_entry model (.submitting model.nextId gen plan.chainId plan.lines)
              (Pipeline.continuing_of_run run).symm)

theorem submitTreasuryAnswer_edit {answer : TreasuryAnswer} :
    Edit event model (submitTreasuryAnswer gen publicKeyHex answer model) := by
  unfold submitTreasuryAnswer
  split
  · refine .kept ?_
    rw [openBootstrap_entry]
    exact runEnded_entry .idle run
  · refine .kept ?_
    rw [openUnreachable_entry]
    exact runEnded_entry .idle run
  · exact submitUserOp_edit run

end

theorem acceptTreasury_edit {probe : SendTreasuryProbe} :
    Edit (.shellCompleted id (.treasuryProbed probe)) model (acceptTreasury id probe model) := by
  unfold acceptTreasury
  split
  · next mine =>
      apply acceptWatchProbe_edit
      obtain ⟨held, fits⟩ := Option.filter_eq_some_iff.mp mine
      rw [held]
      exact fits
  · next other =>
      have unwatched : model.stops.treasuryWatch.any (·.probeId == some id) = false := by
        rw [Bool.eq_false_iff, ne_eq, Option.any_eq_true]
        exact fun ⟨watch, held, mine⟩ => Option.filter_eq_none_iff.mp other watch held mine
      split
      · next feeId treasuryId timerId fee _ checking =>
          split
          · next mine =>
              subst mine
              have heard : Model.entry { model with
                  pipeline := .preCheck feeId treasuryId timerId fee (some (.of probe)) } =
                  model.entry :=
                slot_entry (by rw [checking]; rfl)
              rcases precheckSettle_cases { model with
                  pipeline := .preCheck feeId treasuryId timerId fee (some (.of probe)) } with
                ⟨_, _, _, settledFee, complete, inHand, same⟩ | stopped | waits
              · simp only [Pipeline.preCheck.injEq, Option.some.injEq] at complete
                obtain ⟨rfl, rfl, rfl, rfl, serves⟩ := complete
                exact .settled (.treasury rfl unwatched checking serves) inHand same
              · exact .dropped stopped
              · exact .kept (waits.trans heard)
          · exact .kept rfl
      · next waiting =>
          split
          · exact submitTreasuryAnswer_edit (by rw [waiting]; rfl)
          · exact .kept rfl
      · next waiting =>
          split
          · exact .kept (failureAnswer_entry _ _ (by rw [waiting]; rfl))
          · exact .kept rfl
      · exact .kept rfl

theorem submitFailedAnswer_edit {failure : SendSubmitFailure} :
    Edit event model (submitFailedAnswer id failure model) := by
  unfold submitFailedAnswer
  split
  · refine .kept (@slot_entry model _ ?_)
    split
    · next submitting =>
        cases slot : model.pipeline <;> rw [slot] at submitting <;> first | rfl | cases submitting
    · rfl
  · unfold acceptSubmitFailed
    split
    · next submitting =>
        split
        · exact .kept rfl
        · refine .kept ?_
          have free : model.pipeline.continuing = none := by
            rw [submitting]
            rfl
          rw [all_cons_fst, all_cons_fst, all_nil_fst, submitFailed_entry]
          · rw [withdrawWriteAhead_entry]
            exact @slot_entry model .idle free.symm
          · unfold withdrawWriteAhead
            split
            · rfl
            · rfl
    · exact .kept rfl

omit [Runtime] in
theorem openScreen_entry (account : Option SendAccountRef) (params : SendOpenParams)
    (display : SendDisplayContext) (model : Model) :
    (openScreen account params display model).1.entry = opened account params display :=
  bootFetch_entry _

theorem accept_edit (id : Nat) (answer : SendShellResult) :
    Edit (.shellCompleted id answer) model (accept id answer model) := by
  cases answer with
  | tokensLoaded => exact tokensAnswer_edit
  | tokenMetadata => exact metadataAnswer_edit
  | networkAdded =>
    refine .kept ?_
    unfold accept
    dsimp only
    split
    · rfl
    · unfold networkAdded
      dsimp only
      split
      · rw [bootFetch_entry]
        rfl
      · rfl
      · rfl
      · rfl
  | accountCredential => exact acceptCredential_edit
  | feeEstimated => exact acceptFee_edit
  | treasuryProbed => exact acceptTreasury_edit
  | timerElapsed tag => exact acceptTimer_edit tag
  | submitted =>
    exact .kept (submitted_entry _ _ _ _ _ _)
  | submitFailed => exact submitFailedAnswer_edit
  | recordsPersisted => exact .kept (recordsPersisted_entry _ _)
  | trackHandedOff => exact .kept (trackAnswer_entry _ _)
  | identityResolved => exact .kept (identityAnswer_entry _ _ _)
  | riskResolved => exact .kept (riskAnswer_entry _ _ _)
  | simResolved => exact .kept (simAnswer_entry _ _ _)
  | postCleared | tokenCacheCleared | feesPrewarmed | passkeyCancelAcknowledged
  | alertAcknowledged | hapticPlayed | closed => exact .kept rfl

theorem scanResolved_edit (scan : SendScan) :
    Edit (.scanResolved scan) model (scanResolved scan model) := by
  unfold scanResolved
  dsimp only
  split
  · next splitting =>
      refine applyPickedAddress_edit rfl rfl rfl ?_
      cases scan with
      | text => rfl
      | request _ chainId =>
        cases chainId with
        | none => rfl
        | some =>
          rw [reopens, splitting]
          rfl
  · next several =>
      have single := Bool.eq_false_of_not_eq_true several
      split
      · refine .reopened ?_ (openScreen_entry _ _ _ _)
        rw [reopens, single]
        rfl
      · exact .handedIn rfl rfl single (handInRecipient_entry _ _)
      · exact .handedIn rfl rfl single (handInRecipient_entry _ _)

theorem feeUpdated_edit (estimate : FeeEstimateView) :
    Edit (.feeUpdated estimate) model (feeUpdated estimate model) := by
  unfold feeUpdated
  split
  · exact .kept rfl
  · next read =>
      dsimp only
      split
      · refine .kept ?_
        simp only [all_cons_fst, all_nil_fst, render_fst, reprobeAfterFee_entry]
        rfl
      · next onForm => exact .requoted rfl onForm read (quoteUpdates_entry _)

theorem chooseFeeToken_edit (token : Option String) :
    Edit (.chooseFeeToken token) model (chooseFeeToken token model) := by
  unfold chooseFeeToken
  refine .recoined rfl ?_
  simp only [all_cons_fst, all_nil_fst, render_fst, followMax_entry]
  have fees := scheduleFormEstimate_fees { model with fees := { model.fees with
    coin := .picked token, feeCardCoin := none } }
  exact filled_congr (scheduleFormEstimate_entry _) (congrArg Fees.feeEstimate fees)
    (congrArg Fees.coin fees)

theorem step_edit (event : Event) (model : Model) : Edit event model (step event model) := by
  cases event with
  | openScreen => exact .reopened rfl (openScreen_entry _ _ _ _)
  | displayChanged => exact .redisplayed rfl rfl
  | tokensPartial tokens => exact tokensPartial_edit tokens
  | holdingsUpdated tokens => exact holdingsUpdated_edit tokens
  | refreshTokens => exact .kept (refreshTokens_entry _)
  | selectToken tokenId => exact selectToken_edit tokenId
  | toggleMultiToken tokenId => exact toggleMultiToken_edit tokenId
  | toggleAllMultiTokens visibleIds => exact toggleAllMulti_edit visibleIds
  | setMultiNetwork => exact .rescoped rfl rfl
  | confirmMultiSelection => exact confirmMultiSelection_edit
  | setRecipient recipient => exact setRecipient_edit recipient
  | setAmount amount => exact setAmount_edit amount
  | toggleFiatInput => exact .toggled rfl rfl
  | tapMax => exact tapMax_edit
  | enterSplitMode => exact enterSplitMode_edit
  | seedSplitRecipients recipients => exact seedSplit_edit recipients
  | appendSplitRecipients recipients => exact appendSplit_edit recipients
  | recipientsChanged recipients => exact recipientsChanged_edit recipients
  | openContactPicker target | closeContactPicker | openScanner target | closeScanner
  | openBatchImport | closeBatchImport | addNetworkTapped chainId | feeBusyChanged busy
  | feeTokenChanged feeToken | dismissTreasurySheet | dismissRelayUnreachable | doneTapped =>
    exact .kept rfl
  | pickedAddress => exact applyPickedAddress_edit rfl rfl rfl rfl
  | scanResolved scan => exact scanResolved_edit scan
  | continueTapped => exact continueTapped_edit
  | back => exact handleBack_edit
  | changeToken => exact changeToken_edit
  | editAmount => exact editAmount_edit
  | chooseFeeToken token => exact chooseFeeToken_edit token
  | feeUpdated estimate => exact feeUpdated_edit estimate
  | feeFailedChanged => exact .kept (feeFailedChanged_entry _ _)
  | slideConfirm review => exact confirmTapped_edit review
  | signingStarted => exact .kept (signingStarted_entry _)
  | opSigned => exact .kept (opSigned_entry _ _ _ _)
  | cancelSigning => exact .kept (cancelSigning_entry _)
  | retryAfterBootstrap | retryRelayUnreachable =>
    apply resumeFlow_edit
    intro onForm
    exact beq_iff_eq.mpr onForm
  | retryAfterError => exact .kept (retryAfterError_entry _)
  | inFlightOps => exact .kept (inFlightOps_entry _ _)
  | receiptUpdate => exact .kept (receiptUpdate_entry _ _ _)
  | shellCompleted id answer => exact accept_edit id answer

theorem update_entry (event : Event) (model : Model) :
    (update event model).1.entry = (step event model).1.entry :=
  dropForeignRelayStops_entry _

end Handlers

end VelaWallet.Send
