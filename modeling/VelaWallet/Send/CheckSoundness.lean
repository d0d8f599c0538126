import VelaWallet.Send.EditCases

/-!
# What the confirm page shows

While nothing that arrives during a check changes the form, the confirm page a
check opens shows the form `Continue` found nothing to refuse in, beside the
estimate asked for it.
-/

namespace VelaWallet.Send

open FeePolicy

variable {event : Event} {full : List SendToken} {model : Model} {display : SendDisplayContext}
  {recipient : String} {left right base : Model}

/-- What a token is: its chain, contract and decimals. -/
structure Asset where
  chainId : UInt32
  tokenAddress : Option String
  decimals : UInt32
  deriving DecidableEq

def SendToken.asset (token : SendToken) : Asset :=
  ⟨token.chainId, token.tokenAddress, token.decimals⟩

/-- Who is paid, and how much: one recipient and its amount in the token's unit,
the rows of a split, or the picks of a sweep, each with what is held of it. -/
inductive Payees where
  | single (recipient amount : String)
  | split (rows : List (String × String))
  | sweep (recipient : String) (picks : List (String × List Asset))
  deriving DecidableEq

/-- What the form pays. -/
structure Draft where
  token : Option Asset
  payees : Payees
  deriving DecidableEq

/-- The token amount of the single form. -/
def singleAmount (model : Model) : String :=
  match model.holdings.selectedToken with
  | some token => modelTokenAmount model token
  | none => ""

/-- The addresses and amounts of a split's rows. -/
def paidRows (rows : List SendRecipientDraft) : List (String × String) :=
  rows.map fun row => (row.address, row.amount)

/-- The picks of a sweep, each with the holdings it stands for. -/
def heldPicks (ids : List String) (tokens : List SendToken) : List (String × List Asset) :=
  ids.map fun id => (id, (tokens.filter (·.id == id)).map (·.asset))

def draft (model : Model) : Draft where
  token := model.holdings.selectedToken.map (·.asset)
  payees :=
    if model.form.multiSelectMode then
      .sweep model.form.recipient (heldPicks model.form.multiSelectedIds model.holdings.tokens)
    else if model.form.splitMode then .split (paidRows model.form.recipients)
    else .single model.form.recipient (singleAmount model)

theorem draft_eq
    (token : left.holdings.selectedToken.map (·.asset) = right.holdings.selectedToken.map (·.asset))
    (sweeps : left.form.multiSelectMode = right.form.multiSelectMode)
    (splits : right.form.multiSelectMode = false → left.form.splitMode = right.form.splitMode)
    (recipient : right.form.multiSelectMode = true ∨ right.form.splitMode = false →
      left.form.recipient = right.form.recipient)
    (picks : right.form.multiSelectMode = true →
      heldPicks left.form.multiSelectedIds left.holdings.tokens =
        heldPicks right.form.multiSelectedIds right.holdings.tokens)
    (rows : right.form.multiSelectMode = false → right.form.splitMode = true →
      paidRows left.form.recipients = paidRows right.form.recipients)
    (amount : right.form.multiSelectMode = false → right.form.splitMode = false →
      singleAmount left = singleAmount right) : draft left = draft right := by
  unfold draft
  rw [token, sweeps]
  cases sweeping : right.form.multiSelectMode with
  | true =>
    rw [recipient (Or.inl sweeping), picks sweeping]
    rfl
  | false =>
    rw [splits sweeping]
    cases splitting : right.form.splitMode with
    | true =>
      rw [rows sweeping splitting]
      rfl
    | false =>
      rw [recipient (Or.inr splitting), amount sweeping splitting]
      rfl

theorem draft_of_entry (seen : left.entry = right.entry) :
    draft left = draft right := by
  have selected : left.holdings.selectedToken = right.holdings.selectedToken :=
    congrArg Entry.selectedToken seen
  have tokens : left.holdings.tokens = right.holdings.tokens := congrArg Entry.tokens seen
  have display : left.display = right.display := congrArg Entry.display seen
  have amount : left.form.amount = right.form.amount := congrArg Entry.amount seen
  have maxFill : left.form.maxFill = right.form.maxFill := congrArg Entry.maxFill seen
  have ids : left.form.multiSelectedIds = right.form.multiSelectedIds :=
    congrArg Entry.multiSelectedIds seen
  apply draft_eq
  · rw [selected]
  · exact congrArg Entry.multiSelectMode seen
  · exact fun _ => congrArg Entry.splitMode seen
  · exact fun _ => congrArg Entry.recipient seen
  · intro _
    rw [ids, tokens]
  · exact fun _ _ => congrArg (fun entry : Entry => paidRows entry.recipients) seen
  · intro _ _
    unfold singleAmount modelTokenAmount displayPrice
    rw [selected, display, amount, maxFill]

theorem exists_slot (next : Option Checking) :
    ∃ pipeline : Pipeline, pipeline.continuing = next := by
  cases next with
  | none => exact ⟨.idle, rfl⟩
  | some check =>
    cases check with
    | credential => exact ⟨.continueCredential 0, rfl⟩
    | estimate feeId fee => exact ⟨.preCheck feeId 0 0 fee none, rfl⟩

theorem draft_of_check {next : Option Checking} {after : Model}
    (seen : after.entry = { model.entry with continuing := next }) : draft after = draft model := by
  obtain ⟨pipeline, rfl⟩ := exists_slot next
  exact @draft_of_entry after { model with pipeline } seen

/-- What may be paid: a token is selected, every address is well formed and every
amount positive. -/
def Draft.Sound (paid : Draft) : Prop :=
  paid.token.isSome = true ∧
    match paid.payees with
    | .single recipient amount => isValidAddress recipient = true ∧ isPositiveFigure amount = true
    | .split rows => rows ≠ [] ∧
        ∀ row ∈ rows, isValidAddress (Utf8.trim row.1) = true ∧ isPositiveFigure row.2 = true
    | .sweep recipient picks => isValidAddress recipient = true ∧ ∃ pick ∈ picks, pick.2 ≠ []

theorem not_sound_of_recipient {paid : Draft} {amount : String}
    (single : paid.payees = .single recipient amount) (invalid : isValidAddress recipient = false) :
    ¬ paid.Sound := by
  rintro ⟨_, sound⟩
  rw [single] at sound
  cases invalid.symm.trans sound.1

/-- The balance covers what is paid, as `Continue` judges it. -/
def Covers (model : Model) : Prop :=
  if model.form.multiSelectMode then True
  else if model.form.splitMode then
    ∀ token, model.holdings.selectedToken = some token →
      ∃ total, sumSplitBaseUnits model.form.recipients token.decimals.toNat = some total ∧
        total ≤ (toBaseUnits (fullBalance token) token.decimals.toNat).getD 0
  else deriveAmountWarning model = none

theorem sweep_sound (sweeping : model.form.multiSelectMode = true)
    (selected : model.holdings.selectedToken.isSome = true)
    (unrefused : continueRefusal model = none) : (draft model).Sound := by
  unfold continueRefusal at unrefused
  rw [if_pos sweeping] at unrefused
  split at unrefused
  · cases unrefused
  · next valid =>
      split at unrefused
      · cases unrefused
      · next some_picked =>
          rw [Bool.not_eq_true, List.isEmpty_eq_false_iff] at some_picked
          obtain ⟨token, picked⟩ := List.exists_mem_of_ne_nil _ some_picked
          obtain ⟨held, chosen⟩ := List.mem_filter.mp picked
          refine ⟨by rw [draft, Option.isSome_map]; exact selected, ?_⟩
          simp only [draft, sweeping, if_true]
          refine ⟨by simpa using valid, _, List.mem_map_of_mem (List.contains_iff_mem.mp chosen), ?_⟩
          apply List.ne_nil_of_mem
          apply List.mem_map_of_mem
          exact List.mem_filter.mpr ⟨held, beq_self_eq_true _⟩

theorem split_sound (single : model.form.multiSelectMode = false)
    (splitting : model.form.splitMode = true)
    (selected : model.holdings.selectedToken.isSome = true)
    (unrefused : continueRefusal model = none) : (draft model).Sound ∧ Covers model := by
  obtain ⟨token, chosen⟩ := Option.isSome_iff_exists.mp selected
  unfold continueRefusal at unrefused
  simp only [single, splitting, chosen, Bool.false_eq_true, if_false, if_true] at unrefused
  split at unrefused
  · cases unrefused
  · next valid =>
      have rows : recipientsAreValid model.form.recipients = true := by simpa using valid
      simp only [recipientsAreValid, Bool.and_eq_true, Bool.not_eq_true', List.all_eq_true,
        List.isEmpty_eq_false_iff] at rows
      constructor
      · refine ⟨by rw [draft, Option.isSome_map]; exact selected, ?_⟩
        simp only [draft, single, splitting, Bool.false_eq_true, if_false, if_true]
        constructor
        · intro empty
          exact rows.1 (List.map_eq_nil_iff.mp empty)
        · intro row member
          obtain ⟨entered, held, rfl⟩ := List.mem_map.mp member
          exact rows.2 entered held
      · unfold Covers
        rw [single, splitting, if_neg Bool.false_ne_true, if_pos rfl]
        intro other held
        rw [chosen] at held
        cases held
        split at unrefused
        · cases unrefused
        · next total summed =>
            split at unrefused
            · cases unrefused
            · next within => exact ⟨total, summed, Nat.le_of_not_lt within⟩

theorem single_sound (single : model.form.multiSelectMode = false)
    (whole : model.form.splitMode = false)
    (selected : model.holdings.selectedToken.isSome = true)
    (unrefused : continueRefusal model = none) : (draft model).Sound ∧ Covers model := by
  obtain ⟨token, chosen⟩ := Option.isSome_iff_exists.mp selected
  unfold continueRefusal at unrefused
  simp only [single, whole, chosen, Bool.false_eq_true, if_false] at unrefused
  split at unrefused
  · cases unrefused
  · next valid =>
      split at unrefused
      · cases unrefused
      · next positive =>
          constructor
          · refine ⟨by rw [draft, Option.isSome_map]; exact selected, ?_⟩
            simp only [draft, single, whole, Bool.false_eq_true, if_false, singleAmount, chosen]
            exact ⟨by simpa using valid, by simpa using positive⟩
          · unfold Covers
            rw [single, whole, if_neg Bool.false_ne_true, if_neg Bool.false_ne_true]
            exact Option.map_eq_none_iff.mp unrefused

theorem continues_sound (passes : continues model = true) : (draft model).Sound ∧ Covers model := by
  simp only [continues, Bool.and_eq_true, Option.isNone_iff_eq_none] at passes
  obtain ⟨⟨⟨unrefused, _⟩, selected⟩, _⟩ := passes
  cases sweeping : model.form.multiSelectMode with
  | true =>
    refine ⟨sweep_sound sweeping selected unrefused, ?_⟩
    rw [Covers, if_pos sweeping]
    trivial
  | false =>
    cases splitting : model.form.splitMode with
    | true => exact split_sound sweeping splitting selected unrefused
    | false => exact single_sound sweeping splitting selected unrefused

/-! ## Edits that leave what is paid -/

def keepsAmount (edited model : Model) : Bool :=
  model.form.multiSelectMode || model.form.splitMode || singleAmount edited == singleAmount model

/-- The recipient stays, or the rows name who is paid. -/
def keepsRecipient (recipient : String) (model : Model) : Bool :=
  model.form.splitMode && !model.form.multiSelectMode || recipient == model.form.recipient

/-- The rows pay what the split's rows pay. -/
def keepsRows (rows : List SendRecipientDraft) (model : Model) : Bool :=
  paidRows rows == paidRows model.form.recipients

/-- A pick lands where its address is already. -/
def keepsPicked (address : String) (model : Model) : Bool :=
  if model.form.splitMode then
    model.form.multiSelectMode ||
      match pickedRow model with
      | some index => model.form.recipients[index]?.all (·.address == address)
      | none => batchMaxRecipients ≤ model.form.recipients.length
  else address == model.form.recipient

/-- The rows left after a change of them pay what was paid. -/
def keepsChangedRows (rows : List SendRecipientDraft) (model : Model) : Bool :=
  if rows.length ≤ 1 then
    (model.form.multiSelectMode || !model.form.splitMode) &&
      (rows.head?.map (·.address)).getD "" == model.form.recipient &&
      keepsAmount (singleAgain rows model) model
  else model.form.multiSelectMode || !model.form.splitMode ||
    keepsRows (rows.take batchMaxRecipients) model

theorem amount_draft {edited : Model}
    (token : edited.holdings.selectedToken = model.holdings.selectedToken)
    (tokens : edited.holdings.tokens = model.holdings.tokens)
    (form : edited.form = { model.form with
      amount := edited.form.amount, maxFill := edited.form.maxFill
      fiatOrigin := edited.form.fiatOrigin })
    (keeps : keepsAmount edited model = true) : draft edited = draft model := by
  apply draft_eq
  · rw [token]
  · rw [form]
  · intro _
    rw [form]
  · intro _
    rw [form]
  · intro _
    rw [form, tokens]
  · intro _ _
    rw [form]
  · intro single whole
    simpa only [keepsAmount, single, whole, Bool.false_or, beq_iff_eq] using keeps

theorem addressing_draft (keeps : keepsRecipient recipient model = true) :
    draft (addressing recipient model) = draft model := by
  apply draft_eq
  · rfl
  · rfl
  · exact fun _ => rfl
  · intro named
    show recipient = _
    rcases named with sweeping | whole
    · simpa [keepsRecipient, sweeping] using keeps
    · simpa [keepsRecipient, whole] using keeps
  · exact fun _ => rfl
  · exact fun _ _ => rfl
  · exact fun _ _ => rfl

variable {rows : List SendRecipientDraft}

/-- Other rows pay the same in a sweep, in a single form, or when they are paid the
same. -/
theorem withRows_draft (keeps : model.form.multiSelectMode = true ∨ model.form.splitMode = false ∨
      paidRows rows = paidRows model.form.recipients) : draft (withRows rows model) = draft model := by
  apply draft_eq
  · rfl
  · rfl
  · exact fun _ => rfl
  · exact fun _ => rfl
  · exact fun _ => rfl
  · intro single splitting
    rcases keeps with sweeping | whole | same
    · cases single.symm.trans sweeping
    · cases splitting.symm.trans whole
    · exact same
  · exact fun _ _ => rfl

theorem sweep_draft {edited : Model} (sweeping : model.form.multiSelectMode = true)
    (still : edited.form.multiSelectMode = true) (holdings : edited.holdings = model.holdings)
    (recipient : edited.form.recipient = model.form.recipient)
    (picks : edited.form.multiSelectedIds = model.form.multiSelectedIds) :
    draft edited = draft model := by
  apply draft_eq
  · rw [holdings]
  · rw [still, sweeping]
  · exact fun single => Bool.noConfusion (single.symm.trans sweeping)
  · exact fun _ => recipient
  · intro _
    rw [picks, holdings]
  · exact fun single => Bool.noConfusion (single.symm.trans sweeping)
  · exact fun single => Bool.noConfusion (single.symm.trans sweeping)

theorem toggled_draft (keeps : keepsAmount (toggleFiatInput model).1 model = true) :
    draft (toggleFiatInput model).1 = draft model := by
  have shape : (toggleFiatInput model).1.holdings = model.holdings ∧
      (toggleFiatInput model).1.form = { model.form with
        amount := (toggleFiatInput model).1.form.amount
        maxFill := (toggleFiatInput model).1.form.maxFill
        fiatOrigin := (toggleFiatInput model).1.form.fiatOrigin } := by
    unfold toggleFiatInput
    split
    · exact ⟨rfl, rfl⟩
    · dsimp only
      generalize (if model.form.amount.isFiat = true then Money.Denom.token
        else model.display.denom) = target
      split
      · exact ⟨rfl, rfl⟩
      · split
        · exact ⟨rfl, rfl⟩
        · split
          · exact ⟨rfl, rfl⟩
          · exact ⟨rfl, rfl⟩
  exact amount_draft (congrArg _ shape.1) (congrArg _ shape.1) shape.2 keeps

theorem redisplayed_draft
    (keeps : keepsAmount (redenominateToDisplay { model with display }) model = true) :
    draft (redenominateToDisplay { model with display }) = draft model := by
  have shape : (redenominateToDisplay { model with display }).holdings = model.holdings ∧
      (redenominateToDisplay { model with display }).form = { model.form with
        amount := (redenominateToDisplay { model with display }).form.amount
        maxFill := (redenominateToDisplay { model with display }).form.maxFill
        fiatOrigin := (redenominateToDisplay { model with display }).form.fiatOrigin } := by
    unfold redenominateToDisplay
    split
    · exact ⟨rfl, rfl⟩
    · split
      · exact ⟨rfl, rfl⟩
      · exact ⟨rfl, rfl⟩
  exact amount_draft (congrArg _ shape.1) (congrArg _ shape.1) shape.2 keeps

theorem filled_draft (holdings : base.holdings = model.holdings)
    (form : base.form = model.form) (keeps : keepsAmount (filled base) model = true) :
    draft (filled base) = draft model := by
  have shape : (filled base).holdings = base.holdings ∧ (filled base).form = { base.form with
      amount := (filled base).form.amount, maxFill := (filled base).form.maxFill
      fiatOrigin := (filled base).form.fiatOrigin } := by
    rcases filled_cases base with stays | ⟨exact, _, _, fills⟩
    · rw [stays]
      exact ⟨rfl, rfl⟩
    · rw [fills]
      unfold setMax
      generalize maxFigure exact = figure
      exact ⟨rfl, rfl⟩
  rw [holdings, form] at shape
  exact amount_draft (congrArg _ shape.1) (congrArg _ shape.1) shape.2 keeps

theorem handingIn_draft {address : String}
    (same : address = model.form.recipient) : draft (handingIn address model) = draft model := by
  apply draft_eq
  · rfl
  · rfl
  · exact fun _ => rfl
  · exact fun _ => same
  · exact fun _ => rfl
  · exact fun _ _ => rfl
  · exact fun _ _ => rfl

theorem paidRows_modify {address : String} {index : Nat}
    (same : rows[index]?.all (·.address == address) = true) :
    paidRows (rows.modify index (readdressed address)) = paidRows rows := by
  apply List.ext_getElem?
  intro place
  simp only [paidRows, List.getElem?_map, List.getElem?_modify]
  cases found : rows[place]? with
  | none => rfl
  | some row =>
    by_cases here : index = place
    · subst here
      rw [found] at same
      have kept : row.address = address := by simpa using same
      have paid : (readdressed address row).address = row.address ∧
          (readdressed address row).amount = row.amount := by
        unfold readdressed
        split
        · exact ⟨kept.symm, rfl⟩
        · exact ⟨kept.symm, rfl⟩
      simp only [Option.map_eq_map, Option.map_some, if_true, paid.1, paid.2]
    · simp only [Option.map_eq_map, Option.map_some, if_neg here]

theorem paidRows_take (count : Nat) (rows : List SendRecipientDraft) :
    paidRows (rows.take count) = (paidRows rows).take count := List.map_take

theorem paidRows_assignIds (seq : Nat) (rows : List SendRecipientDraft) :
    paidRows (assignIds seq rows).1 = paidRows rows := by
  induction rows generalizing seq with
  | nil => rfl
  | cons _ _ ih =>
    unfold assignIds
    split
    · exact congrArg (List.cons _) (ih (seq + 1))
    · exact congrArg (List.cons _) (ih seq)

theorem paidRows_append (left right : List SendRecipientDraft) :
    paidRows (left ++ right) = paidRows left ++ paidRows right := List.map_append

theorem paidRows_mapIdx (ids : Nat → String) (rows : List SendRecipientDraft) :
    paidRows (rows.mapIdx fun index row => { row with id := ids index }) = paidRows rows := by
  apply List.ext_getElem?
  intro place
  simp only [paidRows, List.getElem?_map, List.getElem?_mapIdx, Option.map_map]
  rfl

theorem intoSplit_draft {seq : Nat}
    (keeps : model.form.multiSelectMode = true ∨ model.form.splitMode = true ∧
      paidRows (rows.take batchMaxRecipients) = paidRows model.form.recipients) :
    draft (intoSplit rows seq model) = draft model := by
  rcases keeps with sweeping | ⟨splitting, same⟩
  · exact sweep_draft sweeping sweeping rfl rfl rfl
  · apply draft_eq
    · rfl
    · rfl
    · exact fun _ => splitting.symm
    · exact fun _ => rfl
    · exact fun _ => rfl
    · exact fun _ _ => same
    · exact fun _ whole => Bool.noConfusion (whole.symm.trans splitting)

section Keeping

variable [Runtime]

def routesHandOff (model : Model) : Bool :=
  !model.params.locked && model.account.isSome &&
    match model.params.preselectedMulti, model.params.preselectedSymbol,
        model.params.preselectedNetwork with
    | some joined, _, _ => !(handedOffTokens joined model).isEmpty
    | none, some symbol, some network => (selectedByName symbol network model).isSome
    | none, _, _ => false

def handsOff (id : Nat) (tokens : Option (List SendToken)) (chains : List SendChainInfo)
    (model : Model) : Bool :=
  match tokens, model.flights.tokens with
  | some list, some (expect, .initial) =>
    expect == id && routesHandOff (withList list { model with
      flights := { model.flights with tokens := none }
      holdings := { model.holdings with chains } })
  | _, _ => false

/-- The event changes nothing of what is paid, or gives the check up. -/
def keepsPaid (event : Event) (model : Model) : Bool :=
  match event with
  | .setRecipient recipient => viewRecipientLocked model || keepsRecipient recipient model
  | .setAmount amount => viewAmountLocked model || keepsAmount (typing amount model) model
  | .toggleFiatInput => keepsAmount (toggleFiatInput model).1 model
  | .displayChanged display => keepsAmount (redenominateToDisplay { model with display }) model
  | .feeUpdated estimate => model.step == .confirm || (parseFeeView estimate).all fun fee =>
    keepsAmount (filled { model with fees := { model.fees with
      feeEstimate := some fee, feeFailed := false } }) model
  | .chooseFeeToken token => keepsAmount (filled { model with fees := { model.fees with
      coin := .picked token, feeCardCoin := none } }) model
  | .enterSplitMode => model.params.locked || model.form.multiSelectMode ||
      model.form.splitMode || model.holdings.selectedToken.isNone
  | .seedSplitRecipients rows => model.params.locked || model.form.multiSelectMode ||
      rows.isEmpty || model.form.splitMode && keepsRows (rows.take batchMaxRecipients) model
  | .appendSplitRecipients rows => model.params.locked || model.form.multiSelectMode ||
      rows.isEmpty || model.form.splitMode &&
        keepsRows ((model.form.recipients.filter rowIsStarted ++ rows).take batchMaxRecipients)
          model
  | .recipientsChanged rows => keepsChangedRows rows model
  | .pickedAddress address => keepsPicked address model
  | .scanResolved scan => reopens event model || keepsPicked scan.address model
  | .back => model.step != .enterDetails || model.form.multiSelectMode
  | .toggleMultiToken tokenId => !model.form.multiSelectMode ||
      !model.form.multiSelectedIds.contains tokenId &&
        !(visibleMultiTokens model).any (·.id == tokenId)
  | .toggleAllMultiTokens visibleIds => !model.form.multiSelectMode ||
      ((valuableMultiIds model).filter visibleIds.contains).isEmpty
  | .setMultiNetwork _ => !model.form.multiSelectMode || model.form.multiSelectedIds.isEmpty
  | .tokensPartial tokens => draft (tokensPartial tokens model).1 == draft model
  | .holdingsUpdated tokens => draft (holdingsUpdated tokens model).1 == draft model
  | .shellCompleted id (.tokensLoaded tokens chains) => handsOff id tokens chains model ||
      draft (tokensAnswer id tokens chains model).1 == draft model
  | .shellCompleted id (.tokenMetadata outcome) =>
    draft (metadataAnswer id outcome model).1 == draft model
  | _ => true

/-- While `Continue` is out, the event changes nothing of what is paid, or gives the
check up. -/
def keepsForm (event : Event) (model : Model) : Bool :=
  !model.pipeline.isContinue || keepsPaid event model

theorem keepsPaid_of (keeps : keepsForm event model = true)
    (owned : model.pipeline.isContinue = true) : keepsPaid event model = true := by
  rw [keepsForm, owned] at keeps
  exact keeps

variable {model : Model}

theorem startsSplit_draft (starts : event.startsSplit = true)
    (keeps : keepsPaid event model = true) : draft (step event model).1 = draft model := by
  cases event with
  | enterSplitMode =>
    show draft (enterSplitMode model).1 = _
    simp only [keepsPaid, Bool.or_eq_true] at keeps
    unfold enterSplitMode
    split
    · rfl
    · next out =>
        split
        · rfl
        · next selected =>
            simp only [splitLockedOut, Bool.or_eq_true, not_or] at out
            rw [selected] at keeps
            rcases keeps with ((locked | sweeping) | splitting) | missing
            · exact absurd locked out.1
            · exact sweep_draft sweeping sweeping rfl rfl rfl
            · exact absurd splitting out.2
            · cases missing
  | seedSplitRecipients rows =>
    show draft (seedSplit rows model).1 = _
    simp only [keepsPaid, Bool.or_eq_true, Bool.and_eq_true, keepsRows, beq_iff_eq] at keeps
    unfold seedSplit
    split
    · rfl
    · next out =>
        simp only [splitLockedOut, Bool.or_eq_true, not_or] at out
        apply intoSplit_draft
        rw [paidRows_take, paidRows_assignIds, ← paidRows_take]
        rcases keeps with ((locked | sweeping) | empty) | same
        · exact absurd locked out.2
        · exact Or.inl sweeping
        · exact absurd empty out.1
        · exact Or.inr same
  | appendSplitRecipients rows =>
    show draft (appendSplit rows model).1 = _
    simp only [keepsPaid, Bool.or_eq_true, Bool.and_eq_true, keepsRows, beq_iff_eq] at keeps
    unfold appendSplit
    split
    · rfl
    · next out =>
        simp only [splitLockedOut, Bool.or_eq_true, not_or] at out
        rcases keeps with ((locked | sweeping) | empty) | ⟨splitting, same⟩
        · exact absurd locked out.2
        · exact intoSplit_draft (Or.inl sweeping)
        · exact absurd empty out.1
        · rw [show keptRows model = _ from if_pos splitting]
          apply intoSplit_draft
          refine Or.inr ⟨splitting, ?_⟩
          rw [← same, paidRows_take, paidRows_take, paidRows_append, paidRows_append,
            paidRows_mapIdx]
  | _ => cases starts

theorem recipientsChanged_draft (keeps : keepsChangedRows rows model = true) :
    draft (recipientsChanged rows model).1 = draft model := by
  unfold keepsChangedRows at keeps
  unfold recipientsChanged
  split
  · next few =>
      rw [if_pos few] at keeps
      simp only [Bool.and_eq_true, Bool.or_eq_true, Bool.not_eq_true', beq_iff_eq] at keeps
      obtain ⟨⟨mode, same⟩, amount⟩ := keeps
      refine (draft_of_entry (recipientUpdates_entry (singleAgain rows model))).trans ?_
      apply draft_eq
      · rfl
      · rfl
      · intro single
        rcases mode with sweeping | whole
        · cases single.symm.trans sweeping
        · exact whole.symm
      · exact fun _ => same
      · exact fun _ => rfl
      · intro single splitting
        rcases mode with sweeping | whole
        · cases single.symm.trans sweeping
        · cases splitting.symm.trans whole
      · intro single whole
        simpa only [keepsAmount, single, whole, Bool.false_or, beq_iff_eq] using amount
  · next several =>
      rw [if_neg several] at keeps
      simp only [Bool.or_eq_true, Bool.not_eq_true', keepsRows, beq_iff_eq] at keeps
      apply withRows_draft
      rw [paidRows_take, paidRows_assignIds, ← paidRows_take]
      rcases keeps with (sweeping | whole) | same
      · exact Or.inl sweeping
      · exact Or.inr (Or.inl whole)
      · exact Or.inr (Or.inr same)

omit [Runtime] in
theorem lands_draft {address : String}
    (splitting : model.form.splitMode = true) (lands : Lands address model rows)
    (keeps : keepsPicked address model = true) : draft (withRows rows model) = draft model := by
  simp only [keepsPicked, splitting, if_true, Bool.or_eq_true] at keeps
  apply withRows_draft
  rcases keeps with sweeping | placed
  · exact Or.inl sweeping
  · cases lands with
    | onto row same =>
      rw [row] at placed
      rw [same]
      exact Or.inr (Or.inr (paidRows_modify placed))
    | behind full room =>
      rw [full] at placed
      exact absurd room (Nat.not_lt_of_le (of_decide_eq_true placed))

omit [Runtime] in
theorem withPicks_draft {ids : List String} (single : model.form.multiSelectMode = false) :
    draft (withPicks ids model) = draft model := by
  apply draft_eq
  · rfl
  · rfl
  · exact fun _ => rfl
  · exact fun _ => rfl
  · exact fun sweeping => Bool.noConfusion (single.symm.trans sweeping)
  · exact fun _ _ => rfl
  · exact fun _ _ => rfl

theorem isPick_draft (picks : event.isPick = true)
    (keeps : keepsPaid event model = true) : draft (step event model).1 = draft model := by
  cases event with
  | toggleMultiToken tokenId =>
    show draft (toggleMultiToken tokenId model).1 = _
    simp only [keepsPaid, Bool.or_eq_true, Bool.and_eq_true, Bool.not_eq_true'] at keeps
    unfold toggleMultiToken
    rcases keeps with single | ⟨unpicked, hidden⟩
    · split
      · exact withPicks_draft single
      · split
        · exact withPicks_draft single
        · rfl
    · rw [if_neg (by rw [unpicked]; exact Bool.false_ne_true),
        if_neg (by rw [hidden]; exact Bool.false_ne_true)]
      rfl
  | toggleAllMultiTokens visibleIds =>
    show draft (toggleAllMulti visibleIds model).1 = _
    simp only [keepsPaid, Bool.or_eq_true, Bool.not_eq_true'] at keeps
    unfold toggleAllMulti
    dsimp only
    rcases keeps with single | none_valuable
    · split
      · rfl
      · split
        · exact withPicks_draft single
        · exact withPicks_draft single
    · rw [if_pos none_valuable]
      rfl
  | _ => cases picks

omit [Runtime] in
theorem warmEstimateStart_drops (held : model.account.isSome = true) :
    (warmEstimateStart model).1.pipeline.continuing = none := by
  unfold warmEstimateStart
  split
  · next missing =>
      rw [missing] at held
      cases held
  · rfl

theorem routeHandOff_drops (routes : routesHandOff model = true) :
    (routeHandOff full model).1.pipeline.continuing = none := by
  simp only [routesHandOff, Bool.and_eq_true, Bool.not_eq_true'] at routes
  obtain ⟨⟨unlocked, held⟩, named⟩ := routes
  unfold routeHandOff
  rw [if_neg (by rw [unlocked]; exact Bool.false_ne_true)]
  cases joins : model.params.preselectedMulti with
  | some =>
    simp only [joins] at named ⊢
    unfold openMulti
    split
    · next none_handed =>
        rw [none_handed] at named
        cases named
    · exact warmEstimateStart_drops held
  | none =>
    cases symbols : model.params.preselectedSymbol with
    | none =>
      simp only [joins, symbols] at named
      cases named
    | some =>
      cases networks : model.params.preselectedNetwork with
      | none =>
        simp only [joins, symbols, networks] at named
        cases named
      | some =>
        simp only [joins, symbols, networks] at named ⊢
        unfold openSelected
        split
        · next missing =>
            rw [selectedByName, missing] at named
            cases named
        · exact warmEstimateStart_drops held

theorem handsOff_drops {id : Nat} {tokens : Option (List SendToken)} {chains : List SendChainInfo}
    (hands : handsOff id tokens chains model = true) :
    (tokensAnswer id tokens chains model).1.pipeline.continuing = none := by
  unfold handsOff at hands
  split at hands
  · next flying =>
      simp only [Bool.and_eq_true, beq_iff_eq] at hands
      unfold tokensAnswer
      simp only [flying, hands.1, ne_eq, not_true_eq_false, if_false]
      exact routeHandOff_drops hands.2
  · cases hands

end Keeping

def SendEffect.estimate : SendEffect → Option (Nat × EstimateRequest)
  | request id (.estimateFee asked) => some (id, asked)
  | _ => none

/-- The estimate an answer brings, under the number it answers. -/
def Event.quote : Event → Option (Nat × FeeEstimate)
  | shellCompleted id (.feeEstimated (.ok estimate)) => (parseFeeView estimate).map (id, ·)
  | _ => none

/-- What a run remembers of its checks: the model the last `Continue` that passed
was tapped on, and the estimates asked for and answered. -/
structure CheckLog where
  validated : Option Model := none
  asked : List (Nat × EstimateRequest) := []
  quoted : List (Nat × FeeEstimate) := []

def CheckLog.after (log : CheckLog) (event : Event) (model : Model) (effects : Cmd) : CheckLog where
  validated := if runsContinue event model && continues model then some model else log.validated
  asked := log.asked ++ effects.filterMap SendEffect.estimate
  quoted := log.quoted ++ event.quote.toList

/-- The estimate of the number given was asked for a form that pays the same. -/
def CheckLog.AskedFor (log : CheckLog) (paid : Draft) (feeId : Nat) : Prop :=
  ∃ asking token account request, draft asking = paid ∧
    asking.holdings.selectedToken = some token ∧ asking.account = some account ∧
    (feeId, request) ∈ log.asked ∧ request.chainId = token.chainId ∧
    request.account = account.address ∧
    (request.tx, request.batch) = buildEstimateShape asking token

/-- The form is the one the last `Continue` that passed found nothing to refuse in. -/
def CheckLog.Validates (log : CheckLog) (paid : Draft) : Prop :=
  ∃ origin, log.validated = some origin ∧ continues origin = true ∧ paid = draft origin

/-- While a check is out, the form is the one it validated, and its estimate was
asked for it. -/
def Checked (log : CheckLog) (model : Model) : Prop :=
  ∀ next, model.pipeline.continuing = some next →
    model.account.isSome = true ∧ log.Validates (draft model) ∧
      ∀ feeId earlier, next = .estimate feeId earlier →
        log.AskedFor (draft model) feeId ∧ ∀ fee, earlier = some fee → (feeId, fee) ∈ log.quoted

namespace CheckLog

variable {model : Model} {log : CheckLog} {event : Event} {effects : Cmd} {paid : Draft}
  {feeId : Nat}

theorem asked_after {entry : Nat × EstimateRequest} (member : entry ∈ log.asked) :
    entry ∈ (log.after event model effects).asked := List.mem_append_left _ member

theorem quoted_after {entry : Nat × FeeEstimate} (member : entry ∈ log.quoted) :
    entry ∈ (log.after event model effects).quoted := List.mem_append_left _ member

theorem AskedFor.after (asked : log.AskedFor paid feeId) :
    (log.after event model effects).AskedFor paid feeId := by
  obtain ⟨asking, token, account, request, same, selected, held, member, rest⟩ := asked
  exact ⟨asking, token, account, request, same, selected, held, asked_after member, rest⟩

theorem askedFor_of_asks (asks : AsksFor model effects) :
    (log.after event model effects).AskedFor (draft model) model.nextId := by
  obtain ⟨token, account, request, selected, held, member, chain, named, shape⟩ := asks
  refine ⟨model, token, account, request, rfl, selected, held, ?_, chain, named, shape⟩
  apply List.mem_append_right
  exact List.mem_filterMap.mpr ⟨_, member, rfl⟩

theorem Validates.after (validates : log.Validates (draft model)) :
    (log.after event model effects).Validates (draft model) := by
  unfold Validates CheckLog.after
  dsimp only
  split
  · next passes => exact ⟨model, rfl, (Bool.and_eq_true_iff.mp passes).2, rfl⟩
  · exact validates

end CheckLog

section Checks

variable {model : Model} {log : CheckLog} {event : Event} {after : Model} {effects : Cmd}

theorem Checked.idle (idle : after.pipeline.continuing = none) : Checked log after := by
  intro next out
  rw [idle] at out
  cases out

theorem Checked.kept (checked : Checked log model)
    (same : after.pipeline.continuing = model.pipeline.continuing)
    (account : after.account = model.account)
    (paid : model.pipeline.isContinue = true → draft after = draft model) :
    Checked (log.after event model effects) after := by
  intro next out
  rw [same] at out
  have owned : model.pipeline.isContinue = true := by
    rw [← Pipeline.continuing_isSome, out]
    rfl
  obtain ⟨held, validates, asked⟩ := checked next out
  rw [paid owned, account]
  refine ⟨held, validates.after, ?_⟩
  intro feeId earlier named
  obtain ⟨asks, quotes⟩ := asked feeId earlier named
  exact ⟨asks.after, fun fee known => CheckLog.quoted_after (quotes fee known)⟩

theorem Checked.of_entry (seen : left.entry = right.entry)
    (checked : Checked log right) : Checked log left := by
  have continuing : left.pipeline.continuing = right.pipeline.continuing :=
    congrArg Entry.continuing seen
  have account : left.account = right.account := congrArg Entry.account seen
  unfold Checked
  rw [continuing, account, draft_of_entry seen]
  exact checked

end Checks

/-! ## Edits under a check -/

structure FormStays (after model : Model) : Prop where
  slot : after.pipeline.continuing = model.pipeline.continuing
  account : after.account = model.account
  paid : model.pipeline.isContinue = true → draft after = draft model

theorem FormStays.of_entry {after model : Model} (seen : after.entry = base.entry)
    (stays : FormStays base model) : FormStays after model where
  slot := (congrArg Entry.continuing seen).trans stays.slot
  account := (congrArg Entry.account seen).trans stays.account
  paid owned := (draft_of_entry seen).trans (stays.paid owned)

theorem Checked.stays {after : Model} {log : CheckLog} {effects : Cmd}
    (checked : Checked log model) (stays : FormStays after model) :
    Checked (log.after event model effects) after :=
  checked.kept stays.slot stays.account stays.paid

section Staying

variable [Runtime] {model : Model}

omit [Runtime] in
theorem filled_slot (model : Model) :
    (filled model).pipeline = model.pipeline ∧ (filled model).account = model.account := by
  rcases filled_cases model with stays | ⟨exact, _, _, fills⟩
  · rw [stays]
    exact ⟨rfl, rfl⟩
  · rw [fills]
    unfold setMax
    generalize maxFigure exact = figure
    exact ⟨rfl, rfl⟩

omit [Runtime] in
theorem filled_step (model : Model) : (filled model).step = model.step := by
  rcases filled_cases model with stays | ⟨exact, _, _, fills⟩
  · rw [stays]
  · rw [fills]
    unfold setMax
    generalize maxFigure exact = figure
    rfl

omit [Runtime] in
theorem filled_stays (slot : base.pipeline = model.pipeline)
    (account : base.account = model.account) (holdings : base.holdings = model.holdings)
    (form : base.form = model.form)
    (keeps : model.pipeline.isContinue = true → keepsAmount (filled base) model = true) :
    FormStays (filled base) model where
  slot := congrArg _ ((filled_slot base).1.trans slot)
  account := (filled_slot base).2.trans account
  paid owned := filled_draft holdings form (keeps owned)

omit [Runtime] in
theorem redisplayed_stays (keeps : model.pipeline.isContinue = true →
      keepsAmount (redenominateToDisplay { model with display }) model = true) :
    FormStays (redenominateToDisplay { model with display }) model := by
  have slot : (redenominateToDisplay { model with display }).pipeline = model.pipeline ∧
      (redenominateToDisplay { model with display }).account = model.account := by
    unfold redenominateToDisplay
    split
    · exact ⟨rfl, rfl⟩
    · split
      · exact ⟨rfl, rfl⟩
      · exact ⟨rfl, rfl⟩
  exact ⟨congrArg _ slot.1, slot.2, fun owned => redisplayed_draft (keeps owned)⟩

omit [Runtime] in
theorem redisplayed_step (model : Model) :
    (redenominateToDisplay { model with display }).step = model.step := by
  unfold redenominateToDisplay
  split
  · rfl
  · split
    · rfl
    · rfl

omit [Runtime] in
theorem toggled_step (model : Model) : (toggleFiatInput model).1.step = model.step := by
  unfold toggleFiatInput
  split
  · rfl
  · dsimp only
    generalize (if model.form.amount.isFiat = true then Money.Denom.token
      else model.display.denom) = target
    split
    · rfl
    · split
      · rfl
      · split
        · rfl
        · rfl

omit [Runtime] in
theorem toggled_stays (keeps : model.pipeline.isContinue = true →
      keepsAmount (toggleFiatInput model).1 model = true) :
    FormStays (toggleFiatInput model).1 model := by
  have slot : (toggleFiatInput model).1.pipeline = model.pipeline ∧
      (toggleFiatInput model).1.account = model.account := by
    unfold toggleFiatInput
    split
    · exact ⟨rfl, rfl⟩
    · dsimp only
      generalize (if model.form.amount.isFiat = true then Money.Denom.token
        else model.display.denom) = target
      split
      · exact ⟨rfl, rfl⟩
      · split
        · exact ⟨rfl, rfl⟩
        · split
          · exact ⟨rfl, rfl⟩
          · exact ⟨rfl, rfl⟩
  exact ⟨congrArg _ slot.1, slot.2, fun owned => toggled_draft (keeps owned)⟩

theorem addressing_stays (unlocked : viewRecipientLocked model = false)
    (keeps : keepsForm (.setRecipient recipient) model = true) :
    FormStays (addressing recipient model) model := by
  refine ⟨rfl, rfl, ?_⟩
  intro owned
  have passes : (viewRecipientLocked model || keepsRecipient recipient model) = true :=
    keepsPaid_of keeps owned
  rw [unlocked, Bool.false_or] at passes
  exact addressing_draft passes

theorem typing_stays {amount : String} (unlocked : viewAmountLocked model = false)
    (keeps : keepsForm (.setAmount amount) model = true) :
    FormStays (typing amount model) model := by
  refine ⟨rfl, rfl, ?_⟩
  intro owned
  have passes : (viewAmountLocked model || keepsAmount (typing amount model) model) = true :=
    keepsPaid_of keeps owned
  rw [unlocked, Bool.false_or] at passes
  exact amount_draft rfl rfl rfl passes

variable {address : String}

section

variable (named : event.picked = some address)
include named

theorem picked_keeps
    (plain : reopens event model = false) (owned : model.pipeline.isContinue = true)
    (keeps : keepsForm event model = true) : keepsPicked address model = true := by
  have passes := keepsPaid_of keeps owned
  cases event with
  | pickedAddress =>
    cases named
    exact passes
  | scanResolved scan =>
    cases named
    have either : (reopens (.scanResolved scan) model || keepsPicked scan.address model) = true :=
      passes
    rw [plain, Bool.false_or] at either
    exact either
  | _ => cases named

theorem handingIn_stays
    (plain : reopens event model = false) (single : model.form.splitMode = false)
    (keeps : keepsForm event model = true) : FormStays (handingIn address model) model := by
  refine ⟨rfl, rfl, ?_⟩
  intro owned
  have passes := picked_keeps named plain owned keeps
  simp only [keepsPicked, single, Bool.false_eq_true, if_false, beq_iff_eq] at passes
  exact handingIn_draft passes

omit [Runtime] in
theorem plain_of_split
    (split : model.form.splitMode = true) : reopens event model = false := by
  cases event with
  | scanResolved scan =>
    cases scan with
    | request _ chainId =>
      cases chainId with
      | none => rfl
      | some => simp only [reopens, split, Bool.not_true]
    | text => rfl
  | pickedAddress => rfl
  | _ => cases named

theorem readdressing_stays (split : model.form.splitMode = true)
    (lands : Lands address model rows) (keeps : keepsForm event model = true) :
    FormStays (withRows rows model) model := by
  refine ⟨rfl, rfl, ?_⟩
  intro owned
  exact lands_draft split lands (picked_keeps named (plain_of_split named split) owned keeps)

end

omit [Runtime] in
theorem relisted_slot (tokens : List SendToken) (model : Model) :
    (relisted tokens model).pipeline = model.pipeline ∧
      (relisted tokens model).account = model.account := by
  unfold relisted
  split
  · exact filled_slot _
  · exact ⟨rfl, rfl⟩

omit [Runtime] in
theorem warmed_entry (model : Model) : (warmed model).entry.account = model.account ∧
      ((warmed model).entry.continuing = none ∨
        model.account = none ∧ (warmed model).entry.continuing = model.pipeline.continuing) := by
  unfold warmed
  split
  · exact ⟨rfl, Or.inl rfl⟩
  · next missing =>
      exact ⟨rfl, Or.inr ⟨Option.not_isSome_iff_eq_none.mp missing, rfl⟩⟩

omit [Runtime] in
theorem warmed_step (model : Model) : (warmed model).entry.step = model.step := by
  unfold warmed
  split
  · rfl
  · rfl

theorem Routed.account {after : Entry} (routed : Routed full model after) :
    after.account = model.account := by
  cases routed with
  | stays same | narrowed locked same | resolved locked named same
  | looksUp _ _ _ same => rw [same]; rfl
  | shown _ same =>
    rw [same, pickerShown_entry]
    split
    · rfl
    · rfl
  | selected unlocked named same | swept unlocked named handed same =>
    rw [same]; exact (warmed_entry _).1

theorem Routed.continuing {after : Entry} (routed : Routed full model after) :
    after.continuing = model.pipeline.continuing ∨ after.continuing = none := by
  cases routed with
  | stays same | narrowed locked same | resolved locked named same
  | looksUp _ _ _ same => exact Or.inl (congrArg Entry.continuing same)
  | shown _ same =>
    left
    rw [same, pickerShown_entry]
    split
    · rfl
    · rfl
  | selected _ _ same | swept _ _ _ same =>
    rw [same]
    exact (warmed_entry _).2.symm.imp And.right id

omit [Runtime] in
theorem updated_stays {tokens : List SendToken} {after : Model}
    (same : after.entry = (relisted (withDisplaySymbols tokens) model).entry)
    (paid : model.pipeline.isContinue = true → draft after = draft model) :
    FormStays after model where
  slot := (congrArg Entry.continuing same).trans
    (congrArg Pipeline.continuing (relisted_slot _ model).1)
  account := (congrArg Entry.account same).trans (relisted_slot _ model).2
  paid

theorem tokensAnswer_stays {id : Nat} {tokens : List SendToken} {chains : List SendChainInfo}
    (keeps : keepsForm (.shellCompleted id (.tokensLoaded (some tokens) chains)) model = true)
    (slot : (tokensAnswer id (some tokens) chains model).1.pipeline.continuing =
      model.pipeline.continuing)
    (account : (tokensAnswer id (some tokens) chains model).1.account = model.account) :
    FormStays (tokensAnswer id (some tokens) chains model).1 model := by
  refine ⟨slot, account, ?_⟩
  intro owned
  have passes : (handsOff id (some tokens) chains model ||
      draft (tokensAnswer id (some tokens) chains model).1 == draft model) = true :=
    keepsPaid_of keeps owned
  rcases Bool.or_eq_true_iff.mp passes with hands | same
  · rw [← Pipeline.continuing_isSome, ← slot, handsOff_drops hands] at owned
    cases owned
  · exact beq_iff_eq.mp same

theorem metadataAnswer_stays {id : Nat} {outcome : Option SendTokenMeta} {chainId : UInt32} {after : Model}
    (keeps : keepsForm (.shellCompleted id (.tokenMetadata outcome)) model = true)
    (step : after = (metadataAnswer id outcome model).1)
    (same : after.entry = (looking outcome chainId address model).entry) :
    FormStays after model := by
  refine ⟨?_, ?_, ?_⟩
  · refine (congrArg Entry.continuing same).trans ?_
    cases outcome with
    | none | some tokenMeta => rfl
  · refine (congrArg Entry.account same).trans ?_
    cases outcome with
    | none | some tokenMeta => rfl
  · intro owned
    rw [step]
    have passes : (draft (metadataAnswer id outcome model).1 == draft model) = true :=
      keepsPaid_of keeps owned
    exact beq_iff_eq.mp passes

theorem rescoped_stays {chainId : Option UInt32}
    (keeps : keepsForm (.setMultiNetwork chainId) model = true) :
    FormStays { model with form := { model.form with
      multiSelectedIds := [], multiChainId := chainId } } model := by
  refine ⟨rfl, rfl, ?_⟩
  intro owned
  have passes : (!model.form.multiSelectMode || model.form.multiSelectedIds.isEmpty) = true :=
    keepsPaid_of keeps owned
  rw [Bool.or_eq_true, Bool.not_eq_true', List.isEmpty_iff] at passes
  apply draft_eq
  · rfl
  · rfl
  · exact fun _ => rfl
  · exact fun _ => rfl
  · intro sweeping
    rcases passes with single | empty
    · cases single.symm.trans sweeping
    · rw [empty]
  · exact fun _ _ => rfl
  · exact fun _ _ => rfl

end Staying

section Runs

variable [Runtime] {model after : Model} {log : CheckLog} {event : Event} {effects : Cmd}

omit [Runtime] in
theorem Checked.warmed (base : Model) (checked : Checked log model)
    (slot : base.pipeline = model.pipeline) (account : base.account = model.account)
    (same : after.entry = (Send.warmed base).entry) :
    Checked (log.after event model effects) after := by
  obtain ⟨_, idle | ⟨missing, stays⟩⟩ := warmed_entry base
  · exact .idle ((congrArg Entry.continuing same).trans idle)
  · intro next out
    have continuing : after.pipeline.continuing = model.pipeline.continuing :=
      (congrArg Entry.continuing same).trans (stays.trans (congrArg _ slot))
    rw [continuing] at out
    have held := (checked next out).1
    rw [← account, missing] at held
    cases held

omit [Runtime] in
theorem Checked.continued {next : Checking} (runs : runsContinue event model = true)
    (passes : continues model = true)
    (asks : next = .credential ∨ next = .estimate model.nextId none ∧ AsksFor model effects)
    (same : after.entry = { model.entry with continuing := some next }) :
    Checked (log.after event model effects) after := by
  intro next' out
  have continuing : after.pipeline.continuing = some next := congrArg Entry.continuing same
  rw [continuing, Option.some.injEq] at out
  subst out
  have held : after.account = model.account := congrArg Entry.account same
  rw [held, draft_of_check same]
  have ready := passes
  simp only [continues, Bool.and_eq_true] at ready
  refine ⟨ready.2, ⟨model, ?_, passes, rfl⟩, ?_⟩
  · exact if_pos (Bool.and_eq_true_iff.mpr ⟨runs, passes⟩)
  · intro feeId earlier named
    rcases asks with credential | ⟨estimate, asks⟩
    · cases credential.symm.trans named
    · cases estimate.symm.trans named
      refine ⟨CheckLog.askedFor_of_asks asks, ?_⟩
      intro fee known
      cases known

omit [Runtime] in
theorem Checked.keyed (checked : Checked log model)
    (waiting : model.pipeline.continuing = some .credential) (asks : AsksFor model effects)
    (same : after.entry = { model.entry with continuing := some (.estimate model.nextId none) }) :
    Checked (log.after event model effects) after := by
  intro next out
  have continuing : after.pipeline.continuing = some (.estimate model.nextId none) :=
    congrArg Entry.continuing same
  rw [continuing, Option.some.injEq] at out
  subst out
  have held : after.account = model.account := congrArg Entry.account same
  rw [held, draft_of_check same]
  obtain ⟨ready, validates, _⟩ := checked _ waiting
  refine ⟨ready, validates.after, ?_⟩
  rintro feeId earlier ⟨⟩
  refine ⟨CheckLog.askedFor_of_asks asks, ?_⟩
  intro fee known
  cases known

omit [Runtime] in
theorem Checked.heard {feeId : Nat} {earlier : Option FeeEstimate} {fee : FeeEstimate}
    (checked : Checked log model) (answered : event.quote = some (feeId, fee))
    (waiting : model.pipeline.continuing = some (.estimate feeId earlier))
    (same : after.entry = { model.entry with continuing := some (.estimate feeId (some fee)) }) :
    Checked (log.after event model effects) after := by
  intro next out
  have continuing : after.pipeline.continuing = some (.estimate feeId (some fee)) :=
    congrArg Entry.continuing same
  rw [continuing, Option.some.injEq] at out
  subst out
  have held : after.account = model.account := congrArg Entry.account same
  rw [held, draft_of_check same]
  obtain ⟨ready, validates, asked⟩ := checked _ waiting
  refine ⟨ready, validates.after, ?_⟩
  rintro _ _ ⟨⟩
  refine ⟨(asked feeId earlier rfl).1.after, ?_⟩
  rintro _ ⟨⟩
  apply List.mem_append_right
  rw [answered]
  exact List.mem_cons_self

theorem returned_not_owned {keepRecipient : Bool} (onForm : model.step = .enterDetails)
    (leaves : event = .back ∧ model.form.multiSelectMode = false ∧
        keepRecipient = model.form.recipientHandedIn ∨
      event = .changeToken ∧ canChangeToken model = true ∧ keepRecipient = true)
    (keeps : keepsForm event model = true) : model.pipeline.isContinue = false := by
  by_contra out
  have owned : model.pipeline.isContinue = true := Bool.eq_true_of_not_eq_false out
  rcases leaves with ⟨rfl, single, _⟩ | ⟨rfl, changes, _⟩
  · have passes : (model.step != .enterDetails || model.form.multiSelectMode) = true :=
      keepsPaid_of keeps owned
    rw [onForm, single] at passes
    cases passes
  · simp only [canChangeToken, Bool.and_eq_true, Bool.not_eq_true'] at changes
    exact out changes.2

theorem step_checked (keeps : keepsForm event model = true) (checked : Checked log model) :
    Checked (log.after event model (step event model).2) (step event model).1 := by
  cases step_edit event model with
  | kept same =>
    exact checked.stays (.of_entry same ⟨rfl, rfl, fun _ => rfl⟩)
  | reopened _ same | dropped same | settled _ _ same | begun _ _ _ _ same =>
    exact .idle (congrArg Entry.continuing same)
  | continued runs passes asks same => exact .continued runs passes asks same
  | keyed _ waiting asks same => exact checked.keyed waiting asks same
  | heard answered read waiting same =>
    refine checked.heard ?_ waiting same
    rw [answered, Event.quote, read]
    rfl
  | unchecked _ same =>
    exact checked.stays (@FormStays.of_entry { model with step := .confirm } _ _ same
      ⟨rfl, rfl, fun _ => rfl⟩)
  | left same =>
    exact checked.stays (@FormStays.of_entry { model with step := .enterDetails } _ _ same
      ⟨rfl, rfl, fun _ => rfl⟩)
  | picking _ _ same =>
    exact checked.stays (@FormStays.of_entry { model with step := .selectToken } _ _ same
      ⟨rfl, rfl, fun _ => rfl⟩)
  | returned onForm leaves same =>
    have free := returned_not_owned onForm leaves keeps
    refine checked.stays (.of_entry same ⟨rfl, rfl, ?_⟩)
    intro owned
    cases free.symm.trans owned
  | revoked same =>
    exact checked.stays (@FormStays.of_entry { model with confirmedReview := none } _ _ same
      ⟨rfl, rfl, fun _ => rfl⟩)
  | requoted named onForm read same =>
    subst named
    refine checked.stays (.of_entry same (filled_stays rfl rfl rfl rfl ?_))
    intro owned
    have passes : (model.step == .confirm || _) = true := keepsPaid_of keeps owned
    rw [read, Option.all_some, Bool.or_eq_true, beq_iff_eq] at passes
    exact passes.resolve_left onForm
  | recoined named same =>
    subst named
    exact checked.stays (.of_entry same (filled_stays rfl rfl rfl rfl (keepsPaid_of keeps)))
  | filledIn free _ same => exact .idle ((congrArg Entry.continuing same).trans free)
  | maxed _ free _ _ same =>
    exact .idle ((congrArg Entry.continuing same).trans
      ((congrArg Pipeline.continuing (filled_slot (waitingMax model)).1).trans free))
  | redisplayed named same =>
    subst named
    exact checked.stays (.of_entry same (redisplayed_stays (keepsPaid_of keeps)))
  | addressed named unlocked same =>
    subst named
    exact checked.stays (.of_entry same (addressing_stays unlocked keeps))
  | handedIn named plain single same =>
    exact checked.stays (.of_entry same (handingIn_stays named plain single keeps))
  | readdressed named split lands same =>
    exact checked.stays (.of_entry same (readdressing_stays named split lands keeps))
  | typed named unlocked same =>
    subst named
    exact checked.stays (.of_entry same (typing_stays unlocked keeps))
  | toggled named same =>
    subst named
    exact checked.stays (.of_entry same (toggled_stays (keepsPaid_of keeps)))
  | split named _ same =>
    exact checked.stays ⟨congrArg Entry.continuing same, congrArg Entry.account same,
      fun owned => startsSplit_draft named (keepsPaid_of keeps owned)⟩
  | rowsChanged named _ same | single named _ same =>
    subst named
    exact checked.stays ⟨congrArg Entry.continuing same, congrArg Entry.account same,
      fun owned => recipientsChanged_draft (keepsPaid_of keeps owned)⟩
  | partially named same =>
    subst named
    exact checked.stays ⟨congrArg Entry.continuing same, congrArg Entry.account same,
      fun owned => beq_iff_eq.mp (keepsPaid_of keeps owned)⟩
  | updated named same =>
    subst named
    exact checked.stays (updated_stays same fun owned => beq_iff_eq.mp (keepsPaid_of keeps owned))
  | @unlisted chains same =>
    exact checked.stays (@FormStays.of_entry
      { model with holdings := { model.holdings with chains } } _ _ same ⟨rfl, rfl, fun _ => rfl⟩)
  | refreshed named _ same =>
    subst named
    exact checked.stays (tokensAnswer_stays keeps
      ((congrArg Entry.continuing same).trans
        (congrArg Pipeline.continuing (relisted_slot _ _).1))
      ((congrArg Entry.account same).trans (relisted_slot _ _).2))
  | routed named _ routed =>
    subst named
    rcases routed.continuing with stays | idle
    · exact checked.stays (tokensAnswer_stays keeps stays routed.account)
    · exact .idle idle
  | looked named _ same =>
    subst named
    exact checked.stays (metadataAnswer_stays keeps rfl same)
  | selected _ _ same | chosen _ _ _ same => exact checked.warmed (selecting _ model) rfl rfl same
  | picked picks _ same =>
    exact checked.stays ⟨congrArg Entry.continuing same, congrArg Entry.account same,
      fun owned => isPick_draft picks (keepsPaid_of keeps owned)⟩
  | rescoped named same =>
    subst named
    exact checked.stays (.of_entry same (rescoped_stays keeps))
  | swept _ _ same => exact checked.warmed (intoMultiSelect _ model) rfl rfl same

omit [Runtime] in
theorem relisted_step (tokens : List SendToken) (model : Model) :
    (relisted tokens model).step = model.step := by
  unfold relisted
  split
  · exact filled_step _
  · rfl

theorem Routed.elsewhere {after : Entry} (routed : Routed full model after)
    (elsewhere : model.step ≠ .confirm) : after.step ≠ .confirm := by
  cases routed with
  | stays same | looksUp locked onChain named same => rw [same]; exact elsewhere
  | shown _ same =>
    rw [same, pickerShown_entry]
    split
    · exact nofun
    · exact elsewhere
  | narrowed locked same | resolved locked named same => rw [same]; exact nofun
  | selected unlocked named same | swept unlocked named handed same =>
    rw [same, warmed_step]; exact nofun

/-- Only the end of a check opens the confirm page, but for a form with no token or
no account. -/
theorem opens_confirm (elsewhere : model.step ≠ .confirm)
    (opens : (step event model).1.step = .confirm) :
    (∃ feeId fee, Settles event model feeId fee ∧
        (step event model).1.fees.feeEstimate = some fee ∧
        (step event model).1.entry = { model.entry with continuing := none, step := .confirm }) ∨
      model.holdings.selectedToken = none ∨ model.account = none := by
  have same_step : ∀ {entry : Entry}, (step event model).1.entry = entry → entry.step = .confirm := by
    intro entry same
    exact (congrArg Entry.step same).symm.trans opens
  cases step_edit event model with
  | settled settles inHand same => exact Or.inl ⟨_, _, settles, inHand, same⟩
  | unchecked missing => exact Or.inr missing
  | reopened _ same =>
    have shown := same_step same
    unfold opened at shown
    dsimp only at shown
    split at shown
    · cases shown
    · cases shown
  | left same | picking named sweeping same | returned onForm leaves same => cases same_step same
  | requoted _ _ _ same | recoined _ same | maxed _ _ _ _ same =>
    exact absurd ((filled_step _).symm.trans (same_step same)) elsewhere
  | redisplayed _ same =>
    exact absurd ((redisplayed_step _).symm.trans (same_step same)) elsewhere
  | toggled _ same => exact absurd ((toggled_step _).symm.trans (same_step same)) elsewhere
  | updated _ same | refreshed _ _ same =>
    exact absurd ((relisted_step _ _).symm.trans (same_step same)) elsewhere
  | routed _ _ routed => exact absurd opens (routed.elsewhere elsewhere)
  | @looked id outcome number chainId address named flying same =>
    have shown := same_step same
    cases outcome with
    | none => exact absurd shown elsewhere
    | some => cases shown
  | selected _ _ same | chosen _ _ _ same | swept _ _ same =>
    have shown := same_step same
    rw [warmed_step] at shown
    cases shown
  | kept same | continued runs passes asks same | keyed answered waiting asks same
  | heard answered read waiting same | dropped same | begun onPage selected resolved fits same
  | revoked same | filledIn free inForce same | addressed named unlocked same
  | handedIn named plain single same | readdressed named split lands same
  | typed named unlocked same | split named unlocked same | rowsChanged named several same
  | single named few same | partially named same | unlisted same | picked picks visible same
  | rescoped _ same => exact absurd (same_step same) elsewhere

omit [Runtime] in
theorem settles_quoted {feeId : Nat} {fee : FeeEstimate} (settles : Settles event model feeId fee)
    (checked : Checked log model) :
    model.account.isSome = true ∧ log.Validates (draft model) ∧
      log.AskedFor (draft model) feeId ∧
      (feeId, fee) ∈ (log.after event model effects).quoted := by
  cases settles with
  | @fee treasuryId timerId earlier estimate answered waiting read =>
    have out : model.pipeline.continuing = some (.estimate feeId earlier) := by
      rw [waiting]
      rfl
    obtain ⟨held, validates, asked⟩ := checked _ out
    refine ⟨held, validates, (asked feeId earlier rfl).1, ?_⟩
    apply List.mem_append_right
    rw [answered, Event.quote, read]
    exact List.mem_cons_self
  | @treasury treasuryId timerId earlier probe answered unwatched waiting serves =>
    have out : model.pipeline.continuing = some (.estimate feeId (some fee)) := by
      rw [waiting]
      rfl
    obtain ⟨held, validates, asked⟩ := checked _ out
    obtain ⟨asks, quotes⟩ := asked feeId (some fee) rfl
    exact ⟨held, validates, asks, CheckLog.quoted_after (quotes fee rfl)⟩

def checking : Machine (Model × CheckLog) Event SendEffect where
  init := ({}, {})
  step event state :=
    (((machine.step event state.1).1,
        state.2.after event state.1 (machine.step event state.1).2),
      (machine.step event state.1).2)

omit [Runtime] in
theorem dropForeignRelayStops_fees (model : Model) :
    (dropForeignRelayStops model).fees = model.fees := by
  unfold dropForeignRelayStops
  dsimp only
  split
  · rfl
  · rfl

theorem update_checked (keeps : keepsForm event model = true) (checked : Checked log model) :
    Checked (log.after event model (update event model).2) (update event model).1 :=
  (step_checked keeps checked).of_entry (update_entry event model)

/-- While nothing changes the form of a check that is out, every state knows what
its check validated. -/
theorem reached_checked {state : Model × CheckLog}
    (reached : checking.ReachableBy (fun event state => keepsForm event state.1) state) :
    Checked state.2 state.1 := by
  refine @Machine.ReachableBy.invariant _ _ _ checking _ (fun state => Checked state.2 state.1)
    ?_ ?_ _ reached
  · exact .idle rfl
  · intro event state keeps checked
    exact update_checked keeps checked

/-- In every run whose events leave the form alone while a check is out, a check
that opens the confirm page opens it on the form the last `Continue` validated: a
token is selected, every address is well formed, every amount positive and covered
by the balance, and the estimate in hand was asked for that form. -/
theorem confirm_shows_validated {state : Model × CheckLog}
    (reached : checking.ReachableBy (fun event state => keepsForm event state.1) state)
    {event : Event} (checks : state.1.pipeline.isContinue = true)
    (elsewhere : state.1.step ≠ .confirm)
    (opens : (machine.step event state.1).1.step = .confirm) :
    ∃ feeId fee origin, state.2.validated = some origin ∧ continues origin = true ∧
      draft (machine.step event state.1).1 = draft origin ∧
      (draft (machine.step event state.1).1).Sound ∧ Covers origin ∧
      (machine.step event state.1).1.fees.feeEstimate = some fee ∧
      (feeId, fee) ∈ (checking.step event state).1.2.quoted ∧
      state.2.AskedFor (draft (machine.step event state.1).1) feeId := by
  obtain ⟨model, log⟩ := state
  have checked : Checked log model := reached_checked reached
  have stepped : (step event model).1.step = .confirm :=
    (congrArg Entry.step (update_entry event model)).symm.trans opens
  obtain ⟨next, out⟩ := Option.isSome_iff_exists.mp
    ((Pipeline.continuing_isSome model.pipeline).trans checks)
  rcases opens_confirm elsewhere stepped with ⟨feeId, fee, settles, inHand, same⟩ | missing
  · obtain ⟨held, ⟨origin, known, passes, paid⟩, asked, quoted⟩ := settles_quoted settles checked
    have shown : draft (machine.step event model).1 = draft model := by
      refine Eq.trans (draft_of_entry (update_entry event model)) ?_
      exact @draft_of_entry _ { model with pipeline := .idle, step := .confirm } same
    obtain ⟨sound, covers⟩ := continues_sound passes
    refine ⟨feeId, fee, origin, known, passes, shown.trans paid, ?_, covers, ?_, quoted, ?_⟩
    · rw [shown, paid]
      exact sound
    · exact (congrArg Fees.feeEstimate (dropForeignRelayStops_fees _)).trans inHand
    · rw [shown]
      exact asked
  · exfalso
    obtain ⟨held, ⟨origin, known, passes, paid⟩, _⟩ := checked next out
    rcases missing with unselected | unheld
    · have selected := (continues_sound passes).1.1
      rw [← paid, draft, unselected] at selected
      cases selected
    · rw [unheld] at held
      cases held

end Runs

def sampleQuoted : Event := .shellCompleted 6 (.feeEstimated (.ok (nativeQuote 1 "1000")))

def sampleProbed : Event := .shellCompleted 7 (.treasuryProbed .covered)

/-- The sample with one answer of its check out. -/
def sampleChecking : Model × CheckLog := (@checking plainRuntime).after (sampleCheck ++ [sampleQuoted])

/-- The check of the filled form opens the confirm page on that form. -/
theorem confirm_shows_validated_sampleConfirm :
    ∃ origin, sampleChecking.2.validated = some origin ∧ continues origin = true ∧
      draft (plainSend.step sampleProbed sampleChecking.1).1 = draft origin ∧
      Draft.Sound (draft (plainSend.step sampleProbed sampleChecking.1).1) := by
  have reached := @Machine.reachableBy_after _ _ _ (@checking plainRuntime)
    (fun event state => @keepsForm plainRuntime event state.1) (sampleCheck ++ [sampleQuoted])
    (by decide +kernel)
  have checks : sampleChecking.1.pipeline.isContinue = true := by decide +kernel
  have elsewhere : sampleChecking.1.step ≠ .confirm := by decide +kernel
  have opens : (plainSend.step sampleProbed sampleChecking.1).1.step = .confirm := by
    decide +kernel
  obtain ⟨_, _, origin, known, passes, same, sound, _⟩ :=
    @confirm_shows_validated plainRuntime _ reached sampleProbed checks elsewhere opens
  exact ⟨origin, known, passes, same, sound⟩

/-- The sample with its recipient emptied while the check is out. -/
def sampleRetyped : Model × CheckLog :=
  (@checking plainRuntime).after (sampleCheck ++ [.setRecipient "", sampleQuoted])

/-- A recipient typed over while the check is out is on the confirm page, though it
is no address. -/
theorem confirm_shows_unvalidated_setRecipient : (@checking plainRuntime).Reachable sampleRetyped ∧
      sampleRetyped.1.pipeline.isContinue = true ∧ sampleRetyped.1.step ≠ .confirm ∧
      (plainSend.step sampleProbed sampleRetyped.1).1.step = .confirm ∧
      sampleRetyped.2.validated.all (fun origin =>
        draft (plainSend.step sampleProbed sampleRetyped.1).1 != draft origin) = true ∧
      ¬ Draft.Sound (draft (plainSend.step sampleProbed sampleRetyped.1).1) := by
  have checks : sampleRetyped.1.pipeline.isContinue = true := by decide +kernel
  have elsewhere : sampleRetyped.1.step ≠ .confirm := by decide +kernel
  have opens : (plainSend.step sampleProbed sampleRetyped.1).1.step = .confirm := by
    decide +kernel
  have other : sampleRetyped.2.validated.all (fun origin =>
      draft (plainSend.step sampleProbed sampleRetyped.1).1 != draft origin) = true := by
    decide +kernel
  have paid : (draft (plainSend.step sampleProbed sampleRetyped.1).1).payees = .single "" "1" := by
    decide +kernel
  have reached : (@checking plainRuntime).Reachable sampleRetyped := Machine.reachable_after _
  refine ⟨reached, checks, elsewhere, opens, other, not_sound_of_recipient paid ?_⟩
  decide

end VelaWallet.Send
