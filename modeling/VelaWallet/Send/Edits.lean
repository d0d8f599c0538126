import VelaWallet.Send.Entry

/-!
# The edits of a send

Every event leaves what the person sees of a send alone, or makes one of the
edits listed here.
-/

namespace VelaWallet.Send

open FeePolicy
open Money (DenominatedAmount)
open SignedReview (Review)

section Forms

variable [Runtime]

def addressing (recipient : String) (model : Model) : Model :=
  { model with form := { model.form with
      recipientHandedIn := model.form.recipientHandedIn && recipient == model.form.recipient
      recipient } }

def handingIn (address : String) (model : Model) : Model :=
  { model with form := { model.form with recipient := address, recipientHandedIn := true } }

def typing (amount : String) (model : Model) : Model :=
  { model with form := { model.form with
      maxFill := none, amount := model.form.amount.withValue amount } }

def withRows (rows : List SendRecipientDraft) (model : Model) : Model :=
  { model with form := { model.form with recipients := rows } }

/-- At most one row is left: the form is the single one again. -/
def singleAgain (rows : List SendRecipientDraft) (model : Model) : Model :=
  { model with form := { model.form with
      recipient := (rows.head?.map (·.address)).getD ""
      amount := .token ((rows.head?.map (·.amount)).getD "")
      splitMode := false
      recipients := [] } }

/-- `Max` is tapped, and waits for its amount. -/
def waitingMax (model : Model) : Model :=
  { model with form := { model.form with
      amount := .token "", fiatOrigin := none, maxFill := some .waiting } }

/-- The picker again, the form emptied. -/
def returning (keepRecipient : Bool) (model : Model) : Model :=
  { model with
    holdings := { model.holdings with selectedToken := none }
    form := { model.form with
      maxFill := none
      amount := .token ""
      recipient := if keepRecipient then model.form.recipient else ""
      splitMode := false
      recipients := [] }
    step := .selectToken }

/-- Another list of holdings, as the picker offers it. -/
def listing (tokens : List SendToken) (model : Model) : Model :=
  { model with holdings := { model.holdings with tokens := offeredTokens model tokens } }

/-- The holdings as an update leaves them: on the form the selected one is
refreshed and `Max` follows. -/
def relisted (tokens : List SendToken) (model : Model) : Model :=
  if model.step = .enterDetails then
    filled { listing tokens model with holdings := { (listing tokens model).holdings with
      selectedToken := model.holdings.selectedToken.map (refreshedToken tokens) } }
  else listing tokens model

/-- The selected holding as an update leaves it. -/
def reselected (tokens : List SendToken) (model : Model) : Option SendToken :=
  if model.step = .enterDetails then model.holdings.selectedToken.map (refreshedToken tokens)
  else model.holdings.selectedToken

/-- The model a list answer leaves before it is routed. -/
def landed (tokens : List SendToken) (chains : List SendChainInfo) (model : Model) : Model :=
  listing tokens { model with
    flights := { model.flights with tokens := none }
    holdings := { model.holdings with chains, loading := false } }

/-- The request is resolved to a token. -/
def locking (token : SendToken) (model : Model) : Model :=
  let amount := model.params.prefilledAmountBase.bind fun base =>
    (parseFigure base).map fun units => fromBaseUnits units token.decimals.toNat
  { model with
    form := { model.form with
      recipient := model.params.prefilledRecipient.getD ""
      maxFill := if amount.isSome then none else model.form.maxFill
      amount := (amount.map DenominatedAmount.token).getD model.form.amount }
    holdings := { model.holdings with selectedToken := some token }
    step := .enterDetails }

/-- The metadata of a requested token has been looked up. -/
def looking (outcome : Option SendTokenMeta) (chainId : UInt32) (address : String)
    (model : Model) : Model :=
  let taken := { model with flights := { model.flights with lockMeta := none } }
  match outcome with
  | none => taken
  | some tokenMeta => locking (placeholderToken model chainId tokenMeta.symbol tokenMeta.decimals
      (some (model.params.prefilledTokenAddress.getD address))) taken

def handingOff (first : SendToken) (rest : List SendToken) (model : Model) : Model :=
  { model with form := { model.form with
      multiSelectedIds := (first :: rest).map (·.id)
      multiChainId := some first.chainId } }

def opened (account : Option SendAccountRef) (params : SendOpenParams)
    (display : SendDisplayContext) : Entry where
  step := if hasPreselection params then .enterDetails else .selectToken
  account
  params
  display
  chains := []
  tokens := []
  selectedToken := none
  requestChain := requestNetwork params
  lockMeta := none
  recipient := params.prefilledRecipient.getD ""
  recipientHandedIn := params.prefilledRecipient.isSome
  amount := .token ""
  maxFill := none
  fiatOrigin := none
  splitMode := false
  recipients := []
  multiSelectMode := false
  multiSelectedIds := []
  multiChainId := none
  continuing := none
  confirmedReview := none

omit [Runtime] in
theorem relisted_refigures (tokens : List SendToken) (model : Model) :
    ∃ amount maxFill, (relisted tokens model).entry = { model.entry with
      tokens := offeredTokens model tokens
      selectedToken := reselected tokens model }.refigured amount maxFill
        model.form.fiatOrigin := by
  unfold relisted reselected
  split
  · obtain ⟨amount, maxFill, same⟩ := filled_refigures { listing tokens model with
      holdings := { (listing tokens model).holdings with
        selectedToken := model.holdings.selectedToken.map (refreshedToken tokens) } }
    exact ⟨amount, maxFill, same⟩
  · exact ⟨model.form.amount, model.form.maxFill, rfl⟩

end Forms

section Edits

variable [Runtime]

/-- The event runs `handle_continue`. -/
def runsContinue (event : Event) (model : Model) : Bool :=
  match event with
  | .continueTapped => true
  | .retryAfterBootstrap | .retryRelayUnreachable => model.step == .enterDetails
  | .shellCompleted id (.treasuryProbed probe) =>
    model.stops.treasuryWatch.any (·.probeId == some id) &&
      model.stops.treasuryBootstrap.isSome && probe == .covered && model.step == .enterDetails
  | _ => false

/-- The estimate asked for is the one of the form, in the shape of its calls. -/
def AsksFor (model : Model) (effects : Cmd) : Prop :=
  ∃ token account request, model.holdings.selectedToken = some token ∧
    model.account = some account ∧
    SendEffect.request model.nextId (.estimateFee request) ∈ effects ∧
    request.chainId = token.chainId ∧ request.account = account.address ∧
    (request.tx, request.batch) = buildEstimateShape model token

/-- The answer that completes the check while the relay serves. -/
inductive Settles (event : Event) (model : Model) (feeId : Nat) (fee : FeeEstimate) : Prop
  | fee {treasuryId timerId : Nat} {earlier : Option FeeEstimate} {estimate : FeeEstimateView}
      (answered : event = .shellCompleted feeId (.feeEstimated (.ok estimate)))
      (waiting : model.pipeline = .preCheck feeId treasuryId timerId earlier (some .serves))
      (read : parseFeeView estimate = some fee)
  | treasury {treasuryId timerId : Nat} {earlier : Option TreasuryAnswer}
      {probe : SendTreasuryProbe}
      (answered : event = .shellCompleted treasuryId (.treasuryProbed probe))
      (unwatched : model.stops.treasuryWatch.any (·.probeId == some treasuryId) = false)
      (waiting : model.pipeline = .preCheck feeId treasuryId timerId (some fee) earlier)
      (serves : TreasuryAnswer.of probe = .serves)

/-- The holding a locked request comes to. -/
def Requested (full : List SendToken) (model : Model) (token : SendToken) : Prop :=
  (model.lockState.requestChain.isSome = true ∧ model.holdings.tokens = [token]) ∨
    ∃ chainId, model.params.prefilledChainId.bind parseIntPrefix = some chainId ∧
      (requestedToken full chainId (model.params.prefilledTokenAddress.map Utf8.toLowercase) =
          some token ∨
        (model.params.prefilledTokenAddress = none ∧ token = synthNativeToken model chainId))

/-- Where the first list routes the hand-off the screen was opened with. -/
inductive Routed (full : List SendToken) (model : Model) (after : Entry) : Prop
  | stays (same : after = model.entry)
  | shown (unlocked : model.params.locked = false) (same : after = (pickerShown model).entry)
  | narrowed (locked : model.params.locked = true)
      (same : after = { model.entry with step := .selectToken })
  | resolved {token : SendToken} (locked : model.params.locked = true)
      (named : Requested full model token) (same : after = (locking token model).entry)
  | looksUp {chainId : UInt32} {wanted : String} (locked : model.params.locked = true)
      (onChain : model.params.prefilledChainId.bind parseIntPrefix = some chainId)
      (named : model.params.prefilledTokenAddress.map Utf8.toLowercase = some wanted)
      (same : after = { model.entry with lockMeta := some (model.nextId, chainId, wanted) })
  | selected {symbol network : String} {token : SendToken}
      (unlocked : model.params.locked = false)
      (named : selectedByName symbol network model = some token)
      (same : after = (warmed { model with
        holdings := { model.holdings with selectedToken := some token }
        step := .enterDetails }).entry)
  | swept {joined : String} {first : SendToken} {rest : List SendToken}
      (unlocked : model.params.locked = false)
      (named : model.params.preselectedMulti = some joined)
      (handed : handedOffTokens joined model = first :: rest)
      (same : after = (warmed (intoMultiSelect first (handingOff first rest model))).entry)

/-- The event turns the form into a split, or adds rows to it. -/
def Event.startsSplit : Event → Bool
  | enterSplitMode | seedSplitRecipients _ | appendSplitRecipients _ => true
  | _ => false

/-- The event picks or unpicks holdings of a sweep. -/
def Event.isPick : Event → Bool
  | toggleMultiToken _ | toggleAllMultiTokens _ => true
  | _ => false

/-- The address an event picks or scans. -/
def Event.picked : Event → Option String
  | pickedAddress address => some address
  | scanResolved scan => some scan.address
  | _ => none

/-- The rows after a pick: one row is readdressed, or a row is added. -/
inductive Lands (address : String) (model : Model) (rows : List SendRecipientDraft) : Prop
  | onto {index : Nat} (row : pickedRow model = some index)
      (same : rows = model.form.recipients.modify index (readdressed address))
  | behind {id : String} (full : pickedRow model = none)
      (room : model.form.recipients.length < batchMaxRecipients)
      (same : rows = model.form.recipients ++ [⟨id, address, "", none⟩])

/-- What one event does to what the person sees. -/
inductive Edit (event : Event) (model : Model) (result : Model × Cmd) : Prop
  | kept (same : result.1.entry = model.entry)
  | reopened (reopening : reopens event model = true) {account : Option SendAccountRef}
      {params : SendOpenParams} {display : SendDisplayContext}
      (same : result.1.entry = opened account params display)
  -- the check
  | continued {next : Checking} (runs : runsContinue event model = true)
      (passes : continues model = true)
      (asks : next = .credential ∨ next = .estimate model.nextId none ∧ AsksFor model result.2)
      (same : result.1.entry = { model.entry with continuing := some next })
  | keyed {id : Nat} {publicKeyHex : String}
      (answered : event = .shellCompleted id (.accountCredential (some publicKeyHex)))
      (waiting : model.pipeline.continuing = some .credential) (asks : AsksFor model result.2)
      (same : result.1.entry =
        { model.entry with continuing := some (.estimate model.nextId none) })
  | heard {feeId : Nat} {earlier : Option FeeEstimate} {estimate : FeeEstimateView}
      {fee : FeeEstimate} (answered : event = .shellCompleted feeId (.feeEstimated (.ok estimate)))
      (read : parseFeeView estimate = some fee)
      (waiting : model.pipeline.continuing = some (.estimate feeId earlier))
      (same : result.1.entry =
        { model.entry with continuing := some (.estimate feeId (some fee)) })
  | dropped (same : result.1.entry = { model.entry with continuing := none })
  | settled {feeId : Nat} {fee : FeeEstimate} (settles : Settles event model feeId fee)
      (inHand : result.1.fees.feeEstimate = some fee)
      (same : result.1.entry = { model.entry with continuing := none, step := .confirm })
  -- the pages
  | unchecked (missing : model.holdings.selectedToken = none ∨ model.account = none)
      (same : result.1.entry = { model.entry with step := .confirm })
  | left (same : result.1.entry = { model.entry with step := .enterDetails })
  | picking (named : event = .back) (sweeping : model.form.multiSelectMode = true)
      (same : result.1.entry = { model.entry with step := .selectToken })
  | returned {keepRecipient : Bool} (onForm : model.step = .enterDetails)
      (leaves : event = .back ∧ model.form.multiSelectMode = false ∧
          keepRecipient = model.form.recipientHandedIn ∨
        event = .changeToken ∧ canChangeToken model = true ∧ keepRecipient = true)
      (same : result.1.entry = (returning keepRecipient model).entry)
  -- the confirm
  | begun (onPage : model.step = .confirm) (selected : model.holdings.selectedToken.isSome = true)
      (resolved : isUnresolved model = false) (fits : deriveSameAssetIssue model = false)
      (same : result.1.entry =
        { model.entry with continuing := none, confirmedReview := modelReview model })
  | revoked (same : result.1.entry = { model.entry with confirmedReview := none })
  -- `Max`
  | requoted {estimate : FeeEstimateView} {fee : FeeEstimate}
      (named : event = .feeUpdated estimate) (onForm : model.step ≠ .confirm)
      (read : parseFeeView estimate = some fee)
      (same : result.1.entry = (filled { model with fees := { model.fees with
        feeEstimate := some fee, feeFailed := false } }).entry)
  | recoined {token : Option String} (named : event = .chooseFeeToken token)
      (same : result.1.entry = (filled { model with fees := { model.fees with
        coin := .picked token, feeCardCoin := none } }).entry)
  | filledIn {exact : String} (free : model.pipeline.continuing = none)
      (inForce : model.form.maxFill.isSome = true)
      (same : result.1.entry = model.entry.maxed exact)
  | maxed (named : event = .tapMax) (free : model.pipeline.continuing = none)
      (single : model.form.splitMode = false ∧ model.form.multiSelectMode = false)
      (selected : model.holdings.selectedToken.isSome = true)
      (same : result.1.entry = (filled (waitingMax model)).entry)
  -- the form
  | redisplayed {display : SendDisplayContext} (named : event = .displayChanged display)
      (same : result.1.entry = (redenominateToDisplay { model with display }).entry)
  | addressed {recipient : String} (named : event = .setRecipient recipient)
      (unlocked : viewRecipientLocked model = false)
      (same : result.1.entry = (addressing recipient model).entry)
  | handedIn {address : String} (named : event.picked = some address)
      (plain : reopens event model = false) (single : model.form.splitMode = false)
      (same : result.1.entry = (handingIn address model).entry)
  | readdressed {address : String} {rows : List SendRecipientDraft}
      (named : event.picked = some address) (split : model.form.splitMode = true)
      (lands : Lands address model rows)
      (same : result.1.entry = (withRows rows model).entry)
  | typed {amount : String} (named : event = .setAmount amount)
      (unlocked : viewAmountLocked model = false)
      (same : result.1.entry = (typing amount model).entry)
  | toggled (named : event = .toggleFiatInput)
      (same : result.1.entry = (toggleFiatInput model).1.entry)
  | split (named : event.startsSplit = true) (unlocked : model.params.locked = false)
      {amount : DenominatedAmount} {rows : List SendRecipientDraft}
      (same : result.1.entry =
        { model.entry with maxFill := none, amount, splitMode := true, recipients := rows })
  | rowsChanged {rows shown : List SendRecipientDraft} (named : event = .recipientsChanged rows)
      (several : 1 < rows.length) (same : result.1.entry = (withRows shown model).entry)
  | single {rows : List SendRecipientDraft} (named : event = .recipientsChanged rows)
      (few : rows.length ≤ 1) (same : result.1.entry = (singleAgain rows model).entry)
  -- the holdings
  | partially {tokens : List SendToken} (named : event = .tokensPartial tokens)
      (same : result.1.entry = (listing (withDisplaySymbols tokens) model).entry)
  | updated {tokens : List SendToken} (named : event = .holdingsUpdated tokens)
      (same : result.1.entry = (relisted (withDisplaySymbols tokens) model).entry)
  | unlisted {chains : List SendChainInfo} (same : result.1.entry = { model.entry with chains })
  | refreshed {id : Nat} {tokens : List SendToken} {chains : List SendChainInfo}
      (named : event = .shellCompleted id (.tokensLoaded (some tokens) chains))
      (mine : model.flights.tokens = some (id, .refresh))
      (same : result.1.entry = (relisted (withDisplaySymbols (withDisplaySymbols tokens))
        (landed (withDisplaySymbols tokens) chains model)).entry)
  | routed {id : Nat} {tokens : List SendToken} {chains : List SendChainInfo}
      (named : event = .shellCompleted id (.tokensLoaded (some tokens) chains))
      (mine : model.flights.tokens = some (id, .initial))
      (routed : Routed (withDisplaySymbols tokens)
        (landed (withDisplaySymbols tokens) chains model) result.1.entry)
  | looked {id : Nat} {outcome : Option SendTokenMeta} {number : Nat} {chainId : UInt32}
      {address : String} (named : event = .shellCompleted id (.tokenMetadata outcome))
      (flying : model.flights.lockMeta = some (number, chainId, address))
      (same : result.1.entry = (looking outcome chainId address model).entry)
  -- the picks
  | selected {tokenId : String} {token : SendToken} (named : event = .selectToken tokenId)
      (found : model.holdings.tokens.find? (·.id == tokenId) = some token)
      (same : result.1.entry = (warmed (selecting token model)).entry)
  | picked {ids : List String} (picks : event.isPick = true)
      (visible : ∀ id ∈ ids, id ∈ model.form.multiSelectedIds ∨
        ∃ token ∈ visibleMultiTokens model, token.id = id)
      (same : result.1.entry = (withPicks ids model).entry)
  | rescoped {chainId : Option UInt32} (named : event = .setMultiNetwork chainId)
      (same : result.1.entry = { model.entry with multiSelectedIds := [], multiChainId := chainId })
  | chosen {only token : SendToken} (named : event = .confirmMultiSelection)
      (picks : pickedTokens model = [only])
      (found : model.holdings.tokens.find? (·.id == only.id) = some token)
      (same : result.1.entry = (warmed (selecting token model)).entry)
  | swept {first second : SendToken} {rest : List SendToken}
      (named : event = .confirmMultiSelection)
      (picks : pickedTokens model = first :: second :: rest)
      (same : result.1.entry = (warmed (intoMultiSelect first model)).entry)

end Edits

end VelaWallet.Send
