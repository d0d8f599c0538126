import VelaWallet.Fee.Runs

/-!
# The events of the fee policy machine

What the answers to a run come to, what every event does, and when the view lets a
fee be confirmed (`fee_policy.rs`).
-/

namespace VelaWallet.FeePolicy

open Utf8 (bytes CaseTable)

def parsePublishedMinimum (text : String) : Option Nat :=
  let digits := bytes (Utf8.trim text)
  let value := if hexMark.isPrefixOf digits || [48, 88].isPrefixOf digits then
      Hex.natOf? (digits.drop 2) |>.filter fun value => !(digits.drop 2).isEmpty && value ≤ maxU128
    else Decimal.parseU128 digits
  value.filter (0 < ·)

def parseQuoteRow (row : FeeAssetQuote) : ParsedQuote where
  recipient := row.recipient
  isNative := row.isNative
  feeToken := row.feeToken
  balance := (parseUnits row.balance).getD 0
  decimals := row.decimals
  symbol := row.symbol
  usdBalance := row.usdBalance
  usdPrice := row.usdPrice
  nativeUsdFloorPrice := row.nativeUsdFloorPrice
  minimumAmount := row.minimumAmount.bind parsePublishedMinimum

/-- `str::parse::<i128>`. -/
def parseI128 (text : String) : Option Int :=
  match bytes text with
  | 45 :: digits =>
    if digits.isEmpty || digits.head? == some 43 then none
    else (Decimal.parseU128 digits).bind fun value =>
      if value ≤ 2 ^ 127 then some (-(value : Int)) else none
  | digits => (Decimal.parseU128 digits).bind fun value =>
    if value < 2 ^ 127 then some (value : Int) else none

/-- The changes an event names, those that read as numbers. -/
def readChanges (changes : List FeeBalanceChange) : Measured :=
  changes.filterMap fun change => (parseI128 (Utf8.trim change.delta)).map (change.token, ·)

def landingCoin (model : Model) (ctx : RequestCtx) : Option (Option String) :=
  let spend := Spend.new ctx.calls (measuredFor ctx model.measured)
  (model.refused.reverse.find? fun coin =>
    (findQuote model.quotes coin).any fun row => decide (0 < spend.usable row)).or
    model.refused.head?

/-- `next_coin_to_try`: the chain's coin first. -/
def nextCoinToTry (model : Model) (ctx : RequestCtx) : Option (Option String) :=
  let spend := Spend.new ctx.calls (measuredFor ctx model.measured)
  let candidates := model.quotes.filter fun row =>
    (row.isNative || decide (0 < row.balance)) && !isListed model.refused row &&
      decide (0 < spend.usable row)
  ((candidates.find? ParsedQuote.isNative).or candidates.head?).map coinOf

variable [CaseTable]

def refusedByRelay (model : Model) (ctx : RequestCtx) (plan : GenericPlan) : Ending :=
  -- A background run becomes one the person sees before another coin is tried.
  let model := { model with
    origin := if model.origin = .tick then .catchup else model.origin,
    refused := model.refused ++ [model.feeToken] }
  match if model.autoFeeToken then nextCoinToTry model ctx else none with
  | some next => estimateIn model ctx plan next
  | none =>
    let model := match landingCoin model ctx with
      | some landing => { model with feeToken := landing }
      | none => model
    let model :=
      if model.origin = .refresh ∨ model.origin = .catchup then
        { model with estimate := none, stale := false, origin := .refresh }
      else model
    .fails model .wouldFail

def estimationRequiredCalldata : Nat := 1024

/-- `accept_gas_outcome`, of a generic plan. -/
def acceptGeneric (model : Model) (ctx : RequestCtx) (plan : GenericPlan) (outcome : FeeGasOutcome)
    (innerFloor : Option Nat) : Ending :=
  match outcome with
  | .estimated verification call preVerification settlement =>
    match parseUnits verification, parseUnits call, parseUnits preVerification with
    | some verification, some call, some preVerification =>
      let settlement := (settlement.bind parseUnits).filter (0 < ·)
      let limits := inBandGasLimits ⟨verification, call, preVerification, settlement⟩
        ctx.deployed innerFloor
      match settlement, plan.published with
      | some gas, some perGas => priceGeneric model ctx plan gas (.published perGas)
      | _, _ =>
        priceGeneric model ctx plan
          (saturatingAdd (saturatingAdd limits.verificationGasLimit limits.callGasLimit)
            limits.preVerificationGas)
          (.marked plan.inBandGasBasis)
    | _, _, _ => .fails model .estimateFailed
  | .contextUnavailable => .fails model .estimateFailed
  | .simulationFailed =>
    if estimationRequiredCalldata < plan.estCalldataLen then .fails model .estimateFailed
    else priceGeneric model ctx plan (staticTotalGas ctx.chainId ctx.deployed innerFloor)
      (.marked plan.inBandGasBasis)
  | .refused =>
    if estimationRequiredCalldata < plan.estCalldataLen then refusedByRelay model ctx plan
    else priceGeneric model ctx plan (staticTotalGas ctx.chainId ctx.deployed innerFloor)
      (.marked plan.inBandGasBasis)

/-- `accept_gas_outcome`, of a Tempo plan. -/
def acceptTempo (model : Model) (ctx : RequestCtx) (plan : TempoPlan) (outcome : FeeGasOutcome) :
    Ending :=
  match outcome with
  | .estimated verification call preVerification _ =>
    match parseUnits verification, parseUnits call, parseUnits preVerification with
    | some verification, some call, some preVerification =>
      priceTempo model ctx plan (max plan.staticGas
        (saturatingAdd (saturatingAdd verification call) preVerification))
    | _, _, _ => .fails model .estimateFailed
  | _ => .fails model .estimateFailed

def floorMatters (plan : PricePlan) (outcome : FeeGasOutcome) : Bool :=
  match plan, outcome with
  | .generic _, .estimated .. => true
  | .generic plan, .simulationFailed | .generic plan, .refused =>
    decide (plan.estCalldataLen ≤ estimationRequiredCalldata)
  | _, _ => false

def tryPrice (model : Model) : Ending :=
  match model.phase, model.pending.userOpGas with
  | .estimating plan, some outcome =>
    if model.pending.innerFloor.isNone && floorMatters plan outcome then .goes model []
    else
      match model.ctx, plan with
      | none, _ => .goes model []
      | some ctx, .generic plan =>
        acceptGeneric model ctx plan outcome (model.pending.innerFloor.getD none)
      | some ctx, .tempo plan => acceptTempo model ctx plan outcome
  | _, _ => .goes model []

def Model.next (model : Model) : Model := { model with attempt := model.attempt + 1 }

/-- The deployment read of `accept`. -/
def acceptDeployment (model : Model) : DeploymentRead → Ending
  | .read deployed =>
    let ctx := model.ctx.map fun ctx => { ctx with deployed, needsDeploymentRead := false }
    beginGathering { model with ctx, attempt := model.attempt + 1 }
  | .unreachable rateLimited => .fails model.next (.chainRead rateLimited)
  | .internal _ => .fails model.next .internal

/-- The gas price of `accept`. -/
def acceptGasPrice (model : Model) (ethGasPrice baseFee priorityFee : Option String) : Ending :=
  let chainId := (model.ctx.map RequestCtx.chainId).getD 0
  let model := { model with
    pending := { model.pending with measuredBaseFee := baseFee.bind parseUnits } }
  match resolveGasPrice chainId ethGasPrice baseFee priorityFee (!isTempoChain chainId) with
  | none => .fails model .quoteUnavailable
  | some gas => tryAdvance { model with pending := { model.pending with gas := some gas } }

/-- A timer that ran out: a background run over a quote, or the machine's own re-ask
after a failure that can pass. -/
def acceptTtl (model : Model) : Ending :=
  match model.phase with
  | .quoted =>
    if model.ctx.isNone || model.estimate.isNone then .goes model []
    else beginPipeline { model with attempt := model.attempt + 1, origin := .tick }
  | .failed failure =>
    if model.ctx.isNone || (requoteDelayMs failure 1).isNone then .goes model []
    else beginPipeline { model with
      attempt := model.attempt + 1,
      retries := min (model.retries + 1) (2 ^ 32 - 1),
      retryingAfter := some failure,
      autoReask := true,
      origin := if model.stale then .catchup else .initial }
  | _ => .goes model []

/-- A run that did not price in time. -/
def acceptDeadline (model : Model) : Ending :=
  match model.phase with
  | .readingAccount => .fails model.next (.chainRead false)
  | .gathering =>
    .fails { model.next with pending := .empty }
      (if model.pending.gas.isNone then .chainRead false else .quoteUnavailable)
  | .estimating _ => .fails { model.next with pending := .empty } .quoteUnavailable
  | _ => .goes model []

def accept (model : Model) (result : FeeShellResult) : Ending :=
  match model.phase, result with
  | .readingAccount, .deployment read => acceptDeployment model read
  | .gathering, .gasPrice ethGasPrice baseFee priorityFee =>
    acceptGasPrice model ethGasPrice baseFee priorityFee
  | .gathering, .bundlerQuote quote =>
    tryAdvance { model with pending := { model.pending with bundler := some quote } }
  | .gathering, .inBandQuotes quotes =>
    tryAdvance { model with
      pending := { model.pending with quotes := some (quotes.map (·.map parseQuoteRow)) } }
  | .gathering, .feeRecipient recipient =>
    tryAdvance { model with pending := { model.pending with recipient := some recipient } }
  | .estimating _, .userOpGas outcome =>
    tryPrice { model with pending := { model.pending with userOpGas := some outcome } }
  | .estimating _, .innerCallsMeasured gas =>
    tryPrice { model with
      pending := { model.pending with
        innerFloor := some (model.ctx.bind fun ctx => measuredInnerFloor ctx.calls gas) } }
  | _, .ttlElapsed => acceptTtl model
  | _, .deadlineElapsed => acceptDeadline model
  | _, _ => .goes model []

def cancelTick (model : Model) : Model :=
  if ticking model then
    { model with
      attempt := model.attempt + 1, pending := .empty, phase := .quoted, origin := .initial }
  else model

def remeasureIfStale (model : Model) : Ending :=
  if legIsStale model then
    beginPipeline { model with attempt := model.attempt + 1, origin := .remeasure }
  else .goes model []

/-- The coin of a row as `switch_estimate` names it. -/
def ParsedQuote.switched (row : ParsedQuote) (amount : Nat) : FeeAsset :=
  match row.feeToken with
  | none => .native
  | some contract => .erc20 contract row.decimals amount (some row.symbol)

/-- An estimate re-denominated in a row's coin. -/
def switchedEstimate (estimate : FeeEstimate) (option : ParsedQuote) (amount : Nat)
    (fits : amount ≤ maxU128) : FeeEstimate :=
  { estimate with
    totalWei := if option.isNative then amount else 0
    feeRecipient := some option.recipient
    feeAsset := option.switched amount
    totalWei_le := by
      split
      · exact fits
      · exact Nat.zero_le _
    amount_le := by
      unfold ParsedQuote.switched
      split
      · exact Nat.zero_le _
      · exact fits }

def switchEstimate (model : Model) (option : ParsedQuote) : Option Model :=
  match priced : feeAmountForOption model option, model.estimate with
  | some amount, some estimate =>
    some { model with
      estimate := some (switchedEstimate estimate option amount (feeAmountForOption_le priced)) }
  | _, _ => none

/-- `select_fee_asset_now`, past the local switch: a full run whose failure reverts. -/
def reestimateIn (model : Model) (token : Option String) : Ending :=
  beginPipeline { model with
    feeToken := token, autoFeeToken := false, attempt := model.attempt + 1,
    origin := .select model.feeToken }

def selectFeeAssetNow (model : Model) (token : Option String) : Ending :=
  let wouldFail := model.phase == .failed .wouldFail
  if model.ctx.isNone || (model.phase != .quoted && !wouldFail) then .goes model []
  else if sameCoin model.feeToken token then .goes { model with autoFeeToken := false } []
  else
    let option := findOption model token
    if wouldFail then
      if option.all fun row => payableBalance model row == 0 then .goes model []
      else reestimateIn model token
    else
      match option with
      | none => reestimateIn model token
      | some row =>
        if feeRowInsufficient (payableBalance model row) (feeAmountForOption model row) then
          .goes model []
        else
          let tempo := model.ctx.any fun ctx => isTempoChain ctx.chainId
          match if tempo then none else switchEstimate model row with
          | some switched =>
            remeasureIfStale { switched with feeToken := token, autoFeeToken := false }
          | none => reestimateIn model token

def repickQuoted (model : Model) (ctx : RequestCtx) : Model :=
  match model.estimate, model.charge, findQuote model.quotes none with
  | some estimate, some charge, some native =>
    if estimate.chainId ≠ ctx.chainId then model
    else
      let target := (pickCoin model.quotes ctx.calls (measuredFor ctx model.measured)
        (fun row => charge.amount estimate.totalGas row native) model.refused).getD
          (whenNoCoinPays model)
      if sameCoin target model.feeToken then model
      else
        match (findOption model target).bind (switchEstimate model) with
        | some switched => { switched with feeToken := target }
        | none => model
  | _, _, _ => model

/-- An ending with the refused coins put back. -/
def Ending.keepRefused (refused : List (Option String)) : Ending → Ending
  | goes model asked => goes { model with refused } asked
  | fails model failure => fails { model with refused } failure

def retryWithACoinThatPays (model : Model) (ctx : RequestCtx) : Ending :=
  match model.lastCharge with
  | none => .goes model []
  | some charge =>
    if model.quotes.isEmpty then .goes model []
    else
      match staticAutoPick ctx model.quotes (measuredFor ctx model.measured) charge
          model.refused with
      | none => .goes model []
      | some pick =>
        if sameCoin pick model.feeToken then .goes model []
        else
          (beginPipeline { model with
            refused := [], attempt := model.attempt + 1, origin := .initial }).keepRefused
            model.refused

def balanceChangesMeasuredNow (model : Model) (changes : List FeeBalanceChange) : Ending :=
  let model := { model with measured := some (readChanges changes) }
  match model.ctx with
  | none => .goes model []
  | some ctx =>
    if isTempoChain ctx.chainId || !model.autoFeeToken then .goes model []
    else
      match model.phase with
      | .quoted => remeasureIfStale (repickQuoted model ctx)
      | .failed .wouldFail | .failed .estimateFailed => retryWithACoinThatPays model ctx
      | _ => .goes model []

/-- The ticking resumes after something that stopped it was answered locally. -/
def resumeIf (cancelled : Bool) (answered : Model × List Request) : Model × List Request :=
  if cancelled && answered.1.phase == .quoted then
    (answered.1, answered.2 ++ resumeTicking answered.1)
  else answered

def quoteRequested (model : Model) (ctx : RequestCtx) (feeToken : Option String)
    (autoFeeToken : Bool) : Ending :=
  beginPipeline { model with
    attempt := model.attempt + 1
    formChainId := some ctx.chainId
    ctx := some ctx
    requestedFeeToken := feeToken
    feeToken
    autoFeeToken
    estimate := none
    stale := false
    quotes := []
    measured := none
    origin := .initial
    retries := 0
    retryingAfter := none
    autoReask := false }

/-- What `LeaveConfirm` and `ChainChanged` do to the run out. -/
def abandonRun (model : Model) : Model :=
  { model with
    attempt := model.attempt + 1, pending := .empty, origin := .initial, retries := 0,
    retryingAfter := none, autoReask := false, feeToken := none }

/-- A model with no run out: its figure, when it has one, stands. -/
def rest (model : Model) : Model :=
  { model with phase := if model.estimate.isSome then .quoted else .idle }

/-- `LeaveConfirm`: a figure in a token goes, one in the chain's coin stays. -/
def leaveConfirm (model : Model) : Model :=
  let model := abandonRun model
  match model.estimate.map FeeEstimate.feeAsset with
  | some (.erc20 ..) => rest { model with estimate := none, stale := false }
  | _ => rest model

/-- `ChainChanged`: the figure stays, for the view to hide. -/
def chainChanged (model : Model) (chainId : UInt32) : Model :=
  rest { abandonRun model with formChainId := some chainId, quotes := [] }

/-- Who a re-pricing of the figure on screen is for. -/
def requoteOrigin (model : Model) : Origin := if model.stale then .catchup else .refresh

def requote (model : Model) : Ending :=
  if model.ctx.isNone then .goes model []
  else if ticking model then .goes { model with origin := requoteOrigin model } []
  else if model.phase.isBusy then .goes model []
  else
    beginPipeline { model with
      retryingAfter := match model.phase with
        | .failed failure => some failure
        | _ => model.retryingAfter
      autoReask := false
      attempt := model.attempt + 1
      origin := requoteOrigin model }

def quoteExpired (model : Model) : Ending :=
  if ticking model then .goes { model with stale := true, origin := .catchup } []
  else if model.phase ≠ .quoted ∨ model.ctx.isNone then .goes model []
  else beginPipeline { model with
    stale := true, attempt := model.attempt + 1, origin := .catchup }

/-- `update`, up to a failure: what a handler ends in. -/
def handle (model : Model) : Event → Ending
  | .quoteRequested chainId account deployed publicKeyAvailable tier calls feeToken autoFeeToken
      readDeployment =>
      let reads := readDeployment == some true
      quoteRequested model
        ⟨chainId, account, deployed, reads, reads, publicKeyAvailable, tier, calls⟩ feeToken
        autoFeeToken
  | .selectFeeAsset token => selectFeeAssetNow (cancelTick model) token
  | .requote => requote model
  | .leaveConfirm => .goes (leaveConfirm model) []
  | .chainChanged chainId => .goes (chainChanged model chainId) []
  | .quoteExpired => quoteExpired model
  | .balanceChangesMeasured changes => balanceChangesMeasuredNow (cancelTick model) changes
  | .shellCompleted attempt result =>
    -- A superseded run is dropped.
    if attempt ≠ model.attempt then .goes model [] else accept model result

/-- The event stops a background run to act on the figure on screen. -/
def Event.stopsTick : Event → Bool
  | selectFeeAsset _ | balanceChangesMeasured _ => true
  | _ => false

def update (model : Model) (event : Event) : Model × List Request :=
  resumeIf (event.stopsTick && ticking model) (handle model event).finish

def selectedFeeIsShort (model : Model) : Bool :=
  (findOption model model.feeToken).any fun row =>
    (feeAmountForOption model row).any fun amount => decide (payableBalance model row < amount)

/-- The estimate is one for the chain the form is on. -/
def feeShown (model : Model) : Bool :=
  model.estimate.any fun estimate => some estimate.chainId == model.formChainId

/-- The run failed and its failure stands. -/
def Phase.isFailed : Phase → Bool
  | failed _ => true
  | _ => false

/-- `provisional` of the view. -/
def provisional (model : Model) : Bool :=
  feeShown model && !model.phase.isFailed && legIsStale model

/-- `confirm_fee_ready` of the view. -/
def confirmFeeReady (model : Model) : Bool :=
  !(model.phase.isBusy && model.origin != .tick) && !provisional model && !model.phase.isFailed &&
    feeShown model && !selectedFeeIsShort model

end VelaWallet.FeePolicy
