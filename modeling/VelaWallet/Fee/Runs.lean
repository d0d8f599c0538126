import VelaWallet.Fee.Machine

/-!
# The runs of the fee policy machine

From the context reads to a figure: what a run asks, how it prices, which coin it
tries next, and what every event does to the model (`fee_policy.rs`).
-/

namespace VelaWallet.FeePolicy

open Utf8 (CaseTable)

theorem narrow_le {value result : Nat} (read : narrow value = some result) : result ≤ maxU128 := by
  unfold narrow at read
  split at read
  case isTrue fits =>
    cases read
    exact fits
  case isFalse => cases read

theorem inBandAmountWith_le {charged amount : Nat} {fee native : AssetPricing}
    {minimums : Minimums} (priced : inBandAmountWith charged fee native minimums = some amount) :
    amount ≤ maxU128 := by
  obtain ⟨units, _, fits⟩ := Option.bind_eq_some_iff.mp priced
  exact narrow_le fits

theorem Charge.amount_le {charge : Charge} {gas amount : Nat} {feeRow nativeRow : ParsedQuote}
    (priced : charge.amount gas feeRow nativeRow = some amount) : amount ≤ maxU128 := by
  cases charge with
  | marked =>
    obtain ⟨charged, _, priced⟩ := Option.bind_eq_some_iff.mp priced
    exact inBandAmountWith_le priced
  | published => exact inBandAmountWith_le priced

theorem tempoReimbursement_le (gas price : Nat) (decimals : UInt32) :
    tempoReimbursement gas price decimals ≤ maxU128 := by
  apply Nat.max_le.mpr
  constructor
  · cases margin : (do
        let base ← attoUnitsWide
          (gas * if 0 < price then price else tempoBaseFeeAtto) decimals
        wide (base * 2)) with
    | none => simp
    | some _ => simp [narrowSaturating]
  · unfold tempoMinimumFeeTokenUnits
    split
    · exact Nat.le_refl _
    · cases (ceilDivWide _ 100) with
      | none => simp
      | some => simp [narrowSaturating]

/-- `measured_for`: Tempo weighs its coins by the calls alone. -/
def measuredFor (ctx : RequestCtx) (measured : Option Measured) : Option Measured :=
  if isTempoChain ctx.chainId then none else measured

def staticAutoPick (ctx : RequestCtx) (rows : List ParsedQuote) (measured : Option Measured)
    (charge : Charge) (excluded : List (Option String)) : Option (Option String) := do
  let native ← findQuote rows none
  pickCoin rows ctx.calls measured
    (fun row => charge.amount (staticTotalGas ctx.chainId ctx.deployed none) row native) excluded

def whenNoCoinPays (model : Model) : Option String :=
  if model.refused.any fun coin => sameCoin coin model.requestedFeeToken then model.feeToken
  else model.requestedFeeToken

def missingQuoteFailure (selected : Bool) : FeeFailure :=
  if selected then .feeTokenUnavailable else .quoteUnavailable

/-- `find_option`: the chain's coin always, a stablecoin only when it is held. -/
def findOption (model : Model) (token : Option String) : Option ParsedQuote :=
  (model.quotes.filter fun quote => quote.isNative || decide (0 < quote.balance)).find?
    fun quote => match token with
      | none => quote.isNative
      | some wanted => quote.feeToken.any (sameText · wanted)

def feeAmountForOption (model : Model) (option : ParsedQuote) : Option Nat :=
  match model.estimate with
  | none => none
  | some estimate =>
    if isTempoChain estimate.chainId then
      if option.isNative then none
      else some (tempoReimbursement estimate.totalGas estimate.networkFeePerGas option.decimals)
    else
      match findQuote model.quotes none, model.charge with
      | some native, some charge => charge.amount estimate.totalGas option native
      | _, _ => none

theorem feeAmountForOption_le {model : Model} {option : ParsedQuote} {amount : Nat}
    (priced : feeAmountForOption model option = some amount) : amount ≤ maxU128 := by
  unfold feeAmountForOption at priced
  split at priced
  · cases priced
  · split at priced
    · split at priced
      · cases priced
      · cases priced
        exact tempoReimbursement_le _ _ _
    · split at priced
      · exact Charge.amount_le priced
      · cases priced

def payableBalance (model : Model) (row : ParsedQuote) : Nat :=
  match model.ctx.bind fun ctx => measuredFor ctx model.measured with
  | some changes => afterChange row.balance (measuredChange changes row)
  | none => row.balance

def settleQuoted (model : Model) : Ending :=
  let model := { model with
    phase := .quoted, stale := false, origin := .initial, retries := 0, retryingAfter := none,
    autoReask := false }
  .goes model (resumeTicking model)

/-- The coin of a row as an estimate names it, at an amount. -/
def ParsedQuote.asset (row : ParsedQuote) (amount : Nat) : FeeAsset :=
  match row.isNative, row.feeToken with
  | false, some token => .erc20 token row.decimals amount (some row.symbol)
  | _, _ => .native

/-- The estimate a generic run settles on. -/
def genericEstimate (ctx : RequestCtx) (plan : GenericPlan) (totalGas : Nat) (charge : Charge)
    (selected : ParsedQuote) (amount : Nat) (fits : amount ≤ maxU128) : FeeEstimate where
  chainId := ctx.chainId
  totalWei := if (selected.asset amount).coin.isNone then amount else 0
  maxFeePerGas := 0
  networkFeePerGas := plan.networkFeePerGas
  relayerFeePerGas := plan.relayerFeePerGas
  bundlerGasPrice := plan.bundlerGasPrice
  inBandGasBasis := charge.basis
  effectiveGasPrice := plan.effectiveGasPrice
  maxGasPrice := plan.maxGasPrice
  totalGas := totalGas
  deployed := ctx.deployed
  tier := ctx.tier
  quoted := plan.quoted
  feeAsset := selected.asset amount
  feeRecipient := some selected.recipient
  totalWei_le := by
    split
    · exact fits
    · exact Nat.zero_le _
  amount_le := by
    unfold ParsedQuote.asset
    split
    · exact fits
    · exact Nat.zero_le _

/-- The estimate a Tempo run settles on. -/
def tempoEstimate (ctx : RequestCtx) (plan : TempoPlan) (expectedGas : Nat) : FeeEstimate where
  chainId := ctx.chainId
  totalWei := narrowSaturating
    (tempoReimbursement expectedGas plan.gasPriceAtto tempoFeeTokenDecimals.toUInt32 * 10 ^ 12)
  maxFeePerGas := plan.gasPriceAtto
  networkFeePerGas := plan.gasPriceAtto
  relayerFeePerGas := 0
  bundlerGasPrice := plan.gasPriceAtto
  inBandGasBasis := plan.gasPriceAtto
  effectiveGasPrice := none
  maxGasPrice := none
  totalGas := expectedGas
  deployed := ctx.deployed
  tier := ctx.tier
  quoted := false
  feeAsset := .erc20 plan.feeToken tempoFeeTokenDecimals.toUInt32
    (tempoReimbursement expectedGas plan.gasPriceAtto tempoFeeTokenDecimals.toUInt32)
    (if sameText plan.feeToken tempoDefaultFeeToken then some "pathUSD" else none)
  feeRecipient := plan.recipient.filter isValidAddress
  totalWei_le := Nat.min_le_right _ _
  amount_le := tempoReimbursement_le _ _ _

variable [CaseTable]

/-- The calls a simulation carries: the request's own, or the placeholder. -/
def simulatedCalls (ctx : RequestCtx) : List FeeCall :=
  if ctx.calls.isEmpty then [dummyEstimationCall] else ctx.calls

def estimateIn (model : Model) (ctx : RequestCtx) (plan : GenericPlan) (coin : Option String) :
    Ending :=
  match findQuote model.quotes coin with
  | none => .fails model .calculationFailed
  | some row =>
    let model := { model with feeToken := coin }
    match inBandFeeLeg coin row.recipient 1 with
    | none => .fails model .estimateFailed
    | some leg =>
      let calls := simulatedCalls ctx ++ [leg]
      let model := { model with
        pending := { model.pending with
          measuredLeg := some (FeeLeg.of coin), userOpGas := none },
        phase := .estimating (.generic
          { plan with estCalldataLen := multisendExecuteCalldataLen calls }) }
      .goes model (model.asks
        [.estimateUserOpGas ctx.chainId ctx.account ctx.deployed calls])

/-- `price_generic`, once the coin is settled. -/
def settleGeneric (model : Model) (ctx : RequestCtx) (plan : GenericPlan) (totalGas : Nat)
    (charge : Charge) (native : ParsedQuote) : Ending :=
  match findQuote model.quotes model.feeToken with
  | none => .fails model .calculationFailed
  | some selected =>
    match priced : charge.amount totalGas selected native with
    | none => .fails model .calculationFailed
    | some amount =>
      let covering := max selected.balance (payableBalance model selected)
      if model.feeToken.isSome && feeRowInsufficient covering (some amount) then
        .fails model .feeTokenUnavailable
      else
        settleQuoted { model with
          estimate := some (genericEstimate ctx plan totalGas charge selected amount
            (Charge.amount_le priced)),
          measuredLeg := model.pending.measuredLeg,
          charge := some charge }

/-- The coin `price_generic` moves to on the real gas. -/
def repickedCoin (model : Model) (ctx : RequestCtx) (totalGas : Nat) (charge : Charge)
    (native : ParsedQuote) : Option String :=
  let measured := measuredFor ctx model.measured
  let feeFor := fun row => charge.amount totalGas row native
  if measured.isNone &&
      autoPickHolds model.quotes model.feeToken (Spend.new ctx.calls none) feeFor then
    model.feeToken
  else
    (pickCoin model.quotes ctx.calls measured feeFor model.refused).getD (whenNoCoinPays model)

def priceGeneric (model : Model) (ctx : RequestCtx) (plan : GenericPlan) (totalGas : Nat)
    (charge : Charge) : Ending :=
  match findQuote model.quotes none with
  | none => .fails model .calculationFailed
  | some native =>
    if picksCoin model && !model.pending.relegged then
      let model := { model with feeToken := repickedCoin model ctx totalGas charge native }
      if model.pending.measuredLeg ≠ some (FeeLeg.of model.feeToken) then
        estimateIn { model with pending := { model.pending with relegged := true } } ctx plan
          model.feeToken
      else settleGeneric model ctx plan totalGas charge native
    else settleGeneric model ctx plan totalGas charge native

def priceTempo (model : Model) (ctx : RequestCtx) (plan : TempoPlan) (expectedGas : Nat) :
    Ending :=
  let spend := Spend.new ctx.calls none
  let feeFor := fun row : ParsedQuote => if row.isNative then none
    else some (tempoReimbursement expectedGas plan.gasPriceAtto row.decimals)
  let repicked :=
    if picksCoin model && !autoPickHolds model.quotes (some plan.feeToken) spend feeFor then
      (autoPick model.quotes spend feeFor []).join
    else none
  let (model, plan) := match repicked with
    | some choice => ({ model with feeToken := some choice }, { plan with feeToken := choice })
    | none => (model, plan)
  settleQuoted { model with
    estimate := some (tempoEstimate ctx plan expectedGas), charge := none, measuredLeg := none }

def advanceTempo (model : Model) (ctx : RequestCtx) (gas : ChainGasPrice)
    (recipient : Option String) : Ending :=
  let hasContractCall := ctx.calls.any fun call => call.data != "" && call.data != "0x"
  let staticGas := tempoExpectedGas ctx.deployed
    (max ctx.calls.length 1 + if hasContractCall then 2 else 1)
  let picked :=
    if picksCoin model then
      autoPick model.quotes (Spend.new ctx.calls none) (fun row => if row.isNative then none
        else some (tempoReimbursement staticGas gas.gasPrice row.decimals)) []
    else none
  let model := match picked with
    | some choice => { model with feeToken := choice }
    | none => model
  let feeToken := model.feeToken.getD tempoDefaultFeeToken
  let plan : TempoPlan := ⟨gas.gasPrice, staticGas, feeToken, recipient⟩
  if hasContractCall && ctx.deployed then
    match encodeErc20Transfer ctx.account 1 with
    | none => .fails model .estimateFailed
    | some data =>
      let leg : FeeCall := ⟨feeToken, "0", data⟩
      let model := { model with
        pending := { model.pending with userOpGas := none, innerFloor := some none },
        phase := .estimating (.tempo plan) }
      .goes model (model.asks
        [.estimateUserOpGas ctx.chainId ctx.account ctx.deployed (ctx.calls ++ [leg, leg])])
  else priceTempo model ctx plan staticGas

/-- The published price of `advance_generic`, or the failure it ends in. -/
def publishedPrice (ctx : RequestCtx) (gas : ChainGasPrice) (accepted : Option AcceptedQuote) :
    Except FeeFailure (Option Nat) :=
  match accepted.bind fun quote => quote.inBandFeePerGas.map (·, quote) with
  | none => .ok none
  | some (relayPrice, quote) =>
    let tip := quote.maxPriorityFeePerGas.getD 0
    match inBandPerGas ctx.tier gas.baseFee tip,
        inBandCap ctx.tier (nextBaseFeeFloor gas.baseFee) tip with
    | some own, some lowestCap =>
      if 0 < own ∧ saturatingMul own 3 < relayPrice then .error .gasQuoteTooHigh
      else if quote.maxFeePerGas < lowestCap then
        match (ceilDivWide (relayPrice * lowestCap) quote.maxFeePerGas).bind narrow with
        | none => .error .calculationFailed
        | some raised => .ok (some (max relayPrice raised))
      else .ok (some relayPrice)
    | _, _ => .error .calculationFailed

/-- The network's fee, the relayer's and the bundler's price of `advance_generic`. -/
def networkFees (ctx : RequestCtx) (gas : ChainGasPrice) :
    Option AcceptedQuote → Nat × Nat × Nat
  | some quote => (quote.networkFeePerGas, quote.relayerFeePerGas, quote.networkFeePerGas)
  | none =>
    let (num, den) := tierMultiplier ctx.tier
    let bundler := max (narrowSaturating (gas.gasPrice * num / den)) 1
    (bundler, calcMaxFeePerGas gas.gasPrice ctx.tier - bundler, bundler)

/-- `advance_generic`, once the coin is chosen: the rows are kept and the operation
is simulated with the coin's leg. -/
def simulateGeneric (model : Model) (ctx : RequestCtx) (rows : List ParsedQuote)
    (plan : Nat → GenericPlan) : Ending :=
  match findQuote rows model.feeToken, findQuote rows none with
  | some selected, some _ =>
    let model := { model with quotes := rows }
    match inBandFeeLeg model.feeToken selected.recipient 1 with
    | none => .fails model .estimateFailed
    | some leg =>
      let calls := simulatedCalls ctx ++ [leg]
      let toMeasure := ctx.calls.filter isContractCall
      let model := { model with
        pending := { model.pending with
          measuredLeg := some (FeeLeg.of model.feeToken), userOpGas := none,
          innerFloor := if toMeasure.isEmpty then some none else none },
        phase := .estimating (.generic (plan (multisendExecuteCalldataLen calls))) }
      .goes model (model.asks
        ([.estimateUserOpGas ctx.chainId ctx.account ctx.deployed calls] ++
          if toMeasure.isEmpty then []
          else [.measureInnerCalls ctx.chainId ctx.account toMeasure]))
  | _, _ => .fails model (missingQuoteFailure model.feeToken.isSome)

def advanceGeneric (model : Model) (ctx : RequestCtx) (gas : ChainGasPrice)
    (measuredBaseFee : Option Nat) (bundler : Option FeeBundlerQuote)
    (quotes : Option (List ParsedQuote)) : Ending :=
  let accepted := acceptBundlerQuote bundler gas.gasPrice
  let range := accepted.bind fun quote => measuredBaseFee.bind fun baseFee =>
    quote.maxPriorityFeePerGas.map fun tip => gasPriceRange baseFee quote.maxFeePerGas tip
  let (network, relayer, bundlerPrice) := networkFees ctx gas accepted
  if accepted.isSome ∧ 0 < gas.gasPrice ∧ saturatingMul gas.gasPrice 3 < network then
    .fails model .gasQuoteTooHigh
  else
    match publishedPrice ctx gas accepted with
    | .error failure => .fails model failure
    | .ok published =>
      let basis := max network gas.gasPrice
      match quotes with
      | none => .fails model (missingQuoteFailure model.feeToken.isSome)
      | some rows =>
        let provisional := (published.map Charge.published).getD (.marked basis)
        let model := { model with lastCharge := some provisional }
        let picked :=
          if picksCoin model then
            staticAutoPick ctx rows (measuredFor ctx model.measured) provisional model.refused
          else none
        let model := match picked with
          | some choice => { model with feeToken := choice }
          | none => model
        simulateGeneric model ctx rows fun length =>
          ⟨network, relayer, bundlerPrice, basis, range.map Prod.fst, range.map Prod.snd,
            published, accepted.isSome, length⟩

def tryAdvance (model : Model) : Ending :=
  match model.ctx with
  | none => .goes model []
  | some ctx =>
    if isTempoChain ctx.chainId then
      match model.pending.gas, model.pending.recipient, model.pending.quotes with
      | some gas, some recipient, some quotes =>
        advanceTempo { model with quotes := quotes.getD [] } ctx gas recipient
      | _, _, _ => .goes model []
    else
      match model.pending.gas, model.pending.bundler, model.pending.quotes with
      | some gas, some bundler, some quotes =>
        advanceGeneric model ctx gas model.pending.measuredBaseFee bundler quotes
      | _, _, _ => .goes model []

end VelaWallet.FeePolicy
