import VelaWallet.Fee.Coins

/-!
# The fee policy machine

The model of `fee_policy.rs`: the request being priced, the run out for it, the
figure on screen and the coin it is priced in.  A handler ends either with a model
and the requests it makes, or with a failure that who started the run decides about.
-/

namespace VelaWallet.FeePolicy

structure RequestCtx where
  chainId : UInt32
  account : String
  deployed : Bool
  readsDeployment : Bool
  needsDeploymentRead : Bool
  publicKeyAvailable : Bool
  tier : FeeTier
  calls : List FeeCall

/-- `Origin`: who started the run. -/
inductive Origin where
  | initial
  | refresh
  | select (previous : Option String)
  | tick
  | catchup
  | remeasure
  deriving DecidableEq

/-- `FeeLeg`: the fee leg a gas measurement simulated, a token in lower case. -/
inductive FeeLeg where
  | native
  | token (contract : String)
  deriving DecidableEq

def FeeLeg.of [Utf8.CaseTable] : Option String → FeeLeg
  | none => native
  | some contract => token (Utf8.toLowercase contract)

inductive FeeGasOutcome where
  | estimated (verificationGasLimit callGasLimit preVerificationGas : String)
      (settlementGas : Option String)
  | simulationFailed
  | contextUnavailable
  | refused

/-- `Pending`: what the run out has been told so far. -/
structure Pending where
  gas : Option ChainGasPrice
  measuredBaseFee : Option Nat
  bundler : Option (Option FeeBundlerQuote)
  quotes : Option (Option (List ParsedQuote))
  recipient : Option (Option String)
  userOpGas : Option FeeGasOutcome
  innerFloor : Option (Option Nat)
  measuredLeg : Option FeeLeg
  relegged : Bool

/-- `Pending::default`. -/
def Pending.empty : Pending := ⟨none, none, none, none, none, none, none, none, false⟩

/-- `PricePlan::Generic`. -/
structure GenericPlan where
  networkFeePerGas : Nat
  relayerFeePerGas : Nat
  bundlerGasPrice : Nat
  inBandGasBasis : Nat
  effectiveGasPrice : Option Nat
  maxGasPrice : Option Nat
  published : Option Nat
  quoted : Bool
  estCalldataLen : Nat
  deriving DecidableEq

/-- `PricePlan::Tempo`. -/
structure TempoPlan where
  gasPriceAtto : Nat
  staticGas : Nat
  feeToken : String
  recipient : Option String
  deriving DecidableEq

inductive PricePlan where
  | generic (plan : GenericPlan)
  | tempo (plan : TempoPlan)
  deriving DecidableEq

inductive FeeFailure where
  | missingPublicKey
  | feeTokenUnavailable
  | quoteUnavailable
  | calculationFailed
  | estimateFailed
  | gasQuoteTooHigh
  | chainRead (rateLimited : Bool)
  | wouldFail
  | internal
  deriving DecidableEq

inductive Phase where
  | idle
  | readingAccount
  | gathering
  | estimating (plan : PricePlan)
  | quoted
  | failed (failure : FeeFailure)
  deriving DecidableEq

def Phase.isBusy : Phase → Bool
  | readingAccount | gathering | estimating _ => true
  | idle | quoted | failed _ => false

structure Model where
  freshReads : Bool
  formChainId : Option UInt32
  ctx : Option RequestCtx
  phase : Phase
  origin : Origin
  pending : Pending
  quotes : List ParsedQuote
  feeToken : Option String
  autoFeeToken : Bool
  requestedFeeToken : Option String
  estimate : Option FeeEstimate
  measuredLeg : Option FeeLeg
  stale : Bool
  attempt : Nat
  measured : Option Measured
  lastCharge : Option Charge
  charge : Option Charge
  refused : List (Option String)
  retries : Nat
  retryingAfter : Option FeeFailure
  autoReask : Bool

/-- `Model::default`. -/
def Model.fresh : Model where
  freshReads := false
  formChainId := none
  ctx := none
  phase := .idle
  origin := .initial
  pending := .empty
  quotes := []
  feeToken := none
  autoFeeToken := false
  requestedFeeToken := none
  estimate := none
  measuredLeg := none
  stale := false
  attempt := 0
  measured := none
  lastCharge := none
  charge := none
  refused := []
  retries := 0
  retryingAfter := none
  autoReask := false

inductive FeeOperation where
  | fetchGasPrice (chainId : UInt32) (wantTip fresh : Bool)
  | readDeployment (chainId : UInt32) (account : String) (fresh : Bool)
  | fetchBundlerQuote (chainId : UInt32) (tier : FeeTier)
  | fetchInBandQuotes (chainId : UInt32) (account : String)
  | fetchFeeRecipient (chainId : UInt32) (account : String)
  | estimateUserOpGas (chainId : UInt32) (account : String) (deployed : Bool)
      (calls : List FeeCall)
  | measureInnerCalls (chainId : UInt32) (caller : String) (calls : List FeeCall)
  | startTtl (ms : Nat)
  | startDeadline (ms : Nat)

inductive DeploymentRead where
  | read (deployed : Bool)
  | unreachable (rateLimited : Bool)
  | internal (kind : String)

/-- `FeeAssetQuote`: one coin of the quote as the wire spells it. -/
structure FeeAssetQuote where
  recipient : String
  isNative : Bool
  feeToken : Option String
  balance : String
  decimals : UInt32
  symbol : String
  usdBalance : String
  usdPrice : Option String
  nativeUsdFloorPrice : Option String
  minimumAmount : Option String

inductive FeeShellResult where
  | gasPrice (ethGasPrice baseFee priorityFee : Option String)
  | bundlerQuote (quote : Option FeeBundlerQuote)
  | inBandQuotes (quotes : Option (List FeeAssetQuote))
  | feeRecipient (recipient : Option String)
  | userOpGas (outcome : FeeGasOutcome)
  | innerCallsMeasured (gas : List (Option String))
  | ttlElapsed
  | deadlineElapsed
  | deployment (read : DeploymentRead)

structure FeeBalanceChange where
  token : Option String
  delta : String

inductive Event where
  | quoteRequested (chainId : UInt32) (account : String) (deployed publicKeyAvailable : Bool)
      (tier : FeeTier) (calls : List FeeCall) (feeToken : Option String) (autoFeeToken : Bool)
      (readDeployment : Option Bool)
  | selectFeeAsset (token : Option String)
  | requote
  | leaveConfirm
  | chainChanged (chainId : UInt32)
  | quoteExpired
  | balanceChangesMeasured (changes : List FeeBalanceChange)
  | shellCompleted (attempt : Nat) (result : FeeShellResult)

/-- An operation asked for, with the attempt its answer must match. -/
structure Request where
  attempt : Nat
  operation : FeeOperation

/-- `requests`. -/
def Model.asks (model : Model) (operations : List FeeOperation) : List Request :=
  operations.map (⟨model.attempt, ·⟩)

/-- How a handler ends: with the model and what it asks, or by `fail`. -/
inductive Ending where
  | goes (model : Model) (asked : List Request)
  | fails (model : Model) (failure : FeeFailure)

def twelveSecondSlotChains : List UInt32 := [1, 11155111, 17000, 560048]

def requoteIntervalMs (chainId : UInt32) : Nat :=
  min (max (if chainId ∈ twelveSecondSlotChains then 12000 else 0) 6000) 30000

def requoteDelayMs (failure : FeeFailure) (attempt : Nat) : Option Nat :=
  match failure with
  | .quoteUnavailable | .feeTokenUnavailable | .estimateFailed | .gasQuoteTooHigh | .chainRead _
  | .internal => some (if attempt ≤ 1 then 3000 else if attempt = 2 then 6000 else 8000)
  | .missingPublicKey | .calculationFailed | .wouldFail => none

def resumeTicking (model : Model) : List Request :=
  model.asks [.startTtl (requoteIntervalMs ((model.ctx.map RequestCtx.chainId).getD 0))]

def runDeadlineMs (model : Model) : Nat := if model.autoReask then 6000 else 15000

def afterFailure (model : Model) : List Request :=
  match model.phase, model.ctx with
  | .failed failure, some _ =>
    match requoteDelayMs failure (min (model.retries + 1) (2 ^ 32 - 1)) with
    | some ms => model.asks [.startTtl ms]
    | none => []
  | _, _ => []

def picksCoin (model : Model) : Bool := model.autoFeeToken && model.origin != .tick

def ticking (model : Model) : Bool := model.origin == .tick && model.phase.isBusy

def legIsStale [Utf8.CaseTable] (model : Model) : Bool :=
  model.estimate.isSome && model.measuredLeg.any fun leg => leg != FeeLeg.of model.feeToken

def FeeAsset.coin : FeeAsset → Option String
  | .native => none
  | .erc20 token .. => some token

def keepQuoteCoin (model : Model) : Model :=
  match model.estimate with
  | none => model
  | some estimate =>
    let coin := estimate.feeAsset.coin
    let tempoDefault := isTempoChain estimate.chainId && model.feeToken.isNone &&
      coin.any (sameText · tempoDefaultFeeToken)
    if !tempoDefault && !sameCoin coin model.feeToken then { model with feeToken := coin }
    else model

def beginGathering (model : Model) : Ending :=
  match model.ctx with
  | none => .goes model []
  | some ctx =>
    let tempo := isTempoChain ctx.chainId
    let fresh := model.freshReads
    let model := { model with freshReads := false }
    if !tempo && !ctx.deployed && !ctx.publicKeyAvailable then .fails model .missingPublicKey
    else
      let model := { model with pending := .empty, refused := [], phase := .gathering }
      .goes model (model.asks [
        .fetchGasPrice ctx.chainId (!tempo) fresh,
        if tempo then .fetchFeeRecipient ctx.chainId ctx.account
        else .fetchBundlerQuote ctx.chainId ctx.tier,
        .fetchInBandQuotes ctx.chainId ctx.account,
        .startDeadline (runDeadlineMs model)])

def beginPipeline (model : Model) : Ending :=
  match model.ctx with
  | none => .goes model []
  | some ctx =>
    if ctx.readsDeployment && (ctx.needsDeploymentRead || !ctx.deployed) then
      let fresh := model.freshReads
      let model := { model with pending := .empty, refused := [], phase := .readingAccount }
      .goes model (model.asks [
        .readDeployment ctx.chainId ctx.account fresh, .startDeadline (runDeadlineMs model)])
    else beginGathering model

/-- `fail_now`, where no background run fails over a figure on screen. -/
def failOver (model : Model) (failure : FeeFailure) : Model :=
  let origin := model.origin
  let model := { model with freshReads := true, origin := .initial }
  match origin with
  | .initial | .tick => { model with phase := .failed failure }
  | .refresh =>
    if model.estimate.isSome then { keepQuoteCoin model with phase := .quoted }
    else { model with phase := .failed failure }
  | .select previous =>
    let model := { model with feeToken := previous }
    if model.estimate.isSome then { keepQuoteCoin model with phase := .quoted }
    else { model with phase := .failed failure }
  | .catchup =>
    { model with estimate := none, charge := none, stale := false, phase := .failed failure }
  | .remeasure =>
    { model with
      estimate := none, measuredLeg := none, charge := none, stale := false,
      phase := .failed failure }

/-- The run that retried ends here, whichever way. -/
def endRetry (model : Model) : Model := { model with retryingAfter := none, autoReask := false }

/-- `fail`, for a run that is not a background one over a figure. -/
def failOnce (model : Model) (failure : FeeFailure) : Model × List Request :=
  let model := failOver (endRetry model) failure
  (model, afterFailure model)

/-- A background run that failed over a figure, about to be started again for the
person to see. -/
def caughtUp (model : Model) : Model :=
  { keepQuoteCoin { endRetry model with freshReads := true, origin := .initial } with
    stale := true, attempt := model.attempt + 1, origin := .catchup }

/-- `fail`: a background run that fails over a figure is started again at once as
a catch-up. -/
def fail (model : Model) (failure : FeeFailure) : Model × List Request :=
  if model.origin = .tick ∧ model.estimate.isSome then
    match beginPipeline (caughtUp model) with
    | .goes model asked => (model, asked ++ afterFailure model)
    | .fails model failure =>
      let (model, asked) := failOnce model failure
      (model, asked ++ afterFailure model)
  else failOnce model failure

def Ending.finish : Ending → Model × List Request
  | .goes model asked => (model, asked)
  | .fails model failure => fail model failure

end VelaWallet.FeePolicy
