import VelaWallet.Send.Amounts

/-!
# What a confirm signs

The submit plan: the batch, its activity lines and the fee, built once from the
model, with the review of it and the records it leaves.
-/

namespace VelaWallet.Send

open FeePolicy
open SignedReview (Review ReviewedTransfer ReviewedFee)

variable [Runtime]

/-- What a confirm signs. -/
structure SubmitPlan where
  chainId : UInt32
  account : String
  maxFeePerGas : Option String
  gasFeeToken : Option String
  quotedFee : Option SendQuotedFee
  calls : List FeeCall
  lines : List SendLine

/-- The coin an estimate is denominated in, as a submit names it: Tempo's default
token is not named. -/
def coinName (fee : FeeEstimate) : Option String :=
  match fee.feeAsset with
  | .native => none
  | .erc20 token _ _ _ =>
    if isTempoChain fee.chainId && sameText token tempoDefaultFeeToken then none else some token

/-- `quoted_fee_token`: the person's pick when there is one, else the coin of
the quote in hand. -/
def quotedFeeToken (model : Model) (fee : Option FeeEstimate) : Option String :=
  if model.fees.coin.feeCoinChosen then model.fees.coin.gasFeeToken
  else fee.bind coinName

def coinAmount (fee : FeeEstimate) : Nat :=
  match fee.feeAsset with
  | .native => fee.totalWei
  | .erc20 _ _ amount _ => amount

/-- The fee leg an estimate quotes, when it names who is paid. -/
def quoteOf (fee : FeeEstimate) : Option SendQuotedFee :=
  fee.feeRecipient.map fun recipient => ⟨toString (coinAmount fee), recipient, wireTier fee.tier⟩

def SendToken.line (token : SendToken) (target : String) (toName : Option String)
    (amount : String) : SendLine where
  target
  toName
  amount
  symbol := token.symbol
  tokenAddress := token.tokenAddress
  decimals := token.decimals
  priceUsd := token.priceUsd.getD 0
  logoUrls := token.logoUrls

/-- The name the single recipient resolved to. -/
def recipientName (model : Model) : Option String :=
  model.probes.recipientIdentity.bind (·.name)

/-- The batch of a sweep and its lines. -/
def multiPlan (model : Model) (chainId : UInt32) : Option (List FeeCall × List SendLine) :=
  let specs := multiTokenSpecs model chainId
  let recipient := Utf8.trim model.form.recipient
  (buildMultiTokenCalls recipient specs).map fun calls =>
    (calls, specs.filterMap fun spec =>
      ((pickedTokens model).find? fun token => token.tokenAddress == spec.tokenAddress).map
        fun token => token.line recipient (recipientName model) spec.amount)

def splitPlan (model : Model) (token : SendToken) : Option (List FeeCall × List SendLine) :=
  (buildSplitCalls token.tokenAddress token.decimals.toNat model.form.recipients).map fun calls =>
    (calls, model.form.recipients.map fun row =>
      token.line (Utf8.trim row.address) ((row.name.map Utf8.trim).filter (· != "")) row.amount)

def singlePlan (model : Model) (token : SendToken) : Option (List FeeCall × List SendLine) := do
  let amount := modelTokenAmount model token
  let units ← toBaseUnits amount token.decimals.toNat
  let call ← transferCall token.tokenAddress model.form.recipient units
  return ([call], [token.line model.form.recipient (recipientName model) amount])

/-- `submit_plan`: nothing when the batch cannot be built. -/
def submitPlan (model : Model) : Option SubmitPlan := do
  let token ← model.holdings.selectedToken
  let account ← model.account
  let currentFee := model.fees.feeEstimate.filter (·.chainId == token.chainId)
  let (calls, lines) ← if model.form.multiSelectMode then multiPlan model token.chainId
    else if model.form.splitMode then splitPlan model token
    else singlePlan model token
  return {
    chainId := token.chainId
    account := account.address
    maxFeePerGas := currentFee.map fun fee => toString fee.maxFeePerGas
    gasFeeToken := quotedFeeToken model currentFee
    quotedFee := currentFee.bind quoteOf
    calls
    lines }

/-- `signed_review`: every line in base units of its own figure, and the quoted
fee in the coin it is paid in. -/
def signedReview (plan : SubmitPlan) : Option Review := do
  let transfers ← plan.lines.mapM fun line => do
    let units ← toBaseUnits line.amount line.decimals.toNat
    return (⟨Utf8.trim line.target, line.tokenAddress, toString units⟩ : ReviewedTransfer)
  let fee := plan.quotedFee.map fun fee =>
    (⟨fee.recipient, plan.gasFeeToken.or
      (if isTempoChain plan.chainId then some tempoDefaultFeeToken else none), fee.amount⟩ :
        ReviewedFee)
  return ⟨plan.chainId, plan.account, transfers, fee⟩

/-- The review of what the model would sign now. -/
def modelReview (model : Model) : Option Review := (submitPlan model).bind signedReview

def reviewText (review : Review) : String :=
  let account := match SignedReview.address review.account with
    | .ok account => account
    | .error _ => Utf8.toLowercase review.account
  let legs := match review.legs with
    | .ok legs => String.join (legs.map fun leg =>
      leg.target ++ "|" ++ leg.token.getD "native" ++ "|" ++ toString leg.amount ++ "\n")
    | .error _ => Runtime.debugReview review
  "vela.review.v1\n" ++ toString review.chainId ++ "\n" ++ account ++ "\n" ++ legs ++
    (if review.fee.isNone then "no fee\n" else "")

def digest (review : Review) : String :=
  toHex (Runtime.sha256 (Utf8.bytes (reviewText review))) true

def reviewDigest (model : Model) : Option String := (modelReview model).map digest

/-- `tx_records`: one activity record per line. -/
def txRecords (model : Model) (lines : List SendLine) (chainId : UInt32) (userOpHash : String)
    (nowMs : Float) (maybeSent : Bool) (submitBlock : Option UInt64) : List SendTxRecord :=
  lines.mapIdx fun index line =>
    let usd := SendToken.parseFloatOrZero line.amount * line.priceUsd
    { id := if 1 < lines.length then userOpHash ++ "-" ++ toString index else userOpHash
      userOpHash
      txHash := ""
      source := (model.account.map (·.address)).getD ""
      target := line.target
      toName := line.toName
      value := line.amount
      symbol := line.symbol
      decimals := line.decimals
      logoUrls := line.logoUrls
      chainId
      timestampS := Floating.floor (nowMs / 1000)
      usd := if 0 < usd then some ("$" ++ Floating.toFixed usd 2) else none
      maybeSent
      submitBlock }

end VelaWallet.Send
