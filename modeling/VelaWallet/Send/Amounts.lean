import Mathlib.Data.List.Sort
import VelaWallet.Send.Model

/-!
# The money rules of the form

What the form's figures come to: the amount in token units, the calls a send is
made of, the lines of a sweep, and the coin that has to be there for the fee.
-/

namespace VelaWallet.Send

open FeePolicy
open Floating (jsParseFloat)
open Money (TokenPrice DenominatedAmount)

variable [Runtime]

/-- `js_parse_float(text) > 0.0`. -/
def isPositiveFigure (text : String) : Bool := 0 < jsParseFloat text

def recipientsAreValid (recipients : List SendRecipientDraft) : Bool :=
  !recipients.isEmpty && recipients.all fun row =>
    isValidAddress (Utf8.trim row.address) && isPositiveFigure row.amount

def sumSplitBaseUnits (recipients : List SendRecipientDraft) (decimals : Nat) : Option Nat :=
  recipients.foldlM (fun sum row =>
    (toBaseUnits row.amount decimals).map fun units => saturatingAdd sum units) 0

def canCoverNativeTransfer (amountWei balanceWei quotedFeeWei : Nat) : Bool :=
  amountWei + quotedFeeWei ≤ maxU128 && amountWei + quotedFeeWei ≤ balanceWei

/-- The call that moves `amount` of a token, or of the chain's coin. -/
def transferCall (tokenAddress : Option String) (target : String) (amount : Nat) : Option FeeCall :=
  match tokenAddress with
  | none => some ⟨target, toString amount, "0x"⟩
  | some token => (FeePolicy.encodeErc20Transfer target amount).map fun data => ⟨token, "0", data⟩

def buildTransferCall (tokenAddress : Option String) (target : String) (amount : Nat) :
    Option FeeCall :=
  if isValidAddress target && amount != 0 && tokenAddress.all isValidAddress then
    transferCall tokenAddress target amount
  else none

def buildSplitCalls (tokenAddress : Option String) (decimals : Nat)
    (recipients : List SendRecipientDraft) : Option (List FeeCall) :=
  if recipients.isEmpty then none
  else recipients.mapM fun row => do
    let units ← toBaseUnits row.amount decimals
    buildTransferCall tokenAddress (Utf8.trim row.address) units

def buildMultiTokenCalls (recipient : String) (specs : List MultiTokenSpec) :
    Option (List FeeCall) :=
  if specs.isEmpty then none
  else specs.mapM fun spec => do
    let units ← toBaseUnits spec.amount spec.decimals.toNat
    buildTransferCall spec.tokenAddress recipient units

def displayPrice (model : Model) (token : SendToken) : Option TokenPrice :=
  TokenPrice.new token.priceUsd model.display.rate model.display.code

def modelTokenAmount (model : Model) (token : SendToken) : String :=
  match model.form.maxFill with
  | some (.exact exact) => exact
  | _ => model.form.amount.toTokenUnits (displayPrice model token) token.decimals.toNat

def fullBalance (token : SendToken) : String :=
  if token.balance = "" then "0" else token.balance

/-- `selected_fee`: the estimate in hand, when it is for the selected token's
chain. -/
def selectedFee (model : Model) : Option FeeEstimate := do
  let token ← model.holdings.selectedToken
  let fee ← model.fees.feeEstimate
  if fee.chainId = token.chainId then some fee else none

def quoteIsForFeeCoin (model : Model) (fee : FeeEstimate) : Bool :=
  match model.fees.coin.gasFeeToken, fee.feeAsset with
  | some chosen, .erc20 token _ _ _ => sameText chosen token
  | some _, .native => false
  | none, .native => true
  | none, .erc20 .. => !model.fees.coin.feeCoinChosen

def maxQuote (model : Model) : Option FeeEstimate :=
  (selectedFee model).filter (quoteIsForFeeCoin model)

def chainNativeSymbol (model : Model) (chainId : UInt32) : Option String :=
  (model.holdings.chains.find? (·.chainId == chainId)).map (·.nativeSymbol)

def formChain (model : Model) : Option UInt32 :=
  (model.holdings.selectedToken.map (·.chainId)).or model.form.multiChainId

def pickedTokens (model : Model) : List SendToken :=
  model.holdings.tokens.filter fun token => model.form.multiSelectedIds.contains token.id

/-- The lines of a sweep before anything is held back. -/
def rawSpecs (model : Model) : List MultiTokenSpec :=
  (pickedTokens model).map fun token => ⟨token.tokenAddress, token.decimals, fullBalance token⟩

def multiTokenSpecs (model : Model) (chainId : UInt32) : List MultiTokenSpec :=
  match model.fees.feeEstimate.filter (·.chainId == chainId) with
  | some fee =>
    match fee.feeAsset with
    | .erc20 token _ amount _ => reserveFeeToken (rawSpecs model) token (saturatingMul amount 2)
    | .native => reserveNativeGas (rawSpecs model) fee.totalWei
  | none => reserveNativeGas (rawSpecs model) 0

def maxFeeReserve (token : SendToken) (fee : FeeEstimate) : Option Nat :=
  match token.tokenAddress, fee.feeAsset with
  | none, _ => some fee.totalWei
  | some address, .erc20 feeToken _ amount _ =>
    if sameText feeToken address then some (saturatingMul amount 3 / 2) else none
  | some _, .native => none

def maxWithFee (token : SendToken) (fee : FeeEstimate) : String :=
  match maxFeeReserve token fee, toBaseUnits token.balance token.decimals.toNat with
  | some reserve, some balance => maxNativeSendable balance reserve token.decimals.toNat
  | _, _ => fullBalance token

/-- The last two digits of a figure too small for the ladder. -/
def smallFigure (fraction : List Char) : String :=
  let lead := (fraction.takeWhile (· == '0')).length
  if lead = fraction.length then "0"
  else
    let kept := fraction.take (min (lead + 2) fraction.length)
    "0." ++ String.ofList (kept.reverse.dropWhile (· == '0')).reverse

/-- `max_figure`: the exact amount on the balance line's ladder. -/
def maxFigure (exact : String) : String :=
  let text := (Utf8.trim exact).toList
  let whole := text.takeWhile (· != '.')
  let fraction := text.drop (whole.length + 1)
  if (whole.isEmpty && fraction.isEmpty) || !whole.all Char.isDigit || !fraction.all Char.isDigit
  then Utf8.trim exact
  else
    let digits := whole.dropWhile (· == '0')
    let places := if digits.length = 0 then 6 else if digits.length ≤ 3 then 4 else 2
    let kept := (fraction ++ List.replicate places '0').take places
    let roundUp := fraction[places]?.any ('5' ≤ ·)
    let units := Nat.ofDigitChars 10 (digits ++ kept) 0 + (if roundUp then 1 else 0)
    if units = 0 then smallFigure fraction else fromBaseUnits units places

def maxEstimateCall (model : Model) (token : SendToken) (account : String) : Option FeeCall :=
  let payee := if isValidAddress model.form.recipient then Utf8.trim model.form.recipient else account
  match token.tokenAddress with
  | none => some ⟨payee, "1", "0x"⟩
  | some address => do
      let units ← toBaseUnits (fullBalance token) token.decimals.toNat
      let data ← FeePolicy.encodeErc20Transfer payee units
      return ⟨address, "0", data⟩

/-- The asset that pays a fee is the asset given (`None` the chain's coin). -/
def paysIn (asset : Option String) (feeAsset : FeeAsset) : Bool :=
  match feeAsset, asset with
  | .native, none => true
  | .erc20 token _ _ _, some address => sameText token address
  | _, _ => false

def feeAssetShortfall (model : Model) (chainId : UInt32) (sent : List (Option String)) :
    Option SendAmountWarning := do
  let fee ← model.fees.feeEstimate.filter (·.chainId == chainId)
  let (owed, quotedSymbol, native) := match fee.feeAsset with
    | .native => (fee.totalWei, none, true)
    | .erc20 _ _ amount symbol => (amount, symbol, false)
  if sent.any (paysIn · fee.feeAsset) then none
  else
    let row := model.holdings.tokens.find? fun token =>
      token.chainId == chainId && paysIn token.tokenAddress fee.feeAsset
    let balance := (row.bind fun token => toBaseUnits token.balance token.decimals.toNat).getD 0
    if owed ≤ balance then none
    else some (.needGas ((quotedSymbol.or (row.map (·.symbol))).or
      (if native then chainNativeSymbol model chainId else none)))

def feeChainId (model : Model) : Option UInt32 :=
  if model.form.multiSelectMode then model.form.multiChainId
  else model.holdings.selectedToken.map (·.chainId)

def feeAssetGate (model : Model) : Option SendAmountWarning := do
  let chainId ← feeChainId model
  let sent := if model.form.multiSelectMode then (pickedTokens model).map (·.tokenAddress)
    else match model.holdings.selectedToken with
      | some token => [token.tokenAddress]
      | none => []
  feeAssetShortfall model chainId sent

def feeOverBalance (model : Model) (token : SendToken) : Option SendAmountWarning := do
  let fee ← maxQuote model
  let reserve ← maxFeeReserve token fee
  if reserve = 0 then none
  else
    let balance ← toBaseUnits token.balance token.decimals.toNat
    if reserve < balance then none
    else some (.insufficientGas
      (if token.isNative then chainNativeSymbol model token.chainId
      else match fee.feeAsset with
        | .erc20 _ _ _ symbol => symbol.or (some token.symbol)
        | .native => chainNativeSymbol model token.chainId))

/-- The warning about a figure that resolves to nothing. -/
def unresolvedWarning (model : Model) (token : SendToken) : Option SendAmountWarning :=
  match model.form.amount.fiatCode with
  | some code =>
    if 0 < model.form.amount.asF64 then some (.cannotConvert code token.symbol)
    else feeOverBalance model token
  | none => feeOverBalance model token

/-- The warning about an amount of the chain's coin. -/
def nativeAmountWarning (model : Model) (token : SendToken) (tokenAmount : String) :
    Option SendAmountWarning :=
  let balanceWei := (toBaseUnits token.balance token.decimals.toNat).getD 0
  let amountWei := (toBaseUnits tokenAmount token.decimals.toNat).getD 0
  if balanceWei < amountWei then some (.notEnoughToken token.symbol)
  else if (selectedFee model).any fun fee =>
      !canCoverNativeTransfer amountWei balanceWei fee.totalWei then
    some (.insufficientForGas (chainNativeSymbol model token.chainId))
  else feeAssetShortfall model token.chainId [none]

/-- The warning about an amount of an ERC-20. -/
def tokenAmountWarning (model : Model) (token : SendToken) (tokenAmount : String) :
    Option SendAmountWarning :=
  if token.balanceDouble < jsParseFloat tokenAmount then some (.notEnoughToken token.symbol)
  else
    match (selectedFee model).map FeeEstimate.feeAsset with
    | some (.erc20 feeToken decimals feeAmount feeSymbol) =>
      if paysIn token.tokenAddress (.erc20 feeToken decimals feeAmount feeSymbol) then
        let balanceUnits := (toBaseUnits token.balance token.decimals.toNat).getD 0
        let sendUnits := (toBaseUnits tokenAmount token.decimals.toNat).getD 0
        if balanceUnits < saturatingAdd sendUnits feeAmount then
          some (.insufficientForGas (some (feeSymbol.getD token.symbol)))
        else none
      else feeAssetShortfall model token.chainId [token.tokenAddress]
    | _ => feeAssetShortfall model token.chainId [token.tokenAddress]

def deriveAmountWarning (model : Model) : Option SendAmountWarning :=
  if model.form.splitMode then none
  else
    match model.holdings.selectedToken with
    | none => none
    | some token =>
      if model.form.amount.isEmpty then none
      else
        let tokenAmount := modelTokenAmount model token
        if !isPositiveFigure (if tokenAmount = "" then "0" else tokenAmount) then
          unresolvedWarning model token
        else if token.isNative then nativeAmountWarning model token tokenAmount
        else tokenAmountWarning model token tokenAmount

/-- `derive_same_asset_issue`: the amount sent does not fit beside its fee. -/
def deriveSameAssetIssue (model : Model) : Bool :=
  (do
    let token ← model.holdings.selectedToken
    if model.form.multiSelectMode then none
    else
      let fee ← selectedFee model
      let transferAmount ← if model.form.splitMode then
          sumSplitBaseUnits model.form.recipients token.decimals.toNat
        else toBaseUnits (modelTokenAmount model token) token.decimals.toNat
      let balance ← toBaseUnits token.balance token.decimals.toNat
      let limit ← sameAssetFeeLimit (some fee) token.tokenAddress balance
      if transferAmount ≤ limit.maxTransferAmount then none else some ()).isSome

/-- `build_estimate_shape`: one call, or a batch, or nothing. -/
def buildEstimateShape (model : Model) (token : SendToken) :
    Option FeeCall × Option (List FeeCall) :=
  if model.form.multiSelectMode then
    (none, buildMultiTokenCalls (Utf8.trim model.form.recipient) (rawSpecs model))
  else if model.form.splitMode then
    (none, buildSplitCalls token.tokenAddress token.decimals.toNat model.form.recipients)
  else if !model.form.amount.isEmpty && isValidAddress model.form.recipient then
    (do
      let units ← toBaseUnits (modelTokenAmount model token) token.decimals.toNat
      transferCall token.tokenAddress (Utf8.trim model.form.recipient) units, none)
  else (none, none)

def buildSimCalls (model : Model) (token : SendToken) : Option (List FeeCall) :=
  if model.form.multiSelectMode then
    buildMultiTokenCalls (Utf8.trim model.form.recipient) (multiTokenSpecs model token.chainId)
  else if model.form.splitMode then
    buildSplitCalls token.tokenAddress token.decimals.toNat model.form.recipients
  else do
    let units ← toBaseUnits (modelTokenAmount model token) token.decimals.toNat
    let call ← transferCall token.tokenAddress model.form.recipient units
    return [call]

def simInput (model : Model) : Option SimInput := do
  let token ← model.holdings.selectedToken
  let account ← model.account
  let okSingle := !model.form.splitMode && !model.form.multiSelectMode &&
    isValidAddress model.form.recipient
  let okSplit := model.form.splitMode && recipientsAreValid model.form.recipients
  let okMulti := model.form.multiSelectMode && isValidAddress model.form.recipient &&
    !(pickedTokens model).isEmpty
  if okSingle || okSplit || okMulti then
    let calls ← buildSimCalls model token
    return ⟨token.chainId, account.address, calls⟩
  else none

def formEstimateKey (model : Model) : Option String := do
  if model.step != .enterDetails || model.form.multiSelectMode || model.form.splitMode then none
  else
    let token ← model.holdings.selectedToken
    let _ ← model.account
    if isValidAddress model.form.recipient &&
        isPositiveFigure (modelTokenAmount model token) then
      some (token.id ++ "|" ++ Utf8.toLowercase (Utf8.trim model.form.recipient) ++ "|" ++
        model.fees.coin.gasFeeToken.getD "")
    else none

/-- What an estimate of `tx` or `batch` is asked with. -/
def estimateRequest (model : Model) (token : SendToken) (account : String) (tx : Option FeeCall)
    (batch : Option (List FeeCall)) (publicKeyHex : Option String) : EstimateRequest where
  chainId := token.chainId
  account
  tx
  batch
  gasFeeToken := model.fees.coin.gasFeeToken
  publicKeyHex
  autoFeeToken := !model.fees.coin.feeCoinChosen

end VelaWallet.Send
