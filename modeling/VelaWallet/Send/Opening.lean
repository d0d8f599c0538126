import VelaWallet.Send.Editing

/-!
# Opening the screen and picking a token

The token list, the locked request, the picker and a sweep's picks, and the scan
that opens the screen again.
-/

namespace VelaWallet.Send

open FeePolicy
open Money (DenominatedAmount)

variable [Runtime]

/-- The coins of `network_admin::BUILTIN_CHAINS`, by chain. -/
def builtinNativeSymbols : List (UInt32 × String) :=
  [(1, "ETH"), (56, "BNB"), (137, "POL"), (42161, "ETH"), (10, "ETH"), (8453, "ETH"),
    (43114, "AVAX"), (100, "xDAI"), (130, "ETH"), (4217, "USD"), (143, "MON"), (480, "ETH"),
    (5042, "USDC"), (196, "OKB"), (988, "USDT0"), (1868, "ETH"), (4326, "ETH"), (4663, "ETH"),
    (5000, "MNT"), (8217, "KAIA"), (42220, "CELO"), (57073, "ETH"), (98866, "PLUME"),
    (1440000, "XRP"), (11155111, "ETH"), (84532, "ETH"), (421614, "ETH"), (11155420, "ETH"),
    (80002, "POL"), (97, "tBNB"), (43113, "AVAX"), (5042002, "USDC"), (42431, "USD")]

def builtinNativeSymbol (chainId : UInt32) : Option String := builtinNativeSymbols.lookup chainId

def displayNativeSymbol (chainId : UInt32) (tokenAddress : Option String) (symbol : String) :
    String :=
  match tokenAddress, builtinNativeSymbol chainId with
  | none, some canonical => if sameText canonical symbol then canonical else symbol
  | _, _ => symbol

def withDisplaySymbols (tokens : List SendToken) : List SendToken :=
  tokens.map fun token =>
    { token with symbol := displayNativeSymbol token.chainId token.tokenAddress token.symbol }

/-- `non_zero_sorted`: highest value first, equal values in the order given. -/
def nonZeroSorted (tokens : List SendToken) : List SendToken :=
  (tokens.filter fun token => 0 < token.balanceDouble).insertionSort
    fun left right => ¬ left.usdValue < right.usdValue

def offeredTokens (model : Model) (tokens : List SendToken) : List SendToken :=
  match model.lockState.requestChain with
  | some chainId => (nonZeroSorted tokens).filter (·.chainId == chainId)
  | none => nonZeroSorted tokens

def bootFetch (model : Model) : Model × Cmd :=
  match model.account with
  | none => render model
  | some account =>
    ({ model.minted with
        holdings := { model.holdings with loading := true }
        flights := { model.flights with tokens := some (model.nextId, .initial) } },
      [.request model.nextId (.fetchTokens account.address), .render])

def tokensPartial (tokens : List SendToken) (model : Model) : Model × Cmd :=
  if model.flights.tokens.isNone then done model
  else render { model with holdings := { model.holdings with
    tokens := offeredTokens model (withDisplaySymbols tokens), loading := false } }

def refreshedToken (tokens : List SendToken) (selected : SendToken) : SendToken :=
  match tokens.find? (·.id == selected.id) with
  | some fresh => if fresh.sameAs selected then selected else fresh
  | none => selected

def holdingsUpdated (tokens : List SendToken) (model : Model) : Model × Cmd :=
  let tokens := withDisplaySymbols tokens
  match model.flights.tokens with
  | some (_, .initial) => done model
  | _ =>
    let listed := { model with holdings := { model.holdings with
      tokens := offeredTokens model tokens } }
    if model.step ≠ .enterDetails then render listed
    else all [followMax, render] { listed with holdings := { listed.holdings with
      selectedToken := model.holdings.selectedToken.map (refreshedToken tokens) } }

def refreshTokens (model : Model) : Model × Cmd :=
  match model.account with
  | none => done model
  | some account =>
    ({ model.minted.minted with
        flights := { model.flights with tokens := some (model.minted.nextId, .refresh) } },
      [.request model.nextId (.clearTokenCache account.address),
        .request model.minted.nextId (.fetchTokens account.address), .render])

def prewarmChains : Nat := 4

def prewarmFees (model : Model) : Model × Cmd :=
  match model.account with
  | none => done model
  | some account =>
    let chainIds :=
      (((model.holdings.tokens.filter (!·.spam)).map (·.chainId)).eraseDups).take prewarmChains
    if chainIds.isEmpty then done model
    else (model.minted, [.request model.nextId (.prewarmFees account.address chainIds)])

def pickerWithoutAToken (model : Model) : Model × Cmd :=
  if model.holdings.selectedToken.isNone then
    all [prewarmFees, render] { model with step := .selectToken }
  else render model

def parseIntPrefix (text : String) : Option UInt32 :=
  let digits := (Utf8.trim text).toList.takeWhile Char.isDigit
  let value := Nat.ofDigitChars 10 digits 0
  if digits.isEmpty then none
  else if value < 2 ^ 32 then some (UInt32.ofNat value)
  else none

def requestNetwork (params : SendOpenParams) : Option UInt32 :=
  if !params.locked || params.prefilledTokenAddress.isSome || params.prefilledAmountBase.isSome then
    none
  else params.prefilledChainId.bind parseIntPrefix

def hasPreselection (params : SendOpenParams) : Bool :=
  params.preselectedMulti.isSome ||
    (params.preselectedSymbol.isSome && params.preselectedNetwork.isSome)

/-- `open`: everything resets but the request numbers, the row counter and what
is in flight on this device. -/
def openScreen (account : Option SendAccountRef) (params : SendOpenParams)
    (display : SendDisplayContext) (model : Model) : Model × Cmd :=
  bootFetch {
    attempt := model.attempt
    inFlight := model.inFlight
    account
    params
    display
    step := if hasPreselection params then .enterDetails else .selectToken
    lockState := { resolvingLock := params.locked, requestChain := requestNetwork params }
    form := {
      recipientSeq := model.form.recipientSeq
      recipient := params.prefilledRecipient.getD ""
      recipientHandedIn := params.prefilledRecipient.isSome }
    holdings := { loading := true } }

def finishLockResolution (token : SendToken) (model : Model) : Model × Cmd :=
  let amount := model.params.prefilledAmountBase.bind fun base =>
    (parseFigure base).map fun units => fromBaseUnits units token.decimals.toNat
  all [syncIdentity, scheduleFormEstimate, render] { model with
    lockState := { model.lockState with lockError := none, resolvingLock := false }
    form := { model.form with
      recipient := model.params.prefilledRecipient.getD ""
      maxFill := if amount.isSome then none else model.form.maxFill
      amount := (amount.map DenominatedAmount.token).getD model.form.amount }
    holdings := { model.holdings with selectedToken := some token }
    step := .enterDetails }

/-- A holding of nothing, of a token the account does not list. -/
def placeholderToken (model : Model) (chainId : UInt32) (symbol : String) (decimals : UInt32)
    (tokenAddress : Option String) : SendToken where
  network := ((model.holdings.chains.find? (·.chainId == chainId)).map (·.network)).getD ""
  chainId
  symbol
  balance := "0"
  decimals
  tokenAddress
  priceUsd := none
  logoUrls := []
  spam := false

def synthNativeToken (model : Model) (chainId : UInt32) : SendToken :=
  placeholderToken model chainId ((chainNativeSymbol model chainId).getD "") 18 none

/-- The holding a locked request names. -/
def requestedToken (full : List SendToken) (chainId : UInt32) (wanted : Option String) :
    Option SendToken :=
  full.find? fun token => token.chainId == chainId &&
    match wanted, token.tokenAddress with
    | some wanted, some address => Utf8.toLowercase address == wanted
    | some _, none => false
    | none, address => address.isNone

/-- A request that left the asset open: the one holding on its network, or the
picker narrowed to it. -/
def resolveOpenAsset (model : Model) : Model × Cmd :=
  match model.holdings.tokens with
  | [only] => finishLockResolution only model
  | _ => all [syncIdentity, prewarmFees, render] { model with step := .selectToken }

/-- A request that names its token, or the chain's coin by naming none. -/
def resolveNamedAsset (full : List SendToken) (chainId : UInt32) (model : Model) : Model × Cmd :=
  let wanted := model.params.prefilledTokenAddress.map Utf8.toLowercase
  match requestedToken full chainId wanted, wanted with
  | some token, _ => finishLockResolution token model
  | none, none => finishLockResolution (synthNativeToken model chainId) model
  | none, some wanted =>
    ({ model.minted with
        flights := { model.flights with lockMeta := some (model.nextId, chainId, wanted) } },
      [.request model.nextId (.resolveTokenMetadata chainId wanted), .render])

def resolveLockedRequest (full : List SendToken) (model : Model) : Model × Cmd :=
  match model.params.prefilledChainId.bind parseIntPrefix with
  | none =>
    render { model with lockState := { model.lockState with
      lockError := none, resolvingLock := false } }
  | some chainId =>
    if !(model.holdings.chains.any (·.chainId == chainId)) then
      render { model with lockState := { model.lockState with
        lockError := some (.network chainId), resolvingLock := false } }
    else if model.lockState.requestChain.isSome then
      resolveOpenAsset { model with lockState := { model.lockState with
        lockError := none, resolvingLock := false } }
    else
      resolveNamedAsset full chainId { model with lockState := { model.lockState with
        resolvingLock := true } }

def lockMetaResolved (tokenMeta : Option SendTokenMeta) (model : Model) : Model × Cmd :=
  match model.flights.lockMeta with
  | none => done model
  | some (_, chainId, address) =>
    let taken := { model with flights := { model.flights with lockMeta := none } }
    match tokenMeta with
    | none =>
      render { taken with lockState := { taken.lockState with
        lockError := some .token, resolvingLock := false } }
    | some tokenMeta =>
      finishLockResolution (placeholderToken model chainId tokenMeta.symbol tokenMeta.decimals
        (some (model.params.prefilledTokenAddress.getD address))) taken

def addNetwork (chainId : UInt32) (model : Model) : Model × Cmd :=
  ({ model.minted with
      lockState := { model.lockState with addingNetwork := true, addNetworkMsg := none }
      flights := { model.flights with addNetwork := some model.nextId } },
    [.request model.nextId (.addNetwork chainId), .render])

def networkAdded (outcome : SendAddNetworkOutcome) (model : Model) : Model × Cmd :=
  let landed := { model with
    flights := { model.flights with addNetwork := none }
    lockState := { model.lockState with addingNetwork := false } }
  let failed (message : SendAddNetworkMsg) := render { landed with
    lockState := { landed.lockState with addNetworkMsg := some message } }
  match outcome with
  | .added =>
    bootFetch { landed with lockState := { landed.lockState with
      lockError := none, resolvingLock := true } }
  | .notFound => failed .netNotFound
  | .notCompatible detail => failed (.netNotCompatible detail)
  | .error => failed .netAddError

def selectToken (tokenId : String) (model : Model) : Model × Cmd :=
  match model.holdings.tokens.find? (·.id == tokenId) with
  | none => done model
  | some token =>
    warmEstimateStart { model with
      form := { model.form with multiSelectMode := false, maxFill := none }
      fees := { model.fees with feeEstimate := none, coin := .unchosen }
      holdings := { model.holdings with selectedToken := some token }
      step := .enterDetails }

def visibleMultiTokens (model : Model) : List SendToken :=
  model.holdings.tokens.filter fun token =>
    model.form.multiChainId.all fun chainId => token.chainId == chainId

def withPicks (ids : List String) (model : Model) : Model :=
  { model with form := { model.form with multiSelectedIds := ids } }

def toggleMultiToken (tokenId : String) (model : Model) : Model × Cmd :=
  if model.form.multiSelectedIds.contains tokenId then
    render (withPicks (model.form.multiSelectedIds.erase tokenId) model)
  else if (visibleMultiTokens model).any (·.id == tokenId) then
    render (withPicks (model.form.multiSelectedIds ++ [tokenId]) model)
  else done model

def valuableMultiIds (model : Model) : List String :=
  ((visibleMultiTokens model).filter (·.isValuable)).map (·.id)

/-- The ids with one more at the end, unless it is among them. -/
def withId (ids : List String) (id : String) : List String :=
  if ids.contains id then ids else ids ++ [id]

def toggleAllMulti (visibleIds : List String) (model : Model) : Model × Cmd :=
  let valuable := (valuableMultiIds model).filter visibleIds.contains
  if valuable.isEmpty then done model
  else if valuable.all model.form.multiSelectedIds.contains then
    render (withPicks (model.form.multiSelectedIds.filter fun id => !valuable.contains id) model)
  else render (withPicks (valuable.foldl withId model.form.multiSelectedIds) model)

def intoMultiSelect (first : SendToken) (model : Model) : Model :=
  { model with
    form := { model.form with multiSelectMode := true, maxFill := none }
    holdings := { model.holdings with selectedToken := some first }
    step := .enterDetails }

def confirmMultiSelection (model : Model) : Model × Cmd :=
  match pickedTokens model with
  | [] => done model
  | [only] => selectToken only.id model
  | first :: _ => warmEstimateStart (intoMultiSelect first model)

/-- The tokens a hand-off of ids names. -/
def handedOffTokens (joined : String) (model : Model) : List SendToken :=
  let wanted := joined.splitOn ","
  model.holdings.tokens.filter fun token => wanted.any (sameText · token.id)

/-- A hand-off of several tokens. -/
def openMulti (joined : String) (model : Model) : Model × Cmd :=
  match handedOffTokens joined model with
  | [] => pickerWithoutAToken model
  | first :: rest =>
    warmEstimateStart (intoMultiSelect first { model with form := { model.form with
      multiSelectedIds := (first :: rest).map (·.id)
      multiChainId := some first.chainId } })

/-- A hand-off of one token. -/
def openSelected (symbol network : String) (model : Model) : Model × Cmd :=
  match model.holdings.tokens.find? fun token =>
      sameText token.symbol symbol && token.network == network with
  | none => pickerWithoutAToken model
  | some token =>
    warmEstimateStart { model with
      holdings := { model.holdings with selectedToken := some token }
      step := .enterDetails }

/-- The first list routes the hand-off the screen was opened with. -/
def routeHandOff (full : List SendToken) (model : Model) : Model × Cmd :=
  if model.params.locked then resolveLockedRequest full model
  else
    match model.params.preselectedMulti, model.params.preselectedSymbol,
        model.params.preselectedNetwork with
    | some joined, _, _ => openMulti joined model
    | none, some symbol, some network => openSelected symbol network model
    | none, _, _ =>
      if model.params.prefilledRecipient.isSome then
        all [syncIdentity, pickerWithoutAToken] model
      else pickerWithoutAToken model

def tokensLoaded (tokens : Option (List SendToken)) (purpose : TokensPurpose) (model : Model) :
    Model × Cmd :=
  let landed := { model with holdings := { model.holdings with loading := false } }
  match tokens, purpose with
  | none, .initial => alert .loadTokensFailed landed
  | none, .refresh => render landed
  | some tokens, purpose =>
    let full := withDisplaySymbols tokens
    let listed := { landed with holdings := { landed.holdings with
      tokens := offeredTokens model full } }
    match purpose with
    | .refresh => holdingsUpdated full listed
    | .initial => routeHandOff full listed

def SendScan.address : SendScan → String
  | request recipient _ _ _ => recipient
  | text data => data

def scanResolved (scan : SendScan) (model : Model) : Model × Cmd :=
  let closed := { model with form := { model.form with
    showScanner := false, showContactPicker := false } }
  if model.form.splitMode then applyPickedAddress scan.address closed
  else
    let untargeted := { closed with form := { closed.form with pickerTarget := none } }
    match scan with
    | .request recipient (some chainId) tokenAddress amountBaseUnits =>
      openScreen model.account {
        prefilledRecipient := some recipient
        prefilledChainId := some (toString chainId)
        prefilledTokenAddress := tokenAddress
        prefilledAmountBase := amountBaseUnits
        locked := true } model.display untargeted
    | .request recipient none _ _ => handInRecipient recipient untargeted
    | .text data => handInRecipient data untargeted

end VelaWallet.Send
