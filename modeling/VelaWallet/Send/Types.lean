import VelaWallet.Codec.SignedReview
import VelaWallet.Send.FeePolicy
import VelaWallet.Send.Money

/-!
# The send screen's wire

The values the send machine is handed and hands out (`send.rs`): holdings, rows,
the requests it makes of its shell with their answers, and its events.
-/

namespace VelaWallet.Send

open FeePolicy
open Money (Denom)
open SignedReview (Review)

/-! ## Values -/

/-- A holding, its chain resolved by the shell. -/
structure SendToken where
  network : String
  chainId : UInt32
  symbol : String
  balance : String
  decimals : UInt32
  tokenAddress : Option String
  priceUsd : Option Float
  logoUrls : List String
  spam : Bool
  deriving DecidableEq

namespace SendToken

def id (token : SendToken) : String :=
  token.network ++ "_" ++ token.tokenAddress.getD "native" ++ "_" ++ token.symbol

def isNative (token : SendToken) : Bool := token.tokenAddress.isNone

def parseFloatOrZero (text : String) : Float :=
  let value := Floating.jsParseFloat text
  if value.isNaN then 0 else value

def balanceDouble (token : SendToken) : Float := parseFloatOrZero token.balance

def usdValue (token : SendToken) : Float := token.balanceDouble * token.priceUsd.getD 0

def isValuable (token : SendToken) : Bool :=
  !token.spam && 0 < token.balanceDouble && 0 < token.usdValue

/-- `PartialEq` of a holding: prices are compared as numbers. -/
def sameAs (left right : SendToken) : Bool :=
  let samePrice := match left.priceUsd, right.priceUsd with
    | none, none => true
    | some left, some right => left == right
    | _, _ => false
  samePrice && { left with priceUsd := none } == { right with priceUsd := none }

end SendToken

/-- One row of a split. -/
structure SendRecipientDraft where
  id : String
  address : String
  amount : String
  name : Option String
  deriving DecidableEq

structure SendAccountRef where
  id : String
  address : String
  name : Option String

/-- What a hand-off to the screen names. -/
structure SendOpenParams where
  preselectedSymbol : Option String := none
  preselectedNetwork : Option String := none
  prefilledRecipient : Option String := none
  prefilledChainId : Option String := none
  prefilledTokenAddress : Option String := none
  prefilledAmountBase : Option String := none
  locked : Bool := false
  preselectedMulti : Option String := none

/-- The display currency, its rate against the dollar and its decimals. -/
structure SendDisplayContext where
  code : String := "USD"
  rate : Option Float := some 1
  fiatDecimals : UInt32 := 2

def SendDisplayContext.denom (display : SendDisplayContext) : Denom := .fiat display.code

structure SendChainInfo where
  chainId : UInt32
  network : String
  nativeSymbol : String

structure SendTokenMeta where
  symbol : String
  decimals : UInt32

inductive SendTreasuryAsset where
  | native
  | pathUsd
  deriving DecidableEq

structure SendTreasuryCoin where
  symbol : Option String
  balance : String
  floor : String
  suggested : String
  deriving DecidableEq

structure SendTreasuryStatus where
  chainId : UInt32
  address : String
  asset : SendTreasuryAsset
  balance : String
  floor : String
  bootstrapNeeded : Bool
  operatorServed : Bool
  coin : Option SendTreasuryCoin
  deriving DecidableEq

/-- What the relay said of its treasury on a chain. -/
inductive SendTreasuryProbe where
  | lowFloat (status : SendTreasuryStatus)
  | covered
  | uncovered
  | unknown
  deriving DecidableEq

structure SendRelayUnreachable where
  chainId : UInt32
  operatorServed : Bool

/-- A scanned code, as the shell parsed it. -/
inductive SendScan where
  | request (recipient : String) (chainId : Option UInt32) (tokenAddress : Option String)
      (amountBaseUnits : Option String)
  | text (data : String)

inductive SendAddNetworkOutcome where
  | added
  | notFound
  | notCompatible (detail : Option String)
  | error

inductive SendAddNetworkMsg where
  | netNotFound
  | netNotCompatible (detail : Option String)
  | netAddError

inductive SendLockError where
  | network (chainId : UInt32)
  | token

structure SendRecipientIdentity where
  name : Option String
  source : Option String

structure SendRecipientRisk where
  isContract : Option Bool
  firstTime : Option Bool

/-- The fee a submit quotes, signed as it stands. -/
structure SendQuotedFee where
  amount : String
  recipient : String
  tier : Option FeeTier
  deriving DecidableEq

structure SendTxRecord where
  id : String
  userOpHash : String
  txHash : String
  source : String
  target : String
  toName : Option String
  value : String
  symbol : String
  decimals : UInt32
  logoUrls : List String
  chainId : UInt32
  timestampS : Float
  usd : Option String
  maybeSent : Bool
  submitBlock : Option UInt64
  deriving DecidableEq

inductive SendEstimateFailure where
  | missingPublicKey
  | feeTokenUnavailable
  | quoteUnavailable
  | calculationFailed
  | estimateFailed
  | gasQuoteTooHigh
  | timeout
  | other
  | chainRead (rateLimited : Bool)
  | wouldFail
  | internal
  deriving DecidableEq

/-- Why this account cannot sign here. -/
inductive VenueBlock where
  | appCannotReach (domain : String)
  | pageOnOtherDomain (pageDomain domain : String)
  | notOnWeb

inductive SendSubmitFailure where
  | passkeyCancelled
  | relayerUnavailable
  | bundlerUnderfunded
  | other (message : Option String)
  | venueBlocked (block : VenueBlock)
  | previousPending

/-- Why the relay refused an operation. -/
inductive RefusalReason where
  | feeBelowMarket
  | feeBelowMinimum
  | feePaymentInvalid
  | nonceUsed
  | simulationFailed
  | invalidOperation
  | unsupportedFeeToken
  | relayGaveUp
  | revertedOnchain
  | bundleFailed
  | unknown
  deriving DecidableEq

inductive SendReceiptOutcome where
  | confirmed (txHash : String)
  | failed (rejected notSent : Bool) (refusal : Option RefusalReason)
  | feeHeld
  | relayFunding
  | acknowledged

/-- An operation in flight on this device. -/
structure InFlightOp where
  sender : String
  chainId : UInt32
  userOpHash : String
  deriving DecidableEq

inductive SendTimerTag where
  | estimateTimeout
  | formEstimate
  | treasuryWatch
  deriving DecidableEq

inductive SendHapticKind where
  | success
  | error
  deriving DecidableEq

inductive SendAmountWarning where
  | notEnoughToken (symbol : String)
  | insufficientForGas (symbol : Option String)
  | insufficientGas (symbol : Option String)
  | needGas (symbol : Option String)
  | cannotConvert (code symbol : String)
  deriving DecidableEq

inductive SendAlertKind where
  | invalidAddress
  | invalidAmount
  | insufficientBalance (warning : Option SendAmountWarning)
  | splitOverBalance
  | loadTokensFailed
  | estimateFailed (kind : SendEstimateFailure)
  | accountUnavailable
  deriving DecidableEq

/-- What the machine asks the fee estimator. -/
structure EstimateRequest where
  chainId : UInt32
  account : String
  tx : Option FeeCall
  batch : Option (List FeeCall)
  gasFeeToken : Option String
  publicKeyHex : Option String
  autoFeeToken : Bool
  deriving DecidableEq

/-- What the machine hands over to be signed and sent. -/
structure SubmitRequest where
  chainId : UInt32
  account : String
  publicKeyHex : String
  calls : List FeeCall
  maxFeePerGas : Option String
  gasFeeToken : Option String
  quotedFee : Option SendQuotedFee
  review : Review
  deriving DecidableEq

/-- What the machine tells the tracker of a submitted operation. -/
structure TrackRequest where
  userOpHash : String
  recordIds : List String
  chainId : UInt32
  maybeSent : Bool
  submitBlock : Option UInt64
  admitted : Bool
  sender : Option String
  deriving DecidableEq

/-- A request of the machine to its shell. -/
inductive SendOperation where
  | fetchTokens (address : String)
  | clearTokenCache (address : String)
  | resolveTokenMetadata (chainId : UInt32) (address : String)
  | addNetwork (chainId : UInt32)
  | estimateFee (request : EstimateRequest)
  | probeTreasury (chainId : UInt32)
  | prewarmFees (account : String) (chainIds : List UInt32)
  | loadAccountCredential (accountId : String)
  | submitUserOp (request : SubmitRequest)
  | cancelPasskeySign
  | persistTxRecords (records : List SendTxRecord)
  | trackSubmitted (request : TrackRequest)
  | clearToPost (userOpHash : String)
  | markAdmitted (recordIds : List String)
  | deleteTxRecords (ids : List String)
  | trackWithdrawn (userOpHash : String) (recordIds : List String)
  | resolveIdentity (address : String)
  | resolveRisk (chainId : UInt32) (address : String)
  | simulateCalls (chainId : UInt32) (account : String) (calls : List FeeCall)
  | startTimer (ms : Nat) (tag : SendTimerTag)
  | haptic (kind : SendHapticKind)
  | showAlert (kind : SendAlertKind)
  | close
  deriving DecidableEq

inductive SendFeeOutcome where
  | ok (estimate : FeeEstimateView)
  | failed (kind : SendEstimateFailure)

/-- The shell's answer to a request. -/
inductive SendShellResult where
  | tokensLoaded (tokens : Option (List SendToken)) (chains : List SendChainInfo)
  | tokenCacheCleared
  | feesPrewarmed
  | tokenMetadata (tokenMeta : Option SendTokenMeta)
  | networkAdded (outcome : SendAddNetworkOutcome)
  | feeEstimated (outcome : SendFeeOutcome)
  | treasuryProbed (probe : SendTreasuryProbe)
  | accountCredential (publicKeyHex : Option String)
  | submitted (userOpHash : String) (nowMs : Float) (maybeSent : Bool)
      (submitBlock : Option UInt64)
  | submitFailed (failure : SendSubmitFailure)
  | passkeyCancelAcknowledged
  | recordsPersisted
  | trackHandedOff
  | postCleared
  | identityResolved (identity : Option SendRecipientIdentity)
  | riskResolved (risk : Option SendRecipientRisk)
  | simResolved (simJson : Option String)
  | timerElapsed (tag : SendTimerTag)
  | alertAcknowledged
  | hapticPlayed
  | closed

inductive Event where
  | openScreen (account : Option SendAccountRef) (params : SendOpenParams)
      (display : SendDisplayContext)
  | displayChanged (display : SendDisplayContext)
  | tokensPartial (tokens : List SendToken)
  | holdingsUpdated (tokens : List SendToken)
  | refreshTokens
  | selectToken (tokenId : String)
  | toggleMultiToken (tokenId : String)
  | toggleAllMultiTokens (visibleIds : List String)
  | setMultiNetwork (chainId : Option UInt32)
  | confirmMultiSelection
  | setRecipient (recipient : String)
  | setAmount (amount : String)
  | toggleFiatInput
  | tapMax
  | enterSplitMode
  | seedSplitRecipients (recipients : List SendRecipientDraft)
  | appendSplitRecipients (recipients : List SendRecipientDraft)
  | recipientsChanged (recipients : List SendRecipientDraft)
  | openContactPicker (target : Option String)
  | closeContactPicker
  | pickedAddress (address : String)
  | openScanner (target : Option String)
  | closeScanner
  | scanResolved (scan : SendScan)
  | openBatchImport
  | closeBatchImport
  | addNetworkTapped (chainId : UInt32)
  | continueTapped
  | back
  | changeToken
  | editAmount
  | chooseFeeToken (token : Option String)
  | feeUpdated (estimate : FeeEstimateView)
  | feeBusyChanged (busy : Bool)
  | feeFailedChanged (failed : Bool)
  | feeTokenChanged (feeToken : Option String)
  | slideConfirm (review : Option String)
  | signingStarted
  | opSigned (userOpHash : String) (submitBlock : Option UInt64) (nowMs : Float)
  | cancelSigning
  | retryAfterBootstrap
  | dismissTreasurySheet
  | retryRelayUnreachable
  | dismissRelayUnreachable
  | retryAfterError
  | inFlightOps (ops : List InFlightOp)
  | receiptUpdate (userOpHash : String) (outcome : SendReceiptOutcome)
  | doneTapped
  | shellCompleted (attempt : Nat) (result : SendShellResult)

/-- What a step asks for: the screen drawn again, or a request to the shell that
its answer quotes the number of. -/
inductive SendEffect where
  | render
  | request (id : Nat) (operation : SendOperation)
  deriving DecidableEq

end VelaWallet.Send
