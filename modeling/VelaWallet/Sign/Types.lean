import VelaWallet.Base.Json
import VelaWallet.Send.Types

/-!
# The signing machine's wire

The values the signing machine is handed and hands out (`sign_request.rs`): the
requests sites make, the operations asked of the shell with their answers, and
the machine's events.
-/

namespace VelaWallet.SignRequest

open FeePolicy (FeeTier)
open Send (InFlightOp RefusalReason VenueBlock)

/-! ## Values -/

/-- The identity a site claims for itself. -/
structure SignDappIdentity where
  name : String
  url : Option String

structure SignAccountRef where
  address : String
  credentialId : String

/-- The fee on show, signed as it stands. -/
structure SignQuotedFee where
  amount : String
  recipient : String
  tier : Option FeeTier
  deriving DecidableEq

inductive TrustSimDirection where
  | incoming
  | outgoing
  deriving DecidableEq

/-- One line of the balance changes a simulation showed. -/
inductive TrustSimJudgment where
  | native (delta : String)
  | erc20Trusted (token delta symbol : String) (decimals : UInt32) (inTrustedSet : Bool)
  | erc20Unverified (token : Option String) (direction : TrustSimDirection)
  deriving DecidableEq

/-- What an approve tap carries. -/
structure SignApproveOpts where
  maxFeePerGas : Option String := none
  bundlerCostWei : Option String := none
  gasFeeToken : Option String := none
  quotedFee : Option SignQuotedFee := none
  feeCollector : Option String := none
  paramsOverrideJson : Option String := none
  intent : Option String := none
  unlimitedApproved : Bool := false
  balanceChanges : Option (List TrustSimJudgment) := none
  deriving DecidableEq

/-- What the gas account is short of. -/
structure SignFundingNeeded where
  depositAddress : String
  safeAddress : String
  chainId : UInt32
  nativeSymbol : String
  thresholdWei : String
  recommendedWei : String
  currentBalanceWei : String
  deriving DecidableEq

inductive SignErrorKind where
  | userRejected
  | walletSwitchedChains
  | unsupportedChain
  | unauthorizedAccount
  | invalidParams
  | unsupportedCapability
  | unlimitedApproval
  | selfCallBlocked
  | fundingCancelled
  | submitFailed
  | staleFeeQuote
  | signerUnavailable
  | signerNotDiscoverable
  | signerFailed
  | venueBlocked
  deriving DecidableEq

/-- How a passkey prompt failed. -/
inductive FailureKind where
  | cancelled
  | notSupported
  | notDiscoverable
  | other

/-- The page's answer. -/
inductive SignResponsePayload where
  | ok (result : Option Json.Value)
  | err (code : Int) (kind : SignErrorKind) (message : Option String)

inductive SignRecordStatus where
  | pending
  | confirmed

inductive SignRecordKind where
  | dappTx
  | signTypedData
  | signMessage
  deriving DecidableEq

/-- The durable history record. -/
structure SignRecord where
  recordId : String
  kind : SignRecordKind
  method : String
  paramsJson : String
  result : String
  sender : String
  chainId : UInt32
  nowMs : Float
  status : SignRecordStatus
  userOpHash : String
  dappOrigin : String
  dappUrl : String
  intent : Option String
  maybeSent : Bool
  submitBlock : Option UInt64
  balanceChanges : Option (List TrustSimJudgment)

/-- The patch of a record in place. -/
inductive SignRecordClose where
  | confirmed (txHash : String)
  | failed
  | admitted

inductive SignSettledOutcome where
  | submitted
  | rejected
  deriving DecidableEq

/-- Why an arriving request never reached the sheet. -/
inductive SignNotice where
  | expired
  | alreadySettled (outcome : SignSettledOutcome)

structure SignTrackerHandoff where
  userOpHash : String
  sender : Option String
  recordIds : List String
  chainId : UInt32
  maybeSent : Bool
  submitBlock : Option UInt64
  admitted : Bool

/-- A record proven never sent, taken back from the tracker. -/
structure SignTrackerWithdraw where
  userOpHash : String
  recordIds : List String

/-- What the tracker says of an operation. -/
inductive TrackStatus where
  | pending
  | feeHeld
  | relayFunding
  | confirmed
  | dropped
  | rejected
  | unreachable
  | acceptedNotLanded
  | notSent

/-- A failure on the sheet. -/
structure SignErrorNotice where
  kind : SignErrorKind
  detail : Option String
  venueBlock : Option VenueBlock := none

inductive SignFundingPresentation where
  | topup
  | confirming

/-- Why a request is refused outright. -/
structure SignBlockedView where
  function : String
  selector : String
  legIndex : Option Nat
  nested : Bool

/-- What the machine asks the shell to do. -/
inductive SignOperation where
  | sendResponse (transportId id : String) (payload : SignResponsePayload)
  | checkBundlerFunding (chainId : UInt32) (account : String) (bundlerCostWei : Option String)
      (bustCache : Bool)
  | attemptSponsorship (funding : SignFundingNeeded) (force : Bool)
  | signAndSubmit (id method paramsJson : String) (chainId : UInt32) (address credentialId : String)
      (maxFeePerGas gasFeeToken : Option String) (quotedFee : Option SignQuotedFee)
  | persistRecord (record : SignRecord)
  | updateRecord (recordId : String) (close : SignRecordClose)
  | clearToPost (id userOpHash : String)
  | deleteRecord (recordId : String)
  | switchActiveAccount (index : UInt32)
  | simVerdictTimer (id : String) (round : UInt32) (ms : Nat)

inductive SignSponsorship where
  | funded
  | confirming
  | denied (reason : Option String)

/-- How a submit ended. -/
inductive SignSubmitOutcome where
  | succeeded (result : String)
  | receiptPending (userOpHash : String)
  | reverted (userOpHash txHash : String)
  | notConfirmed (userOpHash : String)
  | passkeyCancelled
  | underfunded (message : String) (funding : Option SignFundingNeeded)
  | failed (message : String) (refused : Bool) (signer : Option FailureKind)
  | askerGone
  | venueBlocked (block : VenueBlock)

/-- The shell's answer to an operation. -/
inductive SignShellResult where
  | preCheck (funding : Option SignFundingNeeded)
  | sponsorship (outcome : SignSponsorship)
  | submit (outcome : SignSubmitOutcome) (nowMs : Float)
  | responded
  | recordPersisted
  | recordUpdated
  | accountSwitched
  | simVerdictTimerFired (id : String) (round : UInt32)

/-- A request to the shell carries the attempt its answer must name. -/
inductive SignEffect where
  | render
  | shell (attempt : Nat) (operation : SignOperation)

/-- A signing request as its transport hands it over. -/
structure Arrival where
  id : String
  method : String
  paramsJson : String
  origin : String
  transportId : String
  dedicatedTransport : Bool := false
  perRequestChain : Option UInt32 := none
  dapp : Option SignDappIdentity := none
  grantedAddress : Option String := none
  requestedAddress : Option String := none
  requestTsMs : Option Float := none
  nowMs : Float
  firstParty : Bool := false

inductive Event where
  | inFlightOps (ops : List InFlightOp)
  | networksChanged (chainIds : List UInt32)
  | accountsChanged (accounts : List SignAccountRef) (activeIndex : UInt32)
  | requestArrived (arrival : Arrival)
  | chainSwitchRequested (id transportId chainIdParam : Option String)
  | approveTapped (opts : SignApproveOpts)
  | rejectTapped
  | dismissTapped
  | retryTapped
  | swipeDismissed
  | fundingCompleteTapped
  | fundingCancelled
  | opSubmitted (id userOpHash : String) (nowMs : Float) (maybeSent : Bool)
      (submitBlock : Option UInt64)
  | opSigned (id userOpHash : String) (submitBlock : Option UInt64) (nowMs : Float)
  | opTracked (userOpHash : String) (status : TrackStatus) (txHash : Option String)
      (refusal : Option RefusalReason)
  | ceremonyStarted (id : String)
  | ceremonyDone (id : String)
  | simStarted (id : String)
  | simSettled (id : String)
  | transportDropped (transportId : String)
  | shellCompleted (attempt : Nat) (result : SignShellResult)

end VelaWallet.SignRequest
