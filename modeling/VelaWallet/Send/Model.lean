import VelaWallet.Send.Types

/-!
# The send machine's state

The model of `send.rs`.  Its one record is kept in groups here; every field has
the source's name.
-/

namespace VelaWallet.Send

open FeePolicy
open Money (DenominatedAmount)
open SignedReview (Review)

/-- What the standard library and the hash crate compute for the machine: the
case table, the texts of number errors, SHA-256 and the debug text of a review. -/
class Runtime extends Utf8.CaseTable, RadixErrors where
  sha256 : List UInt8 → List UInt8
  debugReview : Review → String

/-- Single-flight lock with generation tokens. -/
structure ReentryLock where
  held : Bool := false
  generation : Nat := 0

namespace ReentryLock

/-- `ReentryLock::begin`: the new generation, unless the lock is held. -/
def begin? (lock : ReentryLock) : Option (Nat × ReentryLock) :=
  if lock.held then none else some (lock.generation + 1, ⟨true, lock.generation + 1⟩)

/-- `ReentryLock::end`: only the current generation releases the lock. -/
def endRun (lock : ReentryLock) (token : Nat) : ReentryLock :=
  if lock.held && token == lock.generation then { lock with held := false } else lock

def cancel (lock : ReentryLock) : ReentryLock := ⟨false, lock.generation + 1⟩

def busy (lock : ReentryLock) : Bool := lock.held

end ReentryLock

/-- One activity line captured at submit time. -/
structure SendLine where
  target : String
  toName : Option String
  amount : String
  symbol : String
  tokenAddress : Option String
  decimals : UInt32
  priceUsd : Float
  logoUrls : List String
  deriving DecidableEq

inductive FailureFallback where
  | generic
  | bundlerFund
  deriving DecidableEq

/-- What the treasury half of a check concluded. -/
inductive TreasuryAnswer where
  | serves
  | lowFloat (status : SendTreasuryStatus)
  | unreachable
  deriving DecidableEq

def TreasuryAnswer.of : SendTreasuryProbe → TreasuryAnswer
  | .lowFloat status => .lowFloat status
  | .uncovered => .unreachable
  | .covered => .serves
  | .unknown => .serves

/-- The open treasury sheet's watch. -/
structure TreasuryWatch where
  chainId : UInt32
  timerId : Nat
  probeId : Option Nat

/-- The single orchestration in flight, with the requests it waits for. -/
inductive Pipeline where
  | idle
  | continueCredential (id : Nat)
  | preCheck (feeId treasuryId timerId : Nat) (fee : Option FeeEstimate)
      (treasury : Option TreasuryAnswer)
  | lateFee (feeId : Nat)
  | maxEstimate (id : Nat)
  | formDebounce (timerId : Nat)
  | formEstimate (id : Nat) (key : String)
  | warmCredential (id : Nat)
  | warmEstimate (id : Nat)
  | submitCredential (id gen : Nat)
  | submitTreasury (id gen : Nat) (publicKeyHex : String)
  | submitting (id gen : Nat) (chainId : UInt32) (lines : List SendLine)
  | failureProbe (id gen : Nat) (fallback : FailureFallback)
  deriving DecidableEq

/-- The submit the slot holds, if it holds one. -/
def Pipeline.submitId : Pipeline → Option Nat
  | submitting id _ _ _ => some id
  | _ => none

/-- Why the token list was asked for. -/
inductive TokensPurpose where
  | initial
  | refresh

/-- What a write of records goes on to. -/
structure PersistCtx where
  userOpHash : String
  recordIds : List String
  chainId : UInt32
  maybeSent : Bool
  submitBlock : Option UInt64
  writeAhead : Bool

/-- The records written ahead of one submit's POST. -/
structure WriteAhead where
  pipelineId : Nat
  userOpHash : String
  recordIds : List String
  submitBlock : Option UInt64

/-- The flights that overlap the pipeline. -/
structure Flights where
  tokens : Option (Nat × TokensPurpose) := none
  lockMeta : Option (Nat × UInt32 × String) := none
  addNetwork : Option Nat := none
  prefetchCredential : Option Nat := none
  identity : Option Nat := none
  risk : Option Nat := none
  sim : Option Nat := none
  persist : Option (Nat × PersistCtx) := none
  track : Option Nat := none

/-- What `Max` stands for while it is in force. -/
inductive MaxFill where
  | waiting
  | exact (amount : String)

/-- The fee card's coin, and the chain it was said for. -/
structure FeeCardCoin where
  chainId : UInt32
  token : Option String

inductive SendStep where
  | selectToken
  | enterDetails
  | confirm
  deriving DecidableEq

inductive SendTxStatus where
  | idle
  | preparing
  | signing
  | submitting
  | confirmed
  | error
  deriving DecidableEq

inductive SendTxErrorKey where
  | generic
  | previousPending
  | bundlerFund
  | venueBlocked

inductive SendReceiptKind where
  | split
  | multiSelect

/-- The request the screen was opened on, while it is being resolved. -/
structure LockState where
  lockError : Option SendLockError := none
  resolvingLock : Bool := false
  addingNetwork : Bool := false
  addNetworkMsg : Option SendAddNetworkMsg := none
  requestChain : Option UInt32 := none

/-- What the account holds, and the token picked from it. -/
structure Holdings where
  tokens : List SendToken := []
  chains : List SendChainInfo := []
  loading : Bool := false
  selectedToken : Option SendToken := none

/-- What the person entered. -/
structure Form where
  recipient : String := ""
  recipientHandedIn : Bool := false
  amount : DenominatedAmount := .token ""
  maxFill : Option MaxFill := none
  fiatOrigin : Option String := none
  splitMode : Bool := false
  recipients : List SendRecipientDraft := []
  pickerTarget : Option String := none
  recipientSeq : Nat := 0
  multiSelectMode : Bool := false
  multiSelectedIds : List String := []
  multiChainId : Option UInt32 := none
  showScanner : Bool := false
  showContactPicker : Bool := false
  showBatchImport : Bool := false

/-- The fee coin.  A coin is named only by a person who picked it. -/
structure FeeCoinChoice where
  gasFeeToken : Option String
  feeCoinChosen : Bool
  chosen_of_named : gasFeeToken.isSome = true → feeCoinChosen = true

namespace FeeCoinChoice

/-- Nobody chose: the fee machine's pick. -/
def unchosen : FeeCoinChoice := ⟨none, false, by simp⟩

/-- The person's pick, `none` being the chain's own coin. -/
def picked (token : Option String) : FeeCoinChoice := ⟨token, true, fun _ => rfl⟩

end FeeCoinChoice

/-- The fee in hand and what the fee card said of it. -/
structure Fees where
  feeEstimate : Option FeeEstimate := none
  estimatingGas : Bool := false
  feeBusy : Bool := false
  feeFailed : Bool := false
  coin : FeeCoinChoice := .unchosen
  feeCardCoin : Option FeeCardCoin := none
  formQuoteKey : Option String := none

structure RelayStops where
  treasuryBootstrap : Option SendTreasuryStatus := none
  treasuryWatch : Option TreasuryWatch := none
  relayUnreachable : Option SendRelayUnreachable := none

/-- What the simulation of a confirm is asked. -/
structure SimInput where
  chainId : UInt32
  account : String
  calls : List FeeCall
  deriving DecidableEq

structure Probes where
  recipientIdentity : Option SendRecipientIdentity := none
  recipientRisk : Option SendRecipientRisk := none
  simJson : Option String := none
  simInput : Option SimInput := none

/-- The receipt of the operation sent. -/
structure Receipt where
  txHash : Option String := none
  userOpHash : Option String := none
  receiptLines : Option (List SendLine) := none
  receiptKind : Option SendReceiptKind := none
  receiptSigned : Option SendLine := none
  receiptFailed : Bool := false
  receiptNotSent : Bool := false
  receiptMaybeSent : Bool := false
  feeHeld : Bool := false
  relayFunding : Bool := false
  submittedAtMs : Option Float := none
  feeRejected : Bool := false
  refused : Bool := false
  refusal : Option RefusalReason := none

structure Model where
  account : Option SendAccountRef := none
  params : SendOpenParams := {}
  display : SendDisplayContext := {}
  step : SendStep := .selectToken
  lockState : LockState := {}
  holdings : Holdings := {}
  form : Form := {}
  fees : Fees := {}
  stops : RelayStops := {}
  lock : ReentryLock := {}
  confirmedReview : Option Review := none
  cancelled : Bool := false
  tx : SendTxStatus := .idle
  txError : Option SendTxErrorKey := none
  venueBlock : Option VenueBlock := none
  receipt : Receipt := {}
  inFlight : List InFlightOp := []
  probes : Probes := {}
  publicKeyHex : Option String := none
  pipeline : Pipeline := .idle
  writeAhead : Option WriteAhead := none
  withdrawnSubmit : Option Nat := none
  flights : Flights := {}
  attempt : Nat := 0

abbrev Cmd := List SendEffect

namespace Model

/-- The number the next request takes. -/
def nextId (model : Model) : Nat := model.attempt + 1

/-- `next`: one more request number is taken. -/
def minted (model : Model) : Model := { model with attempt := model.attempt + 1 }

end Model

def done (model : Model) : Model × Cmd := (model, [])

def render (model : Model) : Model × Cmd := (model, [.render])

/-- `Command::all`: the updates in order, their commands behind each other. -/
def all : List (Model → Model × Cmd) → Model → Model × Cmd
  | [], model => done model
  | update :: updates, model =>
    ((all updates (update model).1).1, (update model).2 ++ (all updates (update model).1).2)

/-- `fire`: a request whose answer changes nothing. -/
def fire (operation : SendOperation) (model : Model) : Model × Cmd :=
  (model.minted, [.request model.nextId operation, .render])

def alert (kind : SendAlertKind) (model : Model) : Model × Cmd := fire (.showAlert kind) model

end VelaWallet.Send
