import VelaWallet.Sign.Requests

/-!
# The signing machine's state

The request on the sheet, the one pipeline in flight, the funding view and the
settled ids (`sign_request.rs`).  The abort handle is left out: what it aborts is an
operation whose answer the attempt number already drops.
-/

namespace VelaWallet.SignRequest

open FeePolicy
open Send (InFlightOp VenueBlock)

/-- The wait the confirm keeps for the simulation's verdict. -/
inductive SimWait where
  | none
  | checking (round : UInt32)
  | waitedOut
  | landed
  deriving DecidableEq

/-- The request that owns the sheet. -/
structure Pending where
  id : String
  method : String
  paramsJson : String
  origin : String
  transportId : String
  dedicatedTransport : Bool
  perRequestChain : Option UInt32
  dapp : Option SignDappIdentity
  firstParty : Bool
  responded : Bool
  held : Option SignResponsePayload
  sim : SimWait

/-- A request as it takes the sheet: unanswered, waiting for nothing. -/
def Arrival.pending (arrival : Arrival) : Pending where
  id := arrival.id
  method := arrival.method
  paramsJson := arrival.paramsJson
  origin := arrival.origin
  transportId := arrival.transportId
  dedicatedTransport := arrival.dedicatedTransport
  perRequestChain := arrival.perRequestChain
  dapp := arrival.dapp
  firstParty := arrival.firstParty
  responded := false
  held := none
  sim := .none

/-- What a request's answer is, once its record is down. -/
inductive AfterRecord where
  | result (result : String)
  | reverted (detail : String)
  | notConfirmed (detail : String)
  deriving DecidableEq

inductive Stage where
  | precheck
  | sponsoring (funding : SignFundingNeeded)
  | reactiveSponsoring (funding : SignFundingNeeded) (message : String)
  | submitting
  | persistingResult (next : AfterRecord)
  deriving DecidableEq

namespace Stage

/-- The passkey has not been asked, or the submit it signed came back unsent. -/
def beforePasskey : Stage → Bool
  | precheck | sponsoring _ | reactiveSponsoring .. => true
  | submitting | persistingResult _ => false

end Stage

/-- The passkey prompt of one submit. -/
inductive Ceremony where
  | notYet
  | up
  | done

/-- A late report never reopens a finished prompt. -/
def Ceremony.forward : Ceremony → Ceremony → Bool
  | notYet, up | notYet, done | up, done => true
  | _, _ => false

/-- The record written before the bytes leave. -/
structure WriteAhead where
  userOpHash : String
  recordId : String
  sender : String
  submitBlock : Option UInt64
  cleared : Bool

/-- The one approve pipeline, with the request as it was approved. -/
structure Inflight where
  id : String
  transportId : String
  method : String
  paramsJson : String
  unlimitedApproved : Bool
  chainId : UInt32
  address : String
  credentialId : String
  recordOrigin : String
  recordUrl : String
  intent : Option String
  balanceChanges : Option (List TrustSimJudgment)
  maxFeePerGas : Option String
  gasFeeToken : Option String
  quotedFee : Option SignQuotedFee
  stage : Stage
  recordId : Option String
  opHash : Option String
  ceremony : Ceremony
  writeAhead : Option WriteAhead
  accepted : Bool
  pageGone : Bool
  batchAnswersObject : Bool

structure FundingState where
  data : SignFundingNeeded
  presentation : SignFundingPresentation
  denialReason : Option String

/-! ## The model -/

structure Model where
  inFlight : List InFlightOp := []
  supportedChains : List UInt32 := []
  globalChain : Option UInt32 := none
  accounts : List SignAccountRef := []
  activeIndex : UInt32 := 0
  reconciled : Bool := false
  pending : Option Pending := none
  inflight : Option Inflight := none
  funding : Option FundingState := none
  fundingPinnedRid : Option String := none
  lastOpts : Option SignApproveOpts := none
  signError : Option SignErrorNotice := none
  signErrorRefused : Bool := false
  signErrorRefusalKey : Option String := none
  pendingOpHash : Option String := none
  pendingOpMaybeSent : Bool := false
  trackerHandoff : Option SignTrackerHandoff := none
  trackerWithdraw : Option SignTrackerWithdraw := none
  notice : Option SignNotice := none
  blocked : Option SignBlockedView := none
  settled : List (String × SignSettledOutcome) := []
  attempt : Nat := 0
  simRound : UInt32 := 0

/-- `previous_in_flight`: the operation `sender` waits for on the chain, never its
own. -/
def previousInFlightOp (ops : List InFlightOp) (sender : String) (chainId : UInt32)
    (own : Option String) : Option InFlightOp :=
  ops.find? fun op =>
    op.chainId == chainId && sameText op.sender (Utf8.trim sender) &&
      !(own.any (sameText · op.userOpHash))

/-- The first entry of the id gets the outcome. -/
def replaceOutcome (id : String) (outcome : SignSettledOutcome) :
    List (String × SignSettledOutcome) → List (String × SignSettledOutcome)
  | [] => []
  | entry :: rest =>
    if entry.1 = id then (id, outcome) :: rest else entry :: replaceOutcome id outcome rest

/-- The id settled with the outcome: in its place when it is there already, else
behind the others, the oldest leaving a full register. -/
def settleIn (settled : List (String × SignSettledOutcome)) (id : String)
    (outcome : SignSettledOutcome) : List (String × SignSettledOutcome) :=
  if settled.any (·.1 == id) then replaceOutcome id outcome settled
  else if maxSettledRids ≤ settled.length then settled.drop 1 ++ [(id, outcome)]
  else settled ++ [(id, outcome)]

namespace Model

def globalChainId (model : Model) : UInt32 := model.globalChain.getD 1

def chainSupported (model : Model) (chainId : UInt32) : Bool :=
  model.supportedChains.contains chainId

def activeAccount (model : Model) : Option SignAccountRef :=
  model.accounts[model.activeIndex.toNat]?

/-- The chain a request is signed on: its own, else the global one. -/
def chainOf (model : Model) (pending : Pending) : UInt32 :=
  pending.perRequestChain.getD model.globalChainId

/-- `previous_in_flight`: the operation the request on the sheet waits for. -/
def previousInFlight (model : Model) : Option InFlightOp := do
  let pending ← model.pending
  if takesNonce pending.method then
    let account ← model.activeAccount
    previousInFlightOp model.inFlight account.address (model.chainOf pending) model.pendingOpHash
  else none

/-- The request on the sheet has the id. -/
def shows (model : Model) (id : String) : Bool := model.pending.any (·.id == id)

def inflightMatchesPending (model : Model) : Bool := model.inflight.any (model.shows ·.id)

def simChecking (model : Model) : Bool :=
  model.pending.any fun pending =>
    match pending.sim with
    | .checking _ => true
    | _ => false

/-- `committed`: the pipeline of the request on the sheet is past the passkey. -/
def committed (model : Model) : Bool :=
  model.pendingOpHash.isSome ||
    (model.inflightMatchesPending &&
      model.inflight.any fun fl =>
        match fl.stage with
        | .submitting | .persistingResult _ => true
        | _ => false)

def settledOutcome (model : Model) (id : String) : Option SignSettledOutcome :=
  (model.settled.find? (·.1 == id)).map (·.2)

def settledSubmitted (model : Model) (id : String) : Bool :=
  model.settled.any fun entry => entry.1 == id && entry.2 == .submitted

def settle (id : String) (outcome : SignSettledOutcome) (model : Model) : Model :=
  { model with settled := settleIn model.settled id outcome }

def failureRetryable (model : Model) : Bool :=
  (model.pending.any fun pending => pending.held.isSome && !model.settledSubmitted pending.id) &&
    !model.signErrorRefused &&
    model.signError.any fun error =>
      error.kind == .submitFailed || error.kind == .signerFailed

/-- The failure on the sheet goes. -/
def errorCleared (model : Model) : Model :=
  { model with
    signError := none
    signErrorRefused := false
    signErrorRefusalKey := none }

/-- The failure goes on the sheet, as no refusal. -/
def withError (kind : SignErrorKind) (detail : Option String) (model : Model) : Model :=
  { model with
    signError := some { kind, detail }
    signErrorRefused := false
    signErrorRefusalKey := none }

def clearSheet (model : Model) : Model :=
  { model with
    pending := none
    blocked := none
    funding := none
    fundingPinnedRid := none
    signError := none
    signErrorRefused := false
    signErrorRefusalKey := none
    pendingOpHash := none
    pendingOpMaybeSent := false }

def clearIfShown (id : String) (model : Model) : Model :=
  if model.shows id then model.clearSheet else model

end Model

abbrev Cmd := List SignEffect

def done (model : Model) : Model × Cmd := (model, [])

def render (model : Model) : Model × Cmd := (model, [.render])

/-- `request_op`: the operation under the current attempt. -/
def requestOp (model : Model) (operation : SignOperation) : SignEffect :=
  .shell model.attempt operation

def request (operation : SignOperation) (model : Model) : Model × Cmd :=
  (model, [requestOp model operation, .render])

def opsAndRender (operations : List SignOperation) (model : Model) : Model × Cmd :=
  (model, operations.map (requestOp model) ++ [.render])

def errPayload (code : Int) (kind : SignErrorKind) (message : Option String) :
    SignResponsePayload := .err code kind message

def respondOp (transportId id : String) (payload : SignResponsePayload) : SignOperation :=
  .sendResponse transportId id payload

def blockedView (block : SelfCallGuard.SelfCallBlock) : SignBlockedView where
  function := block.function.asStr
  selector := block.selector
  legIndex := block.legIndex
  nested := block.nested

/-- `answer_held`: the held failure, sent now. -/
def answerHeld (model : Model) : Model × Option SignOperation :=
  match model.pending with
  | none => (model, none)
  | some pending =>
    match pending.held with
    | none => (model, none)
    | some payload =>
      ({ model with pending := some { pending with held := none, responded := true } },
        some (respondOp pending.transportId pending.id payload))

end VelaWallet.SignRequest
