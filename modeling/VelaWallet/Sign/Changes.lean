import VelaWallet.Sign.Machine

/-!
# What one event does to the requests

The request on the sheet, the pipeline, the funding view and the settled ids, and every
way one event of the signing machine changes them, with the operations it hands out.
-/

namespace VelaWallet.SignRequest

open Json (Value fromStr)
open SelfCallGuard (enforceNoSelfCall)

/-- The accounts, the one in front, and whether its switch is over. -/
structure Front where
  accounts : List SignAccountRef
  activeIndex : UInt32
  reconciled : Bool

/-- What the requests' fate is decided by. -/
structure Core where
  pending : Option Pending
  inflight : Option Inflight
  funding : Option FundingState
  fundingPinnedRid : Option String
  lastOpts : Option SignApproveOpts
  settled : List (String × SignSettledOutcome)
  attempt : Nat
  front : Front

namespace Model

def front (model : Model) : Front where
  accounts := model.accounts
  activeIndex := model.activeIndex
  reconciled := model.reconciled

def core (model : Model) : Core where
  pending := model.pending
  inflight := model.inflight
  funding := model.funding
  fundingPinnedRid := model.fundingPinnedRid
  lastOpts := model.lastOpts
  settled := model.settled
  attempt := model.attempt
  front := model.front

end Model

namespace Core

/-- The funding view taken down. -/
def unfunded (core : Core) : Core :=
  { core with
    funding := none
    fundingPinnedRid := none }

/-- The sheet taken down. -/
def cleared (core : Core) : Core :=
  { core with
    pending := none
    funding := none
    fundingPinnedRid := none }

/-- The sheet taken down when it shows the id. -/
def clearedIf (id : String) (core : Core) : Core :=
  if core.pending.any (·.id == id) then core.cleared else core

def ended (core : Core) : Core := { core with inflight := none }

/-- The pipeline over, its late answers dropped. -/
def stopped (core : Core) : Core :=
  { core with
    inflight := none
    attempt := core.attempt + 1 }

def settle (id : String) (outcome : SignSettledOutcome) (core : Core) : Core :=
  { core with settled := settleIn core.settled id outcome }

/-- The pipeline of the request stopped, if it is before its passkey. -/
def stoppedFor (id : String) (core : Core) : Core :=
  if core.inflight.any fun fl => fl.id == id && fl.stage.beforePasskey then core.stopped else core

end Core

def under (attempt : Nat) (operations : List SignOperation) : List (Nat × SignOperation) :=
  operations.map (attempt, ·)

/-- The answer a request is owed for the failure on its sheet. -/
def Pending.owed (pending : Pending) : List SignOperation :=
  match pending.held with
  | some payload => [respondOp pending.transportId pending.id payload]
  | none => []

def Pending.respond (pending : Pending) (payload : SignResponsePayload) : SignOperation :=
  respondOp pending.transportId pending.id payload

/-- The request with its failure answered. -/
def Pending.answered (pending : Pending) : Pending :=
  { pending with
    held := none
    responded := true }

/-- The request with its failure shown, the answer held. -/
def Pending.failing (pending : Pending) (payload : SignResponsePayload) : Pending :=
  { pending with held := some payload }

/-- The pipeline without its write-ahead record. -/
def Inflight.unwritten (fl : Inflight) : Inflight := { fl with writeAhead := none }

/-- A pipeline marked when its page went. -/
def Inflight.leftBy (transportId : String) (fl : Inflight) : Inflight :=
  if fl.transportId = transportId then { fl with pageGone := true } else fl

/-- The taps that approve: the confirm with its own options, and the funding view's
Continue with the saved ones; and what the approve starts from. -/
inductive Tapped (model : Model) : Event → SignApproveOpts → Core → Prop where
  | approve (opts : SignApproveOpts) :
      Tapped model (.approveTapped opts) opts { model.core with lastOpts := some opts }
  | again (funded : model.funding.isSome = true)
      (pinned : ∀ pending, model.pending = some pending →
        model.fundingPinnedRid.any (· != pending.id) = false) :
      Tapped model .fundingCompleteTapped (model.lastOpts.getD {}) model.core.unfunded

/-- A tap that is taken for the request on the sheet. -/
structure Takes (model : Model) (event : Event) (opts : SignApproveOpts) (core : Core)
    (pending : Pending) : Prop where
  tapped : Tapped model event opts core
  shown : model.pending = some pending
  free : model.inflight = none
  unfunded : core.funding = none
  unanswered : pending.responded = false
  unheld : pending.held = none
  reconciled : model.reconciled = true

/-- The answers a pipeline waits for. -/
inductive Awaited where
  | check
  | sponsorship
  | submit
  | record
  deriving DecidableEq

def Stage.awaits : Stage → Awaited
  | .precheck => .check
  | .sponsoring _ | .reactiveSponsoring .. => .sponsorship
  | .submitting => .submit
  | .persistingResult _ => .record

def SignShellResult.awaitedAs : SignShellResult → Option Awaited
  | .preCheck _ => some .check
  | .sponsorship _ => some .sponsorship
  | .submit .. => some .submit
  | .recordPersisted => some .record
  | _ => none

section Change

variable [SignRuntime]

/-- A tap that starts the pipeline `fl`. -/
structure Starts (model : Model) (event : Event) (opts : SignApproveOpts) (core : Core)
    (pending : Pending) (fl : Inflight) : Prop extends
    Takes model event opts core pending where
  captured : ∃ signer chainId params, model.activeAccount = some signer ∧
    fromStr (opts.paramsOverrideJson.getD pending.paramsJson) = some params ∧
    fl = pipelineOf pending opts signer chainId
      (opts.paramsOverrideJson.getD pending.paramsJson) params

/-- The self-call guard passes the pipeline's params for the account in front. -/
def GuardPasses (model : Model) (fl : Inflight) : Prop :=
  ∃ params, fromStr fl.paramsJson = some params ∧
    enforceNoSelfCall fl.method (some params) (activeAddress model) = .ok (.ok ())

/-- What becomes of the write-ahead record when the submit ends: there is none, it is
adopted, or it is withdrawn. -/
inductive Written (outcome : SignSubmitOutcome) (fl : Inflight) (core : Core) :
    Inflight → Core → List SignOperation → Prop where
  | kept (kept : fl.writeAhead = none ∨ fl.recordId.isSome = true) :
      Written outcome fl core fl core []
  | adopted {wa : WriteAhead} {operations : List SignOperation}
      (ahead : fl.writeAhead = some wa) (unrecorded : fl.recordId = none)
      (same : sameOp outcome wa.userOpHash = true)
      (patches : operations = [] ∨ operations = [.updateRecord wa.recordId .admitted]) :
      Written outcome fl core (fl.adopting wa) { core with inflight := some (fl.adopting wa) }
        operations
  | withdrawn {wa : WriteAhead}
      (ahead : fl.writeAhead = some wa) (unrecorded : fl.recordId = none)
      (other : sameOp outcome wa.userOpHash = false) :
      Written outcome fl core fl.unwritten
        { core with
          inflight := some fl.unwritten
          attempt := if wa.cleared then core.attempt else core.attempt + 1 }
        [.deleteRecord wa.recordId]

/-- The answer an outcome comes to, of an operation that went out. -/
def outcomeAnswer (fl : Inflight) : SignSubmitOutcome → Option SignResponsePayload
  | .succeeded answer | .receiptPending answer => some (okAnswer fl answer)
  | .reverted _ txHash => some ((AfterRecord.reverted (revertedDetail txHash)).payload fl)
  | .notConfirmed userOpHash =>
    some ((AfterRecord.notConfirmed (notConfirmedDetail userOpHash)).payload fl)
  | _ => none

/-- A submit's outcome, as it reaches `on_submit_outcome`. -/
structure Submitted (model : Model) (event : Event) (fl : Inflight) (core : Core)
    (operations : List SignOperation) (outcome : SignSubmitOutcome) : Prop where
  exists_written : ∃ nowMs before raw,
    event = .shellCompleted model.attempt (.submit raw nowMs) ∧ model.inflight = some before ∧
    before.stage = .submitting ∧ Written raw before model.core fl core operations ∧
    outcome = readOutcome fl raw

/-- The event is the answer the pipeline's stage waits for. -/
def Hears (model : Model) (fl : Inflight) (event : Event) : Prop :=
  ∃ result, event = .shellCompleted model.attempt result ∧
    result.awaitedAs = some fl.stage.awaits

/-- The answer to a check that lets the pipeline go on to its submit. -/
inductive LetsSubmit (model : Model) (fl : Inflight) : Event → Prop where
  | prechecked (stage : fl.stage = .precheck) :
      LetsSubmit model fl (.shellCompleted model.attempt (.preCheck none))
  | sponsored {funding : SignFundingNeeded} (stage : fl.stage = .sponsoring funding)
      (shown : model.shows fl.id = true) :
      LetsSubmit model fl (.shellCompleted model.attempt (.sponsorship .funded))

inductive Change (event : Event) (model : Model) : Core → List (Nat × SignOperation) → Prop where
  | kept : Change event model model.core []
  | unfunded : Change event model model.core.unfunded []
  -- the accounts
  | accountsListed {accounts : List SignAccountRef} {activeIndex : UInt32}
      (named : event = .accountsChanged accounts activeIndex) :
      Change event model
        { model.core with front := { model.front with accounts, activeIndex } } []
  | accountSwitched {attempt : Nat} (named : event = .shellCompleted attempt .accountSwitched) :
      Change event model { model.core with front := { model.front with reconciled := true } } []
  -- arrivals and switches
  | arrivalRefused {arrival : Arrival} {payload : SignResponsePayload}
      (named : event = .requestArrived arrival) :
      Change event model model.core.unfunded
        (under model.attempt [respondOp arrival.transportId arrival.id payload])
  | arrivalShown {arrival admitted : Arrival} {switches : List SignOperation} {front : Front}
      (named : event = .requestArrived arrival) (sameId : admitted.id = arrival.id)
      (unsettled : model.settledOutcome arrival.id = none)
      (asks : switches = [] ∨ ∃ index, switches = [.switchActiveAccount index]) :
      Change event model
        { model.core.unfunded with
          pending := some admitted.pending
          front }
        (under model.attempt ((model.pending.map Pending.owed).getD [] ++ switches))
  | switchAnswered {id transportId param : Option String} {payload : SignResponsePayload}
      (named : event = .chainSwitchRequested id transportId param) :
      Change event model model.core (under model.attempt (switchAnswer id transportId payload))
  | switchCancelled {id transportId param : Option String} {pending : Pending}
      {payload reply : SignResponsePayload}
      (named : event = .chainSwitchRequested id transportId param)
      (shown : model.pending = some pending) (unanswered : pending.responded = false)
      (uncommitted : ∀ fl, model.inflight = some fl → fl.id = pending.id →
        fl.stage.beforePasskey = true) :
      Change event model (model.core.stoppedFor pending.id).cleared
        (under (model.core.stoppedFor pending.id).attempt
          (pending.respond payload :: switchAnswer id transportId reply))
  -- the approve tap
  | tapped {opts : SignApproveOpts} {core : Core} (tapped : Tapped model event opts core) :
      Change event model core []
  | refusedTap {opts : SignApproveOpts} {core : Core} {pending : Pending}
      {code : Int} {kind : SignErrorKind} {detail : Option String}
      (takes : Takes model event opts core pending) :
      Change event model { core with pending := some { pending with responded := true } }
        (under model.attempt [pending.respond (errPayload code kind detail)])
  | started {opts : SignApproveOpts} {core : Core} {pending : Pending} {fl : Inflight}
      {bustCache : Bool} (starts : Starts model event opts core pending fl)
      (nonce : takesNonce fl.method = true) :
      Change event model { core with inflight := some fl }
        (under model.attempt
          [.checkBundlerFunding fl.chainId fl.address opts.bundlerCostWei bustCache])
  | startedSubmit {opts : SignApproveOpts} {core : Core} {pending : Pending} {fl : Inflight}
      (starts : Starts model event opts core pending fl) (passes : GuardPasses model fl) :
      Change event model { core with inflight := some { fl with stage := .submitting } }
        (under model.attempt [fl.submit])
  | startedFailed {opts : SignApproveOpts} {core : Core} {pending : Pending}
      {payload : SignResponsePayload} (takes : Takes model event opts core pending) :
      Change event model { core with pending := some (pending.failing payload) } []
  -- the checks before the submit
  | sponsoring {fl : Inflight} {funding : SignFundingNeeded}
      (answered : event = .shellCompleted model.attempt (.preCheck (some funding)))
      (running : model.inflight = some fl) (stage : fl.stage = .precheck) :
      Change event model
        { model.core with inflight := some { fl with stage := .sponsoring funding } }
        (under model.attempt [.attemptSponsorship funding false])
  | submits {fl : Inflight} (running : model.inflight = some fl)
      (answered : LetsSubmit model fl event) (passes : GuardPasses model fl) :
      Change event model { model.core with inflight := some { fl with stage := .submitting } }
        (under model.attempt [fl.submit])
  | failedShown {fl : Inflight} {pending : Pending} {payload : SignResponsePayload}
      (running : model.inflight = some fl) (stage : fl.stage.beforePasskey = true)
      (shown : model.pending = some pending) (same : pending.id = fl.id)
      (hears : Hears model fl event) :
      Change event model
        { model.core.ended with pending := some (pending.failing payload) }
        (under model.attempt (closeFailed fl))
  | failedAnswered {fl : Inflight} {code : Int} {kind : SignErrorKind} {detail : Option String}
      (running : model.inflight = some fl) (stage : fl.stage.beforePasskey = true)
      (hidden : model.shows fl.id = false) (hears : Hears model fl event) :
      Change event model model.core.ended
        (under model.attempt (closeFailed fl ++ [fl.respond (errPayload code kind detail)]))
  | fundingWait {fl : Inflight} {funding : FundingState}
      (running : model.inflight = some fl) (stage : fl.stage.beforePasskey = true)
      (shown : model.shows fl.id = true) (hears : Hears model fl event) :
      Change event model
        { model.core.ended with
          funding := some funding
          fundingPinnedRid := some fl.id } []
  -- the operation in flight
  | signed {fl : Inflight} {id userOpHash recordId : String} {submitBlock : Option UInt64}
      {nowMs : Float} (named : event = .opSigned id userOpHash submitBlock nowMs)
      (running : model.inflight = some fl) (takes : fl.takesSigned id = true) :
      Change event model
        { model.core with inflight := some (fl.signed userOpHash recordId submitBlock) }
        (under model.attempt
          [.persistRecord (pendingTxRecord fl recordId userOpHash nowMs true submitBlock)])
  | submittedAhead {fl : Inflight} {wa : WriteAhead} {id userOpHash : String} {nowMs : Float}
      {maybeSent : Bool} {submitBlock : Option UInt64} {operations : List SignOperation}
      (named : event = .opSubmitted id userOpHash nowMs maybeSent submitBlock)
      (running : model.inflight = some fl) (takes : fl.takesSubmitted id = true)
      (ahead : fl.writeAhead = some wa)
      (patches : operations = [] ∨ operations = [.updateRecord wa.recordId .admitted]) :
      Change event model
        { model.core with inflight := some (fl.submittedAhead wa maybeSent) }
        (under model.attempt operations)
  | batchAnswered {fl : Inflight} {wa : WriteAhead} {id userOpHash : String}
      {nowMs : Float} {submitBlock : Option UInt64}
      (named : event = .opSubmitted id userOpHash nowMs false submitBlock)
      (running : model.inflight = some fl) (takes : fl.takesSubmitted id = true)
      (ahead : fl.writeAhead = some wa) (batch : methodKind fl.method = .batch) :
      Change event model ((model.core.settle fl.id .submitted).stopped.clearedIf fl.id)
        (under (model.attempt + 1) [.updateRecord wa.recordId .admitted,
          fl.respond (okAnswer fl wa.userOpHash)])
  | submittedAfresh {fl : Inflight} {id userOpHash recordId : String} {nowMs : Float}
      {maybeSent : Bool} {submitBlock : Option UInt64}
      (named : event = .opSubmitted id userOpHash nowMs maybeSent submitBlock)
      (running : model.inflight = some fl) (takes : fl.takesSubmitted id = true) :
      Change event model
        { model.core with
          inflight := some (fl.unwritten.submitted userOpHash recordId maybeSent) }
        (under model.attempt
          ((fl.writeAhead.map fun wa => [.deleteRecord wa.recordId]).getD [] ++
            [.persistRecord
              (pendingTxRecord fl recordId userOpHash nowMs maybeSent submitBlock)]))
  | trackedAnswered {fl : Inflight} {userOpHash : String} {status : TrackStatus}
      {txHash : Option String} {reason : Option Send.RefusalReason}
      {payload : SignResponsePayload} {refusal : Option Bool}
      (named : event = .opTracked userOpHash status txHash reason)
      (running : model.inflight = some fl) (tracked : fl.isTracked userOpHash = true)
      (word : trackedAnswer fl status txHash = some (payload, refusal)) :
      Change event model ((model.core.settle fl.id .submitted).stopped.clearedIf fl.id)
        (under (model.attempt + 1) [fl.respond payload])
  | trackedHeld {fl : Inflight} {userOpHash : String} {status : TrackStatus}
      {txHash : Option String} {reason : Option Send.RefusalReason}
      {payload : SignResponsePayload} {pending : Pending}
      (named : event = .opTracked userOpHash status txHash reason)
      (running : model.inflight = some fl) (tracked : fl.isTracked userOpHash = true)
      (shown : model.pending = some pending) (same : pending.id = fl.id) :
      Change event model
        { (model.core.settle fl.id .submitted).stopped with
          pending := some (pending.failing payload) } []
  | prompted {fl : Inflight} {ceremony : Ceremony} (running : model.inflight = some fl) :
      Change event model { model.core with inflight := some { fl with ceremony } } []
  -- the submit's outcome
  | submitQuiet {fl : Inflight} {core : Core} {operations : List SignOperation}
      (submitted : Submitted model event fl core operations .passkeyCancelled) :
      Change event model core.ended (under core.attempt operations)
  | submitRefused {fl : Inflight} {core : Core} {operations : List SignOperation}
      (submitted : Submitted model event fl core operations .passkeyCancelled)
      (hidden : model.shows fl.id = false) :
      Change event model (core.ended.settle fl.id .rejected)
        (under core.attempt
          (operations ++ [fl.respond (errPayload codeUserRejected .userRejected none)]))
  | submitGone {fl : Inflight} {core : Core} {operations : List SignOperation}
      (submitted : Submitted model event fl core operations .askerGone) :
      Change event model (core.ended.clearedIf fl.id) (under core.attempt operations)
  | submitAnswered {fl : Inflight} {core : Core} {operations : List SignOperation}
      {outcome : SignSubmitOutcome} {payload : SignResponsePayload}
      (submitted : Submitted model event fl core operations outcome)
      (recorded : fl.recordId.isSome = true)
      (answers : outcomeAnswer fl outcome = some payload) :
      Change event model ((core.settle fl.id .submitted).ended.clearedIf fl.id)
        (under core.attempt (operations ++ [fl.respond payload]))
  | submitRecorded {fl : Inflight} {core : Core} {operations : List SignOperation}
      {outcome : SignSubmitOutcome} {record : SignRecord} {opHash : Option String}
      {next : AfterRecord} (submitted : Submitted model event fl core operations outcome)
      (unrecorded : fl.recordId = none) (answers : (outcomeAnswer fl outcome).isSome = true) :
      Change event model
        { core.settle fl.id .submitted with inflight := some { fl with
          opHash
          recordId := some record.recordId
          stage := .persistingResult next } }
        (under core.attempt (operations ++ [.persistRecord record]))
  | submitUnderfunded {fl : Inflight} {core : Core} {operations : List SignOperation}
      {funding : SignFundingNeeded} {message : String}
      (submitted : Submitted model event fl core operations
        (.underfunded message (some funding))) :
      Change event model
        { core with inflight := some { fl with stage := .reactiveSponsoring funding message } }
        (under core.attempt (operations ++ [.attemptSponsorship funding true]))
  | submitFailedShown {fl : Inflight} {core : Core} {operations : List SignOperation}
      {outcome : SignSubmitOutcome} {pending : Pending} {payload : SignResponsePayload}
      (submitted : Submitted model event fl core operations outcome)
      (shown : model.pending = some pending) (same : pending.id = fl.id) :
      Change event model { core.ended with pending := some (pending.failing payload) }
        (under core.attempt (operations ++ closeFailed fl))
  | submitFailedAnswered {fl : Inflight} {core : Core} {operations : List SignOperation}
      {outcome : SignSubmitOutcome} {code : Int} {kind : SignErrorKind}
      {detail : Option String}
      (submitted : Submitted model event fl core operations outcome)
      (hidden : model.shows fl.id = false) :
      Change event model core.ended
        (under core.attempt
          (operations ++ (closeFailed fl ++ [fl.respond (errPayload code kind detail)])))
  -- the records
  | postCleared {fl : Inflight} {wa : WriteAhead}
      (answered : event = .shellCompleted model.attempt .recordPersisted)
      (running : model.inflight = some fl) (stage : fl.stage = .submitting)
      (ahead : fl.writeAhead = some wa) (waiting : wa.cleared = false)
      (unsubmitted : fl.opHash = none) :
      Change event model
        { model.core with inflight := some { fl with
          writeAhead := some { wa with cleared := true } } }
        (under model.attempt [.clearToPost fl.id wa.userOpHash])
  | recordAnswered {fl : Inflight} {next : AfterRecord}
      (answered : event = .shellCompleted model.attempt .recordPersisted)
      (running : model.inflight = some fl) (stage : fl.stage = .persistingResult next) :
      Change event model (model.core.ended.clearedIf fl.id)
        (under model.attempt [fl.respond (next.payload fl)])
  -- the sheet
  | rejected {pending : Pending} {code : Int} {kind : SignErrorKind} {detail : Option String}
      (shown : model.pending = some pending)
      (unanswered : pending.responded = false) (unheld : pending.held = none)
      (uncommitted : ∀ fl, model.inflight = some fl → fl.id = pending.id →
        fl.stage.beforePasskey = true) :
      Change event model
        ((model.core.settle pending.id .rejected).stoppedFor pending.id).cleared
        (under (model.core.stoppedFor pending.id).attempt
          [pending.respond (errPayload code kind detail)])
  | dismissed :
      Change event model model.core.cleared
        (under model.attempt ((model.pending.map Pending.owed).getD []))
  | retried {pending : Pending} (named : event = .retryTapped)
      (shown : model.pending = some pending) (retryable : model.failureRetryable = true) :
      Change event model { model.core with pending := some pending.unheld } []
  | fundingCancelled {pending : Pending} {code : Int} {kind : SignErrorKind}
      (shown : model.pending = some pending)
      (asked : event = .fundingCancelled ∨ model.funding.isSome = true) :
      Change event model { model.core.unfunded with pending := none }
        (under model.attempt [pending.respond (errPayload code kind none)])
  | simStarted {pending : Pending} {id : String} {round : UInt32}
      (named : event = .simStarted id)
      (shown : model.pending = some pending) (same : pending.id = id) :
      Change event model { model.core with pending := some { pending with
        sim := .checking round } } (under model.attempt [.simVerdictTimer id round simVerdictWaitMs])
  | simEnded {pending : Pending} {sim : SimWait} (shown : model.pending = some pending)
      (finished : sim = .waitedOut ∨ sim = .landed) :
      Change event model { model.core with pending := some { pending with sim } } []
  | dropped {transportId : String} {core : Core}
      (sheet : core = model.core ∨ core = model.core.cleared) :
      Change event model
        { core with inflight := model.inflight.map (Inflight.leftBy transportId) } []
  | droppedStopped {fl : Inflight} {core : Core} (running : model.inflight = some fl)
      (stage : fl.stage.beforePasskey = true)
      (sheet : core = model.core ∨ core = model.core.cleared) :
      Change event model core.stopped []

end Change

end VelaWallet.SignRequest
