import VelaWallet.Sign.Approving

/-!
# The submit in flight

What is heard of an operation between its passkey and its verdict: the signed hash,
the relay's acceptance, the tracker's word, and the passkey prompt
(`sign_request.rs`).
-/

namespace VelaWallet.SignRequest

open FeePolicy (sameText)
open Send (RefusalReason)

/-- `pending_tx_record`: the pending record of a transaction under its hash. -/
def pendingTxRecord (fl : Inflight) (recordId userOpHash : String) (nowMs : Float)
    (maybeSent : Bool) (submitBlock : Option UInt64) : SignRecord where
  recordId := recordId
  kind := .dappTx
  method := fl.method
  paramsJson := fl.paramsJson
  result := ""
  sender := fl.address
  chainId := fl.chainId
  nowMs := nowMs
  status := .pending
  userOpHash := userOpHash
  dappOrigin := fl.recordOrigin
  dappUrl := fl.recordUrl
  intent := fl.intent
  maybeSent := maybeSent
  submitBlock := submitBlock
  balanceChanges := fl.balanceChanges

/-- `handoff_of`: the hand-off of a write-ahead record once the POST is over. -/
def handoffOf (wa : WriteAhead) (chainId : UInt32) (admitted : Bool) : SignTrackerHandoff where
  userOpHash := wa.userOpHash
  sender := some wa.sender
  recordIds := [wa.recordId]
  chainId := chainId
  maybeSent := !admitted
  submitBlock := wa.submitBlock
  admitted := admitted

/-- The pipeline without its write-ahead record, which is deleted and taken back
from the tracker. -/
def withdrawn (fl : Inflight) (wa : WriteAhead) (model : Model) : Model :=
  { model with
    inflight := some { fl with writeAhead := none }
    trackerHandoff :=
      if model.trackerHandoff.any (sameText ·.userOpHash wa.userOpHash) then none
      else model.trackerHandoff
    trackerWithdraw := some ⟨wa.userOpHash, [wa.recordId]⟩ }

def withdrawWriteAhead (model : Model) : Model × List SignOperation :=
  match model.inflight with
  | none => (model, [])
  | some fl =>
    match fl.writeAhead with
    | none => (model, [])
    | some wa => (withdrawn fl wa model, [.deleteRecord wa.recordId])

/-- The write-ahead record adopted as the operation's record. -/
def Inflight.adopting (fl : Inflight) (wa : WriteAhead) : Inflight :=
  { fl with
    opHash := some wa.userOpHash
    recordId := some wa.recordId }

/-- A signed operation is taken: by its own pipeline, once a submit, before the
relay's word. -/
def Inflight.takesSigned (fl : Inflight) (id : String) : Bool :=
  fl.id == id && fl.stage == .submitting && fl.writeAhead.isNone && fl.opHash.isNone

/-- The pipeline with the record it writes ahead. -/
def Inflight.signed (fl : Inflight) (userOpHash recordId : String)
    (submitBlock : Option UInt64) : Inflight :=
  { fl with
    ceremony := .done
    writeAhead := some {
      userOpHash, recordId, submitBlock
      sender := fl.address
      cleared := false } }

def onOpSigned (id userOpHash : String) (submitBlock : Option UInt64) (nowMs : Float)
    (model : Model) : Model × Cmd :=
  match model.inflight with
  | none => done model
  | some fl =>
    if fl.takesSigned id then
      let recordId := recordIdFor "eth_sendTransaction" nowMs
      request
        (.persistRecord (pendingTxRecord fl recordId userOpHash nowMs true submitBlock))
        { model with
          inflight := some (fl.signed userOpHash recordId submitBlock)
          trackerHandoff := some {
            userOpHash, submitBlock
            sender := some fl.address
            recordIds := []
            chainId := fl.chainId
            maybeSent := true
            admitted := false } }
    else done model

/-- `batch_id`: the operation of a batch, which is its id. -/
def batchId (fl : Inflight) : Option String :=
  if methodKind fl.method = .batch then fl.opHash else none

def okAnswer (fl : Inflight) (result : String) : SignResponsePayload :=
  .ok (some (sendCallsResult result fl.batchAnswersObject))

/-- The answer to the pipeline's own asker. -/
def Inflight.respond (fl : Inflight) (payload : SignResponsePayload) : SignOperation :=
  respondOp fl.transportId fl.id payload

/-- `answer_batch_id`: the attempt moves on, so the shell's own result is dropped. -/
def answerBatchId (model : Model) : Model × List SignOperation :=
  match model.inflight with
  | none => (model, [])
  | some fl =>
    match batchId fl with
    | none => (model, [])
    | some id =>
      ({ model.settle fl.id .submitted with
          inflight := none
          attempt := model.attempt + 1 }.clearIfShown fl.id,
        [fl.respond (okAnswer fl id)])

/-- The sheet names the operation of the request it shows. -/
def showOp (userOpHash : String) (maybeSent : Bool) (model : Model) : Model :=
  if model.inflightMatchesPending then
    { model with
      pendingOpHash := some userOpHash
      pendingOpMaybeSent := maybeSent }
  else model

/-- The pipeline with the operation written ahead as its own. -/
def Inflight.submittedAhead (fl : Inflight) (wa : WriteAhead) (maybeSent : Bool) : Inflight :=
  { fl.adopting wa with
    ceremony := .done
    accepted := !maybeSent }

/-- The record written ahead is the operation's, and the tracker is handed it. -/
def handedAhead (fl : Inflight) (wa : WriteAhead) (maybeSent : Bool)
    (submitBlock : Option UInt64) (model : Model) : Model :=
  { showOp wa.userOpHash maybeSent
      { model with inflight := some (fl.submittedAhead wa maybeSent) } with
    trackerHandoff := some (handoffOf { wa with
      submitBlock := wa.submitBlock.or submitBlock } fl.chainId !maybeSent) }

/-- The relay's word on the operation written ahead: it took it, or its reply was
lost. -/
def submittedAhead (fl : Inflight) (wa : WriteAhead) (maybeSent : Bool)
    (submitBlock : Option UInt64) (model : Model) : Model × Cmd :=
  let handed := handedAhead fl wa maybeSent submitBlock model
  if maybeSent then render handed
  else
    let answered := answerBatchId handed
    opsAndRender (.updateRecord wa.recordId .admitted :: answered.2) answered.1

/-- The pipeline with the operation the relay named. -/
def Inflight.submitted (fl : Inflight) (userOpHash recordId : String) (maybeSent : Bool) :
    Inflight :=
  { fl with
    opHash := some userOpHash
    recordId := some recordId
    accepted := !maybeSent
    ceremony := .done }

/-- The operation the relay named is the request's, and the tracker is handed it. -/
def handedAfresh (fl : Inflight) (userOpHash recordId : String) (maybeSent : Bool)
    (submitBlock : Option UInt64) (model : Model) : Model :=
  { showOp userOpHash maybeSent
      { model with inflight := some (fl.submitted userOpHash recordId maybeSent) } with
    trackerHandoff := some {
      userOpHash, maybeSent, submitBlock
      sender := some fl.address
      recordIds := [recordId]
      chainId := fl.chainId
      admitted := false } }

/-- The relay named another operation, or none was written ahead: what was is
withdrawn, and the operation recorded under the relay's hash. -/
def submittedAfresh (userOpHash : String) (nowMs : Float) (maybeSent : Bool)
    (submitBlock : Option UInt64) (model : Model) : Model × Cmd :=
  let taken := withdrawWriteAhead model
  match taken.1.inflight with
  | none => done taken.1
  | some fl =>
    let recordId := recordIdFor "eth_sendTransaction" nowMs
    opsAndRender
      (taken.2 ++
        [.persistRecord (pendingTxRecord fl recordId userOpHash nowMs maybeSent submitBlock)])
      (handedAfresh fl userOpHash recordId maybeSent submitBlock taken.1)

/-- The relay's word is taken: by its own pipeline, once a submit. -/
def Inflight.takesSubmitted (fl : Inflight) (id : String) : Bool :=
  fl.id == id && fl.stage == .submitting && fl.opHash.isNone

def onOpSubmitted (id userOpHash : String) (nowMs : Float) (maybeSent : Bool)
    (submitBlock : Option UInt64) (model : Model) : Model × Cmd :=
  match model.inflight with
  | none => done model
  | some fl =>
    if fl.takesSubmitted id then
      match fl.writeAhead.filter (sameText ·.userOpHash userOpHash) with
      | some wa => submittedAhead fl wa maybeSent submitBlock model
      | none => submittedAfresh userOpHash nowMs maybeSent submitBlock model
    else done model

/-- What a word of the tracker answers, and whether it is a refusal (`some true`) or a
"not sent" (`some false`). -/
def trackedAnswer (fl : Inflight) (status : TrackStatus) (txHash : Option String) :
    Option (SignResponsePayload × Option Bool) :=
  match status, txHash.filter (fun hash => Utf8.trim hash != "") with
  | .confirmed, some txHash => some (okAnswer fl ((batchId fl).getD txHash), none)
  | .dropped, some txHash =>
    some (errPayload codeInternal .submitFailed (some (revertedDetail txHash)), none)
  | .rejected, _ =>
    some (errPayload codeInternal .submitFailed (some refusedDappDetail), some true)
  | .notSent, _ =>
    if fl.accepted then none
    else some (errPayload codeInternal .submitFailed (some notSentDappDetail), some false)
  | _, _ => none

/-- The failure of a payload on the sheet. -/
def noticeOf : SignResponsePayload → Option SignErrorNotice
  | .err _ kind message => some { kind, detail := message }
  | .ok _ => none

/-- Nothing was sent, and the sheet shows it: the answer waits for the close. -/
def holdRefusal (payload : SignResponsePayload) (refused : Bool) (reason : Option RefusalReason)
    (pending : Pending) (model : Model) : Model × Cmd :=
  render { model with
    signError := (noticeOf payload).or model.signError
    signErrorRefused := refused
    signErrorRefusalKey := if refused then some (refusalKey reason) else none
    pendingOpHash := none
    pendingOpMaybeSent := false
    pending := some { pending with held := some payload } }

/-- The tracker's word is about the operation of the pipeline. -/
def Inflight.isTracked (fl : Inflight) (userOpHash : String) : Bool :=
  fl.stage == .submitting && fl.recordId.isSome && fl.opHash.any (sameText · userOpHash)

/-- The pipeline ends with the tracker's answer: the attempt moves on, so the shell's
own result is dropped. -/
def answerTracked (fl : Inflight) (payload : SignResponsePayload) (refusal : Option Bool)
    (reason : Option RefusalReason) (model : Model) : Model × Cmd :=
  let ended := { model.settle fl.id .submitted with
    inflight := none
    attempt := model.attempt + 1 }
  match refusal with
  | none => opsAndRender [fl.respond payload] (ended.clearIfShown fl.id)
  | some refused =>
    match ended.pending.filter (·.id == fl.id) with
    | some pending => holdRefusal payload refused reason pending ended
    | none => opsAndRender [fl.respond payload] ended

def onOpTracked (userOpHash : String) (status : TrackStatus) (txHash : Option String)
    (reason : Option RefusalReason) (model : Model) : Model × Cmd :=
  match model.inflight with
  | none => done model
  | some fl =>
    if fl.isTracked userOpHash then
      match trackedAnswer fl status txHash with
      | none => done model
      | some (payload, refusal) => answerTracked fl payload refusal reason model
    else done model

def onCeremony (id : String) (next : Ceremony) (model : Model) : Model × Cmd :=
  match model.inflight with
  | none => done model
  | some fl =>
    if fl.id == id && fl.stage == .submitting && fl.ceremony.forward next then
      render { model with inflight := some { fl with ceremony := next } }
    else done model

end VelaWallet.SignRequest
