import VelaWallet.Sign.Model

/-!
# Requests arriving

What an arriving request is checked for before it takes the sheet, and the chain
switches (`sign_request.rs`).  A `str` slice of the self-call guard can fall inside a
character; the update then has no result.
-/

namespace VelaWallet.SignRequest

open FeePolicy
open Json (Value fromStr)
open SelfCallGuard (SelfCallBlock detectSelfCall)
open Utf8 (SlicePanic)

/-- An update that may stop at a slice inside a character. -/
abbrev Outcome := Except SlicePanic (Model × Cmd)

/-- The error a request is refused with before any sheet. -/
structure Refusal where
  code : Int
  kind : SignErrorKind
  message : Option String

def Refusal.payload (refusal : Refusal) : SignResponsePayload :=
  errPayload refusal.code refusal.kind refusal.message

def Refusal.unauthorized : Refusal := ⟨codeUnauthorized, .unauthorizedAccount, none⟩

def Refusal.unsupportedChain : Refusal := ⟨codeUnsupportedChain, .unsupportedChain, none⟩

def Refusal.invalidParams (message : Option String) : Refusal :=
  ⟨codeInvalidParams, .invalidParams, message⟩

section Arriving

variable [SignRuntime]

/-- A typed-data request is read once and carried on as its one document. -/
def readTypedData (arrival : Arrival) : Except Refusal Arrival :=
  if !looksLikeTypedData arrival.method then .ok arrival
  else
    match signableJson arrival.method arrival.paramsJson with
    | .error error => .error (.invalidParams (some error.message))
    | .ok read =>
      if arrival.grantedAddress.any fun granted => !sameText read.account granted then
        .error .unauthorized
      else
        .ok { arrival with
          paramsJson := read.paramsJson
          requestedAddress := arrival.requestedAddress.or (some read.account) }

/-- A transaction's values are read once and carried on in their canonical text. -/
def readValues (arrival : Arrival) : Except Refusal Arrival :=
  match canonicalParamsJson arrival.method arrival.paramsJson with
  | .error error => .error (.invalidParams (some error.message))
  | .ok (some canonical) => .ok { arrival with paramsJson := canonical }
  | .ok none => .ok arrival

/-- The requested account is the granted one. -/
def grantHolds (arrival : Arrival) : Bool :=
  match arrival.requestedAddress, arrival.grantedAddress with
  | some requested, some granted => sameText requested granted
  | _, _ => true

/-- The request's chain is supported and the one its params name; an ordinary
request moves the global chain to the one it names. -/
def routeChain (model : Model) (arrival : Arrival) : Except Refusal (Option UInt32) :=
  match arrival.perRequestChain with
  | some chainId =>
    if !model.chainSupported chainId then .error .unsupportedChain
    else if (fromStr arrival.paramsJson).any fun params =>
        requestNamesOtherChain arrival.method params chainId then
      .error (.invalidParams (some chainMismatchMessage))
    else .ok model.globalChain
  | none =>
    match (fromStr arrival.paramsJson).bind (extractRequestChainId arrival.method) with
    | none => .ok model.globalChain
    | some embedded =>
      if embedded = model.globalChainId then .ok model.globalChain
      else if !model.chainSupported embedded then .error .unsupportedChain
      else .ok (some embedded)

/-- The checks of an arriving request, in order: the request as it goes on, and the
global chain it leaves. -/
def checkArrival (model : Model) (arrival : Arrival) : Except Refusal (Arrival × Option UInt32) := do
  let typed ← readTypedData arrival
  let read ← readValues typed
  if grantHolds read then
    let globalChain ← routeChain model read
    .ok (read, globalChain)
  else .error .unauthorized

/-- The payload is older than it may be. -/
def isExpired (arrival : Arrival) : Bool :=
  arrival.requestTsMs.any fun ts => extensionRequestTtlMs < arrival.nowMs - ts

/-- The request it replaces hears its held failure, whose words go with it. -/
def answerReplaced (model : Model) : Model × Cmd :=
  match answerHeld model with
  | (answered, some operation) => (answered.errorCleared, [requestOp answered operation])
  | (model, none) => done model

/-- The granted account is put in front; the surface waits for the switch it asks. -/
def reconcile (granted : Option String) (model : Model) : Model × Cmd :=
  let index := signAccountIndex model.accounts model.activeIndex granted
  if index = model.activeIndex then done { model with reconciled := true }
  else
    ({ model with activeIndex := index, reconciled := false },
      [requestOp model (.switchActiveAccount index)])

/-- The account the arriving request is judged for. -/
def arrivalSigner (model : Model) (arrival : Arrival) : String :=
  ((model.accounts[(signAccountIndex model.accounts model.activeIndex
    arrival.grantedAddress).toNat]?).map (·.address)).getD ""

/-- The request takes the sheet, refused already when it would change who controls
the account. -/
def showRequest (arrival : Arrival) (refusal : Option SelfCallBlock) (model : Model) : Model :=
  match refusal with
  | some block =>
    { model.withError .selfCallBlocked (some block.function.asStr) with
      blocked := some (blockedView block)
      pending := some arrival.pending }
  | none => { model with blocked := none, pending := some arrival.pending }

/-- The self-call guard's word on an arriving request. -/
def judgeArrival (model : Model) (arrival : Arrival) :
    Except SlicePanic (Option SelfCallBlock) :=
  match fromStr arrival.paramsJson with
  | none => .ok none
  | some params => detectSelfCall arrival.method (some params) (arrivalSigner model arrival)

/-- The rest of `on_request_arrived`, for a request that passed the checks. -/
def takeSheet (arrival : Arrival) (model : Model) : Outcome :=
  let answered := answerReplaced model
  let switched := reconcile arrival.grantedAddress answered.1
  (judgeArrival switched.1 arrival).map fun refusal =>
    (showRequest arrival refusal switched.1, answered.2 ++ switched.2 ++ [.render])

/-- Any arrival takes the funding prompt of an earlier request down. -/
def arriving (model : Model) : Model :=
  { model with
    notice := none
    funding := none
    fundingPinnedRid := none }

def onRequestArrived (arrival : Arrival) (model : Model) : Outcome :=
  let model := arriving model
  if !isSigningMethod arrival.method then .ok (render model)
  else
    match model.settledOutcome arrival.id with
    | some outcome => .ok (render { model with notice := some (.alreadySettled outcome) })
    | none =>
      if isExpired arrival then .ok (render { model with notice := some .expired })
      else
        match checkArrival model arrival with
        | .error refusal =>
          .ok (opsAndRender [respondOp arrival.transportId arrival.id refusal.payload] model)
        | .ok (admitted, globalChain) => takeSheet admitted { model with globalChain }

end Arriving

/-- Stop the pipeline if it is before its passkey: late answers carry a stale
attempt. -/
def stopPresubmitInflight (model : Model) : Model :=
  if model.inflight.any (·.stage.beforePasskey) then
    { model with inflight := none, attempt := model.attempt + 1 }
  else model

/-- `kill_presubmit_pipeline`: the same, for the pipeline of the request on the
sheet. -/
def killPresubmitPipeline (model : Model) : Model :=
  if model.inflightMatchesPending then stopPresubmitInflight model else model

def switchAnswer (id transportId : Option String) (payload : SignResponsePayload) :
    List SignOperation :=
  match id, transportId with
  | some id, some transportId => [respondOp transportId id payload]
  | _, _ => []

/-- The switch cancels the request on the sheet: bound to the global chain,
unanswered and not committed. -/
def switchCancels (model : Model) : Bool :=
  (model.pending.any fun pending => pending.perRequestChain.isNone && !pending.responded) &&
    !model.committed

/-- The answer of the request a switch cancels: the failure it is owed, else a
4001. -/
def answerSwitched (model : Model) : Model × List SignOperation :=
  match answerHeld model with
  | (answered, some operation) => (answered, [operation])
  | (model, none) =>
    match model.pending with
    | none => (model, [])
    | some pending =>
      (model, [respondOp pending.transportId pending.id
        (errPayload codeUserRejected .walletSwitchedChains none)])

/-- The request on the sheet is cancelled when the switch cancels it. -/
def cancelForSwitch (model : Model) : Model × List SignOperation :=
  if switchCancels model then
    let answered := answerSwitched model
    ((killPresubmitPipeline answered.1).clearSheet, answered.2)
  else (model, [])

def onChainSwitch (id transportId chainIdParam : Option String) (model : Model) : Model × Cmd :=
  match chainIdParam.bind parseChainStr with
  | none =>
    opsAndRender (switchAnswer id transportId (errPayload codeInvalidParams .invalidParams none))
      model
  | some newChain =>
    if !model.chainSupported newChain then
      opsAndRender (switchAnswer id transportId
        (errPayload codeUnsupportedChain .unsupportedChain none)) model
    else
      let cancelled := cancelForSwitch model
      opsAndRender (cancelled.2 ++ switchAnswer id transportId (.ok none))
        { cancelled.1 with globalChain := some newChain }

end VelaWallet.SignRequest
