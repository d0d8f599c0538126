import Mathlib.Algebra.Group.Nat.Defs
import VelaWallet.Base.Shell
import VelaWallet.Dapp.ConnectInput

/-!
# The dApp session machine

How a connection to a dApp is paired, restored, kept and ended (`dapp_session.rs`).  The machine
holds handles of sessions only: the sessions themselves, and their keys, are the shell's.
-/

namespace VelaWallet.DappSession

def reconnectGraceMs : Nat := 4000
def reconnectStuckMs : Nat := 45000
def joinTimeoutMs : Nat := 120000
def reconnectDeadlineMs : Nat := 60000
def dropIfDeadMs : Nat := 8000
def backoffBaseMs : Nat := 1000
def backoffCapMs : Nat := 30000
def recoverThrottleMs : Float := 3000
def staleAfterMs : Float := 20000

structure DsessDappInfo where
  name : String
  url : String
  icon : Option String
  deriving DecidableEq

/-- `DsessConnectionType` -/
inductive ConnectionType where
  | remoteInject
  | walletPair
  deriving DecidableEq

inductive DsessStatus where
  | disconnected
  | connecting
  | connected
  | reconnecting
  | error
  deriving DecidableEq

/-- `DsessTimerKind` -/
inductive TimerKind where
  | grace
  | stuck
  | join
  | deadline
  | dropIfDead
  | backoff
  deriving DecidableEq

/-- `DsessReconnectCause`: why a reconnect was asked for. -/
inductive ReconnectCause where
  | manual
  | backoff
  | restore
  | foreground
  | online
  deriving DecidableEq

inductive DsessError where
  | transport (message : String)
  | joinTimeout
  | reconnectDeadline

/-- `DsessOperation`: what the machine asks the shell to do. -/
inductive DsessOperation where
  | prepareWalletPair (sessionRef : Nat) (uri : String)
  | connectRemoteInject (sessionRef : Nat) (session : RemoteInjectSession)
  | confirmWalletPairJoin (sessionRef : Nat)
  | reconnectTransport (sessionRef : Nat) (cause : ReconnectCause)
  | disconnectTransport (sessionRef : Nat)
  | pingTransport (sessionRef : Nat)
  | pushWalletInfo (sessionRef chainId : Nat)
  | persistWalletPairCounters (sessionRef : Nat)
  | restoreWalletPair (sessionRef : Nat)
  | fetchDappInfo (sessionRef : Nat)
  | saveRemoteInjectSession (session : RemoteInjectSession)
  | clearRemoteInjectSession
  | clearWalletPairSnapshot
  | startTimer (id : Nat) (kind : TimerKind) (ms : Nat)
  | cancelTimer (id : Nat)
  | openBrowser (url : String)
  | alertInvalidLink
  deriving DecidableEq

inductive DsessShellResult where
  | ack
  | walletPairPrepared (fingerprint : String) (dapp : DsessDappInfo)
  | walletPairPrepareFailed (message : String)
  | remoteInjectConnectFinished
  | remoteInjectConnectFailed (message : String)
  | joinFinished (connected : Bool)
  | joinFailed (message : String)
  | reconnectFinished (cause : ReconnectCause) (ok : Bool)
  | walletPairRestoreFinished (restored : Bool)
  | dappInfoFetched (info : Option DsessDappInfo)
  | countersPersisted (ok : Bool)
  deriving DecidableEq

/-- A request to the shell, with the attempt that its answer will carry. -/
abbrev Request := Nat × DsessOperation

inductive DsessEffect where
  | render
  | shell (request : Request)

inductive Event where
  | inputSubmitted (raw : String)
  | fingerprintConfirmed
  | fingerprintCancelled
  | disconnectRequested
  | manualReconnect
  | restoreLoaded (remoteInject : Option RemoteInjectSession) (walletPair : Option DsessDappInfo)
  | transportConnected (sessionRef : Nat)
  | transportDisconnected (sessionRef : Nat)
  | transportReconnecting (sessionRef : Nat)
  | transportError (sessionRef : Nat) (message : String)
  | timerFired (id : Nat)
  | appForegrounded (backgroundedMs : Float)
  | networkOnline (nowMs : Float)
  | walletChanged (chainId : Nat)
  | shellCompleted (attempt : Nat) (result : DsessShellResult)

/-- `TransportPhase`: a session that has not joined yet, that is up, or whose socket is gone. -/
inductive TransportPhase where
  | joining
  | up
  | down
  deriving DecidableEq

/-- `Timers`: the timers armed; a watchdog is kept with the session it watches. -/
structure Timers where
  grace : Option Nat := none
  stuck : Option Nat := none
  join : Option (Nat × Nat) := none
  deadline : Option Nat := none
  dropDead : Option (Nat × Nat) := none
  backoff : Option Nat := none
  deriving DecidableEq

structure Model where
  status : DsessStatus := .disconnected
  error : Option DsessError := none
  session : Option RemoteInjectSession := none
  dappInfo : Option DsessDappInfo := none
  connectionType : Option ConnectionType := none
  pendingFingerprint : Option String := none
  reconnectStuck : Bool := false
  chainId : Nat := 1
  liveRef : Option Nat := none
  liveKind : Option ConnectionType := none
  /-- A pairing that is prepared and not confirmed: the shell holds a key of it. -/
  pendingWpRef : Option Nat := none
  awaitingPrepare : Option Nat := none
  awaitingRestore : Option Nat := none
  pendingWpRestore : Option DsessDappInfo := none
  restoringSession : Option RemoteInjectSession := none
  riRestore : Bool := false
  transportPhase : TransportPhase := .joining
  backoffAttempt : Nat := 0
  lastRecoverAt : Float := 0
  restoreConsumed : Bool := false
  timers : Timers := {}
  nextTimer : Nat := 1
  nextRef : Nat := 1
  attempt : Nat := 0

structure DsessView where
  status : DsessStatus
  error : Option DsessError
  session : Option RemoteInjectSession
  dappInfo : Option DsessDappInfo
  connectionType : Option ConnectionType
  pendingFingerprint : Option String
  reconnectStuck : Bool
  chainId : Nat

def view (model : Model) : DsessView where
  status := model.status
  error := model.error
  session := model.session
  dappInfo := model.dappInfo
  connectionType := model.connectionType
  pendingFingerprint := model.pendingFingerprint
  reconnectStuck := model.reconnectStuck
  chainId := model.chainId

/-- A request under the present attempt. -/
def req (model : Model) (operation : DsessOperation) : DsessEffect :=
  .shell (model.attempt, operation)

/-- The cancellation of a timer, if one is armed. -/
def cancelOps (model : Model) (timer : Option Nat) : List DsessEffect :=
  timer.toList.map fun id => req model (.cancelTimer id)

/-- The release of a handle, if there is one. -/
def releaseOps (model : Model) (held : Option Nat) : List DsessEffect :=
  held.toList.map fun sessionRef => req model (.disconnectTransport sessionRef)

def finish (ops : List DsessEffect) : List DsessEffect := ops ++ [.render]

/-- `start_timer`; `put` is where the new timer's number is kept. -/
def startTimer (kind : TimerKind) (ms : Nat) (put : Nat → Timers → Timers) (model : Model) :
    Model × List DsessEffect :=
  ({ model with nextTimer := model.nextTimer + 1, timers := put model.nextTimer model.timers },
    [req model (.startTimer model.nextTimer kind ms)])

/-- The grace timer armed, unless one is. -/
def armGrace (model : Model) : Model × List DsessEffect :=
  if model.timers.grace.isNone then
    startTimer .grace reconnectGraceMs (fun id timers => { timers with grace := some id }) model
  else (model, [])

def armDeadline (model : Model) : Model × List DsessEffect :=
  if model.timers.deadline.isNone then
    startTimer .deadline reconnectDeadlineMs
      (fun id timers => { timers with deadline := some id }) model
  else (model, [])

def armStuck (model : Model) : Model × List DsessEffect :=
  startTimer .stuck reconnectStuckMs (fun id timers => { timers with stuck := some id }) model

def setStatus (status : DsessStatus) (model : Model) : Model × List DsessEffect :=
  if model.status = status then (model, [])
  else
    let cancelled := cancelOps model model.timers.stuck
    let model := { model with
      status, reconnectStuck := false, timers := { model.timers with stuck := none } }
    if status = .reconnecting then
      let (model, ops) := armStuck model
      (model, cancelled ++ ops)
    else (model, cancelled)

def backoffDelay (attempt : Nat) : Nat :=
  if 5 ≤ attempt then backoffCapMs else min (backoffBaseMs * 2 ^ attempt) backoffCapMs

def scheduleBackoff (model : Model) : Model × List DsessEffect :=
  if model.timers.backoff.isSome ∨ model.transportPhase ≠ .down then (model, [])
  else
    startTimer .backoff (backoffDelay model.backoffAttempt)
      (fun id timers => { timers with backoff := some id })
      { model with backoffAttempt := model.backoffAttempt + 1 }

def disconnectCurrent (model : Model) : Model × List DsessEffect :=
  let timers := model.timers
  let ops :=
    cancelOps model timers.grace ++ releaseOps model model.awaitingPrepare ++
      releaseOps model model.pendingWpRef ++ cancelOps model timers.stuck ++
      cancelOps model (timers.join.map (·.1)) ++ cancelOps model timers.deadline ++
      cancelOps model timers.backoff ++ cancelOps model (timers.dropDead.map (·.1)) ++
      releaseOps model model.liveRef
  let nulled := model.liveRef.isSome && model.liveKind = some .remoteInject
  ({ model with
      timers := {}, awaitingPrepare := none, pendingWpRef := none, pendingFingerprint := none
      connectionType := if nulled then none else model.connectionType
      liveRef := none, liveKind := none, transportPhase := .joining, backoffAttempt := 0
      riRestore := false, restoringSession := none }, ops)

def dropLiveTransport (disconnect wipeSnapshot : Bool) (model : Model) :
    Model × List DsessEffect :=
  let timers := model.timers
  let ops :=
    cancelOps model timers.grace ++ cancelOps model timers.stuck ++
      cancelOps model (timers.join.map (·.1)) ++ cancelOps model timers.deadline ++
      cancelOps model timers.backoff ++ cancelOps model (timers.dropDead.map (·.1)) ++
      (if disconnect then releaseOps model model.liveRef else []) ++
      (if wipeSnapshot then [req model .clearWalletPairSnapshot] else [])
  ({ model with
      timers := {}, reconnectStuck := false, status := .disconnected, connectionType := none
      transportPhase := .joining, backoffAttempt := 0, liveRef := none, liveKind := none }, ops)

/-- `push_wallet_info`: a pairing's counters are written before anything is sealed with them. -/
def pushWalletInfo (model : Model) : List DsessEffect :=
  match model.liveRef, model.liveKind with
  | some sessionRef, some .walletPair => [req model (.persistWalletPairCounters sessionRef)]
  | some sessionRef, some .remoteInject => [req model (.pushWalletInfo sessionRef model.chainId)]
  | _, _ => []

def onInput (raw : String) (model : Model) : Model × List DsessEffect :=
  match classifyConnectInput raw with
  | .walletPair uri =>
    let model := { model with attempt := model.attempt + 1 }
    let (model, released) := disconnectCurrent model
    let (model, ops) := setStatus .connecting model
    let sessionRef := model.nextRef
    let model := { model with
      error := none, session := none, nextRef := sessionRef + 1
      awaitingPrepare := some sessionRef }
    (model, finish (released ++ ops ++ [req model (.prepareWalletPair sessionRef uri)]))
  | .remoteInject session =>
    let model := { model with attempt := model.attempt + 1 }
    let (model, released) := disconnectCurrent model
    let (model, ops) := setStatus .connecting model
    let sessionRef := model.nextRef
    let model := { model with
      error := none, session := some session, riRestore := false, restoringSession := none
      nextRef := sessionRef + 1, liveRef := some sessionRef, liveKind := some .remoteInject
      transportPhase := .joining }
    (model, finish (released ++ ops ++ [req model (.connectRemoteInject sessionRef session)]))
  | .browser url => (model, [req model (.openBrowser url)])
  | .invalid => (model, [req model .alertInvalidLink])

def onConfirmFingerprint (model : Model) : Model × List DsessEffect :=
  match model.pendingWpRef with
  | none => (model, [])
  | some sessionRef =>
    ({ model with
        pendingWpRef := none, pendingFingerprint := none, liveRef := some sessionRef
        liveKind := some .walletPair, transportPhase := .joining },
      finish [req model (.confirmWalletPairJoin sessionRef)])

def onCancelFingerprint (model : Model) : Model × List DsessEffect :=
  let released := releaseOps model model.pendingWpRef
  let (model, ops) :=
    setStatus .disconnected { model with pendingWpRef := none, pendingFingerprint := none }
  ({ model with dappInfo := none, error := none }, finish (released ++ ops))

def onDisconnectRequested (model : Model) : Model × List DsessEffect :=
  let model := { model with attempt := model.attempt + 1 }
  let (model, released) := disconnectCurrent model
  let (model, ops) := setStatus .disconnected model
  ({ model with connectionType := none, session := none, dappInfo := none },
    finish (released ++ ops ++
      [req model .clearRemoteInjectSession, req model .clearWalletPairSnapshot]))

def onManualReconnect (model : Model) : Model × List DsessEffect :=
  match model.liveRef with
  | none => (model, [])
  | some sessionRef =>
    let grace := cancelOps model model.timers.grace
    let model := { model with timers := { model.timers with grace := none } }
    let (model, ops) :=
      if model.status = .reconnecting then
        let stuck := cancelOps model model.timers.stuck
        let (model, ops) := armStuck { model with reconnectStuck := false }
        (model, stuck ++ ops)
      else setStatus .reconnecting model
    (model, finish (grace ++ ops ++ [req model (.reconnectTransport sessionRef .manual)]))

def onRestoreLoaded (remoteInject : Option RemoteInjectSession)
    (walletPair : Option DsessDappInfo) (model : Model) : Model × List DsessEffect :=
  if model.restoreConsumed ∨ model.liveRef.isSome ∨ model.pendingWpRef.isSome ∨
      model.awaitingPrepare.isSome ∨ model.awaitingRestore.isSome ∨
      model.status ≠ .disconnected then
    (model, [])
  else
    let model := { model with restoreConsumed := true }
    match remoteInject, walletPair with
    | some session, _ =>
      let sessionRef := model.nextRef
      let model := { model with
        attempt := model.attempt + 1, nextRef := sessionRef + 1, liveRef := some sessionRef
        liveKind := some .remoteInject, transportPhase := .joining, riRestore := true
        restoringSession := some session }
      (model, finish [req model (.connectRemoteInject sessionRef session)])
    | none, some dapp =>
      let sessionRef := model.nextRef
      let model := { model with
        attempt := model.attempt + 1, nextRef := sessionRef + 1
        awaitingRestore := some sessionRef, pendingWpRestore := some dapp }
      (model, finish [req model (.restoreWalletPair sessionRef)])
    | none, none => (model, [])

def onTransportConnected (sessionRef : Nat) (model : Model) : Model × List DsessEffect :=
  if model.liveRef ≠ some sessionRef ∨ model.liveKind.isNone then (model, [])
  else
    let timers := model.timers
    let cancelled :=
      cancelOps model timers.grace ++ cancelOps model (timers.join.map (·.1)) ++
        cancelOps model timers.deadline ++ cancelOps model timers.backoff
    let (model, ops) := setStatus .connected { model with
      transportPhase := .up, backoffAttempt := 0
      timers := { timers with grace := none, join := none, deadline := none, backoff := none } }
    let model := { model with connectionType := model.liveKind }
    (model, finish (cancelled ++ ops ++ pushWalletInfo model))

def onTransportDisconnected (sessionRef : Nat) (model : Model) : Model × List DsessEffect :=
  if model.liveRef ≠ some sessionRef then (model, [])
  else
    let (model, ops) := dropLiveTransport false false model
    (model, finish ops)

def onTransportReconnecting (sessionRef : Nat) (model : Model) : Model × List DsessEffect :=
  if model.liveRef ≠ some sessionRef then (model, [])
  else
    let (model, grace) := armGrace { model with transportPhase := .down }
    let (model, deadline) := armDeadline model
    let (model, backoff) := scheduleBackoff model
    (model, finish (grace ++ deadline ++ backoff))

def onTransportError (sessionRef : Nat) (message : String) (model : Model) :
    Model × List DsessEffect :=
  if model.liveRef ≠ some sessionRef then (model, [])
  else ({ model with error := some (.transport message) }, [.render])

/-- The backoff's end: the transport is asked to reconnect. -/
def onBackoffFired (model : Model) : Model × List DsessEffect :=
  let model := { model with timers := { model.timers with backoff := none } }
  match model.liveRef, model.liveKind with
  | some sessionRef, some .walletPair =>
    if model.transportPhase ≠ .down then (model, [])
    else
      let (model, grace) := armGrace model
      (model, finish (grace ++ [req model (.reconnectTransport sessionRef .backoff)]))
  | _, _ => (model, [])

def onTimerFired (id : Nat) (model : Model) : Model × List DsessEffect :=
  let timers := model.timers
  if timers.grace = some id then
    let (model, ops) := setStatus .reconnecting { model with timers := { timers with grace := none } }
    (model, finish ops)
  else if timers.stuck = some id then
    let model := { model with timers := { timers with stuck := none } }
    if model.status = .reconnecting then ({ model with reconnectStuck := true }, [.render])
    else (model, [])
  else if timers.join.map (·.1) = some id then
    let watched := timers.join.map (·.2)
    let model := { model with timers := { timers with join := none } }
    if model.transportPhase ≠ .up ∧ model.liveRef = watched then
      let (model, ops) := dropLiveTransport true false { model with error := some .joinTimeout }
      (model, finish ops)
    else (model, [])
  else if timers.deadline = some id then
    let model := { model with timers := { timers with deadline := none } }
    if model.transportPhase = .up then (model, [])
    else ({ model with error := some .reconnectDeadline }, [.render])
  else if timers.backoff = some id then onBackoffFired model
  else if timers.dropDead.map (·.1) = some id then
    let watched := timers.dropDead.map (·.2)
    let model := { model with timers := { timers with dropDead := none } }
    if model.liveRef = watched ∧ model.transportPhase ≠ .up then
      let (model, ops) := dropLiveTransport true true model
      (model, finish ops)
    else (model, [])
  else (model, [])

def onAppForegrounded (backgroundedMs : Float) (model : Model) : Model × List DsessEffect :=
  match model.liveRef, model.liveKind with
  | some sessionRef, some .walletPair =>
    match model.transportPhase with
    | .joining => (model, [])
    | .down =>
      let backoff := cancelOps model model.timers.backoff
      let (model, grace) := armGrace { model with timers := { model.timers with backoff := none } }
      (model, finish
        (backoff ++ grace ++ [req model (.reconnectTransport sessionRef .foreground)]))
    | .up =>
      if backgroundedMs ≥ staleAfterMs then (model, [])
      else (model, finish [req model (.pingTransport sessionRef)])
  | _, _ => (model, [])

def onNetworkOnline (nowMs : Float) (model : Model) : Model × List DsessEffect :=
  match model.liveRef, model.liveKind with
  | some sessionRef, some .walletPair =>
    if model.transportPhase = .joining then (model, [])
    else if nowMs - model.lastRecoverAt < recoverThrottleMs then (model, [])
    else
      let model := { model with lastRecoverAt := nowMs }
      if model.transportPhase = .down then
        let (model, grace) := armGrace model
        let (model, deadline) := armDeadline model
        let backoff := cancelOps model model.timers.backoff
        let model := { model with timers := { model.timers with backoff := none } }
        (model, finish (grace ++ deadline ++ backoff ++
          [req model (.reconnectTransport sessionRef .online)]))
      else (model, finish [req model (.pingTransport sessionRef)])
  | _, _ => (model, [])

def onWalletChanged (chainId : Nat) (model : Model) : Model × List DsessEffect :=
  let model := { model with chainId }
  if model.status = .connected ∧ model.transportPhase = .up then
    (model, finish (pushWalletInfo model))
  else (model, finish [])

def onPrepared (fingerprint : String) (dapp : DsessDappInfo) (model : Model) :
    Model × List DsessEffect :=
  match model.awaitingPrepare with
  | none => (model, [])
  | some sessionRef =>
    ({ model with
        awaitingPrepare := none, pendingWpRef := some sessionRef
        pendingFingerprint := some fingerprint, dappInfo := some dapp }, [.render])

def onPrepareFailed (message : String) (model : Model) : Model × List DsessEffect :=
  match model.awaitingPrepare with
  | none => (model, [])
  | some _ =>
    let (model, ops) := setStatus .error { model with awaitingPrepare := none }
    ({ model with error := some (.transport message) }, finish ops)

/-- A remote-inject connect's answers. -/
def onConnectFinished (model : Model) : Model × List DsessEffect :=
  match model.liveRef, model.liveKind with
  | some sessionRef, some .remoteInject =>
    let model :=
      if model.riRestore then
        { model with
          session := model.restoringSession <|> model.session, restoringSession := none
          riRestore := false }
      else model
    match model.session with
    | none => (model, [])
    | some session =>
      (model, finish [req model (.fetchDappInfo sessionRef),
        req model (.saveRemoteInjectSession session)])
  | _, _ => (model, [])

def onConnectFailed (message : String) (model : Model) : Model × List DsessEffect :=
  match model.liveRef, model.liveKind with
  | some sessionRef, some .remoteInject =>
    if model.riRestore then
      ({ model with
          riRestore := false, restoringSession := none, liveRef := none, liveKind := none
          transportPhase := .joining },
        finish [req model (.disconnectTransport sessionRef), req model .clearRemoteInjectSession])
    else
      let (model, ops) := setStatus .error
        { model with liveRef := none, liveKind := none, transportPhase := .joining }
      ({ model with error := some (.transport message) }, finish ops)
  | _, _ => (model, [])

def onJoinFinished (connected : Bool) (model : Model) : Model × List DsessEffect :=
  match model.liveRef, model.liveKind with
  | some sessionRef, some .walletPair =>
    if connected then (model, [])
    else
      let (model, ops) := startTimer .join joinTimeoutMs
        (fun id timers => { timers with join := some (id, sessionRef) }) model
      (model, finish ops)
  | _, _ => (model, [])

def onJoinFailed (message : String) (model : Model) : Model × List DsessEffect :=
  match model.liveRef, model.liveKind with
  | some _, some .walletPair =>
    let (model, ops) := dropLiveTransport true false
      { model with error := some (.transport message) }
    (model, finish ops)
  | _, _ => (model, [])

def onReconnectFinished (cause : ReconnectCause) (ok : Bool) (model : Model) :
    Model × List DsessEffect :=
  match model.liveRef, model.liveKind with
  | some sessionRef, some .walletPair =>
    match ok, cause with
    | true, .restore =>
      let (model, ops) := startTimer .dropIfDead dropIfDeadMs
        (fun id timers => { timers with dropDead := some (id, sessionRef) }) model
      (model, finish ops)
    | true, _ => (model, [])
    | false, .backoff =>
      let (model, ops) := scheduleBackoff model
      (model, finish ops)
    | false, .restore =>
      if model.transportPhase = .up then (model, [])
      else
        let (model, ops) := dropLiveTransport true true model
        (model, finish ops)
    | false, _ => (model, [])
  | _, _ => (model, [])

def onRestoreFinished (restored : Bool) (model : Model) : Model × List DsessEffect :=
  match model.awaitingRestore with
  | none => (model, [])
  | some sessionRef =>
    if restored then
      let (model, grace) := armGrace { model with
        awaitingRestore := none, liveRef := some sessionRef, liveKind := some .walletPair
        transportPhase := .down, dappInfo := model.pendingWpRestore, pendingWpRestore := none }
      (model, finish (grace ++ [req model (.reconnectTransport sessionRef .restore)]))
    else
      ({ model with awaitingRestore := none, pendingWpRestore := none },
        finish [req model .clearWalletPairSnapshot])

def onDappInfoFetched (info : Option DsessDappInfo) (model : Model) :
    Model × List DsessEffect :=
  if model.liveKind ≠ some .remoteInject ∨ model.liveRef.isNone then (model, [])
  else ({ model with dappInfo := info }, [.render])

def onCountersPersisted (ok : Bool) (model : Model) : Model × List DsessEffect :=
  match model.liveRef, model.liveKind with
  | some sessionRef, some .walletPair =>
    if ok then
      if model.transportPhase ≠ .up then (model, [])
      else (model, finish [req model (.pushWalletInfo sessionRef model.chainId)])
    else
      let (model, ops) := dropLiveTransport true true model
      (model, finish ops)
  | _, _ => (model, [])

def accept (result : DsessShellResult) (model : Model) : Model × List DsessEffect :=
  match result with
  | .ack => (model, [])
  | .walletPairPrepared fingerprint dapp => onPrepared fingerprint dapp model
  | .walletPairPrepareFailed message => onPrepareFailed message model
  | .remoteInjectConnectFinished => onConnectFinished model
  | .remoteInjectConnectFailed message => onConnectFailed message model
  | .joinFinished connected => onJoinFinished connected model
  | .joinFailed message => onJoinFailed message model
  | .reconnectFinished cause ok => onReconnectFinished cause ok model
  | .walletPairRestoreFinished restored => onRestoreFinished restored model
  | .dappInfoFetched info => onDappInfoFetched info model
  | .countersPersisted ok => onCountersPersisted ok model

/-- `update`: an answer of a superseded attempt is dropped. -/
def update (event : Event) (model : Model) : Model × List DsessEffect :=
  match event with
  | .inputSubmitted raw => onInput raw model
  | .fingerprintConfirmed => onConfirmFingerprint model
  | .fingerprintCancelled => onCancelFingerprint model
  | .disconnectRequested => onDisconnectRequested model
  | .manualReconnect => onManualReconnect model
  | .restoreLoaded remoteInject walletPair => onRestoreLoaded remoteInject walletPair model
  | .transportConnected sessionRef => onTransportConnected sessionRef model
  | .transportDisconnected sessionRef => onTransportDisconnected sessionRef model
  | .transportReconnecting sessionRef => onTransportReconnecting sessionRef model
  | .transportError sessionRef message => onTransportError sessionRef message model
  | .timerFired id => onTimerFired id model
  | .appForegrounded backgroundedMs => onAppForegrounded backgroundedMs model
  | .networkOnline nowMs => onNetworkOnline nowMs model
  | .walletChanged chainId => onWalletChanged chainId model
  | .shellCompleted attempt result =>
    if attempt ≠ model.attempt then (model, []) else accept result model

end VelaWallet.DappSession
