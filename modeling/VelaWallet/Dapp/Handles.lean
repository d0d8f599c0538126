import VelaWallet.Dapp.SessionMachine

/-!
# Session handles

The handles that the dApp session machine holds, and what each event does to them.
-/

namespace VelaWallet.DappSession

structure Held where
  live : Option Nat
  kind : Option ConnectionType
  pending : Option Nat
  fingerprint : Option String
  prepare : Option Nat
  restore : Option Nat
  riRestore : Bool
  nextRef : Nat
  attempt : Nat

def Model.held (model : Model) : Held where
  live := model.liveRef
  kind := model.liveKind
  pending := model.pendingWpRef
  fingerprint := model.pendingFingerprint
  prepare := model.awaitingPrepare
  restore := model.awaitingRestore
  riRestore := model.riRestore
  nextRef := model.nextRef
  attempt := model.attempt

/-- The slots but the restore's, given up for a new attempt. -/
def Held.cleared (held : Held) : Held :=
  { held with
    live := none, kind := none, pending := none, fingerprint := none, prepare := none
    riRestore := false, attempt := held.attempt + 1 }

/-- An operation that opens, joins, restores, seals with, speaks for or releases a session. -/
def DsessOperation.isGrip : DsessOperation → Bool
  | prepareWalletPair .. | connectRemoteInject .. | confirmWalletPairJoin _
  | disconnectTransport _ | pushWalletInfo .. | persistWalletPairCounters _
  | restoreWalletPair _ | reconnectTransport _ .restore => true
  | _ => false

def requests (effects : List DsessEffect) : List Request :=
  effects.filterMap fun
    | .shell request => some request
    | .render => none

def grips (effects : List DsessEffect) : List Request :=
  (requests effects).filter (·.2.isGrip)

/-- A session handle released under an attempt. -/
def released (attempt : Nat) (sessionRef : Option Nat) : List Request :=
  sessionRef.toList.map fun sessionRef => (attempt, .disconnectTransport sessionRef)

/-- The releases of all but the restore's slot. -/
def Held.releases (held : Held) : List Request :=
  released (held.attempt + 1) held.prepare ++ released (held.attempt + 1) held.pending ++
    released (held.attempt + 1) held.live

@[simp] theorem grips_nil : grips [] = [] := rfl

@[simp] theorem grips_append (effects more : List DsessEffect) :
    grips (effects ++ more) = grips effects ++ grips more := by
  simp [grips, requests]

@[simp] theorem grips_render : grips [.render] = [] := rfl

@[simp] theorem grips_req {model : Model} {operation : DsessOperation} {more : List DsessEffect} :
    grips (req model operation :: more) =
      if operation.isGrip then (model.attempt, operation) :: grips more else grips more := by
  cases gripping : operation.isGrip <;> simp [grips, requests, req, gripping]

@[simp] theorem grips_finish (ops : List DsessEffect) : grips (finish ops) = grips ops := by
  simp [finish]

variable (model : Model)

@[simp] theorem grips_cancelOps (timer : Option Nat) : grips (cancelOps model timer) = [] := by
  cases timer <;> rfl

@[simp] theorem grips_releaseOps (held : Option Nat) :
    grips (releaseOps model held) = released model.attempt held := by
  cases held <;> rfl

@[simp] theorem startTimer_held (kind : TimerKind) (ms : Nat) (put : Nat → Timers → Timers)
    (model : Model) : (startTimer kind ms put model).1.held = model.held := rfl

@[simp] theorem startTimer_grips (kind : TimerKind) (ms : Nat) (put : Nat → Timers → Timers)
    (model : Model) : grips (startTimer kind ms put model).2 = [] := rfl

@[simp] theorem armGrace_held : (armGrace model).1.held = model.held := by
  unfold armGrace
  split <;> simp

@[simp] theorem armGrace_grips : grips (armGrace model).2 = [] := by
  unfold armGrace
  split <;> simp

@[simp] theorem armGrace_attempt : (armGrace model).1.attempt = model.attempt :=
  congrArg Held.attempt (armGrace_held model)

@[simp] theorem armDeadline_held : (armDeadline model).1.held = model.held := by
  unfold armDeadline
  split <;> simp

@[simp] theorem armDeadline_grips : grips (armDeadline model).2 = [] := by
  unfold armDeadline
  split <;> simp

@[simp] theorem armStuck_held : (armStuck model).1.held = model.held := rfl

@[simp] theorem armStuck_grips : grips (armStuck model).2 = [] := rfl

variable (status : DsessStatus)

@[simp] theorem setStatus_held : (setStatus status model).1.held = model.held := by
  unfold setStatus
  split
  · rfl
  · split <;> rfl

@[simp] theorem setStatus_grips : grips (setStatus status model).2 = [] := by
  unfold setStatus
  split
  · rfl
  · split <;> simp

@[simp] theorem scheduleBackoff_held : (scheduleBackoff model).1.held = model.held := by
  unfold scheduleBackoff
  split <;> rfl

@[simp] theorem scheduleBackoff_grips : grips (scheduleBackoff model).2 = [] := by
  unfold scheduleBackoff
  split <;> simp

theorem disconnectCurrent_grips : grips (disconnectCurrent model).2 =
      released model.attempt model.awaitingPrepare ++ released model.attempt model.pendingWpRef ++
        released model.attempt model.liveRef := by
  simp [disconnectCurrent]

theorem dropLiveTransport_held (disconnect wipe : Bool) (model : Model) :
    (dropLiveTransport disconnect wipe model).1.held =
      { model.held with live := none, kind := none } := rfl

theorem dropLiveTransport_grips (disconnect wipe : Bool) (model : Model) :
    grips (dropLiveTransport disconnect wipe model).2 =
      if disconnect then released model.attempt model.liveRef else [] := by
  cases disconnect <;> cases wipe <;> simp [dropLiveTransport, DsessOperation.isGrip]

/-- What an event does to the handles, and the requests it grips them with. -/
inductive Grip (event : Event) (held : Held) : Held → List Request → Prop where
  | still : Grip event held held []
  | push {sessionRef chainId : Nat} (live : held.live = some sessionRef)
      (kind : held.kind = some .remoteInject) :
      Grip event held held [(held.attempt, .pushWalletInfo sessionRef chainId)]
  | persist {sessionRef : Nat} (live : held.live = some sessionRef)
      (kind : held.kind = some .walletPair) :
      Grip event held held [(held.attempt, .persistWalletPairCounters sessionRef)]
  | persisted {sessionRef chainId : Nat} (live : held.live = some sessionRef)
      (answer : event = .shellCompleted held.attempt (.countersPersisted true)) :
      Grip event held held [(held.attempt, .pushWalletInfo sessionRef chainId)]
  | pair {raw uri : String} (input : event = .inputSubmitted raw)
      (read : classifyConnectInput raw = .walletPair uri) :
      Grip event held
        { held.cleared with prepare := some held.nextRef, nextRef := held.nextRef + 1 }
        (held.releases ++ [(held.attempt + 1, .prepareWalletPair held.nextRef uri)])
  | inject {raw : String} {session : RemoteInjectSession} (input : event = .inputSubmitted raw)
      (read : classifyConnectInput raw = .remoteInject session) :
      Grip event held
        { held.cleared with
          live := some held.nextRef, kind := some .remoteInject, nextRef := held.nextRef + 1 }
        (held.releases ++ [(held.attempt + 1, .connectRemoteInject held.nextRef session)])
  | confirm {sessionRef : Nat} (pending : held.pending = some sessionRef)
      (confirmed : event = .fingerprintConfirmed) :
      Grip event held
        { held with
          pending := none, fingerprint := none, live := some sessionRef, kind := some .walletPair }
        [(held.attempt, .confirmWalletPairJoin sessionRef)]
  | cancel : Grip event held { held with pending := none, fingerprint := none }
      (released held.attempt held.pending)
  | hangUp : Grip event held held.cleared held.releases
  | restoreInject {session : RemoteInjectSession} (free : held.live = none)
      (unpaired : held.pending = none) (unprepared : held.prepare = none)
      (unrestored : held.restore = none) :
      Grip event held
        { held with
          live := some held.nextRef, kind := some .remoteInject, riRestore := true
          nextRef := held.nextRef + 1, attempt := held.attempt + 1 }
        [(held.attempt + 1, .connectRemoteInject held.nextRef session)]
  | restorePair (free : held.live = none) (unpaired : held.pending = none)
      (unprepared : held.prepare = none) (unrestored : held.restore = none) :
      Grip event held
        { held with
          restore := some held.nextRef, nextRef := held.nextRef + 1, attempt := held.attempt + 1 }
        [(held.attempt + 1, .restoreWalletPair held.nextRef)]
  | drop : Grip event held { held with live := none, kind := none }
      (released held.attempt held.live)
  | lost {sessionRef : Nat} (live : held.live = some sessionRef)
      (reported : event = .transportDisconnected sessionRef) :
      Grip event held { held with live := none, kind := none } []
  | prepared {sessionRef : Nat} {fingerprint : String} {dapp : DsessDappInfo}
      (prepare : held.prepare = some sessionRef)
      (answer : event = .shellCompleted held.attempt (.walletPairPrepared fingerprint dapp)) :
      Grip event held
        { held with
          prepare := none, pending := some sessionRef, fingerprint := some fingerprint } []
  | unprepared {sessionRef : Nat} {message : String} (prepare : held.prepare = some sessionRef)
      (answer : event = .shellCompleted held.attempt (.walletPairPrepareFailed message)) :
      Grip event held { held with prepare := none } []
  | connected (answer : event = .shellCompleted held.attempt .remoteInjectConnectFinished) :
      Grip event held { held with riRestore := false } []
  | unrestored {sessionRef : Nat} {message : String} (live : held.live = some sessionRef)
      (answer : event = .shellCompleted held.attempt (.remoteInjectConnectFailed message)) :
      Grip event held { held with live := none, kind := none, riRestore := false }
        [(held.attempt, .disconnectTransport sessionRef)]
  | unconnected {sessionRef : Nat} {message : String} (live : held.live = some sessionRef)
      (fresh : held.riRestore = false)
      (answer : event = .shellCompleted held.attempt (.remoteInjectConnectFailed message)) :
      Grip event held { held with live := none, kind := none } []
  | invalid {sessionRef : Nat} (restore : held.restore = some sessionRef)
      (answer : event = .shellCompleted held.attempt (.walletPairRestoreFinished false)) :
      Grip event held { held with restore := none } []
  | restored {sessionRef : Nat} (restore : held.restore = some sessionRef)
      (answer : event = .shellCompleted held.attempt (.walletPairRestoreFinished true)) :
      Grip event held
        { held with restore := none, live := some sessionRef, kind := some .walletPair }
        [(held.attempt, .reconnectTransport sessionRef .restore)]

/-- What a handler does to the handles of a model. -/
def Gripping (event : Event) (model : Model) (turn : Model × List DsessEffect) : Prop :=
  Grip event model.held turn.1.held (grips turn.2)

/-! ## Every event -/

@[simp] theorem setStatus_liveRef : (setStatus status model).1.liveRef = model.liveRef :=
  congrArg Held.live (setStatus_held model status)

@[simp] theorem setStatus_liveKind : (setStatus status model).1.liveKind = model.liveKind :=
  congrArg Held.kind (setStatus_held model status)

@[simp] theorem setStatus_pendingWpRef :
    (setStatus status model).1.pendingWpRef = model.pendingWpRef :=
  congrArg Held.pending (setStatus_held model status)

@[simp] theorem setStatus_pendingFingerprint :
    (setStatus status model).1.pendingFingerprint = model.pendingFingerprint :=
  congrArg Held.fingerprint (setStatus_held model status)

@[simp] theorem setStatus_awaitingPrepare :
    (setStatus status model).1.awaitingPrepare = model.awaitingPrepare :=
  congrArg Held.prepare (setStatus_held model status)

@[simp] theorem setStatus_awaitingRestore :
    (setStatus status model).1.awaitingRestore = model.awaitingRestore :=
  congrArg Held.restore (setStatus_held model status)

@[simp] theorem setStatus_riRestore : (setStatus status model).1.riRestore = model.riRestore :=
  congrArg Held.riRestore (setStatus_held model status)

@[simp] theorem setStatus_nextRef : (setStatus status model).1.nextRef = model.nextRef :=
  congrArg Held.nextRef (setStatus_held model status)

@[simp] theorem setStatus_attempt : (setStatus status model).1.attempt = model.attempt :=
  congrArg Held.attempt (setStatus_held model status)

section Handlers

variable {event : Event} {model : Model}

theorem Gripping.of_eq {turn : Model × List DsessEffect} {held : Held} {asked : List Request}
    (grip : Grip event model.held held asked) (held_eq : turn.1.held = held)
    (grips_eq : grips turn.2 = asked) : Gripping event model turn := by
  rw [Gripping, held_eq, grips_eq]
  exact grip

theorem Gripping.of_still {turn : Model × List DsessEffect} (held : turn.1.held = model.held)
    (none_asked : grips turn.2 = []) : Gripping event model turn :=
  .of_eq .still held none_asked

theorem gripping_nothing : Gripping event model (model, []) := .of_still rfl rfl

theorem gripping_drop {dropped : Model} (held : dropped.held = model.held) (wipe : Bool) :
    Gripping event model
      ((dropLiveTransport true wipe dropped).1,
        finish (dropLiveTransport true wipe dropped).2) := by
  refine .of_eq .drop ?_ ?_
  · rw [dropLiveTransport_held, held]
  · simp only [grips_finish, dropLiveTransport_grips, if_true]
    rw [← held]
    rfl

theorem onInput_grips (raw : String) :
    Gripping (.inputSubmitted raw) model (onInput raw model) := by
  unfold onInput
  split
  case _ read =>
    apply Gripping.of_eq (.pair rfl read)
    · simp [Model.held, Held.cleared, disconnectCurrent]
    · simp [disconnectCurrent_grips, DsessOperation.isGrip, Held.releases, Model.held]
      simp [disconnectCurrent]
  case _ read =>
    apply Gripping.of_eq (.inject rfl read)
    · simp [Model.held, Held.cleared, disconnectCurrent]
    · simp [disconnectCurrent_grips, DsessOperation.isGrip, Held.releases, Model.held]
      simp [disconnectCurrent]
  case _ => exact .of_still rfl (by simp [DsessOperation.isGrip])
  case _ => exact .of_still rfl (by simp [DsessOperation.isGrip])

theorem onConfirmFingerprint_grips :
    Gripping .fingerprintConfirmed model (onConfirmFingerprint model) := by
  unfold onConfirmFingerprint
  split
  case _ => exact gripping_nothing
  case _ pending =>
    apply Gripping.of_eq (.confirm pending rfl)
    · rfl
    · simp [DsessOperation.isGrip, Model.held]

theorem onCancelFingerprint_grips :
    Gripping event model (onCancelFingerprint model) := by
  unfold onCancelFingerprint
  apply Gripping.of_eq .cancel
  · simp [Model.held]
  · simp [Model.held]

theorem onDisconnectRequested_grips :
    Gripping event model (onDisconnectRequested model) := by
  unfold onDisconnectRequested
  apply Gripping.of_eq .hangUp
  · simp [Model.held, Held.cleared, disconnectCurrent]
  · simp [disconnectCurrent_grips, DsessOperation.isGrip, Held.releases, Model.held]

theorem onManualReconnect_grips : Gripping event model (onManualReconnect model) := by
  unfold onManualReconnect
  split
  case _ => exact gripping_nothing
  case _ =>
    dsimp only
    split
    · apply Gripping.of_still
      · rfl
      · simp [DsessOperation.isGrip]
    · apply Gripping.of_still
      · simp only [setStatus_held]
        rfl
      · simp [DsessOperation.isGrip]

theorem onRestoreLoaded_grips (remoteInject : Option RemoteInjectSession)
    (walletPair : Option DsessDappInfo) :
    Gripping event model (onRestoreLoaded remoteInject walletPair model) := by
  unfold onRestoreLoaded
  split
  case isTrue => exact gripping_nothing
  case isFalse idle =>
    simp only [not_or, Option.isSome_iff_ne_none, not_not] at idle
    obtain ⟨_, free, unpaired, unprepared, unrestored, _⟩ := idle
    split
    case _ =>
      apply Gripping.of_eq (.restoreInject free unpaired unprepared unrestored)
      · rfl
      · simp [DsessOperation.isGrip, Model.held]
        rfl
    case _ =>
      apply Gripping.of_eq (.restorePair free unpaired unprepared unrestored)
      · rfl
      · simp [DsessOperation.isGrip, Model.held]
    case _ => exact .of_still rfl rfl

theorem pushWalletInfo_grips {pushing : Model} (held : pushing.held = model.held) :
    Grip event model.held model.held (grips (pushWalletInfo pushing)) := by
  have live : pushing.liveRef = model.held.live := congrArg Held.live held
  have kind : pushing.liveKind = model.held.kind := congrArg Held.kind held
  have attempt : pushing.attempt = model.held.attempt := congrArg Held.attempt held
  unfold pushWalletInfo
  split
  case _ there pairing =>
    simp only [grips_req, DsessOperation.isGrip, if_true, grips_nil, attempt]
    exact .persist (live.symm.trans there) (kind.symm.trans pairing)
  case _ there injected =>
    simp only [grips_req, DsessOperation.isGrip, if_true, grips_nil, attempt]
    exact .push (live.symm.trans there) (kind.symm.trans injected)
  case _ => exact .still

theorem onTransportConnected_grips (sessionRef : Nat) :
    Gripping event model (onTransportConnected sessionRef model) := by
  unfold onTransportConnected
  split
  case isTrue => exact gripping_nothing
  case isFalse =>
    dsimp only
    rw [Gripping]
    simp only [grips_finish, grips_append, grips_cancelOps, setStatus_grips, List.nil_append]
    have held : ({ (setStatus .connected { model with
        transportPhase := .up, backoffAttempt := 0
        timers := { model.timers with
          grace := none, join := none, deadline := none, backoff := none } }).1 with
        connectionType := (setStatus .connected { model with
          transportPhase := .up, backoffAttempt := 0
          timers := { model.timers with
            grace := none, join := none, deadline := none, backoff := none } }).1.liveKind
        : Model }).held = model.held := by
      simp [Model.held]
    rw [held]
    exact pushWalletInfo_grips held

theorem onTransportDisconnected_grips (sessionRef : Nat) :
    Gripping (.transportDisconnected sessionRef) model
      (onTransportDisconnected sessionRef model) := by
  unfold onTransportDisconnected
  split
  case isTrue => exact gripping_nothing
  case isFalse live =>
    rw [not_not] at live
    apply Gripping.of_eq (.lost live rfl)
    · rfl
    · simp [dropLiveTransport_grips]

theorem onTransportReconnecting_grips (sessionRef : Nat) :
    Gripping event model (onTransportReconnecting sessionRef model) := by
  unfold onTransportReconnecting
  split
  case isTrue => exact gripping_nothing
  case isFalse =>
    apply Gripping.of_still
    · simp only [scheduleBackoff_held, armDeadline_held, armGrace_held]
      rfl
    · simp

theorem onTransportError_grips (sessionRef : Nat) (message : String) :
    Gripping event model (onTransportError sessionRef message model) := by
  unfold onTransportError
  split
  · exact gripping_nothing
  · exact .of_still rfl rfl

theorem onBackoffFired_grips : Gripping event model (onBackoffFired model) := by
  unfold onBackoffFired
  dsimp only
  split
  case _ =>
    split
    · exact .of_still rfl rfl
    · apply Gripping.of_still
      · simp only [armGrace_held]
        rfl
      · simp [DsessOperation.isGrip]
  case _ => exact .of_still rfl rfl

theorem onTimerFired_grips (id : Nat) : Gripping event model (onTimerFired id model) := by
  unfold onTimerFired
  dsimp only
  split
  case isTrue =>
    apply Gripping.of_still
    · simp only [setStatus_held]
      rfl
    · simp
  case isFalse =>
    split
    case isTrue =>
      split <;> exact .of_still rfl rfl
    case isFalse =>
      split
      case isTrue =>
        split
        · exact gripping_drop (by rfl) false
        · exact .of_still rfl rfl
      case isFalse =>
        split
        case isTrue =>
          split <;> exact .of_still rfl rfl
        case isFalse =>
          split
          case isTrue => exact onBackoffFired_grips
          case isFalse =>
            split
            case isTrue =>
              split
              · exact gripping_drop (by rfl) true
              · exact .of_still rfl rfl
            case isFalse => exact gripping_nothing

theorem onAppForegrounded_grips (backgroundedMs : Float) :
    Gripping event model (onAppForegrounded backgroundedMs model) := by
  unfold onAppForegrounded
  split
  case _ =>
    split
    case _ => exact gripping_nothing
    case _ =>
      apply Gripping.of_still
      · simp only [armGrace_held]
        rfl
      · simp [DsessOperation.isGrip]
    case _ =>
      split
      · exact gripping_nothing
      · exact .of_still rfl (by simp [DsessOperation.isGrip])
  case _ => exact gripping_nothing

theorem onNetworkOnline_grips (nowMs : Float) :
    Gripping event model (onNetworkOnline nowMs model) := by
  unfold onNetworkOnline
  split
  case _ =>
    split
    case isTrue => exact gripping_nothing
    case isFalse =>
      split
      case isTrue => exact gripping_nothing
      case isFalse =>
        dsimp only
        split
        · apply Gripping.of_still
          · exact (armDeadline_held _).trans (armGrace_held _)
          · simp [DsessOperation.isGrip]
        · exact .of_still rfl (by simp [DsessOperation.isGrip])
  case _ => exact gripping_nothing

theorem onWalletChanged_grips (chainId : Nat) :
    Gripping event model (onWalletChanged chainId model) := by
  unfold onWalletChanged
  dsimp only
  split
  · rw [Gripping, grips_finish]
    exact pushWalletInfo_grips rfl
  · exact .of_still rfl rfl

theorem onPrepared_grips {fingerprint : String} {dapp : DsessDappInfo}
    (answer : event = .shellCompleted model.attempt (.walletPairPrepared fingerprint dapp)) :
    Gripping event model (onPrepared fingerprint dapp model) := by
  unfold onPrepared
  split
  case _ => exact gripping_nothing
  case _ prepare => exact .of_eq (.prepared prepare answer) rfl rfl

theorem onPrepareFailed_grips {message : String}
    (answer : event = .shellCompleted model.attempt (.walletPairPrepareFailed message)) :
    Gripping event model (onPrepareFailed message model) := by
  unfold onPrepareFailed
  split
  case _ => exact gripping_nothing
  case _ prepare =>
    apply Gripping.of_eq (.unprepared prepare answer)
    · exact setStatus_held _ _
    · simp

theorem onConnectFinished_grips
    (answer : event = .shellCompleted model.attempt .remoteInjectConnectFinished) :
    Gripping event model (onConnectFinished model) := by
  unfold onConnectFinished
  split
  case _ =>
    cases restoring : model.riRestore with
    | true =>
      simp only [if_true]
      split
      · exact .of_eq (.connected answer) rfl rfl
      · exact .of_eq (.connected answer) rfl (by simp [DsessOperation.isGrip])
    | false =>
      simp only [Bool.false_eq_true, if_false]
      split
      · exact gripping_nothing
      · exact .of_still rfl (by simp [DsessOperation.isGrip])
  case _ => exact gripping_nothing

theorem onConnectFailed_grips {message : String}
    (answer : event = .shellCompleted model.attempt (.remoteInjectConnectFailed message)) :
    Gripping event model (onConnectFailed message model) := by
  unfold onConnectFailed
  split
  case _ live _ =>
    split
    case isTrue =>
      apply Gripping.of_eq (.unrestored live answer)
      · rfl
      · simp [DsessOperation.isGrip, Model.held]
    case isFalse fresh =>
      apply Gripping.of_eq (.unconnected live ((Bool.not_eq_true _).mp fresh) answer)
      · exact setStatus_held _ _
      · simp
  case _ => exact gripping_nothing

theorem onJoinFinished_grips (connected : Bool) :
    Gripping event model (onJoinFinished connected model) := by
  unfold onJoinFinished
  split
  case _ =>
    split
    · exact gripping_nothing
    · exact .of_still rfl (by simp)
  case _ => exact gripping_nothing

theorem onJoinFailed_grips (message : String) :
    Gripping event model (onJoinFailed message model) := by
  unfold onJoinFailed
  split
  · exact gripping_drop (by rfl) false
  · exact gripping_nothing

theorem onReconnectFinished_grips (cause : ReconnectCause) (ok : Bool) :
    Gripping event model (onReconnectFinished cause ok model) := by
  unfold onReconnectFinished
  split
  case _ =>
    split
    case _ => exact .of_still rfl (by simp)
    case _ => exact gripping_nothing
    case _ =>
      apply Gripping.of_still
      · exact scheduleBackoff_held _
      · simp
    case _ =>
      split
      · exact gripping_nothing
      · exact gripping_drop (by rfl) true
    case _ => exact gripping_nothing
  case _ => exact gripping_nothing

theorem onRestoreFinished_grips {restored : Bool}
    (answer : event = .shellCompleted model.attempt (.walletPairRestoreFinished restored)) :
    Gripping event model (onRestoreFinished restored model) := by
  unfold onRestoreFinished
  split
  case _ => exact gripping_nothing
  case _ restore =>
    split
    case isTrue valid =>
      subst valid
      apply Gripping.of_eq (.restored restore answer)
      · exact armGrace_held _
      · simp [DsessOperation.isGrip, Model.held]
    case isFalse invalid =>
      rw [Bool.not_eq_true] at invalid
      subst invalid
      exact .of_eq (.invalid restore answer) rfl (by simp [DsessOperation.isGrip])

theorem onDappInfoFetched_grips (info : Option DsessDappInfo) :
    Gripping event model (onDappInfoFetched info model) := by
  unfold onDappInfoFetched
  split
  · exact gripping_nothing
  · exact .of_still rfl rfl

theorem onCountersPersisted_grips {ok : Bool}
    (answer : event = .shellCompleted model.attempt (.countersPersisted ok)) :
    Gripping event model (onCountersPersisted ok model) := by
  unfold onCountersPersisted
  split
  case _ live _ =>
    split
    case isTrue persisted =>
      subst persisted
      split
      · exact gripping_nothing
      · apply Gripping.of_eq (.persisted live answer)
        · rfl
        · simp [DsessOperation.isGrip, Model.held]
          rfl
    case isFalse => exact gripping_drop (by rfl) true
  case _ => exact gripping_nothing

theorem accept_grips {result : DsessShellResult}
    (answer : event = .shellCompleted model.attempt result) :
    Gripping event model (accept result model) := by
  cases result with
  | ack => exact gripping_nothing
  | walletPairPrepared => exact onPrepared_grips answer
  | walletPairPrepareFailed => exact onPrepareFailed_grips answer
  | remoteInjectConnectFinished => exact onConnectFinished_grips answer
  | remoteInjectConnectFailed => exact onConnectFailed_grips answer
  | joinFinished connected => exact onJoinFinished_grips connected
  | joinFailed message => exact onJoinFailed_grips message
  | reconnectFinished cause ok => exact onReconnectFinished_grips cause ok
  | walletPairRestoreFinished => exact onRestoreFinished_grips answer
  | dappInfoFetched info => exact onDappInfoFetched_grips info
  | countersPersisted => exact onCountersPersisted_grips answer

theorem update_grips (event : Event) (model : Model) :
    Grip event model.held (update event model).1.held (grips (update event model).2) := by
  cases event with
  | inputSubmitted raw => exact onInput_grips raw
  | fingerprintConfirmed => exact onConfirmFingerprint_grips
  | fingerprintCancelled => exact onCancelFingerprint_grips
  | disconnectRequested => exact onDisconnectRequested_grips
  | manualReconnect => exact onManualReconnect_grips
  | restoreLoaded remoteInject walletPair => exact onRestoreLoaded_grips remoteInject walletPair
  | transportConnected sessionRef => exact onTransportConnected_grips sessionRef
  | transportDisconnected sessionRef => exact onTransportDisconnected_grips sessionRef
  | transportReconnecting sessionRef => exact onTransportReconnecting_grips sessionRef
  | transportError sessionRef message => exact onTransportError_grips sessionRef message
  | timerFired id => exact onTimerFired_grips id
  | appForegrounded backgroundedMs => exact onAppForegrounded_grips backgroundedMs
  | networkOnline nowMs => exact onNetworkOnline_grips nowMs
  | walletChanged chainId => exact onWalletChanged_grips chainId
  | shellCompleted _ result =>
    simp only [update]
    split
    case isTrue => exact .still
    case isFalse current =>
      rw [not_not] at current
      exact accept_grips (congrArg (Event.shellCompleted · result) current)

end Handlers

end VelaWallet.DappSession
