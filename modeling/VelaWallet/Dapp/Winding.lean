import VelaWallet.Dapp.Alarms

/-!
# Winding the timers

Every event leaves armed the timers that the shell's alarms are for, and none without a live
session.
-/

namespace VelaWallet.DappSession

variable {model' : Model} {status : DsessStatus}

structure Wound (model : Model) (alarms : List Alarm) : Prop where
  synced : Synced model.timers model.nextTimer alarms
  join : ∀ {id sessionRef}, model.timers.join = some (id, sessionRef) →
    model.liveRef = some sessionRef
  dropDead : ∀ {id sessionRef}, model.timers.dropDead = some (id, sessionRef) →
    model.liveRef = some sessionRef
  stuck : model.timers.stuck ≠ none → model.status = .reconnecting
  idle : model.liveRef = none → model.timers = {}

section Handlers

variable {session : Option Nat} {spell : Nat} {alarms : List Alarm} {model : Model}

theorem Wound.congr (wound : Wound model alarms)
    (timers : model'.timers = model.timers) (nextTimer : model'.nextTimer = model.nextTimer)
    (live : model'.liveRef = model.liveRef) (status : model'.status = model.status) :
    Wound model' alarms where
  synced := by
    rw [timers, nextTimer]
    exact wound.synced
  join := by
    rw [timers, live]
    exact wound.join
  dropDead := by
    rw [timers, live]
    exact wound.dropDead
  stuck := by
    rw [timers, status]
    exact wound.stuck
  idle := by
    rw [timers, live]
    exact wound.idle

theorem wound_nothing (timers : model'.timers = {}) (silent : alarms = []) :
    Wound model' alarms where
  synced := by
    rw [timers, silent]
    exact .init
  join := by simp [timers]
  dropDead := by simp [timers]
  stuck := by simp [timers]
  idle := fun _ => timers

section

variable (wound : Wound model alarms)
include wound

theorem Wound.disarm {alarms' : List Alarm} {kind : TimerKind}
    (synced : Synced (model.timers.without kind) model.nextTimer alarms')
    (timers : model'.timers = model.timers.without kind)
    (nextTimer : model'.nextTimer = model.nextTimer) (live : model'.liveRef = model.liveRef)
    (status : model'.status = model.status ∨ kind = .stuck) : Wound model' alarms' where
  synced := by
    rw [timers, nextTimer]
    exact synced
  join := by
    intro id sessionRef there
    rw [live]
    apply wound.join
    rw [timers] at there
    cases kind <;> first | exact there | contradiction
  dropDead := by
    intro id sessionRef there
    rw [live]
    apply wound.dropDead
    rw [timers] at there
    cases kind <;> first | exact there | contradiction
  stuck := by
    intro armed
    rw [timers] at armed
    rcases status with same | rfl
    · rw [same]
      apply wound.stuck
      cases kind <;> first | exact armed | exact absurd rfl armed
    · exact absurd rfl armed
  idle := by
    intro free
    rw [live] at free
    rw [timers, wound.idle free]
    cases kind <;> rfl

theorem Wound.cancel {armed : Option Nat} {asking : Model}
    (kind : TimerKind) (armed_eq : armed = model.timers.at kind)
    (timers : model'.timers = model.timers.without kind)
    (nextTimer : model'.nextTimer = model.nextTimer) (live : model'.liveRef = model.liveRef)
    (status : model'.status = model.status ∨ kind = .stuck) :
    Wound model' (rings session spell alarms (cancelOps asking armed)) :=
  wound.disarm (wound.synced.cancel armed_eq) timers nextTimer live status

theorem Wound.start {kind : TimerKind} {ms : Nat} {put : Nat → Timers → Timers}
    (places : Places kind put)
    (unarmed : model.timers.at kind = none) (live : model.liveRef ≠ none)
    (join : ∀ {id sessionRef}, (put model.nextTimer model.timers).join = some (id, sessionRef) →
      model.liveRef = some sessionRef)
    (dropDead : ∀ {id sessionRef},
      (put model.nextTimer model.timers).dropDead = some (id, sessionRef) →
        model.liveRef = some sessionRef)
    (stuck : (put model.nextTimer model.timers).stuck ≠ none → model.status = .reconnecting) :
    Wound (startTimer kind ms put model).1
      (rings session spell alarms (startTimer kind ms put model).2) where
  synced := wound.synced.start places unarmed
  join := join
  dropDead := dropDead
  stuck := stuck
  idle free := absurd free live

end

section

variable (wound : Wound model alarms)
include wound

section

variable (live : model.liveRef ≠ none)
include live

theorem armGrace_wound :
    Wound (armGrace model).1 (rings session spell alarms (armGrace model).2) := by
  unfold armGrace
  split
  case isTrue unarmed =>
    exact wound.start places_grace (Option.isNone_iff_eq_none.mp unarmed) live wound.join
      wound.dropDead wound.stuck
  case isFalse => exact wound

theorem armDeadline_wound :
    Wound (armDeadline model).1 (rings session spell alarms (armDeadline model).2) := by
  unfold armDeadline
  split
  case isTrue unarmed =>
    exact wound.start places_deadline (Option.isNone_iff_eq_none.mp unarmed) live wound.join
      wound.dropDead wound.stuck
  case isFalse => exact wound

theorem armStuck_wound
    (unarmed : model.timers.stuck = none) (status : model.status = .reconnecting) :
    Wound (armStuck model).1 (rings session spell alarms (armStuck model).2) :=
  wound.start places_stuck unarmed live wound.join wound.dropDead fun _ => status

theorem scheduleBackoff_wound :
    Wound (scheduleBackoff model).1 (rings session spell alarms (scheduleBackoff model).2) := by
  unfold scheduleBackoff
  split
  case isTrue => exact wound
  case isFalse idle =>
    have unarmed : model.timers.backoff = none := by
      by_contra armed
      exact idle (.inl (Option.isSome_iff_ne_none.mpr armed))
    have counted : Wound { model with backoffAttempt := model.backoffAttempt + 1 } alarms :=
      wound.congr rfl rfl rfl rfl
    exact counted.start places_backoff unarmed live counted.join counted.dropDead counted.stuck

end

theorem setStatus_wound
    (live : status = .reconnecting → model.liveRef ≠ none) :
    Wound (setStatus status model).1 (rings session spell alarms (setStatus status model).2) := by
  unfold setStatus
  split
  case isTrue => exact wound
  case isFalse =>
    have cancelled : Wound { model with
        status, reconnectStuck := false, timers := { model.timers with stuck := none } }
        (rings session spell alarms (cancelOps model model.timers.stuck)) :=
      wound.cancel .stuck rfl rfl rfl rfl (.inr rfl)
    dsimp only
    split
    case isTrue reconnecting =>
      rw [rings_append]
      exact armStuck_wound cancelled (live reconnecting) rfl reconnecting
    case isFalse => exact cancelled

end

theorem Synced.empty {timers : Timers} {nextTimer : Nat} (synced : Synced timers nextTimer alarms)
    (unarmed : ∀ kind, timers.at kind = none) : alarms = [] := by
  apply List.eq_nil_iff_forall_not_mem.mpr
  intro alarm member
  exact absurd ((unarmed alarm.kind).symm.trans (synced.kept alarm member)) nofun

theorem rings_cancelled {asking : Model} {timers : Timers} {nextTimer : Nat}
    (synced : Synced timers nextTimer alarms) :
    rings session spell (rings session spell (rings session spell (rings session spell
      (rings session spell (rings session spell alarms (cancelOps asking timers.grace))
        (cancelOps asking timers.stuck)) (cancelOps asking (timers.join.map (·.1))))
        (cancelOps asking timers.deadline)) (cancelOps asking timers.backoff))
        (cancelOps asking (timers.dropDead.map (·.1))) = [] := by
  have grace : Synced (timers.without .grace) nextTimer
      (rings session spell alarms (cancelOps asking timers.grace)) := synced.cancel rfl
  have stuck : Synced ((timers.without .grace).without .stuck) nextTimer
      (rings session spell _ (cancelOps asking timers.stuck)) := grace.cancel rfl
  have join : Synced (((timers.without .grace).without .stuck).without .join) nextTimer
      (rings session spell _ (cancelOps asking (timers.join.map (·.1)))) := stuck.cancel rfl
  have deadline : Synced ((((timers.without .grace).without .stuck).without .join).without
      .deadline) nextTimer (rings session spell _ (cancelOps asking timers.deadline)) :=
    join.cancel rfl
  have backoff : Synced (((((timers.without .grace).without .stuck).without .join).without
      .deadline).without .backoff) nextTimer
      (rings session spell _ (cancelOps asking timers.backoff)) := deadline.cancel rfl
  have dropDead : Synced ((((((timers.without .grace).without .stuck).without .join).without
      .deadline).without .backoff).without .dropIfDead) nextTimer
      (rings session spell _ (cancelOps asking (timers.dropDead.map (·.1)))) :=
    backoff.cancel rfl
  apply dropDead.empty
  intro kind
  cases kind <;> rfl

section

variable (wound : Wound model alarms)
include wound

theorem disconnectCurrent_rings :
    rings session spell alarms (disconnectCurrent model).2 = [] := by
  simp only [disconnectCurrent, rings_append, rings_releaseOps]
  exact rings_cancelled wound.synced

theorem dropLiveTransport_rings (disconnect wipe : Bool) :
    rings session spell alarms (dropLiveTransport disconnect wipe model).2 = [] := by
  have cancelled := @rings_cancelled session spell alarms model _ _ wound.synced
  cases disconnect <;> cases wipe <;>
    simp [dropLiveTransport, cancelled, ring]

theorem dropLiveTransport_wound (disconnect wipe : Bool) :
    Wound (dropLiveTransport disconnect wipe model).1
      (rings session spell alarms (finish (dropLiveTransport disconnect wipe model).2)) := by
  rw [rings_finish]
  exact wound_nothing rfl (dropLiveTransport_rings wound disconnect wipe)

end

/-! ## Every event -/

def Winds (session : Option Nat) (spell : Nat) (alarms : List Alarm)
    (turn : Model × List DsessEffect) : Prop :=
  Wound turn.1 (rings session spell alarms turn.2)

theorem winds_nothing (wound : Wound model alarms) : Winds session spell alarms (model, []) :=
  wound

theorem winds_of_congr {turn : Model × List DsessEffect} (wound : Wound model alarms)
    (silent : rings session spell alarms turn.2 = alarms)
    (timers : turn.1.timers = model.timers) (nextTimer : turn.1.nextTimer = model.nextTimer)
    (live : turn.1.liveRef = model.liveRef) (status : turn.1.status = model.status) :
    Winds session spell alarms turn := by
  rw [Winds, silent]
  exact wound.congr timers nextTimer live status

theorem setStatus_bare (bare : model.timers = {})
    (other : status ≠ .reconnecting) :
    (setStatus status model).1.timers = {} ∧
      rings session spell alarms (setStatus status model).2 = alarms := by
  unfold setStatus
  split
  case isTrue => exact ⟨bare, rfl⟩
  case isFalse =>
    simp [bare, cancelOps]

section

variable (wound : Wound model alarms)
include wound

theorem onInput_winds (raw : String) :
    Winds session spell alarms (onInput raw model) := by
  have renewed : Wound { model with attempt := model.attempt + 1 } alarms :=
    wound.congr rfl rfl rfl rfl
  have bare := @setStatus_bare .connecting session spell []
    (disconnectCurrent { model with attempt := model.attempt + 1 }).1 rfl nofun
  unfold onInput
  split
  case _ =>
    refine wound_nothing bare.1 ?_
    simp [disconnectCurrent_rings renewed, bare.2, ring]
  case _ =>
    refine wound_nothing bare.1 ?_
    simp [disconnectCurrent_rings renewed, bare.2, ring]
  case _ => exact winds_of_congr wound rfl rfl rfl rfl rfl
  case _ => exact winds_of_congr wound rfl rfl rfl rfl rfl

theorem onConfirmFingerprint_winds (free : model.pendingWpRef ≠ none → model.liveRef = none) :
    Winds session spell alarms (onConfirmFingerprint model) := by
  unfold onConfirmFingerprint
  split
  case _ => exact winds_nothing wound
  case _ pending =>
    have idle : model.timers = {} := wound.idle (free (by simp [pending]))
    have synced := wound.synced
    rw [idle] at synced
    have silent : alarms = [] := synced.empty (by simp)
    exact wound_nothing idle silent

theorem onCancelFingerprint_winds :
    Winds session spell alarms (onCancelFingerprint model) := by
  have forgotten : Wound { model with pendingWpRef := none, pendingFingerprint := none } alarms :=
    wound.congr rfl rfl rfl rfl
  have set := @setStatus_wound .disconnected session spell alarms _ forgotten nofun
  rw [Winds]
  simp only [onCancelFingerprint, rings_finish, rings_append, rings_releaseOps]
  exact set.congr rfl rfl rfl rfl

theorem onDisconnectRequested_winds :
    Winds session spell alarms (onDisconnectRequested model) := by
  have renewed : Wound { model with attempt := model.attempt + 1 } alarms :=
    wound.congr rfl rfl rfl rfl
  have bare := @setStatus_bare .disconnected session spell []
    (disconnectCurrent { model with attempt := model.attempt + 1 }).1 rfl nofun
  refine wound_nothing bare.1 ?_
  simp [onDisconnectRequested, disconnectCurrent_rings renewed, bare.2, ring]

theorem onManualReconnect_winds :
    Winds session spell alarms (onManualReconnect model) := by
  unfold onManualReconnect
  split
  case _ => exact winds_nothing wound
  case _ live =>
    have there : model.liveRef ≠ none := by simp [live]
    have graceless : Wound { model with timers := { model.timers with grace := none } }
        (rings session spell alarms (cancelOps model model.timers.grace)) :=
      wound.cancel .grace rfl rfl rfl rfl (.inl rfl)
    dsimp only
    split
    case isTrue reconnecting =>
      have calm : Wound { model with
          timers := { model.timers with grace := none, stuck := none }, reconnectStuck := false }
          (rings session spell
            (rings session spell alarms (cancelOps model model.timers.grace))
            (cancelOps { model with timers := { model.timers with grace := none } }
              model.timers.stuck)) :=
        graceless.cancel .stuck rfl rfl rfl rfl (.inr rfl)
      have stuck := @armStuck_wound session spell _ _ calm there rfl
        reconnecting
      simp only [Winds, rings_finish, rings_append, rings_req, ring, rings_nil]
      exact stuck
    case isFalse =>
      have set := @setStatus_wound .reconnecting session spell _ _ graceless fun _ => there
      simp only [Winds, rings_finish, rings_append, rings_req, ring, rings_nil]
      exact set

theorem onRestoreLoaded_winds
    (remoteInject : Option RemoteInjectSession) (walletPair : Option DsessDappInfo) :
    Winds session spell alarms (onRestoreLoaded remoteInject walletPair model) := by
  unfold onRestoreLoaded
  split
  case isTrue => exact winds_nothing wound
  case isFalse free =>
    simp only [not_or, Option.isSome_iff_ne_none, not_not] at free
    have idle : model.timers = {} := wound.idle free.2.1
    have synced := wound.synced
    rw [idle] at synced
    have silent : alarms = [] := synced.empty (by simp)
    split
    case _ => exact wound_nothing idle silent
    case _ => exact winds_of_congr wound rfl rfl rfl rfl rfl
    case _ => exact winds_of_congr wound rfl rfl rfl rfl rfl

theorem onTransportConnected_winds (sessionRef : Nat) :
    Winds session spell alarms (onTransportConnected sessionRef model) := by
  unfold onTransportConnected
  split
  case isTrue => exact winds_nothing wound
  case isFalse =>
    have grace : Wound { model with timers := model.timers.without .grace }
        (rings session spell alarms (cancelOps model model.timers.grace)) :=
      wound.cancel .grace rfl rfl rfl rfl (.inl rfl)
    have join : Wound { model with timers := (model.timers.without .grace).without .join }
        (rings session spell _ (cancelOps model (model.timers.join.map (·.1)))) :=
      grace.cancel .join rfl rfl rfl rfl (.inl rfl)
    have deadline : Wound { model with
        timers := ((model.timers.without .grace).without .join).without .deadline }
        (rings session spell _ (cancelOps model model.timers.deadline)) :=
      join.cancel .deadline rfl rfl rfl rfl (.inl rfl)
    have backoff : Wound { model with
        transportPhase := .up, backoffAttempt := 0
        timers := { model.timers with
          grace := none, join := none, deadline := none, backoff := none } }
        (rings session spell _ (cancelOps model model.timers.backoff)) :=
      deadline.cancel .backoff rfl rfl rfl rfl (.inl rfl)
    have set := @setStatus_wound .connected session spell _ _ backoff nofun
    simp only [Winds, rings_finish, rings_append, rings_pushWalletInfo]
    exact set.congr rfl rfl rfl rfl

theorem onTransportDisconnected_winds (sessionRef : Nat) :
    Winds session spell alarms (onTransportDisconnected sessionRef model) := by
  unfold onTransportDisconnected
  split
  case isTrue => exact winds_nothing wound
  case isFalse => exact dropLiveTransport_wound wound false false

end

@[simp] theorem armGrace_liveRef (model : Model) : (armGrace model).1.liveRef = model.liveRef :=
  congrArg Held.live (armGrace_held model)

@[simp] theorem armDeadline_liveRef (model : Model) :
    (armDeadline model).1.liveRef = model.liveRef :=
  congrArg Held.live (armDeadline_held model)

section

variable (wound : Wound model alarms)
include wound

theorem onTransportReconnecting_winds (sessionRef : Nat) :
    Winds session spell alarms (onTransportReconnecting sessionRef model) := by
  unfold onTransportReconnecting
  split
  case isTrue => exact winds_nothing wound
  case isFalse live =>
    rw [not_not] at live
    have there : model.liveRef ≠ none := by simp [live]
    have fallen : Wound { model with transportPhase := .down } alarms :=
      wound.congr rfl rfl rfl rfl
    have grace := @armGrace_wound session spell _ _ fallen there
    have deadline := @armDeadline_wound session spell _ _ grace
      (by simpa using there)
    have backoff := @scheduleBackoff_wound session spell _ _ deadline
      (by simpa using there)
    simp only [Winds, rings_finish, rings_append]
    exact backoff

theorem onTransportError_winds (sessionRef : Nat) (message : String) :
    Winds session spell alarms (onTransportError sessionRef message model) := by
  unfold onTransportError
  split
  · exact winds_nothing wound
  · exact winds_of_congr wound rfl rfl rfl rfl rfl

theorem Wound.fire {id : Nat} (kind : TimerKind)
    (armed : model.timers.at kind = some id) (timers : model'.timers = model.timers.without kind)
    (nextTimer : model'.nextTimer = model.nextTimer) (live : model'.liveRef = model.liveRef)
    (status : model'.status = model.status ∨ kind = .stuck) : Wound model' (silence id alarms) :=
  wound.disarm (wound.synced.silence armed) timers nextTimer live status

theorem onBackoffFired_winds {id : Nat} (armed : model.timers.at .backoff = some id) :
    Winds session spell (silence id alarms) (onBackoffFired model) := by
  have fired : Wound { model with timers := { model.timers with backoff := none } }
      (silence id alarms) := wound.fire .backoff armed rfl rfl rfl (.inl rfl)
  unfold onBackoffFired
  dsimp only
  split
  case _ live _ =>
    have there : model.liveRef ≠ none := by simp [live]
    split
    case isTrue => exact winds_nothing fired
    case isFalse =>
      have grace := @armGrace_wound session spell _ _ fired there
      simp only [Winds, rings_finish, rings_append, rings_req, ring, rings_nil]
      exact grace
  case _ => exact winds_nothing fired

theorem onTimerFired_winds (id : Nat) :
    Winds session spell (silence id alarms) (onTimerFired id model) := by
  unfold onTimerFired
  dsimp only
  split
  case isTrue armed =>
    have fired : Wound { model with timers := { model.timers with grace := none } }
        (silence id alarms) := wound.fire .grace armed rfl rfl rfl (.inl rfl)
    have live : model.liveRef ≠ none := by
      intro free
      simp [wound.idle free] at armed
    rw [Winds, rings_finish]
    exact setStatus_wound fired fun _ => live
  case isFalse no_grace =>
    split
    case isTrue armed =>
      have fired : Wound { model with timers := { model.timers with stuck := none } }
          (silence id alarms) := wound.fire .stuck armed rfl rfl rfl (.inr rfl)
      split
      · exact winds_of_congr fired rfl rfl rfl rfl rfl
      · exact winds_nothing fired
    case isFalse no_stuck =>
      split
      case isTrue armed =>
        have fired : Wound { model with timers := { model.timers with join := none } }
            (silence id alarms) := wound.fire .join armed rfl rfl rfl (.inl rfl)
        split
        · apply dropLiveTransport_wound
          exact fired.congr rfl rfl rfl rfl
        · exact winds_nothing fired
      case isFalse no_join =>
        split
        case isTrue armed =>
          have fired : Wound { model with timers := { model.timers with deadline := none } }
              (silence id alarms) := wound.fire .deadline armed rfl rfl rfl (.inl rfl)
          split
          · exact winds_nothing fired
          · exact winds_of_congr fired rfl rfl rfl rfl rfl
        case isFalse no_deadline =>
          split
          case isTrue armed => exact onBackoffFired_winds wound armed
          case isFalse no_backoff =>
            split
            case isTrue armed =>
              have fired : Wound { model with timers := { model.timers with dropDead := none } }
                  (silence id alarms) := wound.fire .dropIfDead armed rfl rfl rfl (.inl rfl)
              split
              · exact dropLiveTransport_wound fired true true
              · exact winds_nothing fired
            case isFalse no_dropDead =>
              have absent : silence id alarms = alarms := by
                apply silence_of_absent
                intro alarm member same
                have armed := wound.synced.kept alarm member
                rw [same] at armed
                cases kind : alarm.kind <;> rw [kind] at armed <;> contradiction
              rw [absent]
              exact winds_nothing wound

theorem onAppForegrounded_winds (backgroundedMs : Float) :
    Winds session spell alarms (onAppForegrounded backgroundedMs model) := by
  unfold onAppForegrounded
  split
  case _ live _ =>
    have there : model.liveRef ≠ none := by simp [live]
    split
    case _ => exact winds_nothing wound
    case _ =>
      have backoff : Wound { model with timers := { model.timers with backoff := none } }
          (rings session spell alarms (cancelOps model model.timers.backoff)) :=
        wound.cancel .backoff rfl rfl rfl rfl (.inl rfl)
      have grace := @armGrace_wound session spell _ _ backoff there
      simp only [Winds, rings_finish, rings_append, rings_req, ring, rings_nil]
      exact grace
    case _ =>
      split
      · exact winds_nothing wound
      · exact winds_of_congr wound rfl rfl rfl rfl rfl
  case _ => exact winds_nothing wound

theorem onNetworkOnline_winds (nowMs : Float) :
    Winds session spell alarms (onNetworkOnline nowMs model) := by
  unfold onNetworkOnline
  split
  case _ live _ =>
    have there : model.liveRef ≠ none := by simp [live]
    have recovering : Wound { model with lastRecoverAt := nowMs } alarms :=
      wound.congr rfl rfl rfl rfl
    split
    case isTrue => exact winds_nothing wound
    case isFalse =>
      split
      case isTrue => exact winds_nothing wound
      case isFalse =>
        dsimp only
        split
        case isTrue =>
          have grace := @armGrace_wound session spell _ _ recovering there
          have deadline := @armDeadline_wound session spell _ _ grace
            (by simpa using there)
          simp only [Winds, rings_finish, rings_append, rings_req, ring, rings_nil]
          exact deadline.cancel .backoff rfl rfl rfl rfl (.inl rfl)
        case isFalse => exact winds_of_congr wound rfl rfl rfl rfl rfl
  case _ => exact winds_nothing wound

theorem onWalletChanged_winds (chainId : Nat) :
    Winds session spell alarms (onWalletChanged chainId model) := by
  unfold onWalletChanged
  dsimp only
  split
  · exact winds_of_congr wound (by simp) rfl rfl rfl rfl
  · exact winds_of_congr wound rfl rfl rfl rfl rfl

end

section

variable (wound : Wound model alarms)
include wound

theorem onPrepared_winds (fingerprint : String)
    (dapp : DsessDappInfo) : Winds session spell alarms (onPrepared fingerprint dapp model) := by
  unfold onPrepared
  split
  · exact winds_nothing wound
  · exact winds_of_congr wound rfl rfl rfl rfl rfl

theorem onPrepareFailed_winds (message : String) :
    Winds session spell alarms (onPrepareFailed message model) := by
  unfold onPrepareFailed
  split
  case _ => exact winds_nothing wound
  case _ =>
    have taken : Wound { model with awaitingPrepare := none } alarms :=
      wound.congr rfl rfl rfl rfl
    have set := @setStatus_wound .error session spell alarms _ taken nofun
    simp only [Winds, rings_finish]
    exact set.congr rfl rfl rfl rfl

theorem onConnectFinished_winds :
    Winds session spell alarms (onConnectFinished model) := by
  unfold onConnectFinished
  split
  case _ =>
    cases restoring : model.riRestore with
    | true =>
      simp only [if_true]
      split <;> exact winds_of_congr wound rfl rfl rfl rfl rfl
    | false =>
      simp only [Bool.false_eq_true, if_false]
      split <;> exact winds_of_congr wound rfl rfl rfl rfl rfl
  case _ => exact winds_nothing wound

end

/-- What a failed connect leaves armed: a fresh one's stuck prompt ends with its status. -/
def Model.left (model : Model) : Timers :=
  if model.riRestore then model.timers else model.timers.without .stuck

theorem setStatus_silent {model : Model}
    (synced : Synced model.timers model.nextTimer alarms)
    (stuck : model.timers.stuck ≠ none → model.status = .reconnecting)
    (bare : model.timers.without .stuck = {}) (other : status ≠ .reconnecting) :
    (setStatus status model).1.timers = {} ∧
      rings session spell alarms (setStatus status model).2 = [] := by
  unfold setStatus
  split
  case isTrue same =>
    have unarmed : model.timers.stuck = none := by
      by_contra armed
      exact other (same.symm.trans (stuck armed))
    have timers : model.timers = {} :=
      (Timers.without_of_none (show model.timers.at .stuck = none from unarmed)).symm.trans bare
    rw [timers] at synced
    exact ⟨timers, synced.empty (by simp)⟩
  case isFalse =>
    have cancelled : Synced (model.timers.without .stuck) model.nextTimer
        (rings session spell alarms (cancelOps model model.timers.stuck)) := synced.cancel rfl
    rw [bare] at cancelled
    dsimp only
    exact ⟨bare, cancelled.empty (by simp)⟩

section

variable (wound : Wound model alarms)
include wound

theorem onConnectFailed_winds (message : String)
    (bare : model.liveRef ≠ none → model.liveKind = some .remoteInject → model.left = {}) :
    Winds session spell alarms (onConnectFailed message model) := by
  unfold onConnectFailed
  split
  case _ live kind =>
    have left := bare (by simp [live]) kind
    unfold Model.left at left
    split
    case isTrue restoring =>
      rw [if_pos restoring] at left
      have synced := wound.synced
      rw [left] at synced
      exact wound_nothing left (synced.empty (by simp))
    case isFalse fresh =>
      rw [if_neg fresh] at left
      have set := @setStatus_silent .error session spell alarms
        { model with liveRef := none, liveKind := none, transportPhase := .joining }
        wound.synced wound.stuck left nofun
      exact wound_nothing set.1 (by rw [rings_finish]; exact set.2)
  case _ => exact winds_nothing wound

theorem onJoinFinished_winds (connected : Bool) (unarmed : model.timers.join = none) :
    Winds session spell alarms (onJoinFinished connected model) := by
  unfold onJoinFinished
  split
  case _ sessionRef live _ =>
    split
    case isTrue => exact winds_nothing wound
    case isFalse =>
      simp only [Winds, rings_finish]
      refine wound.start (places_join sessionRef) (by simp [Timers.at, unarmed]) (by simp [live])
        ?_ wound.dropDead wound.stuck
      rintro id watched there
      cases there
      exact live
  case _ => exact winds_nothing wound

theorem onJoinFailed_winds (message : String) :
    Winds session spell alarms (onJoinFailed message model) := by
  unfold onJoinFailed
  split
  · apply dropLiveTransport_wound
    exact wound.congr rfl rfl rfl rfl
  · exact winds_nothing wound

theorem onReconnectFinished_winds (cause : ReconnectCause)
    (ok : Bool) (unarmed : cause = .restore → ok = true → model.timers.dropDead = none) :
    Winds session spell alarms (onReconnectFinished cause ok model) := by
  unfold onReconnectFinished
  split
  case _ sessionRef live _ =>
    have there : model.liveRef ≠ none := by simp [live]
    split
    case _ =>
      simp only [Winds, rings_finish]
      refine wound.start (places_dropDead sessionRef) (by simp [Timers.at, unarmed]) there
        wound.join ?_ wound.stuck
      rintro id watched there
      cases there
      exact live
    case _ => exact winds_nothing wound
    case _ =>
      simp only [Winds, rings_finish]
      exact scheduleBackoff_wound wound there
    case _ =>
      split
      · exact winds_nothing wound
      · exact dropLiveTransport_wound wound true true
    case _ => exact winds_nothing wound
  case _ => exact winds_nothing wound

theorem onRestoreFinished_winds (restored : Bool) (free : restored = true → model.liveRef = none) :
    Winds session spell alarms (onRestoreFinished restored model) := by
  unfold onRestoreFinished
  split
  case _ => exact winds_nothing wound
  case _ sessionRef _ =>
    split
    case isTrue valid =>
      have idle : model.timers = {} := wound.idle (free valid)
      have synced := wound.synced
      rw [idle] at synced
      have begun : Wound { model with
          awaitingRestore := none, liveRef := some sessionRef, liveKind := some .walletPair
          transportPhase := .down, dappInfo := model.pendingWpRestore
          pendingWpRestore := none } alarms :=
        wound_nothing idle (synced.empty (by simp))
      have grace := @armGrace_wound session spell _ _ begun nofun
      simp only [Winds, rings_finish, rings_append, rings_req, ring, rings_nil]
      exact grace
    case isFalse => exact winds_of_congr wound rfl rfl rfl rfl rfl

theorem onDappInfoFetched_winds (info : Option DsessDappInfo) :
    Winds session spell alarms (onDappInfoFetched info model) := by
  unfold onDappInfoFetched
  split
  · exact winds_nothing wound
  · exact winds_of_congr wound rfl rfl rfl rfl rfl

theorem onCountersPersisted_winds (ok : Bool) :
    Winds session spell alarms (onCountersPersisted ok model) := by
  unfold onCountersPersisted
  split
  case _ =>
    split
    case isTrue =>
      split
      · exact winds_nothing wound
      · exact winds_of_congr wound rfl rfl rfl rfl rfl
    case isFalse => exact dropLiveTransport_wound wound true true
  case _ => exact winds_nothing wound

end

/-- The alarms that an event leaves: a timer that fires rings no more. -/
def leaves (event : Event) (alarms : List Alarm) : List Alarm :=
  match event with
  | .timerFired id => silence id alarms
  | _ => alarms

/-- What an event must find for the timers to stay wound. -/
structure Fitting (event : Event) (model : Model) : Prop where
  pending : model.pendingWpRef ≠ none → model.liveRef = none
  connect : ∀ {message},
    event = .shellCompleted model.attempt (.remoteInjectConnectFailed message) →
    model.liveRef ≠ none → model.liveKind = some .remoteInject → model.left = {}
  join : ∀ {connected}, event = .shellCompleted model.attempt (.joinFinished connected) →
    model.timers.join = none
  reconnect : event = .shellCompleted model.attempt (.reconnectFinished .restore true) →
    model.timers.dropDead = none
  restore : event = .shellCompleted model.attempt (.walletPairRestoreFinished true) →
    model.liveRef = none

theorem accept_winds (wound : Wound model alarms) {result : DsessShellResult}
    (fitting : Fitting (.shellCompleted model.attempt result) model) :
    Winds session spell alarms (accept result model) := by
  cases result with
  | ack => exact winds_nothing wound
  | walletPairPrepared fingerprint dapp => exact onPrepared_winds wound fingerprint dapp
  | walletPairPrepareFailed message => exact onPrepareFailed_winds wound message
  | remoteInjectConnectFinished => exact onConnectFinished_winds wound
  | remoteInjectConnectFailed message =>
    exact onConnectFailed_winds wound message (fitting.connect rfl)
  | joinFinished connected => exact onJoinFinished_winds wound connected (fitting.join rfl)
  | joinFailed message => exact onJoinFailed_winds wound message
  | reconnectFinished =>
    apply onReconnectFinished_winds wound
    rintro rfl rfl
    exact fitting.reconnect rfl
  | walletPairRestoreFinished =>
    apply onRestoreFinished_winds wound
    rintro rfl
    exact fitting.restore rfl
  | dappInfoFetched info => exact onDappInfoFetched_winds wound info
  | countersPersisted ok => exact onCountersPersisted_winds wound ok

theorem update_winds (wound : Wound model alarms) {event : Event} (fitting : Fitting event model) :
    Winds session spell (leaves event alarms) (update event model) := by
  cases event with
  | inputSubmitted raw => exact onInput_winds wound raw
  | fingerprintConfirmed => exact onConfirmFingerprint_winds wound fitting.pending
  | fingerprintCancelled => exact onCancelFingerprint_winds wound
  | disconnectRequested => exact onDisconnectRequested_winds wound
  | manualReconnect => exact onManualReconnect_winds wound
  | restoreLoaded remoteInject walletPair =>
    exact onRestoreLoaded_winds wound remoteInject walletPair
  | transportConnected sessionRef => exact onTransportConnected_winds wound sessionRef
  | transportDisconnected sessionRef => exact onTransportDisconnected_winds wound sessionRef
  | transportReconnecting sessionRef => exact onTransportReconnecting_winds wound sessionRef
  | transportError sessionRef message => exact onTransportError_winds wound sessionRef message
  | timerFired id => exact onTimerFired_winds wound id
  | appForegrounded backgroundedMs => exact onAppForegrounded_winds wound backgroundedMs
  | networkOnline nowMs => exact onNetworkOnline_winds wound nowMs
  | walletChanged chainId => exact onWalletChanged_winds wound chainId
  | shellCompleted =>
    simp only [update]
    split
    case isTrue => exact winds_nothing wound
    case isFalse current =>
      rw [not_not] at current
      subst current
      exact accept_winds wound fitting

end Handlers

end VelaWallet.DappSession
