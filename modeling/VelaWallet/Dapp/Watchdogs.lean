import VelaWallet.Dapp.Winding

/-!
# Watchdogs

What an event does to the two watchdogs and the transport, and which timers outlive the session they
were armed for.
-/

namespace VelaWallet.DappSession

/-- What the watchdogs go by. -/
structure Gauges where
  attempt : Nat
  phase : TransportPhase
  join : Option (Nat × Nat)
  dropDead : Option (Nat × Nat)
  live : Option Nat

def Model.gauges (model : Model) : Gauges where
  attempt := model.attempt
  phase := model.transportPhase
  join := model.timers.join
  dropDead := model.timers.dropDead
  live := model.liveRef

section Gauges

variable (model : Model)

theorem armGrace_gauges : (armGrace model).1.gauges = model.gauges := by
  unfold armGrace
  split <;> rfl

theorem armDeadline_gauges : (armDeadline model).1.gauges = model.gauges := by
  unfold armDeadline
  split <;> rfl

theorem scheduleBackoff_gauges : (scheduleBackoff model).1.gauges = model.gauges := by
  unfold scheduleBackoff
  split <;> rfl

theorem setStatus_gauges (status : DsessStatus) (model : Model) :
    (setStatus status model).1.gauges = model.gauges := by
  unfold setStatus
  split
  · rfl
  · split <;> rfl

end Gauges

inductive Guards (event : Event) (model after : Model) : Prop where
  | still (attempt : after.attempt = model.attempt)
      (phase : after.transportPhase = model.transportPhase)
      (join : after.timers.join = model.timers.join ∨ after.timers.join = none)
      (dropDead : after.timers.dropDead = model.timers.dropDead ∨ after.timers.dropDead = none)
  | cleared (join : after.timers.join = none) (dropDead : after.timers.dropDead = none)
  | rose {sessionRef : Nat} (heard : event = .transportConnected sessionRef)
      (live : model.liveRef = some sessionRef) (attempt : after.attempt = model.attempt)
      (phase : after.transportPhase = .up) (join : after.timers.join = none)
      (dropDead : after.timers.dropDead = model.timers.dropDead)
  | fell {sessionRef : Nat} (heard : event = .transportReconnecting sessionRef)
      (live : model.liveRef = some sessionRef) (attempt : after.attempt = model.attempt)
      (join : after.timers.join = model.timers.join)
      (dropDead : after.timers.dropDead = model.timers.dropDead)
  | armed (answer : event = .shellCompleted model.attempt (.joinFinished false) ∧
        after.timers.dropDead = model.timers.dropDead ∨
      event = .shellCompleted model.attempt (.reconnectFinished .restore true) ∧
        after.timers.join = model.timers.join)
      (live : model.liveRef ≠ none) (kind : model.liveKind = some .walletPair)
      (attempt : after.attempt = model.attempt)
      (phase : after.transportPhase = model.transportPhase)

/-- The live session stays, or every timer armed is a new one. -/
def Renews (model after : Model) : Prop :=
  after.liveRef = model.liveRef ∨
    ∀ {kind id}, after.timers.at kind = some id → model.nextTimer ≤ id

/-- What a step does to the watchdogs, and to the timers of the session that was live. -/
structure Turns (event : Event) (model after : Model) : Prop where
  guards : Guards event model after
  renews : Renews model after

section Handlers

variable {alarms : List Alarm} {event : Event} {model : Model}

theorem turns_same {after : Model} (same : after.gauges = model.gauges) :
    Turns event model after where
  guards := .still (congrArg Gauges.attempt same) (congrArg Gauges.phase same)
    (.inl (congrArg Gauges.join same)) (.inl (congrArg Gauges.dropDead same))
  renews := .inl (congrArg Gauges.live same)

theorem turns_nothing : Turns event model model := turns_same rfl

theorem turns_bare {after : Model} (timers : after.timers = {}) : Turns event model after where
  guards := .cleared (by rw [timers]) (by rw [timers])
  renews := .inr (by simp [timers])

theorem onTimerFired_turns (id : Nat) : Turns event model (onTimerFired id model).1 := by
  unfold onTimerFired
  dsimp only
  split
  case isTrue => exact turns_same (setStatus_gauges _ _)
  case isFalse =>
    split
    case isTrue => split <;> exact turns_same rfl
    case isFalse =>
      split
      case isTrue =>
        split
        · exact turns_bare rfl
        · exact ⟨.still rfl rfl (.inr rfl) (.inl rfl), .inl rfl⟩
      case isFalse =>
        split
        case isTrue => split <;> exact turns_same rfl
        case isFalse =>
          split
          case isTrue =>
            unfold onBackoffFired
            dsimp only
            split
            · split
              · exact turns_same rfl
              · exact turns_same (armGrace_gauges _)
            · exact turns_same rfl
          case isFalse =>
            split
            case isTrue =>
              split
              · exact turns_bare rfl
              · exact ⟨.still rfl rfl (.inl rfl) (.inr rfl), .inl rfl⟩
            case isFalse => exact turns_nothing

theorem accept_turns (wound : Wound model alarms) {result : DsessShellResult}
    (fitting : Fitting (.shellCompleted model.attempt result) model) :
    Turns (.shellCompleted model.attempt result) model (accept result model).1 := by
  cases result with
  | ack => exact turns_nothing
  | walletPairPrepared =>
    simp only [accept, onPrepared]
    split
    · exact turns_nothing
    · exact turns_same rfl
  | walletPairPrepareFailed =>
    simp only [accept, onPrepareFailed]
    split
    · exact turns_nothing
    · exact turns_same (setStatus_gauges _ _)
  | remoteInjectConnectFinished =>
    simp only [accept, onConnectFinished]
    split
    case _ =>
      cases restoring : model.riRestore with
      | true =>
        simp only [if_true]
        split <;> exact turns_same rfl
      | false =>
        simp only [Bool.false_eq_true, if_false]
        split <;> exact turns_same rfl
    case _ => exact turns_nothing
  | remoteInjectConnectFailed =>
    have bare := fitting.connect rfl
    simp only [accept, onConnectFailed]
    split
    case _ live kind =>
      have left := bare (by simp [live]) kind
      unfold Model.left at left
      split
      case isTrue restoring =>
        rw [if_pos restoring] at left
        exact turns_bare left
      case isFalse fresh =>
        rw [if_neg fresh] at left
        have set := @setStatus_silent .error none 0 alarms
          { model with liveRef := none, liveKind := none, transportPhase := .joining }
          wound.synced wound.stuck left nofun
        exact turns_bare set.1
    case _ => exact turns_nothing
  | joinFinished =>
    simp only [accept, onJoinFinished]
    split
    case _ live kind =>
      split
      · exact turns_nothing
      · rename_i unconnected
        rw [Bool.not_eq_true] at unconnected
        subst unconnected
        exact ⟨.armed (.inl ⟨rfl, rfl⟩) (by simp [live]) kind rfl rfl, .inl rfl⟩
    case _ => exact turns_nothing
  | joinFailed =>
    simp only [accept, onJoinFailed]
    split
    · exact turns_bare rfl
    · exact turns_nothing
  | reconnectFinished =>
    simp only [accept, onReconnectFinished]
    split
    case _ live kind =>
      split
      case _ => exact ⟨.armed (.inr ⟨rfl, rfl⟩) (by simp [live]) kind rfl rfl, .inl rfl⟩
      case _ => exact turns_nothing
      case _ => exact turns_same (scheduleBackoff_gauges _)
      case _ =>
        split
        · exact turns_nothing
        · exact turns_bare rfl
      case _ => exact turns_nothing
    case _ => exact turns_nothing
  | walletPairRestoreFinished =>
    simp only [accept, onRestoreFinished]
    split
    case _ => exact turns_nothing
    case _ =>
      split
      case isTrue valid =>
        have idle : model.timers = {} := wound.idle (fitting.restore (by rw [valid]))
        constructor
        · have join : model.timers.join = none := by rw [idle]
          have dropDead : model.timers.dropDead = none := by rw [idle]
          exact .cleared ((congrArg Gauges.join (armGrace_gauges _)).trans join)
            ((congrArg Gauges.dropDead (armGrace_gauges _)).trans dropDead)
        · right
          intro kind id armed
          simp only [armGrace, idle, Option.isNone_none, if_true, startTimer] at armed
          cases kind <;> simp_all [Timers.at]
      case isFalse => exact turns_same rfl
  | dappInfoFetched =>
    simp only [accept, onDappInfoFetched]
    split
    · exact turns_nothing
    · exact turns_same rfl
  | countersPersisted =>
    simp only [accept, onCountersPersisted]
    split
    case _ =>
      split
      · split
        · exact turns_nothing
        · exact turns_same rfl
      · exact turns_bare rfl
    case _ => exact turns_nothing

/-- Every event that fits does to the watchdogs what `Guards` says, and leaves no timer of a
session that is live no more. -/
theorem update_turns (wound : Wound model alarms) (fitting : Fitting event model) :
    Turns event model (update event model).1 := by
  cases event with
  | inputSubmitted =>
    have bare := @setStatus_bare .connecting none 0 []
      (disconnectCurrent { model with attempt := model.attempt + 1 }).1 rfl (by rintro ⟨⟩)
    simp only [update, onInput]
    split
    · exact turns_bare bare.1
    · exact turns_bare bare.1
    · exact turns_nothing
    · exact turns_nothing
  | fingerprintConfirmed =>
    simp only [update, onConfirmFingerprint]
    split
    case _ => exact turns_nothing
    case _ pending =>
      exact turns_bare (wound.idle (fitting.pending (by simp [pending])))
  | fingerprintCancelled =>
    simp only [update, onCancelFingerprint]
    exact turns_same (setStatus_gauges _ _)
  | disconnectRequested =>
    have bare := @setStatus_bare .disconnected none 0 []
      (disconnectCurrent { model with attempt := model.attempt + 1 }).1 rfl (by rintro ⟨⟩)
    exact turns_bare bare.1
  | manualReconnect =>
    simp only [update, onManualReconnect]
    split
    case _ => exact turns_nothing
    case _ =>
      split
      · exact turns_same rfl
      · exact turns_same (setStatus_gauges _ _)
  | restoreLoaded =>
    simp only [update, onRestoreLoaded]
    split
    case isTrue => exact turns_nothing
    case isFalse free =>
      simp only [not_or, Option.isSome_iff_ne_none, not_not] at free
      have idle : model.timers = {} := wound.idle free.2.1
      split <;> exact turns_bare idle
  | transportConnected =>
    simp only [update, onTransportConnected]
    split
    case isTrue => exact turns_nothing
    case isFalse there =>
      simp only [not_or, not_not] at there
      have same := setStatus_gauges .connected { model with
        transportPhase := .up, backoffAttempt := 0
        timers := { model.timers with grace := none, join := none, deadline := none,
                                      backoff := none } }
      exact ⟨.rose rfl there.1 (congrArg Gauges.attempt same) (congrArg Gauges.phase same)
        (congrArg Gauges.join same) (congrArg Gauges.dropDead same),
        .inl (congrArg Gauges.live same)⟩
  | transportDisconnected =>
    simp only [update, onTransportDisconnected]
    split
    · exact turns_nothing
    · exact turns_bare rfl
  | transportReconnecting =>
    simp only [update, onTransportReconnecting]
    split
    case isTrue => exact turns_nothing
    case isFalse there =>
      rw [not_not] at there
      have same := (scheduleBackoff_gauges _).trans ((armDeadline_gauges _).trans
        (armGrace_gauges { model with transportPhase := .down }))
      exact ⟨.fell rfl there (congrArg Gauges.attempt same) (congrArg Gauges.join same)
        (congrArg Gauges.dropDead same), .inl (congrArg Gauges.live same)⟩
  | transportError =>
    simp only [update, onTransportError]
    split
    · exact turns_nothing
    · exact turns_same rfl
  | timerFired id => exact onTimerFired_turns id
  | appForegrounded =>
    simp only [update, onAppForegrounded]
    split
    case _ =>
      split
      · exact turns_nothing
      · exact turns_same (armGrace_gauges _)
      · split
        · exact turns_nothing
        · exact turns_same rfl
    case _ => exact turns_nothing
  | networkOnline =>
    simp only [update, onNetworkOnline]
    split
    case _ =>
      split
      · exact turns_nothing
      · split
        · exact turns_nothing
        · split
          · exact turns_same ((armDeadline_gauges _).trans (armGrace_gauges _))
          · exact turns_same rfl
    case _ => exact turns_nothing
  | walletChanged =>
    simp only [update, onWalletChanged]
    split <;> exact turns_same rfl
  | shellCompleted =>
    simp only [update]
    split
    case isTrue => exact turns_nothing
    case isFalse current =>
      rw [not_not] at current
      subst current
      exact accept_turns wound fitting

/-- Once the live session's transport is up, nothing is timed but the wait for a dead channel. -/
theorem connected_timers (wound : Wound model alarms) {sessionRef : Nat}
    (live : model.liveRef = some sessionRef) (kind : model.liveKind ≠ none) {timer : TimerKind}
    (other : timer ≠ .dropIfDead) :
    (update (.transportConnected sessionRef) model).1.timers.at timer = none := by
  have taken : ¬(model.liveRef ≠ some sessionRef ∨ model.liveKind.isNone = true) := by
    simp [live, kind]
  simp only [update, onTransportConnected, if_neg taken]
  unfold setStatus
  split
  case isTrue connected =>
    have unarmed : model.timers.stuck = none := by
      by_contra armed
      have reconnecting := wound.stuck armed
      cases connected.symm.trans reconnecting
    cases timer <;> first | rfl | exact unarmed | contradiction
  case isFalse => cases timer <;> first | rfl | contradiction

theorem fired_armed {id : Nat} (acts : onTimerFired id model ≠ (model, [])) :
    ∃ kind, model.timers.at kind = some id := by
  by_contra none_armed
  have unarmed (kind : TimerKind) : model.timers.at kind ≠ some id :=
    fun armed => none_armed ⟨kind, armed⟩
  apply acts
  have grace : model.timers.grace ≠ some id := unarmed .grace
  have stuck : model.timers.stuck ≠ some id := unarmed .stuck
  have join : model.timers.join.map (·.1) ≠ some id := unarmed .join
  have deadline : model.timers.deadline ≠ some id := unarmed .deadline
  have backoff : model.timers.backoff ≠ some id := unarmed .backoff
  have dropDead : model.timers.dropDead.map (·.1) ≠ some id := unarmed .dropIfDead
  simp only [onTimerFired, if_neg grace, if_neg stuck, if_neg join, if_neg deadline,
    if_neg backoff, if_neg dropDead]

theorem clear_not_mem_setStatus {status : DsessStatus} {request : Request}
    (clears : request.2 = .clearWalletPairSnapshot) :
    request ∉ requests (setStatus status model).2 := by
  intro member
  obtain ⟨attempt, operation⟩ := request
  cases clears
  unfold setStatus at member
  split at member
  case isTrue => cases member
  case isFalse =>
    dsimp only at member
    split at member <;> cases stuck : model.timers.stuck <;>
      simp [stuck, requests, cancelOps, req, armStuck, startTimer] at member

theorem clear_not_mem_armGrace {request : Request}
    (clears : request.2 = .clearWalletPairSnapshot) : request ∉ requests (armGrace model).2 := by
  intro member
  obtain ⟨attempt, operation⟩ := request
  cases clears
  unfold armGrace at member
  split at member <;> simp [requests, req, startTimer] at member

/-- What a timer that fires ends or wipes, a watchdog does, and the transport is not up. -/
theorem fired_ends {id : Nat}
    (ends : (onTimerFired id model).1.liveRef ≠ model.liveRef ∨
      ∃ request ∈ requests (onTimerFired id model).2, request.2 = .clearWalletPairSnapshot) :
    (model.timers.join ≠ none ∨ model.timers.dropDead ≠ none) ∧ model.transportPhase ≠ .up := by
  have refute {turn : Model × List DsessEffect}
      (ends : turn.1.liveRef ≠ model.liveRef ∨
        ∃ request ∈ requests turn.2, request.2 = .clearWalletPairSnapshot)
      (live : turn.1.liveRef = model.liveRef)
      (silent : ∀ request, request.2 = .clearWalletPairSnapshot → request ∉ requests turn.2) :
      False := by
    rcases ends with changed | ⟨request, member, clears⟩
    · exact changed live
    · exact silent request clears member
  unfold onTimerFired at ends
  dsimp only at ends
  split at ends
  case isTrue =>
    refine (refute ends (by simp) ?_).elim
    intro request clears member
    rw [finish, requests, List.filterMap_append, List.mem_append] at member
    rcases member with set | render
    · exact clear_not_mem_setStatus clears set
    · cases render
  case isFalse =>
    split at ends
    case isTrue =>
      split at ends <;> exact (refute ends rfl (by simp [requests])).elim
    case isFalse =>
      split at ends
      case isTrue armed =>
        have watched : model.timers.join ≠ none := by
          intro unarmed
          simp [unarmed] at armed
        split at ends
        case isTrue down => exact ⟨.inl watched, down.1⟩
        case isFalse => exact (refute ends rfl (by simp [requests])).elim
      case isFalse =>
        split at ends
        case isTrue => split at ends <;> exact (refute ends rfl (by simp [requests])).elim
        case isFalse =>
          split at ends
          case isTrue =>
            unfold onBackoffFired at ends
            dsimp only at ends
            split at ends
            case _ =>
              split at ends
              case isTrue => exact (refute ends rfl (by simp [requests])).elim
              case isFalse =>
                refine (refute ends (by simp) ?_).elim
                intro request clears member
                rw [finish, requests, List.filterMap_append, List.filterMap_append,
                  List.mem_append, List.mem_append] at member
                rcases member with (grace | reconnect) | render
                · exact clear_not_mem_armGrace clears grace
                · simp only [req, List.filterMap_cons, List.filterMap_nil,
                    List.mem_singleton] at reconnect
                  subst reconnect
                  cases clears
                · cases render
            case _ => exact (refute ends rfl (by simp [requests])).elim
          case isFalse =>
            split at ends
            case isTrue armed =>
              have watched : model.timers.dropDead ≠ none := by
                intro unarmed
                simp [unarmed] at armed
              split at ends
              case isTrue down => exact ⟨.inr watched, down.2⟩
              case isFalse => exact (refute ends rfl (by simp [requests])).elim
            case isFalse => exact (refute ends rfl (by simp [requests])).elim

end Handlers

end VelaWallet.DappSession
