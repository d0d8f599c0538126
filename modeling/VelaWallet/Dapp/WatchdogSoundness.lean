import VelaWallet.Dapp.Watchdogs

/-!
# A watchdog ends only a session that never came up

In every run in which a session that came up is not watched again, the join timeout and the
drop-if-dead wait end no session whose transport came up, and every timer is of the live session's
episode.
-/

namespace VelaWallet.DappSession

variable {event : Event} {model : Model}

/-- The shell's timers; how often a session became or ceased to be the live one, or its transport
came up; and whether the transport came up since the live session's join or restore was asked. -/
structure Watch where
  alarms : List Alarm := []
  spell : Nat := 0
  cameUp : Bool := false

/-- The live session's transport is reported up. -/
def hears (event : Event) (live : Option Nat) : Bool :=
  match event with
  | .transportConnected sessionRef => live == some sessionRef
  | _ => false

/-- A join or the reconnect of a restore: what the watchdogs watch. -/
def DsessOperation.isWatched : DsessOperation → Bool
  | confirmWalletPairJoin _ | reconnectTransport _ .restore => true
  | _ => false

def Watch.observe (watch : Watch) (before : Served Model Request) (move : Move Event)
    (after : Served Model Request) (output : List (Request × Nat)) : Watch :=
  let heard := hears move.event before.state.liveRef
  let spell :=
    if heard || after.state.liveRef ≠ before.state.liveRef then watch.spell + 1 else watch.spell
  { alarms :=
      (output.map (·.1)).foldl (ring after.state.liveRef spell) (leaves move.event watch.alarms)
    spell
    cameUp :=
      if output.any (·.1.2.isWatched) then false else watch.cameUp || heard }

@[reducible] def watchedSession :
    Process (Served Model Request × Watch) (Move Event) (List (Request × Nat)) :=
  session.watching {} Watch.observe

def Model.guarded (model : Model) : Bool :=
  model.timers.join.isSome || model.timers.dropDead.isSome

/-- A session that came up does not go down again while a watchdog is armed, nor is a watchdog armed
once it has; and no remote-inject connect fails with a timer left armed. -/
def steady (move : Move Event) (watched : Served Model Request × Watch) : Bool :=
  let model := watched.1.state
  match move.event with
  | .transportReconnecting sessionRef =>
    model.liveRef != some sessionRef || model.transportPhase != .up || !model.guarded ||
      !watched.2.cameUp
  | .shellCompleted attempt (.joinFinished false)
  | .shellCompleted attempt (.reconnectFinished .restore true) =>
    attempt != model.attempt || model.liveRef.isNone || model.liveKind != some .walletPair ||
      !watched.2.cameUp || model.transportPhase == .up
  | .shellCompleted attempt (.remoteInjectConnectFailed _) =>
    attempt != model.attempt || model.liveRef.isNone || model.liveKind != some .remoteInject ||
      model.left == {}
  | _ => true

/-- An operation that opens a session, joins it or brings it back. -/
def DsessOperation.isFlow (operation : DsessOperation) : Bool :=
  operation.opens.isSome || operation.isWatched

theorem isGrip_of_isFlow {operation : DsessOperation} (flow : operation.isFlow = true) :
    operation.isGrip = true := by
  cases operation with
  | reconnectTransport _ cause => cases cause <;> first | rfl | contradiction
  | _ => first | rfl | contradiction

def isUnderWay (attempt : Nat) (request : Request) : Bool :=
  request.1 == attempt && request.2.isFlow

def counted (occupied : Bool) : Nat := if occupied then 1 else 0

/-- How many of a pending pairing and the two watchdogs there are. -/
def Model.waiting (model : Model) : Nat :=
  counted model.pendingWpRef.isSome + counted model.timers.join.isSome +
    counted model.timers.dropDead.isSome

/-- What a grip does to the one thing under way. -/
inductive Passes (event : Event) (held after : Held) (asked : List Request) : Prop where
  | renewed (attempt : held.attempt < after.attempt) (pending : after.pending = none)
      (asked_one : asked.countP (·.2.isFlow) ≤ 1)
  | kept (attempt : after.attempt = held.attempt)
      (passed : asked.countP (·.2.isFlow) + counted after.pending.isSome ≤
        counted held.pending.isSome)
  | answered {result : DsessShellResult} (attempt : after.attempt = held.attempt)
      (answer : event = .shellCompleted held.attempt result)
      (opens : ∀ operation : DsessOperation, operation.answeredBy result = true →
        operation.opens.isSome = true)
      (passed : asked.countP (·.2.isFlow) + counted after.pending.isSome ≤
        counted held.pending.isSome + 1)

@[simp] theorem countP_released {attempt : Nat} {sessionRef : Option Nat} :
    (released attempt sessionRef).countP (·.2.isFlow) = 0 := by
  cases sessionRef <;> rfl

@[simp] theorem countP_releases {held : Held} :
    held.releases.countP (·.2.isFlow) = 0 := by
  simp [Held.releases]

theorem Grip.passes {event : Event} {held after : Held} {asked : List Request}
    (grip : Grip event held after asked) : Passes event held after asked := by
  cases grip with
  | still | lost | unprepared | connected | unconnected | invalid | drop =>
    exact .kept rfl (by simp)
  | push | persist | persisted | unrestored =>
    exact .kept rfl (by simp [DsessOperation.isFlow, DsessOperation.opens,
      DsessOperation.isWatched])
  | pair | inject =>
    refine .renewed (Nat.lt_succ_self _) rfl ?_
    rw [List.countP_append, countP_releases]
    simp [DsessOperation.isFlow, DsessOperation.opens]
  | hangUp => exact .renewed (Nat.lt_succ_self _) rfl (by simp)
  | restoreInject _ unpaired | restorePair _ unpaired =>
    exact .renewed (Nat.lt_succ_self _) unpaired (by simp [DsessOperation.isFlow,
      DsessOperation.opens])
  | confirm pending =>
    exact .kept rfl (by simp [counted, pending, DsessOperation.isFlow, DsessOperation.opens,
      DsessOperation.isWatched])
  | cancel => exact .kept rfl (by simp [counted])
  | prepared _ answer =>
    refine .answered rfl answer ?_ (by simp [counted])
    intro operation answered
    cases operation <;> first | rfl | contradiction
  | restored _ answer =>
    refine .answered rfl answer ?_ (by simp [DsessOperation.isFlow, DsessOperation.opens,
      DsessOperation.isWatched, Nat.add_comm])
    intro operation answered
    cases operation <;> first | rfl | contradiction

/-! ## What is known of a watched session -/

/-- What is known of the session and of what is remembered of it. -/
structure Watched (history : History) (watched : Served Model Request × Watch) : Prop where
  traced : Traced history watched.1
  wound : Wound watched.1.state watched.2.alarms
  past : ∀ request ∈ watched.1.requests, request.2.isGrip = true →
    request.1 ≤ watched.1.state.attempt
  underWay : watched.1.requests.countP (isUnderWay watched.1.state.attempt) +
    watched.1.state.waiting ≤ 1
  kind : watched.1.state.held.live ≠ none → watched.1.state.held.kind ≠ none
  session : ∀ alarm ∈ watched.2.alarms, alarm.session = watched.1.state.liveRef ∧
    (alarm.kind = .dropIfDead ∨ alarm.spell = watched.2.spell)
  guarded : watched.1.state.guarded = true → watched.2.cameUp = true →
    watched.1.state.transportPhase = .up

theorem Watched.init : Watched [] watchedSession.init where
  traced := .init
  wound := wound_nothing rfl rfl
  past := nofun
  underWay := by decide
  kind := fun live => absurd rfl live
  session := nofun
  guarded := nofun

section Step

variable {history : History} {move : Move Event} {before after : Served Model Request}
  {watch : Watch} {rest : List (Request × Nat)} {made : List Request}

theorem answer_under_way (watched : Watched history (before, watch))
    (serves : connecting.Serves dsessShell move before after rest made)
    {result : DsessShellResult}
    (answer : move.event = .shellCompleted before.state.attempt result)
    (flows : ∀ operation : DsessOperation, operation.answeredBy result = true →
      operation.isFlow = true) :
    before.state.waiting = 0 ∧
      before.requests.countP (isUnderWay before.state.attempt) =
        (rest.map (·.1)).countP (isUnderWay before.state.attempt) + 1 := by
  obtain ⟨operation, _, _, answered, _, count⟩ := answer_taken serves answer
  have counted := count (isUnderWay before.state.attempt)
  rw [if_pos (by simp [isUnderWay, flows operation answered])] at counted
  have bound := watched.underWay
  simp only at bound
  omega

theorem join_flows {connected : Bool} (operation : DsessOperation)
    (answered : operation.answeredBy (.joinFinished connected) = true) :
    operation.isFlow = true := by
  cases operation <;> first | rfl | contradiction

theorem reconnect_flows (operation : DsessOperation)
    (answered : operation.answeredBy (.reconnectFinished .restore true) = true) :
    operation.isFlow = true := by
  cases operation with
  | reconnectTransport _ cause => cases cause <;> first | rfl | contradiction
  | _ => first | rfl | contradiction

theorem waiting_zero (idle : model.waiting = 0) :
    model.pendingWpRef = none ∧ model.timers.join = none ∧ model.timers.dropDead = none := by
  unfold Model.waiting counted at idle
  cases pending : model.pendingWpRef <;> cases join : model.timers.join <;>
    cases dropDead : model.timers.dropDead <;> simp_all

theorem fitting_of_steady (watched : Watched history (before, watch))
    (serves : connecting.Serves dsessShell move before after rest made)
    (fits : steady move (before, watch) = true) : Fitting move.event before.state where
  pending := by
    intro pending
    have slotted := watched.traced.slotted.live_pending
    exact slotted.resolve_right pending
  connect := by
    intro message answer live kind
    simp only [steady, answer, Bool.or_eq_true, bne_self_eq_false, Bool.false_eq_true,
      false_or, Option.isNone_iff_eq_none, kind, or_false, beq_iff_eq] at fits
    exact fits.resolve_left live
  join := by
    intro connected answer
    exact (waiting_zero (answer_under_way watched serves answer join_flows).1).2.1
  reconnect := by
    intro answer
    exact (waiting_zero (answer_under_way watched serves answer reconnect_flows).1).2.2
  restore := by
    intro answer
    obtain ⟨operation, number, _, _, there, answered, _, _⟩ :=
      answer_last watched.traced serves answer
    cases operation with
    | restoreWalletPair => exact (watched.traced.restoring there).1
    | _ => contradiction

section

variable (serves : connecting.Serves dsessShell move before after rest made)
include serves

theorem serves_update :
    after.state = (update move.event before.state).1 ∧
      made = requests (update move.event before.state).2 := by
  have stepped := serves.stepped
  simp only [connecting, Option.some.injEq, Prod.mk.injEq] at stepped
  exact ⟨stepped.1.symm, stepped.2.symm⟩

theorem serves_requests :
    after.requests = rest.map (·.1) ++ made := by
  rw [Served.requests, serves.outstanding, List.map_append, List.zipIdx_map_fst]

end

section

variable (watched : Watched history (before, watch))
  (serves : connecting.Serves dsessShell move before after rest made)
include watched serves

theorem past_step
    :
    ∀ request ∈ after.requests, request.2.isGrip = true → request.1 ≤ after.state.attempt := by
  intro request member gripping
  rw [serves_requests serves] at member
  rcases List.mem_append.mp member with old | new
  · obtain ⟨entry, there, rfl⟩ := List.mem_map.mp old
    have among : entry.1 ∈ before.requests :=
      List.mem_map.mpr ⟨entry, rest_subset serves there, rfl⟩
    exact Nat.le_trans (watched.past entry.1 among gripping) (attempts_grow serves).1
  · exact Nat.le_of_eq
      ((serves_grip serves).asked_attempt (List.mem_filter.mpr ⟨new, gripping⟩))

theorem past_over (later : before.state.attempt < after.state.attempt) :
    (rest.map (·.1)).countP (isUnderWay after.state.attempt) = 0 := by
  rw [List.countP_eq_zero]
  intro request member
  obtain ⟨entry, there, rfl⟩ := List.mem_map.mp member
  have among : entry.1 ∈ before.requests :=
    List.mem_map.mpr ⟨entry, rest_subset serves there, rfl⟩
  simp only [isUnderWay, Bool.and_eq_true, beq_iff_eq, not_and]
  intro current flow
  have bound : entry.1.1 ≤ before.state.attempt :=
    watched.past entry.1 among (isGrip_of_isFlow flow)
  omega

end

theorem made_under_way {attempt : Nat} : made.countP (isUnderWay attempt) ≤
    (made.filter (·.2.isGrip)).countP (·.2.isFlow) := by
  rw [List.countP_filter]
  apply List.countP_mono_left
  intro request _ under_way
  simp only [isUnderWay, Bool.and_eq_true] at under_way
  simp only [Bool.and_eq_true]
  exact ⟨under_way.2, isGrip_of_isFlow under_way.2⟩

/-- The watchdogs an event leaves armed are those that were, or it is the answer that arms one. -/
theorem guards_waiting {later : Model} (guards : Guards event model later) :
    later.timers.join = none ∧ later.timers.dropDead = none ∨
      later.attempt = model.attempt ∧
        (counted later.timers.join.isSome + counted later.timers.dropDead.isSome ≤
            counted model.timers.join.isSome + counted model.timers.dropDead.isSome ∨
          (event = .shellCompleted model.attempt (.joinFinished false) ∨
            event = .shellCompleted model.attempt (.reconnectFinished .restore true)) ∧
          counted later.timers.join.isSome + counted later.timers.dropDead.isSome ≤
            counted model.timers.join.isSome + counted model.timers.dropDead.isSome + 1) := by
  have at_most (armed : Bool) : counted armed ≤ 1 := by cases armed <;> decide
  cases guards with
  | still attempt _ join dropDead =>
    refine .inr ⟨attempt, .inl ?_⟩
    rcases join with join | join <;> rcases dropDead with dropDead | dropDead <;>
      simp [join, dropDead, counted]
  | cleared join dropDead => exact .inl ⟨join, dropDead⟩
  | rose _ _ attempt _ join dropDead =>
    refine .inr ⟨attempt, .inl ?_⟩
    simp [join, dropDead, counted]
  | fell _ _ attempt join dropDead =>
    refine .inr ⟨attempt, .inl ?_⟩
    simp [join, dropDead]
  | armed answer _ _ attempt =>
    refine .inr ⟨attempt, .inr ⟨answer.imp (·.1) (·.1), ?_⟩⟩
    rcases answer with ⟨_, same⟩ | ⟨_, same⟩
    · have bound := at_most later.timers.join.isSome
      rw [same]
      omega
    · have bound := at_most later.timers.dropDead.isSome
      rw [same]
      omega

section

variable (watched : Watched history (before, watch))
  (serves : connecting.Serves dsessShell move before after rest made)
include watched serves

theorem underWay_step (fitting : Fitting move.event before.state) :
    after.requests.countP (isUnderWay after.state.attempt) + after.state.waiting ≤ 1 := by
  have guards : Guards move.event before.state after.state := by
    rw [(serves_update serves).1]
    exact (update_turns watched.wound fitting).guards
  have bound := watched.underWay
  have fewer : (rest.map (·.1)).countP (isUnderWay before.state.attempt) ≤
      before.requests.countP (isUnderWay before.state.attempt) :=
    (serves.accepted.sublist.map _).countP_le
  have made_few := @made_under_way made after.state.attempt
  have waiting := guards_waiting guards
  have pending_eq : after.state.held.pending = after.state.pendingWpRef := rfl
  have pending_was : before.state.held.pending = before.state.pendingWpRef := rfl
  rw [serves_requests serves, List.countP_append]
  simp only [Model.waiting] at bound ⊢
  cases (serves_grip serves).passes with
  | renewed attempt pending =>
    change before.state.attempt < after.state.attempt at attempt
    rw [past_over watched serves attempt]
    rcases waiting with ⟨join, dropDead⟩ | ⟨same, _⟩
    · have none_pending : after.state.pendingWpRef = none := pending
      rw [join, dropDead, none_pending]
      simp only [Option.isSome_none, counted, Bool.false_eq_true, if_false]
      omega
    · omega
  | kept attempt passed =>
    change after.state.attempt = before.state.attempt at attempt
    rw [attempt] at made_few ⊢
    rw [pending_eq, pending_was] at passed
    rcases waiting with ⟨join, dropDead⟩ | ⟨_, fewer_armed | ⟨answer, one_more⟩⟩
    · rw [join, dropDead]
      simp only [Option.isSome_none, counted, Bool.false_eq_true, if_false] at passed bound ⊢
      omega
    · omega
    · have answered : before.state.waiting = 0 ∧
          before.requests.countP (isUnderWay before.state.attempt) =
            (rest.map (·.1)).countP (isUnderWay before.state.attempt) + 1 := by
        rcases answer with join | reconnect
        · exact answer_under_way watched serves join join_flows
        · exact answer_under_way watched serves reconnect reconnect_flows
      omega
  | answered attempt answer opens passed =>
    change after.state.attempt = before.state.attempt at attempt
    rw [attempt] at made_few ⊢
    rw [pending_eq, pending_was] at passed
    have answered := answer_under_way watched serves answer fun operation there => by
      simp [DsessOperation.isFlow, opens operation there]
    rcases waiting with ⟨join, dropDead⟩ | ⟨_, fewer_armed | ⟨arming, _⟩⟩
    · rw [join, dropDead]
      simp only [Option.isSome_none, counted, Bool.false_eq_true, if_false] at passed bound ⊢
      omega
    · omega
    · change move.event = .shellCompleted before.state.attempt _ at answer
      rcases arming with join | reconnect
      · rw [answer] at join
        cases join
        exact absurd (opens (.confirmWalletPairJoin 0) rfl) nofun
      · rw [answer] at reconnect
        cases reconnect
        exact absurd (opens (.reconnectTransport 0 .restore) rfl) nofun

theorem kind_step
    (live : after.state.held.live ≠ none) : after.state.held.kind ≠ none := by
  have kind := watched.kind
  have grip := serves_grip serves
  simp only at kind
  generalize made.filter (·.2.isGrip) = asked at grip
  generalize after.state.held = next at grip live ⊢
  cases grip with
  | still | push | persist | persisted | cancel | restorePair | prepared | unprepared | connected
  | invalid => exact kind live
  | pair | hangUp | drop | lost | unrestored | unconnected => exact absurd rfl live
  | inject | confirm | restoreInject | restored => nofun

end

theorem observe_alarms (serves : connecting.Serves dsessShell move before after rest made) :
    (watch.observe before move after (made.zipIdx before.issued)).alarms =
      rings after.state.liveRef
        (watch.observe before move after (made.zipIdx before.issued)).spell
        (leaves move.event watch.alarms) (update move.event before.state).2 := by
  rw [rings, ← (serves_update serves).2]
  simp only [Watch.observe, List.zipIdx_map_fst]

theorem wound_step (watched : Watched history (before, watch))
    (serves : connecting.Serves dsessShell move before after rest made)
    (fitting : Fitting move.event before.state) :
    Wound after.state (watch.observe before move after (made.zipIdx before.issued)).alarms := by
  rw [observe_alarms serves, (serves_update serves).1]
  exact update_winds watched.wound fitting

theorem leaves_subset {alarms : List Alarm} {alarm : Alarm}
    (member : alarm ∈ leaves event alarms) : alarm ∈ alarms := by
  unfold leaves at member
  split at member
  · exact List.mem_of_mem_filter member
  · exact member

theorem hears_cases {live : Option Nat} (heard : hears event live = true) :
    ∃ sessionRef, event = .transportConnected sessionRef ∧ live = some sessionRef := by
  unfold hears at heard
  split at heard
  case _ sessionRef => exact ⟨sessionRef, rfl, by simpa using heard⟩
  case _ => contradiction

/-- Every alarm is of the live session, and of its present spell unless it waits for a dead
channel. -/
theorem session_step (watched : Watched history (before, watch))
    (serves : connecting.Serves dsessShell move before after rest made)
    (fitting : Fitting move.event before.state) {alarm : Alarm}
    (member : alarm ∈ (watch.observe before move after (made.zipIdx before.issued)).alarms) :
    alarm.session = after.state.liveRef ∧ (alarm.kind = .dropIfDead ∨ alarm.spell =
      (watch.observe before move after (made.zipIdx before.issued)).spell) := by
  have armed := (wound_step watched serves fitting).synced.kept alarm member
  rw [observe_alarms serves] at member
  rcases mem_rings member with old | ⟨session, spell⟩
  · have known := watched.session alarm (leaves_subset old)
    have numbered : alarm.id < before.state.nextTimer :=
      watched.wound.synced.numbered alarm (leaves_subset old)
    have state := (serves_update serves).1
    have live : after.state.liveRef = before.state.liveRef := by
      rw [state] at armed ⊢
      rcases (update_turns watched.wound fitting).renews with live | new
      · exact live
      · have later : before.state.nextTimer ≤ alarm.id := new armed
        exact absurd (Nat.lt_of_lt_of_le numbered later) (Nat.lt_irrefl _)
    refine ⟨known.1.trans live.symm, ?_⟩
    rcases known.2 with drop | same
    · exact .inl drop
    · by_cases heard : hears move.event before.state.liveRef = true
      · left
        by_contra other
        obtain ⟨sessionRef, connected, there⟩ := hears_cases heard
        have kind : before.state.liveKind ≠ none :=
          watched.kind (by simp [Model.held, there])
        have silent := connected_timers watched.wound there kind other
        rw [← connected, ← state] at silent
        cases silent.symm.trans armed
      · right
        have spell : (watch.observe before move after (made.zipIdx before.issued)).spell =
            watch.spell := by
          simp [Watch.observe, heard, live]
        exact same.trans spell.symm
  · exact ⟨session, .inr spell⟩

theorem connected_phase {sessionRef : Nat}
    (live : model.liveRef = some sessionRef) (kind : model.liveKind ≠ none) :
    (update (.transportConnected sessionRef) model).1.transportPhase = .up := by
  have taken : ¬(model.liveRef ≠ some sessionRef ∨ model.liveKind.isNone = true) := by
    simp [live, kind]
  simp only [update, onTransportConnected, if_neg taken]
  exact congrArg Gauges.phase (setStatus_gauges _ _)

theorem guarded_step (watched : Watched history (before, watch))
    (serves : connecting.Serves dsessShell move before after rest made)
    (fits : steady move (before, watch) = true)
    (guarded : after.state.guarded = true)
    (cameUp : (watch.observe before move after (made.zipIdx before.issued)).cameUp = true) :
    after.state.transportPhase = .up := by
  have fitting := fitting_of_steady watched serves fits
  have guards : Guards move.event before.state after.state := by
    rw [(serves_update serves).1]
    exact (update_turns watched.wound fitting).guards
  by_cases heard : hears move.event before.state.liveRef = true
  · obtain ⟨sessionRef, connected, there⟩ := hears_cases heard
    rw [(serves_update serves).1, connected]
    exact connected_phase there (watched.kind (by simp [Model.held, there]))
  · have was : watch.cameUp = true := by
      simp only [Watch.observe, heard] at cameUp
      split at cameUp
      · contradiction
      · simpa using cameUp
    have kept (was_guarded : before.state.guarded = true) :
        before.state.transportPhase = .up := watched.guarded was_guarded was
    unfold Model.guarded at guarded kept
    cases guards with
    | still _ phase join dropDead =>
      rw [phase]
      apply kept
      rcases join with join | join <;> rcases dropDead with dropDead | dropDead <;>
        simp_all
    | cleared join dropDead => simp [join, dropDead] at guarded
    | rose _ _ _ phase => exact phase
    | fell falls live _ join dropDead =>
      rw [join, dropDead] at guarded
      have up := kept guarded
      simp [steady, falls, live, up, Model.guarded, guarded, was] at fits
    | armed answer live kind _ phase =>
      rw [phase]
      rcases answer with ⟨answer, _⟩ | ⟨answer, _⟩ <;>
        simpa [steady, answer, live, kind, was] using fits

theorem Watched.step (watched : Watched history (before, watch))
    (serves : connecting.Serves dsessShell move before after rest made)
    (fits : steady move (before, watch) = true) :
    Watched (history ++ [(move, made.zipIdx before.issued)])
      (after, watch.observe before move after (made.zipIdx before.issued)) where
  traced := watched.traced.step serves
  wound := wound_step watched serves (fitting_of_steady watched serves fits)
  past := past_step watched serves
  underWay := underWay_step watched serves (fitting_of_steady watched serves fits)
  kind := kind_step watched serves
  session := fun _ member =>
    session_step watched serves (fitting_of_steady watched serves fits) member
  guarded := guarded_step watched serves fits

end Step

theorem watched_of_run {history : History} {watched : Served Model Request × Watch}
    (run : Process.Run watchedSession steady history watched) : Watched history watched := by
  apply run.invariant Watched .init
  intro history move ⟨before, watch⟩ ⟨after, next⟩ output fits stepped known
  obtain ⟨stepped, observed⟩ := Process.watching_step.mp stepped
  obtain ⟨rest, made, serves, rfl⟩ := Process.served_step stepped
  change next = watch.observe before move after _ at observed
  subst observed
  exact known.step serves fits

/-- A timer of each kind, of the live session's episode; and a timer that fires acts for the session
it was armed for, and ends or wipes it only if its transport did not come up. -/
structure WatchKept (watched : Served Model Request × Watch) : Prop where
  single : (watched.2.alarms.map (·.kind)).Nodup
  episode : ∀ alarm ∈ watched.2.alarms, ∃ live, watched.1.state.liveRef = some live ∧
    alarm.session = some live ∧
      (alarm.kind = .dropIfDead ∨ alarm.spell = watched.2.spell)
  acts : ∀ {move id after output}, move.event = .timerFired id →
    watchedSession.step move watched = some (after, output) →
      after.1.state ≠ watched.1.state ∨ output ≠ [] →
        ∃ alarm ∈ watched.2.alarms, alarm.id = id ∧ alarm.session = watched.1.state.liveRef
  ends : ∀ {move id after output}, move.event = .timerFired id →
    watchedSession.step move watched = some (after, output) →
      after.1.state.liveRef ≠ watched.1.state.liveRef ∨
          (∃ entry ∈ output, entry.1.2 = .clearWalletPairSnapshot) →
        watched.2.cameUp = false

/-- In every run of steady moves the watchdogs end only a session that never came up, and every
timer is of the live session's episode. -/
theorem watchdogs_kept {history : History} {watched : Served Model Request × Watch}
    (run : Process.Run watchedSession steady history watched) : WatchKept watched := by
  have known := watched_of_run run
  obtain ⟨before, watch⟩ := watched
  constructor
  case single => exact known.wound.synced.kinds
  case episode =>
    intro alarm member
    have armed := known.wound.synced.kept alarm member
    obtain ⟨session, spell⟩ := known.session alarm member
    cases live : before.state.liveRef with
    | none =>
      rw [known.wound.idle live] at armed
      cases kind : alarm.kind <;> rw [kind] at armed <;> cases armed
    | some live' => exact ⟨live', rfl, session.trans live, spell⟩
  case acts =>
    intro move id after output fired stepped acted
    obtain ⟨stepped, _⟩ := Process.watching_step.mp stepped
    obtain ⟨rest, made, serves, rfl⟩ := Process.served_step stepped
    obtain ⟨state, asked⟩ := serves_update serves
    rw [fired] at state asked
    have moved : onTimerFired id before.state ≠ (before.state, []) := by
      intro still
      rw [update, still] at state asked
      rcases acted with changed | output
      · exact changed state
      · exact output (by rw [asked]; rfl)
    obtain ⟨kind, armed⟩ := fired_armed moved
    obtain ⟨alarm, member, _, same⟩ := known.wound.synced.listed armed
    exact ⟨alarm, member, same, (known.session alarm member).1⟩
  case ends =>
    intro move id after output fired stepped ended
    obtain ⟨stepped, _⟩ := Process.watching_step.mp stepped
    obtain ⟨rest, made, serves, rfl⟩ := Process.served_step stepped
    obtain ⟨state, asked⟩ := serves_update serves
    rw [fired] at state asked
    obtain ⟨armed, down⟩ := @fired_ends before.state id (by
      rcases ended with changed | ⟨entry, member, clears⟩
      · rw [state] at changed
        exact .inl changed
      · refine .inr ⟨entry.1, ?_, clears⟩
        have among := List.fst_mem_of_mem_zipIdx member
        rw [asked] at among
        exact among)
    have guarded : before.state.guarded = true := by
      simpa [Model.guarded, Option.isSome_iff_ne_none] using armed
    by_contra cameUp
    exact down (known.guarded guarded (by simpa using cameUp))

/-- A text is read as a pairing, its fingerprint is confirmed, and its transport comes up. -/
def joined : List (Move Event) :=
  pairing ++ [.answers 1 (.shellCompleted 1 (.joinFinished false)),
    .arrives (.transportConnected 1)]

theorem joined_kept : ∃ history watched, Process.Run watchedSession steady history watched ∧
    watched.1.state.liveRef = some 1 ∧ watched.2.cameUp = true ∧ WatchKept watched := by
  have played : (watchedSession.play steady joined).any
      (fun reached => reached.2.1.state.liveRef = some 1 && reached.2.2.cameUp) = true := by
    decide
  obtain ⟨history, watched, run, live⟩ := Process.exists_run_of_play played
  simp only [Bool.and_eq_true, decide_eq_true_eq] at live
  exact ⟨history, watched, run, live.1, live.2, watchdogs_kept run⟩

/-- A stored pairing is restored and its transport comes up and drops. -/
def blip : List (Move Event) :=
  [.arrives (.restoreLoaded none (some ⟨"dApp", "https://d.app", none⟩)),
    .answers 0 (.shellCompleted 1 (.walletPairRestoreFinished true)),
    .answers 2 (.shellCompleted 1 (.reconnectFinished .restore true)),
    .arrives (.transportConnected 1), .arrives (.transportReconnecting 1)]

/-- The drop-if-dead timer that ends the session that came up. -/
theorem dropped_after_coming_up : ∃ history watched,
    Process.Run watchedSession Process.unrestricted history watched ∧
      watched.2.cameUp = true ∧
        (∃ after output, watchedSession.step (.arrives (.timerFired 2)) watched =
            some (after, output) ∧
          after.1.state.liveRef ≠ watched.1.state.liveRef) ∧
          ¬ WatchKept watched := by
  have played : (watchedSession.play Process.unrestricted blip).any
      (fun reached => reached.2.2.cameUp &&
        (watchedSession.step (.arrives (.timerFired 2)) reached.2).any fun next =>
          next.1.1.state.liveRef != reached.2.1.state.liveRef) = true := by decide
  obtain ⟨history, watched, run, reached⟩ := Process.exists_run_of_play played
  simp only [Bool.and_eq_true, Option.any_eq_true, bne_iff_ne] at reached
  obtain ⟨cameUp, ⟨after, output⟩, stepped, changed⟩ := reached
  refine ⟨history, watched, run, cameUp, ⟨after, output, stepped, changed⟩, ?_⟩
  intro kept
  have never : watched.2.cameUp = false := kept.ends rfl stepped (.inl changed)
  exact Bool.false_ne_true (never.symm.trans cameUp)

end VelaWallet.DappSession
