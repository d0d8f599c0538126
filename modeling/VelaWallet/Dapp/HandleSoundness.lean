import VelaWallet.Dapp.Handles

/-!
# Handles are owned or released

Every session handle that the machine ever opened is in one of its four slots, or was released, or
came to nothing, in every run in which no pairing or connection is begun while a restore is awaited.
-/

namespace VelaWallet.DappSession

variable {operation : DsessOperation} {result : DsessShellResult} {event : Event}
  {made : List Request} {attempt number sessionRef : Nat} {before : Served Model Request}

def DsessOperation.answeredBy : DsessOperation → DsessShellResult → Bool
  | prepareWalletPair .., .walletPairPrepared .. => true
  | prepareWalletPair .., .walletPairPrepareFailed _ => true
  | connectRemoteInject .., .remoteInjectConnectFinished => true
  | connectRemoteInject .., .remoteInjectConnectFailed _ => true
  | confirmWalletPairJoin _, .joinFinished _ => true
  | confirmWalletPairJoin _, .joinFailed _ => true
  | reconnectTransport _ asked, .reconnectFinished cause _ => asked == cause
  | persistWalletPairCounters _, .countersPersisted _ => true
  | restoreWalletPair _, .walletPairRestoreFinished _ => true
  | fetchDappInfo _, .dappInfoFetched _ => true
  | disconnectTransport _, .ack | pingTransport _, .ack | pushWalletInfo .., .ack
  | saveRemoteInjectSession _, .ack | clearRemoteInjectSession, .ack
  | clearWalletPairSnapshot, .ack | startTimer .., .ack | cancelTimer _, .ack
  | openBrowser _, .ack | alertInvalidLink, .ack => true
  | _, _ => false

/-- An operation's answer carries the attempt the operation was asked under. -/
@[reducible] def dsessShell : Shell Event Request where
  external
    | .shellCompleted .. => false
    | _ => true
  answers request
    | .shellCompleted attempt result => attempt == request.1 && request.2.answeredBy result
    | _ => false

def connecting : Process Model Event (List Request) where
  init := {}
  step event model := some ((update event model).1, requests (update event model).2)

/-- The machine with its shell, which answers every request once at most, at any later time. -/
@[reducible] def session : Process (Served Model Request) (Move Event) (List (Request × Nat)) :=
  connecting.served dsessShell

/-- What happened in a session: each move, with the requests made on it and their numbers. -/
abbrev History := List (Move Event × List (Request × Nat))

/-- A request was made on an event, under a number. -/
def Asked (history : History) (event : Event) (request : Request) (number : Nat) : Prop :=
  ∃ turn ∈ history, turn.1.event = event ∧ (request, number) ∈ turn.2

/-- The request of a number was answered. -/
def Answered (history : History) (number : Nat) (answer : Event) : Prop :=
  ∃ turn ∈ history, turn.1 = .answers number answer

section Histories

variable {history : History} {turn : Move Event × List (Request × Nat)} {event : Event}
  {request : Request} {number : Nat}

theorem asked_concat : Asked (history ++ [turn]) event request number ↔
    Asked history event request number ∨ turn.1.event = event ∧ (request, number) ∈ turn.2 := by
  simp only [Asked, List.mem_append, List.mem_singleton]
  constructor
  · rintro ⟨made, earlier | rfl, same, there⟩
    · exact .inl ⟨made, earlier, same, there⟩
    · exact .inr ⟨same, there⟩
  · rintro (⟨made, earlier, same, there⟩ | ⟨same, there⟩)
    · exact ⟨made, .inl earlier, same, there⟩
    · exact ⟨turn, .inr rfl, same, there⟩

theorem Asked.concat (asked : Asked history event request number) :
    Asked (history ++ [turn]) event request number :=
  asked_concat.mpr (.inl asked)

theorem Answered.concat {answer : Event} (answered : Answered history number answer) :
    Answered (history ++ [turn]) number answer :=
  answered.imp fun _ there => ⟨List.mem_append_left _ there.1, there.2⟩

end Histories

/-- The machine told the shell to disconnect a session. -/
def Released (history : History) (sessionRef : Nat) : Prop :=
  ∃ event attempt number,
    Asked history event (attempt, .disconnectTransport sessionRef) number

/-- The shell reported that a session came to nothing: its prepare, its restore or its fresh
connect failed, or its transport disconnected. -/
inductive Reported (history : History) (sessionRef : Nat) : Prop where
  | prepare {event : Event} {attempt number : Nat} {uri message : String}
      (asked : Asked history event (attempt, .prepareWalletPair sessionRef uri) number)
      (failed : Answered history number
        (.shellCompleted attempt (.walletPairPrepareFailed message)))
  | restore {event : Event} {attempt number : Nat}
      (asked : Asked history event (attempt, .restoreWalletPair sessionRef) number)
      (failed : Answered history number
        (.shellCompleted attempt (.walletPairRestoreFinished false)))
  | connect {raw message : String} {session : RemoteInjectSession} {attempt number : Nat}
      (asked : Asked history (.inputSubmitted raw)
        (attempt, .connectRemoteInject sessionRef session) number)
      (failed : Answered history number
        (.shellCompleted attempt (.remoteInjectConnectFailed message)))
  | transport {turn : Move Event × List (Request × Nat)} (there : turn ∈ history)
      (disconnected : turn.1.event = .transportDisconnected sessionRef)

/-- A handle is in one of the four slots. -/
inductive Held.Holds (held : Held) (sessionRef : Nat) : Prop where
  | live (there : held.live = some sessionRef)
  | pending (there : held.pending = some sessionRef)
  | prepare (there : held.prepare = some sessionRef)
  | restore (there : held.restore = some sessionRef)

/-- A handle is held, or was released, or came to nothing. -/
def Handled (history : History) (held : Held) (sessionRef : Nat) : Prop :=
  held.Holds sessionRef ∨ Released history sessionRef ∨ Reported history sessionRef

/-- The session of a fingerprint: the shell reported it when it had prepared the session. -/
def Prepared (history : History) (sessionRef : Nat) (fingerprint : String) : Prop :=
  ∃ event attempt uri number dapp,
    Asked history event (attempt, .prepareWalletPair sessionRef uri) number ∧
      Answered history number (.shellCompleted attempt (.walletPairPrepared fingerprint dapp))

def Pairs (history : History) (sessionRef : Nat) : Prop :=
  ∃ event attempt operation number, Asked history event (attempt, operation) number ∧
    ((∃ uri, operation = .prepareWalletPair sessionRef uri) ∨
      operation = .restoreWalletPair sessionRef)

def DsessOperation.opens : DsessOperation → Option Nat
  | prepareWalletPair sessionRef _ | connectRemoteInject sessionRef _
  | restoreWalletPair sessionRef => some sessionRef
  | _ => none

section Grips

variable {event : Event} {held after : Held} {asked : List Request} {request : Request}

@[simp] theorem mem_released {sessionRef : Option Nat} :
    request ∈ released attempt sessionRef ↔
      ∃ handle, sessionRef = some handle ∧ request = (attempt, .disconnectTransport handle) := by
  cases sessionRef <;> simp [released]

@[simp] theorem mem_releases : request ∈ held.releases ↔
    ∃ handle,
      held.prepare = some handle ∧ request = (held.attempt + 1, .disconnectTransport handle) ∨
      held.pending = some handle ∧ request = (held.attempt + 1, .disconnectTransport handle) ∨
      held.live = some handle ∧ request = (held.attempt + 1, .disconnectTransport handle) := by
  simp [Held.releases, exists_or]

theorem Grip.asked_attempt (grip : Grip event held after asked) (member : request ∈ asked) :
    request.1 = after.attempt := by
  cases grip with
  | still | lost | prepared | unprepared | connected | unconnected | invalid => cases member
  | push | persist | persisted | confirm | restoreInject | restorePair | unrestored | restored =>
    cases List.mem_singleton.mp member
    rfl
  | pair | inject =>
    rw [List.mem_append, mem_releases, List.mem_singleton] at member
    rcases member with ⟨_, ⟨_, rfl⟩ | ⟨_, rfl⟩ | ⟨_, rfl⟩⟩ | rfl <;> rfl
  | cancel | drop =>
    obtain ⟨_, _, rfl⟩ := mem_released.mp member
    rfl
  | hangUp =>
    rcases mem_releases.mp member with ⟨_, ⟨_, rfl⟩ | ⟨_, rfl⟩ | ⟨_, rfl⟩⟩ <;> rfl

def isOpening (attempt : Nat) (request : Request) : Bool :=
  request.1 == attempt && request.2.opens.isSome

/-- What a grip opens: nothing, or the next session, under the next attempt. -/
inductive Opens (held after : Held) (asked : List Request) : Prop where
  | nothing (nextRef : after.nextRef = held.nextRef) (attempt : held.attempt ≤ after.attempt)
      (closed : ∀ request ∈ asked, request.2.opens = none)
  | next {operation : DsessOperation} {earlier : List Request}
      (nextRef : after.nextRef = held.nextRef + 1) (attempt : after.attempt = held.attempt + 1)
      (closed : ∀ request ∈ earlier, request.2.opens = none)
      (asked_eq : asked = earlier ++ [(after.attempt, operation)])
      (opening : operation.opens = some held.nextRef)

theorem released_closed {sessionRef : Option Nat} :
    ∀ request ∈ released attempt sessionRef, request.2.opens = none := by
  intro request member
  obtain ⟨_, _, rfl⟩ := mem_released.mp member
  rfl

theorem releases_closed : ∀ request ∈ held.releases, request.2.opens = none := by
  intro request member
  rcases mem_releases.mp member with ⟨_, ⟨_, rfl⟩ | ⟨_, rfl⟩ | ⟨_, rfl⟩⟩ <;> rfl

theorem Grip.opens (grip : Grip event held after asked) : Opens held after asked := by
  cases grip with
  | still | lost | prepared | unprepared | connected | unconnected | invalid =>
    exact .nothing rfl (Nat.le_refl _) (by simp)
  | push | persist | persisted | confirm | unrestored | restored =>
    refine .nothing rfl (Nat.le_refl _) ?_
    intro request member
    cases List.mem_singleton.mp member
    rfl
  | pair | inject => exact .next rfl rfl releases_closed rfl rfl
  | cancel | drop => exact .nothing rfl (Nat.le_refl _) released_closed
  | hangUp => exact .nothing rfl (Nat.le_succ _) releases_closed
  | restoreInject | restorePair => exact .next rfl rfl (by simp) (List.nil_append _).symm rfl

end Grips


/-- Three of the slots hold the session opened last, and one of them at most. -/
structure Slotted (held : Held) : Prop where
  live : ∀ {sessionRef}, held.live = some sessionRef → sessionRef + 1 = held.nextRef
  pending : ∀ {sessionRef}, held.pending = some sessionRef → sessionRef + 1 = held.nextRef
  prepare : ∀ {sessionRef}, held.prepare = some sessionRef → sessionRef + 1 = held.nextRef
  live_pending : held.live = none ∨ held.pending = none
  live_prepare : held.live = none ∨ held.prepare = none
  pending_prepare : held.pending = none ∨ held.prepare = none

theorem Slotted.step {event : Event} {held after : Held} {asked : List Request}
    (slotted : Slotted held) (grip : Grip event held after asked)
    (restoring : ∀ attempt, event = .shellCompleted attempt (.walletPairRestoreFinished true) →
      held.attempt = attempt → held.live = none ∧ held.pending = none ∧ held.prepare = none ∧
        ∀ sessionRef, held.restore = some sessionRef → sessionRef + 1 = held.nextRef) :
    Slotted after := by
  obtain ⟨live, pending, prepare, live_pending, live_prepare, pending_prepare⟩ := slotted
  cases grip with
  | still | push | persist | persisted | connected | invalid =>
    exact ⟨live, pending, prepare, live_pending, live_prepare, pending_prepare⟩
  | pair | inject | hangUp => constructor <;> simp [Held.cleared]
  | confirm there =>
    have unprepared : held.prepare = none := by simpa [there] using pending_prepare
    constructor <;> simp_all
  | cancel | restoreInject | restorePair | drop | lost | unrestored | unconnected | unprepared =>
    constructor <;> simp_all
  | prepared there =>
    have unlive : held.live = none := by simpa [there] using live_prepare
    constructor <;> simp_all
  | restored _ answer =>
    obtain ⟨_, unpaired, unprepared, last⟩ := restoring _ answer rfl
    constructor <;> simp_all

/-- Where a handle that was held goes: it stays held, or the machine releases it, or the shell
says that it came to nothing. -/
inductive Gone (event : Event) (held after : Held) (asked : List Request) (sessionRef : Nat) :
    Prop where
  | holds (holds : after.Holds sessionRef)
  | released {attempt : Nat} (there : (attempt, .disconnectTransport sessionRef) ∈ asked)
  | transport (disconnected : event = .transportDisconnected sessionRef)
  | prepare {message : String} (there : held.prepare = some sessionRef)
      (answer : event = .shellCompleted held.attempt (.walletPairPrepareFailed message))
  | connect {message : String} (there : held.live = some sessionRef)
      (fresh : held.riRestore = false)
      (answer : event = .shellCompleted held.attempt (.remoteInjectConnectFailed message))
  | restore (there : held.restore = some sessionRef)
      (answer : event = .shellCompleted held.attempt (.walletPairRestoreFinished false))

theorem Grip.gone {held after : Held} {asked : List Request}
    (grip : Grip event held after asked) (slotted : Slotted held)
    (restoring : event = .shellCompleted held.attempt (.walletPairRestoreFinished true) →
      held.live = none) (holds : held.Holds sessionRef) :
    Gone event held after asked sessionRef := by
  cases holds with
  | live there =>
    cases grip with
    | still | push | persist | persisted | cancel | prepared | unprepared | connected | invalid =>
      exact .holds (.live there)
    | pair | inject =>
      exact .released
        (List.mem_append_left _ (mem_releases.mpr ⟨sessionRef, .inr (.inr ⟨there, rfl⟩)⟩))
    | hangUp => exact .released (mem_releases.mpr ⟨sessionRef, .inr (.inr ⟨there, rfl⟩)⟩)
    | drop => exact .released (mem_released.mpr ⟨sessionRef, there, rfl⟩)
    | unrestored live =>
      cases there.symm.trans live
      exact .released (List.mem_singleton_self _)
    | confirm pending =>
      have none_pending : held.pending = none := by simpa [there] using slotted.live_pending
      exact absurd (none_pending.symm.trans pending) nofun
    | restoreInject free | restorePair free => exact absurd (free.symm.trans there) nofun
    | lost live reported =>
      cases there.symm.trans live
      exact .transport reported
    | unconnected _ fresh answer => exact .connect there fresh answer
    | restored _ answer => exact absurd ((restoring answer).symm.trans there) nofun
  | pending there =>
    cases grip with
    | still | push | persist | persisted | unprepared | connected | invalid | drop | lost
    | unrestored | unconnected | restored => exact .holds (.pending there)
    | pair | inject =>
      exact .released
        (List.mem_append_left _ (mem_releases.mpr ⟨sessionRef, .inr (.inl ⟨there, rfl⟩)⟩))
    | hangUp => exact .released (mem_releases.mpr ⟨sessionRef, .inr (.inl ⟨there, rfl⟩)⟩)
    | cancel => exact .released (mem_released.mpr ⟨sessionRef, there, rfl⟩)
    | confirm pending =>
      cases there.symm.trans pending
      exact .holds (.live rfl)
    | prepared prepare =>
      have none_prepare : held.prepare = none := by
        simpa [there] using slotted.pending_prepare
      exact absurd (none_prepare.symm.trans prepare) nofun
    | restoreInject _ unpaired | restorePair _ unpaired =>
      exact absurd (unpaired.symm.trans there) nofun
  | prepare there =>
    cases grip with
    | still | push | persist | persisted | cancel | connected | invalid | drop | lost
    | unrestored | unconnected | restored | confirm => exact .holds (.prepare there)
    | pair | inject =>
      exact .released
        (List.mem_append_left _ (mem_releases.mpr ⟨sessionRef, .inl ⟨there, rfl⟩⟩))
    | hangUp => exact .released (mem_releases.mpr ⟨sessionRef, .inl ⟨there, rfl⟩⟩)
    | prepared prepare =>
      cases there.symm.trans prepare
      exact .holds (.pending rfl)
    | unprepared _ answer => exact .prepare there answer
    | restoreInject _ _ unprepared | restorePair _ _ unprepared =>
      exact absurd (unprepared.symm.trans there) nofun
  | restore there =>
    cases grip with
    | still | push | persist | persisted | cancel | prepared | unprepared | connected | drop
    | lost | unrestored | unconnected | confirm | pair | inject | hangUp =>
      exact .holds (.restore there)
    | invalid _ answer => exact .restore there answer
    | restored restore =>
      cases there.symm.trans restore
      exact .holds (.live rfl)
    | restoreInject _ _ _ unrestored | restorePair _ _ _ unrestored =>
      exact absurd (unrestored.symm.trans there) nofun

/-- What the history of a session says of its state. -/
structure Traced (history : History) (served : Served Model Request) : Prop where
  outstanding : ∀ {request number}, (request, number) ∈ served.outstanding →
    ∃ event, Asked history event request number
  opened : ∀ {event attempt operation number sessionRef},
    Asked history event (attempt, operation) number → operation.opens = some sessionRef →
      sessionRef < served.state.nextRef ∧ attempt ≤ served.state.attempt ∧
        (attempt = served.state.attempt → sessionRef + 1 = served.state.nextRef)
  same : ∀ {event attempt operation number event' attempt' operation' number' sessionRef},
    Asked history event (attempt, operation) number →
    Asked history event' (attempt', operation') number' →
    operation.opens = some sessionRef → operation'.opens = some sessionRef →
      operation = operation'
  counted : ∀ {event attempt sessionRef number},
    Asked history event (attempt, .persistWalletPairCounters sessionRef) number →
      attempt ≤ served.state.attempt ∧
        (attempt = served.state.attempt → sessionRef + 1 = served.state.nextRef)
  opening : served.requests.countP (isOpening served.state.attempt) ≤ 1
  slotted : Slotted served.state.held
  restoring : ∀ {sessionRef number},
    ((served.state.attempt, .restoreWalletPair sessionRef), number) ∈ served.outstanding →
      served.state.held.live = none ∧ served.state.held.pending = none ∧
        served.state.held.prepare = none ∧
        ∀ held, served.state.held.restore = some held → held = sessionRef
  injected : ∀ {sessionRef}, served.state.held.live = some sessionRef →
    served.state.held.kind = some .remoteInject →
      ∃ event attempt session number,
        Asked history event (attempt, .connectRemoteInject sessionRef session) number
  fingerprint : ∀ {sessionRef}, served.state.held.pending = some sessionRef →
    ∃ fingerprint, served.state.held.fingerprint = some fingerprint ∧
      Prepared history sessionRef fingerprint
  fresh : ∀ {sessionRef session number},
    ((served.state.attempt, .connectRemoteInject sessionRef session), number) ∈
        served.outstanding →
      served.state.held.riRestore = true ∨
        ∃ raw, Asked history (.inputSubmitted raw)
          (served.state.attempt, .connectRemoteInject sessionRef session) number
  handled : ∀ sessionRef, 0 < sessionRef → sessionRef < served.state.nextRef →
    Handled history served.state.held sessionRef

theorem Traced.init : Traced [] session.init where
  outstanding := nofun
  opened := nofun
  same := nofun
  counted := nofun
  opening := by simp [Served.requests]
  slotted := by constructor <;> simp [connecting, Model.held]
  restoring := nofun
  injected := nofun
  fingerprint := nofun
  fresh := nofun
  handled := by
    intro sessionRef positive below
    exact absurd below (Nat.not_lt.mpr positive)

theorem isGrip_of_opens (opening : operation.opens.isSome = true) :
    operation.isGrip = true := by
  cases operation <;> first | rfl | contradiction

section Step

variable {history : History} {move : Move Event} {before after : Served Model Request}
  {rest : List (Request × Nat)} {made : List Request}

section

variable (serves : connecting.Serves dsessShell move before after rest made)
include serves

theorem serves_grip :
    Grip move.event before.state.held after.state.held (made.filter (·.2.isGrip)) := by
  have stepped : (update move.event before.state).1 = after.state ∧
      requests (update move.event before.state).2 = made := by
    simpa [connecting] using serves.stepped
  obtain ⟨state, rfl⟩ := stepped
  rw [← state]
  exact update_grips move.event before.state

/-- An answer that is taken answers an outstanding request, which is outstanding no longer. -/
theorem answer_taken (answer : move.event = .shellCompleted attempt result) :
    ∃ operation number, ((attempt, operation), number) ∈ before.outstanding ∧
      operation.answeredBy result = true ∧ move = .answers number move.event ∧
      ∀ kind : Request → Bool, (before.requests).countP kind =
        (rest.map (·.1)).countP kind + if kind (attempt, operation) then 1 else 0 := by
  have accepted := serves.accepted
  rw [Served.requests]
  generalize before.outstanding = outstanding at accepted ⊢
  cases accepted with
  | arrives external =>
    rw [Move.event] at answer
    subst answer
    cases external
  | @answers event request number earlier later answers =>
    rw [Move.event] at answer
    subst answer
    simp only [Bool.and_eq_true, beq_iff_eq] at answers
    obtain ⟨asked, operation⟩ := request
    obtain ⟨rfl, answered⟩ := answers
    refine ⟨operation, number, by simp, answered, rfl, ?_⟩
    intro kind
    simp only [List.map_append, List.map_cons, List.countP_append, List.countP_cons]
    omega

theorem rest_subset :
    ∀ {entry}, entry ∈ rest → entry ∈ before.outstanding :=
  fun there => serves.accepted.sublist.subset there

end

theorem none_opening (traced : Traced history before)
    (serves : connecting.Serves dsessShell move before after rest made)
    (answer : move.event = .shellCompleted before.state.attempt result)
    (opens : ∀ operation : DsessOperation, operation.answeredBy result = true →
      operation.opens.isSome = true) {request : Request}
    (member : (request, number) ∈ rest) : isOpening before.state.attempt request = false := by
  obtain ⟨operation, _, _, answered, _, count⟩ := answer_taken serves answer
  have counted := count (isOpening before.state.attempt)
  rw [if_pos (by simp [isOpening, opens operation answered])] at counted
  have none_left : (rest.map (·.1)).countP (isOpening before.state.attempt) = 0 := by
    have bound := traced.opening
    omega
  rw [List.countP_eq_zero] at none_left
  simpa using none_left request (List.mem_map.mpr ⟨_, member, rfl⟩)

theorem asked_step {request : Request}
    (asked : Asked (history ++ [(move, made.zipIdx before.issued)]) event request number) :
    Asked history event request number ∨ move.event = event ∧ request ∈ made := by
  rcases asked_concat.mp asked with earlier | ⟨same, there⟩
  · exact .inl earlier
  · exact .inr ⟨same, List.fst_mem_of_mem_zipIdx there⟩

theorem asked_made {request : Request} (member : request ∈ made) :
    ∃ number, Asked (history ++ [(move, made.zipIdx before.issued)]) move.event request number := by
  rw [← List.zipIdx_map_fst before.issued made] at member
  obtain ⟨⟨_, number⟩, there, rfl⟩ := List.mem_map.mp member
  exact ⟨number, asked_concat.mpr (.inr ⟨rfl, there⟩)⟩

section

variable (serves : connecting.Serves dsessShell move before after rest made)
include serves

theorem attempts_grow :
    before.state.attempt ≤ after.state.attempt ∧ before.state.nextRef ≤ after.state.nextRef ∧
      (before.state.attempt = after.state.attempt →
        after.state.nextRef = before.state.nextRef) := by
  cases (serves_grip serves).opens with
  | nothing nextRef attempt =>
    exact ⟨attempt, Nat.le_of_eq nextRef.symm, fun _ => nextRef⟩
  | next nextRef attempt =>
    change after.state.attempt = before.state.attempt + 1 at attempt
    change after.state.nextRef = before.state.nextRef + 1 at nextRef
    omega

/-- What a move opens is the next session, under the next attempt, and it opens nothing else. -/
theorem opened_new
    (member : (attempt, operation) ∈ made) (opening : operation.opens = some sessionRef) :
    attempt = after.state.attempt ∧ sessionRef = before.state.nextRef ∧
      after.state.nextRef = before.state.nextRef + 1 ∧
      ∀ request ∈ made, request.2.opens.isSome = true → request.2 = operation := by
  have gripping {request : Request} (there : request ∈ made)
      (opens : request.2.opens.isSome = true) : request ∈ made.filter (·.2.isGrip) :=
    List.mem_filter.mpr ⟨there, isGrip_of_opens opens⟩
  have grip := serves_grip serves
  have among := gripping member (by simp [opening])
  cases grip.opens with
  | nothing _ _ closed => exact absurd (closed _ among) (by simp [opening])
  | @next operation' earlier nextRef _ closed asked_eq opens =>
    have only {request : Request} (there : request ∈ made)
        (opens' : request.2.opens.isSome = true) : request.2 = operation' := by
      have listed := gripping there opens'
      rw [asked_eq] at listed
      rcases List.mem_append.mp listed with early | last
      · exact absurd (closed _ early) (by simpa [Option.isSome_iff_ne_none] using opens')
      · rw [List.mem_singleton.mp last]
    have same : operation = operation' := only member (by simp [opening])
    subst same
    refine ⟨grip.asked_attempt among, Option.some.inj (opening.symm.trans opens), nextRef, ?_⟩
    intro request there opens'
    exact only there opens'

end

section

variable (traced : Traced history before)
  (serves : connecting.Serves dsessShell move before after rest made)
include traced serves

theorem outstanding_step {request : Request} (member : (request, number) ∈ after.outstanding) :
    ∃ event, Asked (history ++ [(move, made.zipIdx before.issued)]) event request number := by
  rw [serves.outstanding, List.mem_append] at member
  rcases member with old | new
  · exact (traced.outstanding (rest_subset serves old)).imp fun _ asked => asked.concat
  · exact ⟨_, asked_concat.mpr (.inr ⟨rfl, new⟩)⟩

theorem opened_step
    (asked : Asked (history ++ [(move, made.zipIdx before.issued)]) event (attempt, operation)
      number) (opening : operation.opens = some sessionRef) :
    sessionRef < after.state.nextRef ∧ attempt ≤ after.state.attempt ∧
      (attempt = after.state.attempt → sessionRef + 1 = after.state.nextRef) := by
  obtain ⟨grown, further, still⟩ := attempts_grow serves
  rcases asked_step asked with earlier | ⟨_, there⟩
  · obtain ⟨below, past, last⟩ := traced.opened earlier opening
    refine ⟨by omega, by omega, ?_⟩
    intro current
    rw [still (by omega)]
    exact last (by omega)
  · obtain ⟨current, next, nextRef, _⟩ := opened_new serves there opening
    omega

theorem same_step {event' : Event} {attempt' number' : Nat} {operation' : DsessOperation}
    (asked : Asked (history ++ [(move, made.zipIdx before.issued)]) event (attempt, operation)
      number)
    (asked' : Asked (history ++ [(move, made.zipIdx before.issued)]) event'
      (attempt', operation') number')
    (opening : operation.opens = some sessionRef) (opening' : operation'.opens = some sessionRef) :
    operation = operation' := by
  rcases asked_step asked with earlier | ⟨_, there⟩
  · rcases asked_step asked' with earlier' | ⟨_, there'⟩
    · exact traced.same earlier earlier' opening opening'
    · have below := (traced.opened earlier opening).1
      have next := (opened_new serves there' opening').2.1
      omega
  · rcases asked_step asked' with earlier' | ⟨_, there'⟩
    · have below := (traced.opened earlier' opening').1
      have next := (opened_new serves there opening).2.1
      omega
    · obtain ⟨_, _, _, only⟩ := opened_new serves there' opening'
      exact only _ there (by simp [opening])

end

theorem persisting (serves : connecting.Serves dsessShell move before after rest made)
    (member : (attempt, DsessOperation.persistWalletPairCounters sessionRef) ∈ made) :
    before.state.held.live = some sessionRef ∧ after.state.held = before.state.held := by
  have among : (attempt, DsessOperation.persistWalletPairCounters sessionRef) ∈
      made.filter (·.2.isGrip) := List.mem_filter.mpr ⟨member, rfl⟩
  have grip := serves_grip serves
  generalize made.filter (·.2.isGrip) = asked at grip among
  generalize after.state.held = next at grip
  cases grip with
  | persist live =>
    cases List.mem_singleton.mp among
    exact ⟨live, rfl⟩
  | _ => simp at among

section

variable (traced : Traced history before)
  (serves : connecting.Serves dsessShell move before after rest made)
include traced serves

theorem counted_step
    (asked : Asked (history ++ [(move, made.zipIdx before.issued)]) event
      (attempt, .persistWalletPairCounters sessionRef) number) :
    attempt ≤ after.state.attempt ∧
      (attempt = after.state.attempt → sessionRef + 1 = after.state.nextRef) := by
  obtain ⟨grown, further, still⟩ := attempts_grow serves
  rcases asked_step asked with earlier | ⟨_, there⟩
  · obtain ⟨past, last⟩ := traced.counted earlier
    refine ⟨by omega, ?_⟩
    intro current
    rw [still (by omega)]
    exact last (by omega)
  · obtain ⟨live, kept⟩ := persisting serves there
    have attempt_eq : attempt = after.state.attempt :=
      (serves_grip serves).asked_attempt (List.mem_filter.mpr ⟨there, rfl⟩)
    have nextRef : after.state.nextRef = before.state.nextRef := congrArg Held.nextRef kept
    have last : sessionRef + 1 = before.state.nextRef := traced.slotted.live live
    omega

theorem past_closed (later : before.state.attempt < after.state.attempt) :
    (rest.map (·.1)).countP (isOpening after.state.attempt) = 0 := by
  rw [List.countP_eq_zero]
  intro request member
  obtain ⟨⟨⟨attempt, operation⟩, number⟩, there, rfl⟩ := List.mem_map.mp member
  obtain ⟨event, asked⟩ := traced.outstanding (rest_subset serves there)
  simp only [isOpening, Bool.and_eq_true, beq_iff_eq, not_and]
  intro current opens
  obtain ⟨sessionRef, opening⟩ := Option.isSome_iff_exists.mp opens
  have past := (traced.opened asked opening).2.1
  omega

theorem opening_step
    :
    after.requests.countP (isOpening after.state.attempt) ≤ 1 := by
  have grip := serves_grip serves
  have requests : after.requests = rest.map (·.1) ++ made := by
    rw [Served.requests, serves.outstanding, List.map_append, List.zipIdx_map_fst]
  have kept : (rest.map (·.1)).countP (isOpening before.state.attempt) ≤ 1 :=
    Nat.le_trans ((serves.accepted.sublist.map _).countP_le) traced.opening
  have closed_count {asked : List Request}
      (closed : ∀ request ∈ asked, request.2.opens = none) :
      asked.countP (isOpening after.state.attempt) = 0 := by
    rw [List.countP_eq_zero]
    intro request member
    simp [isOpening, closed request member]
  have made_count : made.countP (isOpening after.state.attempt) =
      (made.filter (·.2.isGrip)).countP (isOpening after.state.attempt) := by
    rw [List.countP_filter]
    apply List.countP_congr
    intro request _
    simp only [isOpening, Bool.and_eq_true]
    constructor
    · exact fun both => ⟨both, isGrip_of_opens both.2⟩
    · exact fun both => both.1
  rw [requests, List.countP_append, made_count]
  cases grip.opens with
  | nothing _ attempt closed =>
    rw [closed_count closed]
    rcases Nat.eq_or_lt_of_le attempt with same | later
    · change before.state.attempt = after.state.attempt at same
      rw [← same]
      exact kept
    · change before.state.attempt < after.state.attempt at later
      rw [past_closed traced serves later]
      exact Nat.zero_le _
  | next _ attempt closed asked_eq =>
    have later : before.state.attempt < after.state.attempt :=
      Nat.lt_of_lt_of_eq (Nat.lt_succ_self _) attempt.symm
    rw [asked_eq, List.countP_append, closed_count closed, past_closed traced serves later]
    simp only [List.countP_cons, List.countP_nil]
    split <;> decide

theorem answer_last (answer : move.event = .shellCompleted before.state.attempt result) :
    ∃ operation number event,
      Asked history event (before.state.attempt, operation) number ∧
      ((before.state.attempt, operation), number) ∈ before.outstanding ∧
      operation.answeredBy result = true ∧
      Answered (history ++ [(move, made.zipIdx before.issued)]) number move.event ∧
      ∀ sessionRef, operation.opens = some sessionRef →
        sessionRef + 1 = before.state.nextRef := by
  obtain ⟨operation, number, there, answered, moved, _⟩ := answer_taken serves answer
  obtain ⟨event, asked⟩ := traced.outstanding there
  refine ⟨operation, number, event, asked, there, answered, ?_, ?_⟩
  · exact ⟨_, List.mem_append_right _ (List.mem_singleton_self _), moved⟩
  · intro sessionRef opening
    exact (traced.opened asked opening).2.2 rfl

theorem slotted_step
    :
    Slotted after.state.held := by
  apply traced.slotted.step (serves_grip serves)
  intro attempt answer current
  change before.state.attempt = attempt at current
  subst current
  obtain ⟨operation, number, _, _, there, answered, _, last⟩ := answer_last traced serves answer
  cases operation with
  | restoreWalletPair sessionRef =>
    obtain ⟨unlive, unpaired, unprepared, same⟩ := traced.restoring there
    refine ⟨unlive, unpaired, unprepared, ?_⟩
    intro held restore
    rw [same held restore]
    exact last sessionRef rfl
  | _ => contradiction

theorem current_cases (member : ((after.state.attempt, operation), number) ∈ after.outstanding)
    (opening : operation.opens = some sessionRef) :
    (after.state.attempt = before.state.attempt ∧
        ((after.state.attempt, operation), number) ∈ rest) ∨
      (after.state.attempt, operation) ∈ made.filter (·.2.isGrip) ∧
        ((after.state.attempt, operation), number) ∈ made.zipIdx before.issued := by
  rw [serves.outstanding, List.mem_append] at member
  rcases member with old | new
  · left
    obtain ⟨event, asked⟩ := traced.outstanding (rest_subset serves old)
    have past := (traced.opened asked opening).2.1
    have grown := (attempts_grow serves).1
    exact ⟨by omega, old⟩
  · right
    refine ⟨List.mem_filter.mpr ⟨List.fst_mem_of_mem_zipIdx new, ?_⟩, new⟩
    exact isGrip_of_opens (by simp [opening])

theorem restoring_step
    (member : ((after.state.attempt, .restoreWalletPair sessionRef), number) ∈
      after.outstanding) :
    after.state.held.live = none ∧ after.state.held.pending = none ∧
      after.state.held.prepare = none ∧
      ∀ held, after.state.held.restore = some held → held = sessionRef := by
  have grip := serves_grip serves
  have attempt_eq : after.state.attempt = after.state.held.attempt := rfl
  rcases current_cases traced serves member rfl with ⟨current, old⟩ | ⟨among, _⟩
  · rw [current] at old
    obtain ⟨unlive, unpaired, unprepared, same⟩ := traced.restoring (rest_subset serves old)
    have unanswered {result : DsessShellResult}
        (answer : move.event = .shellCompleted before.state.attempt result)
        (opens : ∀ operation : DsessOperation, operation.answeredBy result = true →
          operation.opens.isSome = true) : False := by
      have closed := none_opening traced serves answer opens old
      simp [isOpening, DsessOperation.opens] at closed
    rw [attempt_eq] at current
    change _ = before.state.held.attempt at current
    generalize made.filter (·.2.isGrip) = asked at grip
    generalize after.state.held = next at grip current ⊢
    cases grip with
    | still | push | persist | persisted | connected =>
      exact ⟨unlive, unpaired, unprepared, same⟩
    | pair | inject | hangUp | restoreInject | restorePair =>
      exact absurd current (Nat.succ_ne_self _)
    | confirm pending => exact absurd (unpaired.symm.trans pending) nofun
    | cancel => exact ⟨unlive, rfl, unprepared, same⟩
    | drop | lost | unrestored | unconnected => exact ⟨rfl, unpaired, unprepared, same⟩
    | prepared prepare | unprepared prepare => exact absurd (unprepared.symm.trans prepare) nofun
    | invalid => exact ⟨unlive, unpaired, unprepared, nofun⟩
    | restored _ answer =>
      exact (unanswered answer (by intro operation; cases operation <;> simp
        [DsessOperation.answeredBy, DsessOperation.opens])).elim
  · generalize made.filter (·.2.isGrip) = asked at grip among
    rw [attempt_eq] at among
    generalize after.state.held = next at grip among ⊢
    cases grip with
    | restorePair free unpaired unprepared =>
      cases List.mem_singleton.mp among
      exact ⟨free, unpaired, unprepared, fun held there => (Option.some.inj there).symm⟩
    | _ => simp at among

theorem injected_step (live : after.state.held.live = some sessionRef)
    (kind : after.state.held.kind = some .remoteInject) :
    ∃ event attempt session number, Asked (history ++ [(move, made.zipIdx before.issued)]) event
      (attempt, .connectRemoteInject sessionRef session) number := by
  have kept (was_live : before.state.held.live = some sessionRef)
      (was_kind : before.state.held.kind = some .remoteInject) :
      ∃ event attempt session number, Asked (history ++ [(move, made.zipIdx before.issued)]) event
        (attempt, .connectRemoteInject sessionRef session) number := by
    obtain ⟨event, attempt, session, number, asked⟩ := traced.injected was_live was_kind
    exact ⟨event, attempt, session, number, asked.concat⟩
  have opened {attempt : Nat} {session : RemoteInjectSession}
      (member : (attempt, .connectRemoteInject sessionRef session) ∈
        made.filter (·.2.isGrip)) :
      ∃ event attempt session number, Asked (history ++ [(move, made.zipIdx before.issued)]) event
        (attempt, .connectRemoteInject sessionRef session) number := by
    obtain ⟨number, asked⟩ := @asked_made history move before made _
        (List.mem_of_mem_filter member)
    exact ⟨_, attempt, session, number, asked⟩
  have grip := serves_grip serves
  generalize made.filter (·.2.isGrip) = asked at grip opened
  generalize after.state.held = next at grip live kind
  cases grip with
  | still | push | persist | persisted | prepared | unprepared | connected | invalid | cancel
  | restorePair => exact kept live kind
  | inject =>
    cases live
    exact opened (List.mem_append_right _ (List.mem_singleton_self _))
  | restoreInject =>
    cases live
    exact opened (List.mem_singleton_self _)
  | pair | hangUp | drop | lost | unrestored | unconnected => cases live
  | confirm | restored => cases kind

theorem fingerprint_step (pending : after.state.held.pending = some sessionRef) :
    ∃ fingerprint, after.state.held.fingerprint = some fingerprint ∧
      Prepared (history ++ [(move, made.zipIdx before.issued)]) sessionRef fingerprint := by
  have kept (was_pending : before.state.held.pending = some sessionRef) :
      ∃ fingerprint, before.state.held.fingerprint = some fingerprint ∧
        Prepared (history ++ [(move, made.zipIdx before.issued)]) sessionRef fingerprint := by
    obtain ⟨fingerprint, shown, event, attempt, uri, number, dapp, asked, answered⟩ :=
      traced.fingerprint was_pending
    exact ⟨fingerprint, shown, event, attempt, uri, number, dapp, asked.concat, answered.concat⟩
  have reported {fingerprint : String} {dapp : DsessDappInfo}
      (prepare : before.state.held.prepare = some sessionRef)
      (answer : move.event = .shellCompleted before.state.attempt
        (.walletPairPrepared fingerprint dapp)) :
      Prepared (history ++ [(move, made.zipIdx before.issued)]) sessionRef fingerprint := by
    obtain ⟨operation, number, event, asked, _, answered, answers, last⟩ :=
      answer_last traced serves answer
    cases operation with
    | prepareWalletPair opened uri =>
      have same : opened = sessionRef :=
        Nat.succ.inj ((last opened rfl).trans (traced.slotted.prepare prepare).symm)
      subst same
      rw [answer] at answers
      exact ⟨event, _, uri, number, dapp, asked.concat, answers⟩
    | _ => contradiction
  have grip := serves_grip serves
  generalize made.filter (·.2.isGrip) = asked at grip
  generalize after.state.held = next at grip pending ⊢
  cases grip with
  | still | push | persist | persisted | drop | lost | unprepared | connected | unrestored
  | unconnected | invalid | restored | restoreInject | restorePair => exact kept pending
  | pair | inject | confirm | cancel | hangUp => cases pending
  | prepared prepare answer =>
    cases pending
    exact ⟨_, rfl, reported prepare answer⟩

theorem fresh_step {session : RemoteInjectSession}
    (member : ((after.state.attempt, .connectRemoteInject sessionRef session), number) ∈
      after.outstanding) :
    after.state.held.riRestore = true ∨
      ∃ raw, Asked (history ++ [(move, made.zipIdx before.issued)]) (.inputSubmitted raw)
        (after.state.attempt, .connectRemoteInject sessionRef session) number := by
  have grip := serves_grip serves
  rcases current_cases traced serves member rfl with ⟨current, old⟩ | ⟨among, new⟩
  · rw [current] at old
    rcases traced.fresh (rest_subset serves old) with restoring | ⟨raw, asked⟩
    · have unanswered {result : DsessShellResult}
          (answer : move.event = .shellCompleted before.state.attempt result)
          (opens : ∀ operation : DsessOperation, operation.answeredBy result = true →
            operation.opens.isSome = true) : False := by
        have closed := none_opening traced serves answer opens old
        simp [isOpening, DsessOperation.opens] at closed
      left
      change after.state.held.attempt = before.state.held.attempt at current
      generalize made.filter (·.2.isGrip) = asked at grip
      generalize after.state.held = next at grip current ⊢
      cases grip with
      | still | push | persist | persisted | confirm | cancel | drop | lost | prepared
      | unprepared | unconnected | invalid | restored => exact restoring
      | pair | inject | hangUp | restoreInject | restorePair =>
        exact absurd current (Nat.succ_ne_self _)
      | connected answer | unrestored _ answer =>
        exact (unanswered answer (by intro operation; cases operation <;> simp
          [DsessOperation.answeredBy, DsessOperation.opens])).elim
    · right
      rw [current]
      exact ⟨raw, asked.concat⟩
  · have asked : Asked (history ++ [(move, made.zipIdx before.issued)]) move.event
        (after.state.attempt, .connectRemoteInject sessionRef session) number :=
      asked_concat.mpr (.inr ⟨rfl, new⟩)
    generalize made.filter (·.2.isGrip) = among_asked at grip among
    change (after.state.held.attempt, _) ∈ _ at among
    generalize after.state.held = next at grip among ⊢
    cases grip with
    | inject input =>
      rw [input] at asked
      exact .inr ⟨_, asked⟩
    | restoreInject => exact .inl rfl
    | _ => simp at among

end

theorem Released.concat {turn : Move Event × List (Request × Nat)}
    (released : Released history sessionRef) : Released (history ++ [turn]) sessionRef := by
  obtain ⟨event, attempt, number, asked⟩ := released
  exact ⟨event, attempt, number, asked.concat⟩

theorem Reported.concat {turn : Move Event × List (Request × Nat)}
    (reported : Reported history sessionRef) : Reported (history ++ [turn]) sessionRef := by
  cases reported with
  | prepare asked failed => exact .prepare asked.concat failed.concat
  | restore asked failed => exact .restore asked.concat failed.concat
  | connect asked failed => exact .connect asked.concat failed.concat
  | transport there disconnected =>
    exact .transport (List.mem_append_left _ there) disconnected

section

variable (traced : Traced history before)
  (serves : connecting.Serves dsessShell move before after rest made)
include traced serves

theorem handled_of_gone
    (gone : Gone move.event before.state.held after.state.held (made.filter (·.2.isGrip))
      sessionRef) :
    Handled (history ++ [(move, made.zipIdx before.issued)]) after.state.held sessionRef := by
  cases gone with
  | holds holds => exact .inl holds
  | released there =>
    obtain ⟨number, asked⟩ := @asked_made history move before made _
      (List.mem_of_mem_filter there)
    exact .inr (.inl ⟨_, _, number, asked⟩)
  | transport disconnected =>
    exact .inr (.inr (.transport (List.mem_append_right _ (List.mem_singleton_self _))
      disconnected))
  | prepare there answer =>
    obtain ⟨operation, number, event, asked, _, answered, answers, last⟩ :=
      answer_last traced serves answer
    cases operation with
    | prepareWalletPair opened =>
      have same : opened = sessionRef :=
        Nat.succ.inj ((last opened rfl).trans (traced.slotted.prepare there).symm)
      subst same
      rw [answer] at answers
      exact .inr (.inr (.prepare asked.concat answers))
    | _ => contradiction
  | connect there fresh answer =>
    obtain ⟨operation, number, event, asked, member, answered, answers, last⟩ :=
      answer_last traced serves answer
    cases operation with
    | connectRemoteInject opened =>
      have same : opened = sessionRef :=
        Nat.succ.inj ((last opened rfl).trans (traced.slotted.live there).symm)
      subst same
      rw [answer] at answers
      rcases traced.fresh member with restoring | ⟨raw, input⟩
      · exact absurd (fresh.symm.trans restoring) nofun
      · exact .inr (.inr (.connect input.concat answers))
    | _ => contradiction
  | restore there answer =>
    obtain ⟨operation, number, event, asked, member, answered, answers, last⟩ :=
      answer_last traced serves answer
    cases operation with
    | restoreWalletPair =>
      obtain ⟨_, _, _, same⟩ := traced.restoring member
      cases same sessionRef there
      rw [answer] at answers
      exact .inr (.inr (.restore asked.concat answers))
    | _ => contradiction

theorem handled_step (positive : 0 < sessionRef) (below : sessionRef < after.state.nextRef) :
    Handled (history ++ [(move, made.zipIdx before.issued)]) after.state.held sessionRef := by
  have grip := serves_grip serves
  by_cases old : sessionRef < before.state.nextRef
  · rcases traced.handled sessionRef positive old with holds | released | reported
    · apply handled_of_gone traced serves
      apply grip.gone traced.slotted _ holds
      intro answer
      obtain ⟨operation, number, _, _, member, answered, _, _⟩ := answer_last traced serves answer
      cases operation with
      | restoreWalletPair => exact (traced.restoring member).1
      | _ => contradiction
    · exact .inr (.inl released.concat)
    · exact .inr (.inr reported.concat)
  · change sessionRef < after.state.held.nextRef at below
    change ¬ sessionRef < before.state.held.nextRef at old
    generalize made.filter (·.2.isGrip) = asked at grip
    left
    generalize after.state.held = next at grip below ⊢
    have last (grown : sessionRef < before.state.held.nextRef + 1) :
        before.state.held.nextRef = sessionRef := by omega
    cases grip with
    | pair => exact .prepare (congrArg some (last below))
    | inject | restoreInject => exact .live (congrArg some (last below))
    | restorePair => exact .restore (congrArg some (last below))
    | _ => exact absurd below old

end

theorem Traced.step (traced : Traced history before)
    (serves : connecting.Serves dsessShell move before after rest made) :
    Traced (history ++ [(move, made.zipIdx before.issued)]) after where
  outstanding := outstanding_step traced serves
  opened := opened_step traced serves
  same := same_step traced serves
  counted := counted_step traced serves
  opening := opening_step traced serves
  slotted := slotted_step traced serves
  restoring := restoring_step traced serves
  injected := injected_step traced serves
  fingerprint := fingerprint_step traced serves
  fresh := fresh_step traced serves
  handled _ positive below := handled_step traced serves positive below

end Step

variable {served : Served Model Request}

variable {history : History}

theorem traced_of_run {allowed : Move Event → Served Model Request → Bool} (run : Process.Run session allowed history served) :
    Traced history served := by
  apply run.invariant Traced .init
  intro history move before after output _ stepped traced
  obtain ⟨rest, made, serves, rfl⟩ := Process.served_step stepped
  exact traced.step serves

/-- The handles in the four slots. -/
def Held.occupied (held : Held) : List Nat :=
  held.live.toList ++ held.pending.toList ++ held.prepare.toList ++ held.restore.toList

/-- No pairing or connection is begun while a restore is awaited. -/
def undisturbed (move : Move Event) (served : Served Model Request) : Bool :=
  match move.event with
  | .inputSubmitted raw =>
    served.state.awaitingRestore.isNone ||
      match classifyConnectInput raw with
      | .walletPair _ | .remoteInject _ => false
      | .browser _ | .invalid => true
  | _ => true

def RestoresAlone (held : Held) : Prop :=
  held.restore = none ∨ held.live = none ∧ held.pending = none ∧ held.prepare = none

theorem RestoresAlone.step {event : Event} {held after : Held} {asked : List Request}
    (alone : RestoresAlone held) (grip : Grip event held after asked)
    (begun : ∀ raw, event = .inputSubmitted raw → held.restore = none ∨
      (∃ url, classifyConnectInput raw = .browser url) ∨ classifyConnectInput raw = .invalid) :
    RestoresAlone after := by
  unfold RestoresAlone at *
  cases grip with
  | still | push | persist | persisted | connected => exact alone
  | pair input read | inject input read =>
    rcases begun _ input with unrestored | ⟨_, browser⟩ | invalid
    · exact .inl unrestored
    · exact absurd (browser.symm.trans read) nofun
    · exact absurd (invalid.symm.trans read) nofun
  | confirm pending => exact .inl (by simpa [pending] using alone)
  | cancel => exact alone.imp_right fun free => ⟨free.1, rfl, free.2.2⟩
  | hangUp => exact .inr ⟨rfl, rfl, rfl⟩
  | restoreInject _ _ _ unrestored => exact .inl unrestored
  | restorePair free unpaired unprepared => exact .inr ⟨free, unpaired, unprepared⟩
  | drop | lost | unrestored | unconnected => exact alone.imp_right fun free => ⟨rfl, free.2⟩
  | prepared prepare => exact .inl (by simpa [prepare] using alone)
  | unprepared => exact alone.imp_right fun free => ⟨free.1, free.2.1, rfl⟩
  | invalid | restored => exact .inl rfl

theorem occupied_of_slotted {held : Held} (slotted : Slotted held) (alone : RestoresAlone held) :
    held.occupied.length ≤ 1 := by
  have live_pending := slotted.live_pending
  have live_prepare := slotted.live_prepare
  have pending_prepare := slotted.pending_prepare
  unfold RestoresAlone at alone
  unfold Held.occupied
  cases live : held.live <;> cases pending : held.pending <;> cases prepare : held.prepare <;>
    cases restore : held.restore <;> simp_all

theorem begun_of_undisturbed {move : Move Event}
    (fits : undisturbed move served = true) (raw : String)
    (input : move.event = .inputSubmitted raw) :
    served.state.held.restore = none ∨ (∃ url, classifyConnectInput raw = .browser url) ∨
      classifyConnectInput raw = .invalid := by
  unfold undisturbed at fits
  rw [input] at fits
  rcases Bool.or_eq_true_iff.mp fits with unrestored | other
  · exact .inl (Option.isNone_iff_eq_none.mp unrestored)
  · cases read : classifyConnectInput raw with
    | walletPair uri | remoteInject session => simp [read] at other
    | browser url => exact .inr (.inl ⟨url, rfl⟩)
    | invalid => exact .inr (.inr rfl)

theorem alone_of_run (run : Process.Run session undisturbed history served) :
    RestoresAlone served.state.held := by
  apply run.state_invariant (fun served => RestoresAlone served.state.held) (.inl rfl)
  intro move before after output fits stepped alone
  obtain ⟨rest, made, serves, rfl⟩ := Process.served_step stepped
  exact alone.step (serves_grip serves) (begun_of_undisturbed fits)

theorem occupied_of_disturbed {move : Move Event} {after : Served Model Request}
    {rest : List (Request × Nat)}
    (serves : connecting.Serves dsessShell move before after rest made)
    (disturbed : undisturbed move before = false) : 1 < after.state.held.occupied.length := by
  obtain ⟨raw, input⟩ : ∃ raw, move.event = .inputSubmitted raw := by
    unfold undisturbed at disturbed
    split at disturbed
    case _ raw input => exact ⟨raw, input⟩
    case _ => contradiction
  simp only [undisturbed, input, Bool.or_eq_false_iff] at disturbed
  obtain ⟨awaited, begins⟩ := disturbed
  have stepped : (update move.event before.state).1 = after.state := by
    have both := serves.stepped
    simp only [connecting, Option.some.injEq, Prod.mk.injEq] at both
    exact both.1
  obtain ⟨sessionRef, restore⟩ :
      ∃ sessionRef, before.state.awaitingRestore = some sessionRef :=
    Option.isSome_iff_exists.mp (by simpa using awaited)
  rw [input] at stepped
  rw [← stepped]
  simp only [update, onInput]
  cases read : classifyConnectInput raw with
  | walletPair uri | remoteInject session =>
    simp [Held.occupied, Model.held, disconnectCurrent, restore]
  | browser url | invalid => simp [read] at begins

/-- Every handle that a session ever opened is in a slot, or was released, or came to nothing; one
slot holds a handle at most; a join is confirmed only for the pairing whose fingerprint is shown;
and a pairing is told of the wallet only once its counters are written. -/
structure HandlesKept (history : History) (served : Served Model Request) : Prop where
  handled : ∀ sessionRef, 0 < sessionRef → sessionRef < served.state.nextRef →
    Handled history served.state.held sessionRef
  single : served.state.held.occupied.length ≤ 1
  joins : ∀ {move after output attempt sessionRef number},
    session.step move served = some (after, output) →
    ((attempt, .confirmWalletPairJoin sessionRef), number) ∈ output →
      move.event = .fingerprintConfirmed ∧ served.state.pendingWpRef = some sessionRef ∧
        ∃ fingerprint, (view served.state).pendingFingerprint = some fingerprint ∧
          Prepared history sessionRef fingerprint
  pushes : ∀ {move after output attempt sessionRef chainId number},
    session.step move served = some (after, output) →
    ((attempt, .pushWalletInfo sessionRef chainId), number) ∈ output →
    Pairs (history ++ [(move, output)]) sessionRef →
      ∃ event attempt number,
        Asked history event (attempt, .persistWalletPairCounters sessionRef) number ∧
          move = .answers number (.shellCompleted attempt (.countersPersisted true))

theorem joins_of_traced {after : Served Model Request}
    {move : Move Event} {rest : List (Request × Nat)}
    (traced : Traced history before)
    (serves : connecting.Serves dsessShell move before after rest made)
    (member : (attempt, .confirmWalletPairJoin sessionRef) ∈ made) :
    move.event = .fingerprintConfirmed ∧ before.state.pendingWpRef = some sessionRef ∧
      ∃ fingerprint, (view before.state).pendingFingerprint = some fingerprint ∧
        Prepared history sessionRef fingerprint := by
  have among : (attempt, DsessOperation.confirmWalletPairJoin sessionRef) ∈
      made.filter (·.2.isGrip) := List.mem_filter.mpr ⟨member, rfl⟩
  have grip := serves_grip serves
  generalize made.filter (·.2.isGrip) = asked at grip among
  generalize after.state.held = next at grip
  cases grip with
  | confirm pending confirmed =>
    cases List.mem_singleton.mp among
    exact ⟨confirmed, pending, traced.fingerprint pending⟩
  | _ => simp at among

theorem pushes_of_traced {after : Served Model Request}
    {move : Move Event} {rest : List (Request × Nat)}
    (traced : Traced history before)
    (serves : connecting.Serves dsessShell move before after rest made)
    {chainId : Nat}
    (member : (attempt, .pushWalletInfo sessionRef chainId) ∈ made)
    (pairs : Pairs (history ++ [(move, made.zipIdx before.issued)]) sessionRef) :
    ∃ event attempt number,
      Asked history event (attempt, .persistWalletPairCounters sessionRef) number ∧
        move = .answers number (.shellCompleted attempt (.countersPersisted true)) := by
  have among : (attempt, DsessOperation.pushWalletInfo sessionRef chainId) ∈
      made.filter (·.2.isGrip) := List.mem_filter.mpr ⟨member, rfl⟩
  have grip := serves_grip serves
  generalize made.filter (·.2.isGrip) = asked at grip among
  generalize after.state.held = next at grip
  cases grip with
  | push live kind =>
    cases List.mem_singleton.mp among
    obtain ⟨_, _, _, _, connected⟩ := traced.injected live kind
    obtain ⟨_, _, operation, _, paired, opening⟩ := pairs
    have later := traced.step serves
    rcases opening with ⟨uri, rfl⟩ | rfl
    · exact absurd (later.same connected.concat paired rfl rfl) nofun
    · exact absurd (later.same connected.concat paired rfl rfl) nofun
  | persisted live answer =>
    cases List.mem_singleton.mp among
    obtain ⟨operation, number, there, answered, moved, _⟩ := answer_taken serves answer
    obtain ⟨event, asked⟩ := traced.outstanding there
    cases operation with
    | persistWalletPairCounters counted =>
      have same : counted = sessionRef :=
        Nat.succ.inj (((traced.counted asked).2 rfl).trans (traced.slotted.live live).symm)
      subst same
      rw [answer] at moved
      exact ⟨event, _, number, asked, moved⟩
    | _ => contradiction
  | _ => simp at among

/-- In every run in which no pairing or connection is begun while a restore is awaited, every handle
is owned or released; the first that is begun then takes a second slot. -/
theorem handles_kept (run : Process.Run session undisturbed history served) :
    HandlesKept history served ∧
      ∀ move after output, session.step move served = some (after, output) →
        undisturbed move served = false → ¬ HandlesKept (history ++ [(move, output)]) after := by
  have traced := traced_of_run run
  constructor
  · constructor
    case handled => exact traced.handled
    case single => exact occupied_of_slotted traced.slotted (alone_of_run run)
    case joins =>
      intro move after output attempt sessionRef number stepped member
      obtain ⟨rest, made, serves, rfl⟩ := Process.served_step stepped
      exact joins_of_traced traced serves (List.fst_mem_of_mem_zipIdx member)
    case pushes =>
      intro move after output attempt sessionRef chainId number stepped member pairs
      obtain ⟨rest, made, serves, rfl⟩ := Process.served_step stepped
      exact pushes_of_traced traced serves (List.fst_mem_of_mem_zipIdx member) pairs
  · intro move after output stepped disturbed kept
    obtain ⟨rest, made, serves, rfl⟩ := Process.served_step stepped
    exact absurd kept.single (Nat.not_le.mpr (occupied_of_disturbed serves disturbed))

/-- A text is read as a pairing, its session is prepared, and its fingerprint is confirmed. -/
def pairing : List (Move Event) :=
  [.arrives (.inputSubmitted "walletpair:x"),
    .answers 0 (.shellCompleted 1 (.walletPairPrepared "1234" ⟨"dApp", "https://d.app", none⟩)),
    .arrives .fingerprintConfirmed]

theorem pairing_kept : ∃ history served, Process.Run session undisturbed history served ∧
    served.state.liveRef = some 1 ∧ HandlesKept history served := by
  have played : (session.play undisturbed pairing).any
      (fun reached => reached.2.state.liveRef = some 1) = true := by decide
  obtain ⟨history, served, run, live⟩ := Process.exists_run_of_play played
  exact ⟨history, served, run, of_decide_eq_true live, (handles_kept run).1⟩

/-- A restore is awaited, and a text is read as a pairing. -/
def repaired : List (Move Event) :=
  [.arrives (.restoreLoaded none (some ⟨"dApp", "https://d.app", none⟩)),
    .arrives (.inputSubmitted "walletpair:x")]

theorem restore_beside_prepare : ∃ history served,
    Process.Run session Process.unrestricted history served ∧
      served.state.awaitingRestore = some 1 ∧ served.state.awaitingPrepare = some 2 ∧
        ¬ HandlesKept history served := by
  have played : (session.play Process.unrestricted repaired).any
      (fun reached => reached.2.state.awaitingRestore = some 1 &&
        reached.2.state.awaitingPrepare = some 2) = true := by decide
  obtain ⟨history, served, run, both⟩ := Process.exists_run_of_play played
  simp only [Bool.and_eq_true, decide_eq_true_eq] at both
  refine ⟨history, served, run, both.1, both.2, ?_⟩
  intro kept
  have single := kept.single
  have restore : served.state.held.restore = some 1 := both.1
  have prepare : served.state.held.prepare = some 2 := both.2
  simp only [Held.occupied, restore, prepare, List.length_append, Option.toList_some,
    List.length_cons, List.length_nil] at single
  omega

end VelaWallet.DappSession
