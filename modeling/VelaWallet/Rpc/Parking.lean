import VelaWallet.Rpc.Starts

/-!
# Calls that wait

A call waits in one place at most: behind the load of its chain's pool, in its chain's race, or on
a request of its own.  What waited is started one after the other, each call once.
-/

namespace VelaWallet.RpcPool

variable {model : Model} {nowMs : Float}

variable {callId : String}

def callsOf (works : List PendingWork) : List String :=
  works.filterMap fun work => match work with
    | .call callId => some callId
    | .base .. | .bestRpc .. => none

@[simp] theorem callsOf_nil : callsOf [] = [] := rfl

@[simp] theorem callsOf_call (callId : String) (works : List PendingWork) :
    callsOf (.call callId :: works) = callId :: callsOf works := rfl

@[simp] theorem callsOf_append (first second : List PendingWork) :
    callsOf (first ++ second) = callsOf first ++ callsOf second := List.filterMap_append

theorem callsOf_map_call (callIds : List String) : callsOf (callIds.map .call) = callIds := by
  induction callIds with
  | nil => rfl
  | cons _ _ ih => rw [List.map_cons, callsOf_call, ih]

/-- The call waits behind no load and in no race. -/
structure Free (model : Model) (callId : String) : Prop where
  pending : ∀ chainId shape, model.shape? chainId = some shape → callId ∉ callsOf shape.pending
  racing : ∀ chainId race, model.race? chainId = some race → callId ∉ race.waiters

def Waits (model : Model) (chainId : UInt32) (state : SessionState) (callId : String) : Prop :=
  ∃ session, model.call? callId = some session ∧ session.chainId = chainId ∧ session.state = state

/-- Every call that waits behind a load or in a race waits there, once. -/
structure Parked (model : Model) : Prop where
  pending : ∀ chainId shape, model.shape? chainId = some shape →
    (callsOf shape.pending).Nodup ∧
      ∀ callId ∈ callsOf shape.pending, Waits model chainId .waitingPool callId
  racing : ∀ chainId race, model.race? chainId = some race →
    race.waiters.Nodup ∧ ∀ callId ∈ race.waiters, Waits model chainId .waitingProbe callId

theorem Parked.free (parked : Parked model) (moving : ∀ session, model.call? callId = some session →
      session.state ≠ .waitingPool ∧ session.state ≠ .waitingProbe) : Free model callId where
  pending chainId shape held member := by
    have ⟨session, found, _, waits⟩ := (parked.pending chainId shape held).2 callId member
    exact (moving session found).1 waits
  racing chainId race held member := by
    have ⟨session, found, _, waits⟩ := (parked.racing chainId race held).2 callId member
    exact (moving session found).2 waits

theorem Free.of_same {after : Model} (free : Free model callId)
    (shape : ∀ chainId, after.shape? chainId = model.shape? chainId)
    (probes : after.probes = model.probes) : Free after callId where
  pending chainId pool held := free.pending chainId pool (shape chainId ▸ held)
  racing chainId race held := by
    rw [Model.race?, probes] at held
    exact free.racing chainId race held

section

variable (parked : Parked model) (free : Free model callId)
include parked free

theorem Parked.moves {after : Model}
    (shapes : ∀ chainId, after.shape? chainId = model.shape? chainId)
    (spares : Spares callId model after) : Parked after where
  pending chainId shape held := by
    rw [shapes chainId] at held
    have ⟨once, waits⟩ := parked.pending chainId shape held
    refine ⟨once, ?_⟩
    intro other member
    have ⟨session, found, waiting⟩ := waits other member
    refine ⟨session, ?_, waiting⟩
    rw [spares.others other fun same => free.pending chainId shape held (same ▸ member)]
    exact found
  racing chainId race held := by
    rw [Model.race?, spares.probes] at held
    have ⟨once, waits⟩ := parked.racing chainId race held
    refine ⟨once, ?_⟩
    intro other member
    have ⟨session, found, waiting⟩ := waits other member
    refine ⟨session, ?_, waiting⟩
    rw [spares.others other fun same => free.racing chainId race held (same ▸ member)]
    exact found

theorem Parked.of_still {after : Model}
    (still : Still nowMs callId model after) : Parked after :=
  parked.moves free still.kept.shape still.spares

end

variable {callId : String} {session : CallSession} {turn : Turn}

theorem Parked.enters (parked : Parked model) (free : Free model callId)
    {race : ProbeRace} {waiters : List String} (joined : race.waiters = waiters ++ [callId])
    (waited : waiters.Nodup ∧
      ∀ other ∈ waiters, Waits model session.chainId .waitingProbe other)
    (absent : callId ∉ waiters) :
    Parked ((model.setRace session.chainId race).setCall callId session.racing) where
  pending chainId shape held := by
    have ⟨once, waits⟩ := parked.pending chainId shape held
    refine ⟨once, ?_⟩
    intro other member
    have ⟨session, found, waiting⟩ := waits other member
    have apart : callId ≠ other := by
      intro same
      exact free.pending chainId shape held (same ▸ member)
    refine ⟨session, ?_, waiting⟩
    rw [Model.call?_setCall, if_neg apart]
    exact found
  racing chainId other held := by
    have keeps (waiter : String) (apart : callId ≠ waiter)
        (waits : Waits model chainId .waitingProbe waiter) :
        Waits ((model.setRace session.chainId race).setCall callId session.racing) chainId
          .waitingProbe waiter := by
      have ⟨session, found, waiting⟩ := waits
      refine ⟨session, ?_, waiting⟩
      rw [Model.call?_setCall, if_neg apart]
      exact found
    have running : (if session.chainId = chainId then some race else model.race? chainId) =
        some other := by
      rw [← Model.race?_setRace]
      exact held
    split at running
    · next same =>
        cases running
        rw [joined]
        constructor
        · exact List.nodup_append_comm.mp (List.nodup_cons.mpr ⟨absent, waited.1⟩)
        · intro waiter member
          rcases List.mem_append.mp member with earlier | last
          · exact keeps waiter (fun equal => absent (equal ▸ earlier))
              (same ▸ waited.2 waiter earlier)
          · rw [List.mem_singleton.mp last]
            refine ⟨session.racing, ?_, same, rfl⟩
            rw [Model.call?_setCall, if_pos rfl]
    · have ⟨once, waits⟩ := parked.racing chainId other running
      refine ⟨once, ?_⟩
      intro waiter member
      apply keeps waiter
      · intro same
        exact free.racing chainId other running (same ▸ member)
      · exact waits waiter member

theorem Begun.parked (begun : Begun model callId nowMs session turn) (parked : Parked model)
    (free : Free model callId) : Parked turn.1 := by
  cases begun with
  | passes passes => exact parked.of_still free passes.still
  | @joins race bundler running =>
    have waited := parked.racing session.chainId race running
    exact parked.enters free rfl waited (free.racing session.chainId race running)
  | opens =>
    exact parked.enters free (rfl : [callId] = [] ++ [callId]) ⟨List.nodup_nil, nofun⟩
      List.not_mem_nil

theorem Free.begun {other : String} (free : Free model other) (apart : other ≠ callId)
    (begun : Begun model callId nowMs session turn) : Free turn.1 other := by
  have enters (race : ProbeRace) (absent : other ∉ race.waiters) :
      Free ((model.setRace session.chainId race).setCall callId session.racing) other := by
    refine ⟨free.pending, ?_⟩
    intro chainId running held
    have found : (if session.chainId = chainId then some race else model.race? chainId) =
        some running := by
      rw [← Model.race?_setRace]
      exact held
    split at found
    · cases found
      exact absent
    · exact free.racing chainId running found
  cases begun with
  | passes passes => exact free.of_same passes.still.kept.shape passes.still.spares.probes
  | @joins race bundler running =>
    apply enters
    intro member
    rcases List.mem_append.mp member with earlier | last
    · exact free.racing session.chainId race running earlier
    · exact apart (List.mem_singleton.mp last)
  | opens =>
    apply enters
    intro member
    exact apart (List.mem_singleton.mp member)

inductive Answered (model : Model) (nowMs : Float) : PendingWork → RpcOperation → Prop where
  | base {callId : String} {chainId : UInt32} {baseUrl : Option String} :
      Answered model nowMs (.base callId chainId) (.conclude callId (.bundlerBase baseUrl))
  | bestRpc {callId : String} {chainId : UInt32} {named : Option String}
      (names : ∀ url, named = some url → Admissible model chainId nowMs url) :
      Answered model nowMs (.bestRpc callId chainId) (.conclude callId (.bestRpcUrl named))

inductive Starts (nowMs : Float) : Model → List PendingWork → Turn → Prop where
  | nil {model : Model} : Starts nowMs model [] (model, [])
  | answers {model : Model} {work : PendingWork} {works : List PendingWork}
      {answer : RpcOperation} {turn : Turn} (answered : Answered model nowMs work answer)
      (rest : Starts nowMs model works turn) :
      Starts nowMs model (work :: works) (turn.1, answer :: turn.2)
  | begins {model : Model} {callId : String} {works : List PendingWork} {session : CallSession}
      {first turn : Turn} (held : model.call? callId = some session)
      (begun : Begun model callId nowMs session first) (rest : Starts nowMs first.1 works turn) :
      Starts nowMs model (.call callId :: works) (turn.1, first.2 ++ turn.2)

/-- Calls that are about to be started: each is there once, and waits nowhere else. -/
structure Called (model : Model) (callIds : List String) : Prop where
  once : callIds.Nodup
  free : ∀ callId ∈ callIds, Free model callId
  live : ∀ callId ∈ callIds, (model.call? callId).isSome

theorem Called.begun {callIds : List String} (called : Called model (callId :: callIds))
    (begun : Begun model callId nowMs session turn) : Called turn.1 callIds := by
  have ⟨absent, once⟩ := List.nodup_cons.mp called.once
  constructor
  case once => exact once
  case free =>
    intro other member
    have apart : other ≠ callId := by
      intro same
      exact absent (same ▸ member)
    exact (called.free other (List.mem_cons_of_mem _ member)).begun apart begun
  case live =>
    intro other member
    have apart : other ≠ callId := by
      intro same
      exact absent (same ▸ member)
    rw [begun.others apart]
    exact called.live other (List.mem_cons_of_mem _ member)

theorem startWorks_starts (nowMs : Float) (works : List PendingWork)
    (called : Called model (callsOf works)) :
    Starts nowMs model works (inTurn (startWork nowMs) model works) := by
  induction works generalizing model with
  | nil => exact .nil
  | cons work _ ih =>
    cases work with
    | call callId =>
      have ⟨session, held⟩ :=
        Option.isSome_iff_exists.mp (called.live callId List.mem_cons_self)
      have begun := startCall_begun nowMs held
      exact .begins held begun (ih (called.begun begun))
    | base => exact .answers .base (ih called)
    | bestRpc =>
      refine .answers (.bestRpc ?_) (ih called)
      intro url first
      exact mem_bundlerEligibleUrls.mp (List.mem_of_head? first)

theorem startWaiters_starts (nowMs : Float) (header : Option String) (waiters : List String)
    (called : Called model waiters) :
    Starts nowMs model (waiters.map .call)
      (inTurn (fun model waiter => setXAndSweep model waiter header nowMs) model waiters) := by
  induction waiters generalizing model with
  | nil => exact .nil
  | cons callId _ ih =>
    have ⟨session, held⟩ := Option.isSome_iff_exists.mp (called.live callId List.mem_cons_self)
    have begun : Begun model callId nowMs session (setXAndSweep model callId header nowMs) :=
      .passes (setXAndSweep_passes nowMs header held)
    exact .begins held begun (ih (called.begun begun))

namespace Starts

variable {works : List PendingWork}

section

variable (starts : Starts nowMs model works turn)
include starts

theorem kept : Kept nowMs model turn.1 := by
  induction starts with
  | nil => exact .refl nowMs _
  | answers _ _ ih => exact ih
  | begins _ begun _ ih => exact begun.kept.trans ih

theorem parked (parked : Parked model)
    (called : Called model (callsOf works)) : Parked turn.1 := by
  induction starts with
  | nil => exact parked
  | @answers model work works answer turn answered rest ih =>
    cases answered with
    | base | bestRpc => exact ih parked called
  | begins _ begun _ ih =>
    exact ih (begun.parked parked (called.free _ List.mem_cons_self)) (called.begun begun)

theorem others {other : String} (absent : other ∉ callsOf works) :
    turn.1.call? other = model.call? other ∧ about other turn.2 = [] := by
  induction starts with
  | nil => exact ⟨rfl, rfl⟩
  | @answers model work works answer turn answered rest ih =>
    cases answered with
    | base | bestRpc =>
      obtain ⟨same, silent⟩ := ih absent
      refine ⟨same, ?_⟩
      rw [← silent]
      simp [about, RpcOperation.concerns, RpcCallVerdict.isRouted]
  | @begins model callId works session first turn held begun rest ih =>
    rw [callsOf_call, List.mem_cons, not_or] at absent
    obtain ⟨same, silent⟩ := ih absent.2
    refine ⟨same.trans (begun.others absent.1), ?_⟩
    rw [about_append, begun.about_other absent.1, silent]
    rfl

theorem entered (called : Called model (callsOf works)) (member : callId ∈ callsOf works) :
    ∃ session, model.call? callId = some session ∧
      Entered model callId nowMs session (turn.1.call? callId) (about callId turn.2) := by
  induction starts with
  | nil => cases member
  | @answers model work works answer turn answered rest ih =>
    cases answered with
    | base | bestRpc =>
      obtain ⟨session, held, entered⟩ := ih called member
      refine ⟨session, held, ?_⟩
      simpa [about, RpcOperation.concerns, RpcCallVerdict.isRouted] using entered
  | @begins model other works session first turn held begun rest ih =>
    obtain ⟨absent, _⟩ := List.nodup_cons.mp called.once
    by_cases same : callId = other
    · subst same
      obtain ⟨stays, silent⟩ := rest.others absent
      refine ⟨session, held, ?_⟩
      rw [stays, about_append, silent, List.append_nil]
      exact begun.entered
    · have inside : callId ∈ callsOf works := by
        rcases List.mem_cons.mp member with first | later
        · exact absurd first same
        · exact later
      obtain ⟨found, present, entered⟩ := ih (called.begun begun) inside
      rw [begun.others same] at present
      refine ⟨found, present, ?_⟩
      rw [about_append, begun.about_other same, List.nil_append]
      exact entered.of_kept begun.kept

end

end Starts

end VelaWallet.RpcPool
