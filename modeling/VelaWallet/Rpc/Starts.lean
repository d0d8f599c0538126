import VelaWallet.Rpc.Sweeps

/-!
# How a call is started

A call whose pool is at hand sweeps it, or, bound for a bundler, waits for a race.  The calls that
wait, behind a load or in a race, each wait in one place.
-/

namespace VelaWallet.RpcPool

variable {model : Model} {callId : String} {nowMs : Float} {session : CallSession}

variable {before : Model} {other : String} {turn : Turn}

def RpcCallVerdict.isRouted : RpcCallVerdict → Bool
  | respond .. | rangeCap .. | failed .. => true
  | bundlerBase _ | bestRpcUrl _ => false

def RpcOperation.concerns (callId : String) : RpcOperation → Bool
  | jsonRpcPost id .. | drawJitter id | startBackoff id _ => id == callId
  | conclude id verdict => id == callId && verdict.isRouted
  | loadPoolConfig _ | probeChainId .. | persistBans _ => false

/-- The steps of a call among operations. -/
def about (callId : String) (operations : List RpcOperation) : List RpcOperation :=
  operations.filter (·.concerns callId)

@[simp] theorem about_append (callId : String) (first second : List RpcOperation) :
    about callId (first ++ second) = about callId first ++ about callId second :=
  List.filter_append ..

theorem about_eq_nil {operations : List RpcOperation}
    (foreign : ∀ operation ∈ operations, operation.concerns callId = false) :
    about callId operations = [] := by
  apply List.filter_eq_nil_iff.mpr
  intro operation member
  rw [foreign operation member]
  exact Bool.false_ne_true

theorem about_persists {operations : List RpcOperation}
    (persists : ∀ operation ∈ operations, ∃ entries, operation = .persistBans entries)
    (callId : String) : about callId operations = [] := by
  apply about_eq_nil
  intro operation member
  have ⟨entries, same⟩ := persists operation member
  rw [same]
  rfl

section Turns

variable {after : Option CallSession} {asked : List RpcOperation}

theorem Swept.about_self (swept : Swept model callId nowMs session after asked) :
    about callId asked = asked := by
  cases swept with
  | posts | pauses => simp [about, RpcOperation.concerns]
  | fails => simp [about, RpcOperation.concerns, RpcCallVerdict.isRouted]

theorem Swept.about_other (swept : Swept model callId nowMs session after asked)
    (apart : other ≠ callId) : about other asked = [] := by
  cases swept with
  | posts | pauses | fails => simp [about, RpcOperation.concerns, apart.symm]

end Turns

theorem Passes.still {turn : Turn} (passes : Passes model callId nowMs session turn) :
    Still nowMs callId model turn.1 := by
  cases passes with
  | along _ _ _ sweeps => exact sweeps.still

theorem Passes.about_other (passes : Passes model callId nowMs session turn)
    (apart : other ≠ callId) : about other turn.2 = [] := by
  cases passes with
  | along writes _ _ sweeps =>
    rw [about_append, about_persists writes, List.nil_append]
    exact sweeps.swept.about_other apart

theorem Passes.of_still (still : Still nowMs callId before model)
    (passes : Passes model callId nowMs session turn) :
    Passes before callId nowMs session turn := by
  cases passes with
  | along writes listed distinct sweeps =>
    have lists := listed_of_shape (still.kept.shape session.chainId) session.kind
    rw [lists] at listed distinct
    exact .along writes listed distinct (sweeps.of_still still)

theorem setXAndSweep_passes (nowMs : Float) (header : Option String)
    (held : model.call? callId = some session) :
    Passes model callId nowMs { session with xRpcUrl := header }
      (setXAndSweep model callId header nowMs) := by
  apply Passes.of_still (.changeCall nowMs model callId fun session =>
    { session with xRpcUrl := header })
  apply startPass_passes
  rw [Model.call?_changeCall, if_pos rfl, held, Option.map_some]

theorem changeCall_eq {change : CallSession → CallSession}
    (held : model.call? callId = some session) :
    model.changeCall callId change = model.setCall callId (change session) := by
  rw [Model.changeCall, held]

theorem changeCall_setRace {chainId : UInt32} {race : ProbeRace}
    {change : CallSession → CallSession} (held : model.call? callId = some session) :
    (model.setRace chainId race).changeCall callId change =
      (model.setRace chainId race).setCall callId (change session) := by
  apply changeCall_eq
  exact held

def CallSession.racing (session : CallSession) : CallSession :=
  { session with state := .waitingProbe }

/-- What the start of a call comes to. -/
inductive Begun (model : Model) (callId : String) (nowMs : Float) (session : CallSession) :
    Turn → Prop where
  | passes {turn : Turn} {header : Option String}
      (passes : Passes model callId nowMs { session with xRpcUrl := header } turn) :
      Begun model callId nowMs session turn
  | joins {race : ProbeRace} (bundler : session.kind = .bundler)
      (running : model.race? session.chainId = some race) :
      Begun model callId nowMs session
        ((model.setRace session.chainId { race with waiters := race.waiters ++ [callId] }).setCall
          callId session.racing, [])
  | opens (bundler : session.kind = .bundler) (idle : model.race? session.chainId = none) :
      Begun model callId nowMs session
        ((model.setRace session.chainId
          ⟨(bundlerEligibleUrls model session.chainId nowMs).toFinset, [], ∅,
            bundlerEligibleUrls model session.chainId nowMs, [callId]⟩).setCall
          callId session.racing,
          (bundlerEligibleUrls model session.chainId nowMs).map fun url =>
            .probeChainId session.chainId url pingTimeoutMs)

theorem joinRace_begun (nowMs : Float) (held : model.call? callId = some session)
    (bundler : session.kind = .bundler) :
    Begun model callId nowMs session (joinRace model callId session.chainId
      (bundlerEligibleUrls model session.chainId nowMs)) := by
  unfold joinRace
  split
  · next running =>
      rw [changeCall_setRace held]
      exact .joins bundler running
  · next idle =>
      rw [changeCall_setRace held]
      exact .opens bundler idle

theorem beginBundlerCall_begun (nowMs : Float) (held : model.call? callId = some session)
    (bundler : session.kind = .bundler) :
    Begun model callId nowMs session (beginBundlerCall model callId nowMs) := by
  unfold beginBundlerCall
  simp only [held]
  split
  · exact .passes (setXAndSweep_passes nowMs _ held)
  · exact .passes (setXAndSweep_passes nowMs _ held)
  · split
    · exact .passes (setXAndSweep_passes nowMs _ held)
    · exact joinRace_begun nowMs held bundler

theorem startCall_begun (nowMs : Float) (held : model.call? callId = some session) :
    Begun model callId nowMs session (startCall model callId nowMs) := by
  unfold startCall
  simp only [held]
  split
  · have passes : Passes model callId nowMs { session with xRpcUrl := session.xRpcUrl } _ :=
      startPass_passes nowMs held
    exact .passes passes
  · next bundler => exact beginBundlerCall_begun nowMs held bundler

namespace Begun

variable {turn : Turn}

section

variable (begun : Begun model callId nowMs session turn)
include begun

theorem kept : Kept nowMs model turn.1 := by
  cases begun with
  | passes passes => exact passes.still.kept
  | joins | opens => exact .same rfl rfl rfl

theorem others
    (apart : other ≠ callId) : turn.1.call? other = model.call? other := by
  cases begun with
  | passes passes => exact passes.still.spares.others other apart
  | joins | opens =>
    rw [Model.call?_setCall, if_neg fun same => apart same.symm]
    rfl

theorem about_other
    (apart : other ≠ callId) : about other turn.2 = [] := by
  cases begun with
  | passes passes => exact passes.about_other apart
  | joins => rfl
  | opens =>
    apply about_eq_nil
    intro operation member
    have ⟨url, _, same⟩ := List.mem_map.mp member
    rw [← same]
    rfl

end

end Begun

/-- What a pass comes to for the call itself. -/
inductive Passed (model : Model) (callId : String) (nowMs : Float) (session : CallSession) :
    Option CallSession → List RpcOperation → Prop where
  | along {queue : List String} {after : Option CallSession} {asked : List RpcOperation}
      (listed : ∀ url ∈ queue, url ∈ model.listed session.chainId session.kind)
      (distinct : (model.listed session.chainId session.kind).Nodup → queue.Nodup)
      (swept : Swept model callId nowMs (session.passing queue) after asked) :
      Passed model callId nowMs session after asked

/-- What the start comes to for the call itself. -/
inductive Entered (model : Model) (callId : String) (nowMs : Float) (session : CallSession) :
    Option CallSession → List RpcOperation → Prop where
  | races (bundler : session.kind = .bundler) :
      Entered model callId nowMs session (some session.racing) []
  | passes {header : Option String} {after : Option CallSession} {asked : List RpcOperation}
      (passed : Passed model callId nowMs { session with xRpcUrl := header } after asked) :
      Entered model callId nowMs session after asked

theorem Passes.passed {turn : Turn} (passes : Passes model callId nowMs session turn) :
    Passed model callId nowMs session (turn.1.call? callId) (about callId turn.2) := by
  cases passes with
  | along writes listed distinct sweeps =>
    rw [about_append, about_persists writes, List.nil_append, sweeps.swept.about_self]
    exact .along listed distinct sweeps.swept

theorem Begun.entered (begun : Begun model callId nowMs session turn) :
    Entered model callId nowMs session (turn.1.call? callId) (about callId turn.2) := by
  cases begun with
  | passes passes => exact .passes passes.passed
  | joins bundler =>
    rw [Model.call?_setCall, if_pos rfl]
    exact .races bundler
  | opens bundler =>
    rw [Model.call?_setCall, if_pos rfl]
    have silent : about callId ((bundlerEligibleUrls model session.chainId nowMs).map fun url =>
        .probeChainId session.chainId url pingTimeoutMs) = [] := by
      apply about_eq_nil
      intro operation member
      have ⟨url, _, same⟩ := List.mem_map.mp member
      rw [← same]
      rfl
    rw [silent]
    exact .races bundler

theorem Passed.of_kept {after : Option CallSession} {asked : List RpcOperation}
    (kept : Kept nowMs before model) (passed : Passed model callId nowMs session after asked) :
    Passed before callId nowMs session after asked := by
  cases passed with
  | along listed distinct swept =>
    have lists := listed_of_shape (kept.shape session.chainId) session.kind
    rw [lists] at listed distinct
    exact .along listed distinct (swept.of_kept kept)

theorem Entered.of_kept {after : Option CallSession} {asked : List RpcOperation}
    (kept : Kept nowMs before model) (entered : Entered model callId nowMs session after asked) :
    Entered before callId nowMs session after asked := by
  cases entered with
  | races bundler => exact .races bundler
  | passes passed => exact .passes (passed.of_kept kept)

end VelaWallet.RpcPool
