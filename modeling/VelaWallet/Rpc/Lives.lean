import VelaWallet.Rpc.Parking

/-!
# The life of a call

What one event does to one call: the machine, seen from a call, is a small machine of its own.
Every call that waits in a list waits there once, and is started once when its turn comes.
-/

namespace VelaWallet.RpcPool

open Utf8 (CaseTable)

variable {before : Model} {race : ProbeRace} {callId : String} {turn : Turn} {chainId : UInt32}

def Event.nowMs? : Event → Option Float
  | callRequested _ _ _ _ nowMs | bundlerBaseRequested _ _ nowMs | bestRpcUrlRequested _ _ nowMs =>
    some nowMs
  | shellCompleted result =>
    match result with
    | .poolConfig _ _ _ nowMs | .postOutcome _ _ _ _ nowMs | .chainIdProbed _ _ _ _ nowMs
    | .backoffElapsed _ nowMs => some nowMs
    | .jitter .. | .persisted | .concluded => none
  | bansLoaded _ | invalidateAll | refreshChain _ => none

/-- The chain's lists were read, and nothing has been told that changes them since. -/
def Fresh (model : Model) (chainId : UInt32) : Prop :=
  ∃ shape, model.shape? chainId = some shape ∧ shape.loadedAtMs.isSome

/-- A call after a post of it came out as it did. -/
def CallSession.after (session : CallSession) (outcome : RpcTransportOutcome) (signal : Bool) :
    CallSession := (session.told outcome).throttledBy signal

/-- The verdict an answer to a call's post comes to. -/
inductive Settles (session : CallSession) (url : String) (outcome : RpcTransportOutcome) :
    RpcCallVerdict → Prop where
  | responds : Settles session url outcome
      (.respond url (session.told outcome).maybeDelivered)
  | caps {maxSpan : Float} : Settles session url outcome (.rangeCap url maxSpan)

/-- The event is the outcome of the post that the call waits for. -/
def Event.tells (callId : String) (session : CallSession) : Event → Bool
  | shellCompleted (.postOutcome told url _ _ _) =>
    told == callId && session.state == .waitingPost url
  | _ => false

/-- What an event does to a call: the call before, what is asked for it, and the call after. -/
inductive Life (event : Event) (after : Model) (callId : String) :
    Option CallSession → List RpcOperation → Option CallSession → Prop where
  | stays {session : Option CallSession}
      (untold : ∀ held, session = some held → event.tells callId held = false) :
      Life event after callId session [] session
  | parks {chainId : UInt32} {kind : RpcKind} {method : String} {nowMs : Float}
      (requested : event = .callRequested callId chainId kind method nowMs) :
      Life event after callId none [] (some (.new chainId kind method))
  | asked {chainId : UInt32} {kind : RpcKind} {method : String} {nowMs : Float}
      {next : Option CallSession} {operations : List RpcOperation}
      (requested : event = .callRequested callId chainId kind method nowMs)
      (fresh : Fresh after chainId)
      (entered : Entered after callId nowMs (.new chainId kind method) next operations) :
      Life event after callId none operations next
  | starts {session : CallSession} {nowMs : Float} {next : Option CallSession}
      {operations : List RpcOperation} (clock : event.nowMs? = some nowMs)
      (waits : session.state = .waitingPool) (fresh : Fresh after session.chainId)
      (entered : Entered after callId nowMs session next operations) :
      Life event after callId (some session) operations next
  | raced {session : CallSession} {nowMs : Float} {next : Option CallSession}
      {operations : List RpcOperation} (clock : event.nowMs? = some nowMs)
      (waits : session.state = .waitingProbe)
      (entered : Entered after callId nowMs session next operations) :
      Life event after callId (some session) operations next
  | retries {session : CallSession} {nowMs : Float} {next : Option CallSession}
      {operations : List RpcOperation}
      (elapsed : event = .shellCompleted (.backoffElapsed callId nowMs))
      (waits : session.state = .waitingBackoff)
      (passed : Passed after callId nowMs { session with pass := saturatingNext 32 session.pass }
        next operations) :
      Life event after callId (some session) operations next
  | failsOver {session : CallSession} {url : String} {outcome : RpcTransportOutcome}
      {latencyMs nowMs : Float} {signal : Bool} {next : Option CallSession}
      {operations : List RpcOperation}
      (told : event = .shellCompleted (.postOutcome callId url outcome latencyMs nowMs))
      (waits : session.state = .waitingPost url)
      (swept : Swept after callId nowMs (session.after outcome signal) next operations) :
      Life event after callId (some session) operations next
  | settles {session : CallSession} {url : String} {outcome : RpcTransportOutcome}
      {latencyMs nowMs : Float} {verdict : RpcCallVerdict}
      (told : event = .shellCompleted (.postOutcome callId url outcome latencyMs nowMs))
      (waits : session.state = .waitingPost url) (settled : Settles session url outcome verdict) :
      Life event after callId (some session) [.conclude callId verdict] none
  | draws {session : CallSession} {value : Float} {delayMs : Nat}
      (drawn : event = .shellCompleted (.jitter callId value))
      (waits : session.state = .waitingJitter) :
      Life event after callId (some session) [.startBackoff callId delayMs]
        (some { session with state := .waitingBackoff })

/-- What a step comes to: every call has its life, and the calls that wait still wait once. -/
structure Lives (event : Event) (model : Model) (turn : Turn) : Prop where
  parked : Parked turn.1
  life : ∀ callId,
    Life event turn.1 callId (model.call? callId) (about callId turn.2) (turn.1.call? callId)

variable {event : Event} {model : Model} {nowMs : Float}

theorem Lives.untouched (parked : Parked turn.1) (calls : turn.1.calls = model.calls)
    (foreign : ∀ callId, about callId turn.2 = [])
    (untold : ∀ callId session, model.call? callId = some session →
      event.tells callId session = false) : Lives event model turn where
  parked := parked
  life callId := by
    have same : turn.1.call? callId = model.call? callId := by
      rw [Model.call?, calls, Model.call?]
    rw [foreign callId, same]
    exact .stays fun session => untold callId session

theorem Lives.nothing (parked : Parked model)
    (untold : ∀ callId session, model.call? callId = some session →
      event.tells callId session = false) : Lives event model (model, []) :=
  .untouched parked rfl (fun _ => rfl) untold

theorem Lives.of_one (parked : Parked turn.1)
    (life : Life event turn.1 callId (model.call? callId) (about callId turn.2)
      (turn.1.call? callId))
    (others : ∀ other, other ≠ callId →
      turn.1.call? other = model.call? other ∧ about other turn.2 = [])
    (untold : ∀ other, other ≠ callId → ∀ session, event.tells other session = false) :
    Lives event model turn where
  parked := parked
  life other := by
    by_cases same : other = callId
    · rw [same]
      exact life
    · have ⟨stays, silent⟩ := others other same
      rw [stays, silent]
      exact .stays fun session _ => untold other same session

theorem Parked.same {after : Model} (parked : Parked model) (pools : after.pools = model.pools)
    (calls : after.calls = model.calls) (probes : after.probes = model.probes) : Parked after := by
  have waits (chainId : UInt32) (state : SessionState) (callId : String) :
      Waits model chainId state callId → Waits after chainId state callId := by
    rw [Waits, Waits, Model.call?, Model.call?, calls]
    exact id
  constructor
  case pending =>
    intro chainId shape held
    rw [Model.shape?, Model.pool?, pools] at held
    obtain ⟨once, waiting⟩ := parked.pending chainId shape held
    exact ⟨once, fun callId member => waits _ _ _ (waiting callId member)⟩
  case racing =>
    intro chainId race held
    rw [Model.race?, probes] at held
    obtain ⟨once, waiting⟩ := parked.racing chainId race held
    exact ⟨once, fun callId member => waits _ _ _ (waiting callId member)⟩

theorem Parked.setPool {pool : ChainPool} (parked : Parked model)
    (once : (callsOf pool.pending).Nodup)
    (waits : ∀ callId ∈ callsOf pool.pending, Waits model chainId .waitingPool callId) :
    Parked (model.setPool chainId pool) where
  pending other shape held := by
    rw [Model.shape?, Model.pool?_setPool] at held
    split at held
    · next same =>
        cases held
        exact ⟨once, fun callId member => same ▸ waits callId member⟩
    · exact parked.pending other shape held
  racing := parked.racing

theorem lives_of_starts {works : List PendingWork}
    (parked : Parked before) (called : Called before (callsOf works))
    (starts : Starts nowMs before works turn)
    (calls : ∀ callId, before.call? callId = model.call? callId)
    (life : ∀ callId ∈ callsOf works, ∀ session next operations,
      before.call? callId = some session → Entered turn.1 callId nowMs session next operations →
      Life event turn.1 callId (some session) operations next)
    (untold : ∀ callId session, event.tells callId session = false) :
    Lives event model turn where
  parked := starts.parked parked called
  life callId := by
    by_cases member : callId ∈ callsOf works
    · have ⟨session, held, entered⟩ := starts.entered called member
      rw [← calls, held]
      exact life callId member session _ _ held (entered.of_kept starts.kept.symm)
    · have ⟨stays, silent⟩ := starts.others member
      rw [stays, silent, calls]
      exact .stays fun session _ => untold callId session

theorem Parked.pool (parked : Parked model) (chainId : UInt32) :
    (callsOf ((model.pool? chainId).getD .empty).pending).Nodup ∧
      ∀ callId ∈ callsOf ((model.pool? chainId).getD .empty).pending,
        Waits model chainId .waitingPool callId := by
  cases held : model.pool? chainId with
  | none => exact ⟨List.nodup_nil, nofun⟩
  | some pool =>
    have shape : model.shape? chainId = some pool.shape := by
      rw [Model.shape?, held, Option.map_some]
    exact parked.pending chainId pool.shape shape

theorem about_answer {other : String} {verdict : RpcCallVerdict}
    (query : verdict.isRouted = false) : about other [.conclude callId verdict] = [] := by
  simp [about, RpcOperation.concerns, query]

theorem about_load (loading : Bool) (chainId : UInt32) (callId : String) :
    about callId (if loading then [] else [.loadPoolConfig chainId]) = [] := by
  cases loading with
  | true | false => rfl

theorem ensurePoolThen_query (parked : Parked model) (chainId : UInt32) {work : PendingWork}
    (query : callsOf [work] = []) (nowMs : Float)
    (untold : ∀ callId session, event.tells callId session = false) :
    Lives event model (ensurePoolThen model chainId work nowMs) := by
  unfold ensurePoolThen
  dsimp only
  split
  · cases work with
    | call => cases query
    | base | bestRpc =>
      exact .untouched parked rfl (fun _ => about_answer rfl) fun _ _ _ => untold _ _
  · have ⟨once, waits⟩ := parked.pool chainId
    refine .untouched ?_ rfl (fun callId => about_load _ _ _) fun _ _ _ => untold _ _
    apply parked.setPool
    · rw [callsOf_append, query, List.append_nil]
      exact once
    · rw [callsOf_append, query, List.append_nil]
      exact waits

theorem callRequested_lives (parked : Parked model) (callId : String) (chainId : UInt32)
    (kind : RpcKind) (method : String) (nowMs : Float) :
    Lives (.callRequested callId chainId kind method nowMs) model
      (callRequested model callId chainId kind method nowMs) := by
  unfold callRequested
  split
  · exact .nothing parked fun _ _ _ => rfl
  · next unused =>
      have absent : model.call? callId = none := Option.not_isSome_iff_eq_none.mp unused
      have free : Free model callId := by
        apply parked.free
        intro session held
        cases absent.symm.trans held
      have still := Still.setCall nowMs model callId (.new chainId kind method)
      have settled := parked.of_still free still
      have elsewhere := free.of_same still.kept.shape rfl
      have held : (model.setCall callId (.new chainId kind method)).call? callId =
          some (.new chainId kind method) := by rw [Model.call?_setCall, if_pos rfl]
      have others (other : String) (apart : other ≠ callId) :
          (model.setCall callId (.new chainId kind method)).call? other = model.call? other :=
        still.spares.others other apart
      unfold ensurePoolThen
      dsimp only
      split
      · next loaded =>
          -- The pool is at hand: the call starts at once.
          have begun := startCall_begun nowMs held
          have fresh : Fresh (model.setCall callId (.new chainId kind method)) chainId := by
            cases pool : (model.setCall callId (.new chainId kind method)).pool? chainId with
            | none =>
              rw [pool] at loaded
              cases loaded
            | some pool' =>
              rw [pool, Option.getD_some] at loaded
              refine ⟨pool'.shape, ?_, Option.isSome_of_any loaded⟩
              rw [Model.shape?, pool, Option.map_some]
          obtain ⟨shape, pool, stamped⟩ := fresh
          apply Lives.of_one (begun.parked settled elsewhere)
          · rw [absent]
            refine .asked rfl ⟨shape, ?_, stamped⟩ (begun.entered.of_kept begun.kept.symm)
            rw [begun.kept.shape]
            exact pool
          · intro other apart
            exact ⟨(begun.others apart).trans (others other apart), begun.about_other apart⟩
          · exact fun _ _ _ => rfl
      · obtain ⟨once, waits⟩ := settled.pool chainId
        have waiting : Parked ((model.setCall callId (.new chainId kind method)).setPool chainId
            { ((model.setCall callId (.new chainId kind method)).pool? chainId).getD .empty with
              pending := (((model.setCall callId (.new chainId kind method)).pool?
                chainId).getD .empty).pending ++ [.call callId],
              loading := true }) := by
          apply settled.setPool
          · rw [callsOf_append]
            apply List.nodup_append_comm.mp
            rw [callsOf_call, callsOf_nil, List.singleton_append, List.nodup_cons]
            refine ⟨?_, once⟩
            intro member
            obtain ⟨session, found, _⟩ := parked.pool chainId |>.2 callId member
            cases absent.symm.trans found
          · intro other member
            rw [callsOf_append, List.mem_append] at member
            rcases member with earlier | last
            · exact waits other earlier
            · rw [callsOf_call, callsOf_nil, List.mem_singleton] at last
              rw [last]
              exact ⟨_, held, rfl, rfl⟩
        apply Lives.of_one waiting
        · rw [absent, about_load]
          have parks : Life (.callRequested callId chainId kind method nowMs)
              ((model.setCall callId (.new chainId kind method)).setPool chainId
                { ((model.setCall callId (.new chainId kind method)).pool? chainId).getD .empty with
                  pending := (((model.setCall callId (.new chainId kind method)).pool?
                    chainId).getD .empty).pending ++ [.call callId],
                  loading := true }) callId none [] (some (.new chainId kind method)) :=
            .parks rfl
          rw [← held] at parks
          exact parks
        · intro other apart
          exact ⟨others other apart, about_load _ _ _⟩
        · exact fun _ _ _ => rfl

theorem Parked.read (parked : Parked model) {chainId : UInt32} {pool read : ChainPool}
    (held : model.pool? chainId = some pool) (taken : read.pending = []) :
    Parked (model.setPool chainId read) ∧
      Called (model.setPool chainId read) (callsOf pool.pending) := by
  have shape : model.shape? chainId = some pool.shape := by
    rw [Model.shape?, held, Option.map_some]
  obtain ⟨once, waits⟩ := parked.pending chainId pool.shape shape
  have reads : Parked (model.setPool chainId read) := by
    apply parked.setPool
    · rw [taken]
      exact List.nodup_nil
    · rw [taken]
      rintro _ ⟨⟩
  refine ⟨reads, once, ?_, ?_⟩
  · intro callId member
    obtain ⟨session, found, ofChain, state⟩ := waits callId member
    constructor
    case pending =>
      intro other listed present inside
      obtain ⟨twin, same, elsewhere, _⟩ := (reads.pending other listed present).2 callId inside
      cases found.symm.trans same
      have here : other = chainId := elsewhere.symm.trans ofChain
      rw [here, Model.shape?, Model.pool?_setPool, if_pos rfl] at present
      cases present
      rw [ChainPool.shape, taken] at inside
      cases inside
    case racing =>
      intro other race present inside
      obtain ⟨twin, same, _, racing⟩ := (parked.racing other race present).2 callId inside
      cases found.symm.trans same
      cases state.symm.trans racing
  · intro callId member
    obtain ⟨session, found, _⟩ := waits callId member
    exact Option.isSome_of_mem found

theorem acceptConfig_lives (parked : Parked model) (chainId : UInt32)
    (rpcEndpoints bundlerEndpoints : List RpcEndpointSeed) (nowMs : Float) :
    Lives (.shellCompleted (.poolConfig chainId rpcEndpoints bundlerEndpoints nowMs)) model
      (acceptConfig model chainId rpcEndpoints bundlerEndpoints nowMs) := by
  unfold acceptConfig
  split
  · exact .nothing parked fun _ _ _ => rfl
  · next pool held =>
      split
      · exact .nothing parked fun _ _ _ => rfl
      · have shape : model.shape? chainId = some pool.shape := by
          rw [Model.shape?, held, Option.map_some]
        obtain ⟨_, waits⟩ := parked.pending chainId pool.shape shape
        let read : ChainPool := {
          rpc := mergeEndpoints pool.rpc rpcEndpoints
          bundler := mergeEndpoints pool.bundler bundlerEndpoints
          loadedAtMs := some nowMs
          loading := false
          pending := [] }
        obtain ⟨reads, called⟩ := parked.read held (rfl : read.pending = [])
        have starts := startWorks_starts nowMs pool.pending called
        have calls (callId : String) :
            (model.setPool chainId read).call? callId = model.call? callId := rfl
        apply lives_of_starts reads called starts calls _ fun _ _ => rfl
        intro callId member session next operations present entered
        obtain ⟨twin, found, ofChain, state⟩ := waits callId member
        cases (calls callId ▸ present).symm.trans found
        refine .starts rfl state ⟨read.shape, ?_, rfl⟩ entered
        rw [starts.kept.shape, ofChain, Model.shape?, Model.pool?_setPool, if_pos rfl]
        rfl

/-- What an answer of an endpoint's proves of it. -/
def Model.proving (model : Model) (chainId : UInt32) (url : String) :
    Option UInt32 → List (UInt32 × Finset String)
  | none => model.wrongChain
  | some id =>
    if id = chainId then model.wrongChain
    else Keyed.set chainId (insert url (model.wrongChains chainId)) model.wrongChain

/-- A race with what an endpoint answered. -/
def ProbeRace.told (race : ProbeRace) (chainId : UInt32) (url : String) (latencyMs : Float) :
    Option UInt32 → ProbeRace
  | none => { race with outstanding := race.outstanding.erase url }
  | some id =>
    if id = chainId then
      { race with
        outstanding := race.outstanding.erase url
        found := race.found ++ [(url, latencyMs)] }
    else
      { race with
        outstanding := race.outstanding.erase url
        wrongChain := insert url race.wrongChain }

theorem ProbeRace.told_outstanding (race : ProbeRace) (chainId : UInt32) (url : String)
    (latencyMs : Float) (reported : Option UInt32) :
    (race.told chainId url latencyMs reported).outstanding = race.outstanding.erase url := by
  unfold told
  split
  · rfl
  · split
    · rfl
    · rfl

theorem ProbeRace.told_waiters (race : ProbeRace) (chainId : UInt32) (url : String)
    (latencyMs : Float) (reported : Option UInt32) :
    (race.told chainId url latencyMs reported).waiters = race.waiters := by
  unfold told
  split
  · rfl
  · split
    · rfl
    · rfl

/-- What an answer in a race comes to: nothing, one endpoint fewer to wait for, or the end. -/
inductive Probed (model : Model) (chainId : UInt32) (url : String) (reported : Option UInt32)
    (latencyMs nowMs : Float) : Turn → Prop where
  | ignores (unawaited : ∀ race, model.race? chainId = some race → url ∉ race.outstanding) :
      Probed model chainId url reported latencyMs nowMs (model, [])
  | hears {race : ProbeRace} (running : model.race? chainId = some race)
      (awaited : url ∈ race.outstanding)
      (more : (race.told chainId url latencyMs reported).outstanding ≠ ∅) :
      Probed model chainId url reported latencyMs nowMs
        ({ model with wrongChain := model.proving chainId url reported }.setRace chainId
          (race.told chainId url latencyMs reported), [])
  | ends {race : ProbeRace} {fastest : List (UInt32 × FastestPick)} {winner : Option String}
      (running : model.race? chainId = some race) (awaited : url ∈ race.outstanding)
      (last : (race.told chainId url latencyMs reported).outstanding = ∅) :
      Probed model chainId url reported latencyMs nowMs
        (inTurn (fun model waiter => setXAndSweep model waiter winner nowMs)
          { ({ model with wrongChain := model.proving chainId url reported }.setRace chainId
            (race.told chainId url latencyMs reported)).dropRace chainId with fastest }
          race.waiters)

theorem handleProbe_probed (model : Model) (chainId : UInt32) (url : String)
    (reported : Option UInt32) (latencyMs nowMs : Float) :
    Probed model chainId url reported latencyMs nowMs
      (handleProbe model chainId url reported latencyMs nowMs) := by
  unfold handleProbe
  split
  · next missing =>
      apply Probed.ignores
      intro race running
      cases missing.symm.trans running
  · next race running =>
      split
      · next unawaited =>
          apply Probed.ignores
          intro twin same
          cases running.symm.trans same
          exact unawaited
      · next awaited =>
          have told : Probed model chainId url reported latencyMs nowMs
              (if (race.told chainId url latencyMs reported).outstanding = ∅ then
                endRace ({ model with wrongChain := model.proving chainId url reported }.setRace
                  chainId (race.told chainId url latencyMs reported)) chainId
                  (race.told chainId url latencyMs reported) nowMs
              else
                ({ model with wrongChain := model.proving chainId url reported }.setRace chainId
                  (race.told chainId url latencyMs reported), [])) := by
            split
            · next last =>
                have ends (fastest : List (UInt32 × FastestPick)) (winner : Option String) :=
                  @Probed.ends model chainId url reported latencyMs nowMs race fastest winner
                    running (not_not.mp awaited) last
                unfold endRace
                rw [race.told_waiters]
                dsimp only
                split
                · split
                  · exact ends _ _
                  · exact ends _ _
                · exact ends _ _
            · next more => exact .hears running (not_not.mp awaited) more
          cases reported with
          | none => exact told
          | some =>
            unfold Model.proving ProbeRace.told at told
            dsimp only
            dsimp only at told
            split
            · next same =>
                simp only [if_pos same] at told
                exact told
            · next apart =>
                simp only [if_neg apart] at told
                exact told

section

variable (parked : Parked model)
include parked

section

variable (running : model.race? chainId = some race)
include running

theorem Parked.ended (fastest : List (UInt32 × FastestPick)) :
    Parked { model.dropRace chainId with fastest } ∧
      Called { model.dropRace chainId with fastest } race.waiters := by
  have ⟨once, waits⟩ := parked.racing chainId race running
  constructor
  · constructor
    case pending => exact parked.pending
    case racing =>
      intro other held present
      have found : (if chainId = other then none else model.race? other) = some held := by
        rw [← Model.race?_dropRace]
        exact present
      split at found
      · cases found
      · exact parked.racing other held found
  · constructor
    case once => exact once
    case free =>
      intro callId member
      have ⟨session, found, ofChain, state⟩ := waits callId member
      constructor
      case pending =>
        intro other shape present inside
        have ⟨twin, same, _, waiting⟩ := (parked.pending other shape present).2 callId inside
        cases found.symm.trans same
        cases state.symm.trans waiting
      case racing =>
        intro other held present inside
        have still : (if chainId = other then none else model.race? other) = some held := by
          rw [← Model.race?_dropRace]
          exact present
        split at still
        · cases still
        · next apart =>
            have ⟨twin, same, elsewhere, _⟩ := (parked.racing other held still).2 callId inside
            cases found.symm.trans same
            exact apart (ofChain.symm.trans elsewhere)
    case live =>
      intro callId member
      have ⟨session, found, _⟩ := waits callId member
      exact Option.isSome_of_mem found

theorem Parked.answered {told : ProbeRace} (waiters : told.waiters = race.waiters) :
    Parked (model.setRace chainId told) where
  pending := parked.pending
  racing other held present := by
    have found : (if chainId = other then some told else model.race? other) = some held := by
      rw [← Model.race?_setRace]
      exact present
    split at found
    · next same =>
        cases found
        rw [waiters]
        exact parked.racing other race (same ▸ running)
    · exact parked.racing other held found

theorem Parked.told (answeredId : UInt32) (url : String)
    (latencyMs : Float) (reported : Option UInt32) (fastest : List (UInt32 × FastestPick)) :
    Parked { ({ model with wrongChain := model.proving answeredId url reported }.setRace chainId
        (race.told answeredId url latencyMs reported)).dropRace chainId with fastest } ∧
      Called { ({ model with wrongChain := model.proving answeredId url reported }.setRace chainId
        (race.told answeredId url latencyMs reported)).dropRace chainId with fastest }
        race.waiters := by
  have proved : Parked { model with wrongChain := model.proving answeredId url reported } :=
    parked.same rfl rfl rfl
  have answered := proved.answered running (race.told_waiters answeredId url latencyMs reported)
  have present : ({ model with wrongChain := model.proving answeredId url reported }.setRace chainId
      (race.told answeredId url latencyMs reported)).race? chainId =
        some (race.told answeredId url latencyMs reported) := by
    rw [Model.race?_setRace, if_pos rfl]
  have ⟨ended, called⟩ := answered.ended present fastest
  rw [race.told_waiters] at called
  exact ⟨ended, called⟩

end

theorem handleProbe_lives (chainId : UInt32) (url : String)
    (reported : Option UInt32) (latencyMs nowMs : Float) :
    Lives (.shellCompleted (.chainIdProbed chainId url reported latencyMs nowMs)) model
      (handleProbe model chainId url reported latencyMs nowMs) := by
  have proved : Parked { model with wrongChain := model.proving chainId url reported } :=
    parked.same rfl rfl rfl
  have probed := handleProbe_probed model chainId url reported latencyMs nowMs
  generalize handleProbe model chainId url reported latencyMs nowMs = turn at probed ⊢
  cases probed with
  | ignores => exact .nothing parked fun _ _ _ => rfl
  | @hears race running =>
    exact .untouched (proved.answered running (race.told_waiters ..)) rfl (fun _ => rfl)
      fun _ _ _ => rfl
  | @ends race fastest winner running =>
    have ⟨ended, called⟩ := parked.told running chainId url latencyMs reported fastest
    have starts := startWaiters_starts nowMs winner race.waiters called
    rw [← callsOf_map_call race.waiters] at called
    have calls (callId : String) :
        ({ ({ model with wrongChain := model.proving chainId url reported }.setRace chainId
          (race.told chainId url latencyMs reported)).dropRace chainId with fastest } :
            Model).call? callId = model.call? callId := rfl
    apply lives_of_starts ended called starts calls _ fun _ _ => rfl
    intro callId member session next operations held entered
    rw [callsOf_map_call] at member
    have ⟨twin, found, _, state⟩ := (parked.racing chainId race running).2 callId member
    cases (held : model.call? callId = some session).symm.trans found
    exact .raced rfl state entered

theorem lives_of_moves
    (free : Free model callId) (shapes : ∀ chainId, turn.1.shape? chainId = model.shape? chainId)
    (spares : Spares callId model turn.1)
    (life : Life event turn.1 callId (model.call? callId) (about callId turn.2)
      (turn.1.call? callId))
    (silent : ∀ other, other ≠ callId → about other turn.2 = [])
    (untold : ∀ other, other ≠ callId → ∀ session, event.tells other session = false) :
    Lives event model turn := by
  apply Lives.of_one (parked.moves free shapes spares) life _ untold
  intro other apart
  exact ⟨spares.others other apart, silent other apart⟩

theorem acceptJitter_lives (callId : String) (value : Float) :
    Lives (.shellCompleted (.jitter callId value)) model (acceptJitter model callId value) := by
  unfold acceptJitter
  split
  · exact .nothing parked fun _ _ _ => rfl
  · next session held =>
      split
      · next waits =>
          have free : Free model callId := by
            apply parked.free
            intro twin same
            cases held.symm.trans same
            rw [waits]
            exact ⟨nofun, nofun⟩
          dsimp only
          apply lives_of_moves parked free (fun _ => rfl) (.setCall model callId _)
          · have draws : Life (.shellCompleted (.jitter callId value))
                (model.setCall callId { session with state := .waitingBackoff }) callId
                (some session)
                [.startBackoff callId (backoffWithJitterMs session.pass
                  (backoffParams session.kind).1 (backoffParams session.kind).2 value)]
                (some { session with state := .waitingBackoff }) := .draws rfl waits
            rw [held, Model.call?_setCall, if_pos rfl]
            simpa [about, RpcOperation.concerns] using draws
          · intro other apart
            simp [about, RpcOperation.concerns, apart.symm]
          · exact fun _ _ _ => rfl
      · exact .nothing parked fun _ _ _ => rfl

theorem acceptBackoff_lives (callId : String) (nowMs : Float) :
    Lives (.shellCompleted (.backoffElapsed callId nowMs)) model
      (acceptBackoff model callId nowMs) := by
  unfold acceptBackoff
  split
  · exact .nothing parked fun _ _ _ => rfl
  · next session held =>
      split
      · next waits =>
          have free : Free model callId := by
            apply parked.free
            intro twin same
            cases held.symm.trans same
            rw [waits]
            exact ⟨nofun, nofun⟩
          let again : CallSession := { session with pass := saturatingNext 32 session.pass }
          have present : (model.setCall callId again).call? callId = some again := by
            rw [Model.call?_setCall, if_pos rfl]
          have passes := (startPass_passes nowMs present).of_still
            (.setCall nowMs model callId again)
          apply lives_of_moves parked free passes.still.kept.shape passes.still.spares
          · rw [held]
            exact .retries rfl waits (passes.passed.of_kept passes.still.kept.symm)
          · intro other apart
            exact passes.about_other apart
          · exact fun _ _ _ => rfl
      · exact .nothing parked fun _ _ _ => rfl

end

section

variable {change : RpcEndpointStats → RpcEndpointStats}

theorem urls_modify (endpoints : List RpcEndpointStats) (place : Nat)
    (same : ∀ stats, (change stats).url = stats.url) :
    urls (endpoints.modify place change) = urls endpoints := by
  induction endpoints generalizing place with
  | nil => simp
  | cons _ _ ih =>
    cases place with
    | zero =>
      simp only [urls, List.modify_zero_cons, List.map_cons, same]
    | succ place =>
      have rest := ih place
      simp only [urls] at rest
      simp only [urls, List.modify_succ_cons, List.map_cons, rest]

theorem changeStats_frame (model : Model) (chainId : UInt32) (kind : RpcKind) (url : String)
    (same : ∀ stats, (change stats).url = stats.url) :
    (∃ pools, model.changeStats chainId kind url change = { model with pools }) ∧
      Kept nowMs model (model.changeStats chainId kind url change) := by
  unfold Model.changeStats
  split
  · exact ⟨⟨_, rfl⟩, .refl nowMs model⟩
  · next held =>
      refine ⟨⟨_, rfl⟩, ⟨?_, fun _ => rfl, rfl⟩⟩
      apply shape?_setPool held
      apply shape_changeList
      intro endpoints
      exact urls_modify endpoints _ same

theorem Still.changeStats (nowMs : Float) (model : Model) (callId : String) (chainId : UInt32)
    (kind : RpcKind) (url : String)
    (same : ∀ stats, (change stats).url = stats.url) :
    Still nowMs callId model (model.changeStats chainId kind url change) ∧
      (model.changeStats chainId kind url change).call? callId = model.call? callId := by
  have ⟨⟨pools, frame⟩, kept⟩ := @changeStats_frame nowMs change model chainId kind url same
  rw [frame] at kept ⊢
  exact ⟨⟨kept, .same rfl rfl⟩, rfl⟩

end

theorem Still.clearChainFailure (nowMs : Float) (model : Model) (callId : String)
    (chainId : UInt32) (kind : RpcKind) :
    Still nowMs callId model (RpcPool.clearChainFailure model chainId kind) := by
  cases kind with
  | rpc => exact ⟨.same rfl rfl rfl, .same rfl rfl⟩
  | bundler => exact ⟨.refl nowMs model, .refl callId model⟩

section Outcomes

variable [CaseTable] {callId url : String} {session : CallSession} {outcome : RpcTransportOutcome}
  {latencyMs : Float}

omit [CaseTable] in
theorem tells_other {other : String} (apart : other ≠ callId) (held : CallSession) :
    Event.tells other held
      (.shellCompleted (.postOutcome callId url outcome latencyMs nowMs)) = false := by
  rw [Event.tells, beq_eq_false_iff_ne.mpr apart.symm, Bool.false_and]

omit [CaseTable] in
theorem conclude_lives (parked : Parked model) (free : Free model callId)
    (held : model.call? callId = some session) (waits : session.state = .waitingPost url)
    (still : Still nowMs callId model before) {verdict : RpcCallVerdict}
    (settled : Settles session url outcome verdict) :
    Lives (.shellCompleted (.postOutcome callId url outcome latencyMs nowMs)) model
      (conclude before callId verdict) := by
  have routed : verdict.isRouted = true := by
    cases settled with
    | responds | caps => rfl
  have gone : (before.dropCall callId).call? callId = none := by
    rw [Model.call?_dropCall, if_pos rfl]
  apply lives_of_moves parked free still.kept.shape
  · exact still.spares.trans (.dropCall before callId)
  · rw [held]
    have settles : Life (.shellCompleted (.postOutcome callId url outcome latencyMs nowMs))
        (before.dropCall callId) callId (some session) [.conclude callId verdict] none :=
      .settles rfl waits settled
    rw [← gone] at settles
    simpa [conclude, about, RpcOperation.concerns, routed] using settles
  · intro other apart
    simp [conclude, about, RpcOperation.concerns, apart.symm]
  · exact fun other => tells_other

omit [CaseTable] in
theorem failsOver_lives (parked : Parked model) (free : Free model callId)
    (held : model.call? callId = some session) (waits : session.state = .waitingPost url)
    {signal : Bool}
    (shapes : ∀ chainId, before.shape? chainId = model.shape? chainId)
    (spares : Spares callId model before)
    (now : before.call? callId = some (session.after outcome signal))
    {persists : List RpcOperation}
    (writes : ∀ operation ∈ persists, ∃ entries, operation = .persistBans entries) :
    Lives (.shellCompleted (.postOutcome callId url outcome latencyMs nowMs)) model
      ((nextEndpoint before callId nowMs).1, persists ++ (nextEndpoint before callId nowMs).2) := by
  have sweeps := nextEndpoint_sweeps nowMs now
  apply lives_of_moves parked free
  · intro chainId
    exact (sweeps.still.kept.shape chainId).trans (shapes chainId)
  · exact spares.trans sweeps.still.spares
  · rw [held, about_append, about_persists writes, List.nil_append, sweeps.swept.about_self]
    exact .failsOver rfl waits (sweeps.swept.of_kept sweeps.still.kept.symm)
  · intro other apart
    rw [about_append, about_persists writes, List.nil_append]
    exact sweeps.swept.about_other apart
  · exact fun other => tells_other

/-- What an outcome comes to: the verdict, or the next endpoint. -/
inductive Routed (model : Model) (callId url : String) (session : CallSession)
    (outcome : RpcTransportOutcome) (nowMs : Float) : Turn → Prop where
  | concludes {before : Model} {verdict : RpcCallVerdict} (still : Still nowMs callId model before)
      (settled : Settles session url outcome verdict) :
      Routed model callId url session outcome nowMs (conclude before callId verdict)
  | goesOn {before : Model} {signal : Bool} {persists : List RpcOperation}
      (shapes : ∀ chainId, before.shape? chainId = model.shape? chainId)
      (spares : Spares callId model before) (wrongChain : before.wrongChain = model.wrongChain)
      (now : before.call? callId = some (session.after outcome signal))
      (writes : ∀ operation ∈ persists, ∃ entries, operation = .persistBans entries) :
      Routed model callId url session outcome nowMs
        ((nextEndpoint before callId nowMs).1, persists ++ (nextEndpoint before callId nowMs).2)

theorem routeOutcome_routed (model : Model) (callId url : String) (session : CallSession)
    (outcome : RpcTransportOutcome) (latencyMs nowMs : Float) :
    Routed model callId url session outcome nowMs
      (routeOutcome model callId url session outcome latencyMs nowMs) := by
  have told := Still.setCall nowMs model callId (session.told outcome)
  have touched := (Still.changeStats nowMs (model.setCall callId (session.told outcome)) callId
    session.chainId session.kind url (fun _ => rfl :
      ∀ stats, (recordSuccess latencyMs stats).url = stats.url)).1
  have fails (signal : Bool) := Still.changeStats nowMs
    ((model.setCall callId (session.told outcome)).setCall callId (session.after outcome signal))
    callId session.chainId session.kind url (fun _ => rfl :
      ∀ stats, (recordFailure nowMs stats).url = stats.url)
  have onward (signal : Bool) : Still nowMs callId model _ :=
    told.trans
      ((Still.setCall nowMs _ callId (session.after outcome signal)).trans (fails signal).1)
  have now (signal : Bool) : (touchFailure ((model.setCall callId (session.told outcome)).setCall
      callId (session.after outcome signal)) session.chainId session.kind url nowMs).call? callId =
        some (session.after outcome signal) := by
    rw [touchFailure, (fails signal).2, Model.call?_setCall, if_pos rfl]
  have goesOn (signal : Bool) :=
    @Routed.goesOn model callId url session outcome nowMs _ signal [] (onward signal).kept.shape
      (onward signal).spares (onward signal).kept.wrongChain (now signal) nofun
  unfold routeOutcome
  dsimp only
  split
  · exact .concludes (told.trans (touched.trans (.clearChainFailure nowMs _ callId _ _))) .responds
  · exact .concludes (told.trans (.clearChainFailure nowMs _ callId _ _)) .responds
  · exact .concludes (told.trans (touched.trans (.clearChainFailure nowMs _ callId _ _))) .caps
  · next signal _ =>
      let banned := banUrl (touchFailure ((model.setCall callId
        (session.told outcome)).setCall callId (session.after outcome signal)) session.chainId
        session.kind url nowMs) session.chainId session.kind url nowMs
      have writes : ∀ operation ∈ [RpcOperation.persistBans banned.banEntries],
          ∃ entries, operation = .persistBans entries := by
        intro operation member
        exact ⟨_, List.mem_singleton.mp member⟩
      exact @Routed.goesOn model callId url session outcome nowMs banned signal _
        (onward signal).kept.shape ((onward signal).spares.trans (.same rfl rfl))
        (onward signal).kept.wrongChain (now signal) writes
  · next signal _ => exact goesOn signal
  · exact goesOn true
  · exact goesOn false

theorem routeOutcome_lives (parked : Parked model) (free : Free model callId)
    (held : model.call? callId = some session) (waits : session.state = .waitingPost url) :
    Lives (.shellCompleted (.postOutcome callId url outcome latencyMs nowMs)) model
      (routeOutcome model callId url session outcome latencyMs nowMs) := by
  have routed := routeOutcome_routed model callId url session outcome latencyMs nowMs
  generalize routeOutcome model callId url session outcome latencyMs nowMs = turn at routed ⊢
  cases routed with
  | concludes still settled => exact conclude_lives parked free held waits still settled
  | goesOn shapes spares _ now writes =>
    exact failsOver_lives parked free held waits shapes spares now writes

theorem handleOutcome_lives (parked : Parked model) (callId url : String)
    (outcome : RpcTransportOutcome) (latencyMs nowMs : Float) :
    Lives (.shellCompleted (.postOutcome callId url outcome latencyMs nowMs)) model
      (handleOutcome model callId url outcome latencyMs nowMs) := by
  unfold handleOutcome
  split
  · next missing =>
      apply Lives.nothing parked
      intro other session held
      apply tells_other
      intro same
      rw [same, missing] at held
      cases held
  · next held =>
      split
      · next waits =>
          apply routeOutcome_lives parked _ held waits
          apply parked.free
          intro twin same
          cases held.symm.trans same
          rw [waits]
          exact ⟨nofun, nofun⟩
      · next unawaited =>
          apply Lives.nothing parked
          intro other twin found
          by_cases same : other = callId
          · rw [same, held] at found
            cases found
            rw [Event.tells, beq_eq_false_iff_ne.mpr unawaited, Bool.and_false]
          · exact tells_other same twin

end Outcomes

theorem invalidateAll_lives (parked : Parked model) :
    Lives .invalidateAll model (invalidateAll model, []) := by
  refine .untouched ?_ rfl (fun _ => rfl) fun _ _ _ => rfl
  refine ⟨?_, parked.racing⟩
  intro chainId shape held
  have mapped : (invalidateAll model).shape? chainId =
      (model.pool? chainId).map fun pool => { pool with loadedAtMs := none : ChainPool }.shape := by
    rw [Model.shape?, Model.pool?, invalidateAll, Keyed.get?_mapValues, Option.map_map]
    rfl
  rw [mapped] at held
  obtain ⟨pool, found, same⟩ := Option.map_eq_some_iff.mp held
  rw [← same]
  apply parked.pending chainId pool.shape
  rw [Model.shape?, found, Option.map_some]

theorem refreshChain_lives (parked : Parked model) (chainId : UInt32) :
    Lives (.refreshChain chainId) model (refreshChain model chainId) := by
  have ⟨once, waits⟩ := parked.pool chainId
  have loads : Parked (model.setPool chainId
      { (model.pool? chainId).getD .empty with loadedAtMs := none, loading := true }) :=
    parked.setPool once waits
  refine .untouched ?_ rfl (fun callId => about_load _ _ _) fun _ _ _ => rfl
  exact loads.same rfl rfl rfl

/-- Every step leaves the calls that wait where they wait, and gives every call its life. -/
theorem update_lives [CaseTable] (parked : Parked model) (event : Event) :
    Lives event model (update event model) := by
  cases event with
  | bansLoaded =>
    refine .untouched ?_ ?_ (fun _ => rfl) fun _ _ _ => rfl
    · unfold update loadBans
      dsimp only
      split
      · exact parked
      · exact parked.same rfl rfl rfl
    · unfold update loadBans
      dsimp only
      split <;> rfl
  | callRequested callId chainId kind method nowMs =>
    exact callRequested_lives parked callId chainId kind method nowMs
  | bundlerBaseRequested _ chainId nowMs | bestRpcUrlRequested _ chainId nowMs =>
    exact ensurePoolThen_query parked chainId rfl nowMs fun _ _ => rfl
  | invalidateAll => exact invalidateAll_lives parked
  | refreshChain chainId => exact refreshChain_lives parked chainId
  | shellCompleted result =>
    cases result with
    | poolConfig chainId rpcEndpoints bundlerEndpoints nowMs =>
      exact acceptConfig_lives parked chainId rpcEndpoints bundlerEndpoints nowMs
    | postOutcome callId url outcome latencyMs nowMs =>
      exact handleOutcome_lives parked callId url outcome latencyMs nowMs
    | chainIdProbed chainId url reported latencyMs nowMs =>
      exact handleProbe_lives parked chainId url reported latencyMs nowMs
    | jitter callId value => exact acceptJitter_lives parked callId value
    | backoffElapsed callId nowMs => exact acceptBackoff_lives parked callId nowMs
    | persisted | concluded => exact .nothing parked fun _ _ _ => rfl

/-- Where a call comes from: it was there before, or is asked for now; and it leaves the pool's
queue for lists that hold. -/
inductive Kin (event : Event) (after : Model) (callId : String) :
    Option CallSession → CallSession → Prop where
  | same {session next : CallSession} (chain : next.chainId = session.chainId)
      (leaves : session.state = .waitingPool → next.state ≠ .waitingPool →
        Fresh after session.chainId) :
      Kin event after callId (some session) next
  | new {kind : RpcKind} {method : String} {nowMs : Float} {next : CallSession}
      (requested : event = .callRequested callId next.chainId kind method nowMs)
      (leaves : next.state ≠ .waitingPool → Fresh after next.chainId) :
      Kin event after callId none next

section Chains

variable {model : Model} {callId : String} {nowMs : Float} {session next : CallSession}
  {operations : List RpcOperation}

theorem Swept.chain (swept : Swept model callId nowMs session (some next) operations) :
    next.chainId = session.chainId := by
  cases swept with
  | posts | pauses => rfl

theorem Passed.chain (passed : Passed model callId nowMs session (some next) operations) :
    next.chainId = session.chainId := by
  cases passed with
  | along _ _ swept => exact swept.chain

theorem Entered.chain (entered : Entered model callId nowMs session (some next) operations) :
    next.chainId = session.chainId := by
  cases entered with
  | races => rfl
  | passes passed => exact passed.chain

end Chains

theorem Life.kin {event : Event} {after : Model} {before : Option CallSession}
    {operations : List RpcOperation} {next : CallSession}
    (life : Life event after callId before operations (some next)) :
    Kin event after callId before next := by
  have moved {session : CallSession} {state : SessionState} (waits : session.state = state)
      (other : state ≠ .waitingPool) (chain : next.chainId = session.chainId) :
      Kin event after callId (some session) next := by
    apply Kin.same chain
    intro waiting
    exact absurd (waits.symm.trans waiting) other
  generalize reached : some next = result at life
  cases life with
  | stays =>
    rw [← reached]
    exact .same rfl fun waits leaves => absurd waits leaves
  | parks requested =>
    cases reached
    exact .new requested fun leaves => absurd rfl leaves
  | @asked chainId kind method nowMs _ _ requested fresh entered =>
    rw [← reached] at entered
    have chain : next.chainId = chainId := entered.chain
    rw [← chain] at requested fresh
    exact .new requested fun _ => fresh
  | starts _ _ fresh entered =>
    rw [← reached] at entered
    exact .same entered.chain fun _ _ => fresh
  | raced _ waits entered =>
    rw [← reached] at entered
    exact moved waits nofun entered.chain
  | retries _ waits passed =>
    rw [← reached] at passed
    exact moved waits nofun passed.chain
  | failsOver _ waits swept =>
    rw [← reached] at swept
    exact moved waits nofun swept.chain
  | settles => cases reached
  | draws _ waits =>
    cases reached
    exact moved waits nofun rfl

end VelaWallet.RpcPool
