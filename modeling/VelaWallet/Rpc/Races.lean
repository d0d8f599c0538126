import VelaWallet.Rpc.Session

/-!
# Races, and what is named to a bundler

What a step does to the races: the endpoints each still waits for, what is proved of them, and the
answers that name one.
-/

namespace VelaWallet.RpcPool

open Utf8 (CaseTable)

/-- The endpoints a chain's race waits for. -/
def Model.awaited (model : Model) (chainId : UInt32) : Finset String :=
  (model.race? chainId).elim ∅ ProbeRace.outstanding

/-- The endpoint an operation asks for its chain's id. -/
def RpcOperation.probed? (chainId : UInt32) : RpcOperation → Option String
  | probeChainId asked url _ => if asked = chainId then some url else none
  | _ => none

/-- The endpoints of a chain that are asked for its id. -/
def probesOf (chainId : UInt32) (operations : List RpcOperation) : List String :=
  operations.filterMap (·.probed? chainId)

@[simp] theorem probesOf_append (chainId : UInt32) (first second : List RpcOperation) :
    probesOf chainId (first ++ second) = probesOf chainId first ++ probesOf chainId second :=
  List.filterMap_append

/-- The operation asks no endpoint for its chain's id, and names none. -/
def RpcOperation.isMute : RpcOperation → Bool
  | probeChainId .. | conclude _ (.bestRpcUrl _) => false
  | _ => true

theorem probesOf_mute {operations : List RpcOperation}
    (mute : ∀ operation ∈ operations, operation.isMute = true) (chainId : UInt32) :
    probesOf chainId operations = [] := by
  apply List.filterMap_eq_nil_iff.mpr
  intro operation member
  have silent := mute operation member
  cases operation with
  | probeChainId => cases silent
  | _ => rfl

section Turns

variable {model : Model} {callId : String} {nowMs : Float} {session : CallSession}
  {next : Option CallSession} {operations : List RpcOperation} {turn : Turn}

theorem Swept.mute (swept : Swept model callId nowMs session next operations) :
    ∀ operation ∈ operations, operation.isMute = true := by
  intro operation member
  cases swept with
  | posts | pauses | fails =>
    rw [List.mem_singleton.mp member]
    rfl

theorem mute_persists
    (persists : ∀ operation ∈ operations, ∃ entries, operation = .persistBans entries) :
    ∀ operation ∈ operations, operation.isMute = true := by
  intro operation member
  have ⟨entries, same⟩ := persists operation member
  rw [same]
  rfl

theorem Passes.mute (passes : Passes model callId nowMs session turn) :
    ∀ operation ∈ turn.2, operation.isMute = true := by
  cases passes with
  | along writes _ _ sweeps =>
    intro operation member
    rcases List.mem_append.mp member with writing | own
    · exact mute_persists writes operation writing
    · exact sweeps.swept.mute operation own

end Turns

/-- The endpoints that are asked anew: none, or each of a race that opens. -/
inductive Opens : Finset String → List String → Finset String → Prop where
  | none {awaited : Finset String} : Opens awaited [] awaited
  | race {urls : List String} (once : urls.Nodup) : Opens ∅ urls urls.toFinset

theorem Opens.trans {before middle after : Finset String} {first second : List String}
    (opens : Opens before first middle) (more : Opens middle second after) :
    Opens before (first ++ second) after := by
  cases opens with
  | none => exact more
  | race once =>
    generalize reached : first.toFinset = middle at more
    cases more with
    | none =>
      rw [List.append_nil, ← reached]
      exact .race once
    | race again =>
      rw [(List.toFinset_eq_empty_iff first).mp reached, List.nil_append]
      exact .race again

theorem bundlerEligibleUrls_nodup {model : Model} {chainId : UInt32}
    (distinct : (model.listed chainId .rpc).Nodup) (nowMs : Float) :
    (bundlerEligibleUrls model chainId nowMs).Nodup := by
  unfold bundlerEligibleUrls
  unfold Model.listed at distinct
  split
  · exact List.nodup_nil
  · next held =>
      rw [held] at distinct
      exact (selectUrls_nodup distinct _ _).filter _

section Starts

variable {model : Model} {callId : String} {nowMs : Float} {session : CallSession} {turn : Turn}

theorem awaited_of_probes {after : Model} (same : after.probes = model.probes)
    (chainId : UInt32) : after.awaited chainId = model.awaited chainId := by
  rw [Model.awaited, Model.race?, same, ← Model.race?, ← Model.awaited]

theorem Begun.widens (begun : Begun model callId nowMs session turn)
    (distinct : ∀ chainId, (model.listed chainId .rpc).Nodup) (chainId : UInt32) :
    Opens (model.awaited chainId) (probesOf chainId turn.2) (turn.1.awaited chainId) := by
  have awaited (race : ProbeRace) :
      ((model.setRace session.chainId race).setCall callId session.racing).awaited chainId =
        if session.chainId = chainId then race.outstanding else model.awaited chainId := by
    have found :
        ((model.setRace session.chainId race).setCall callId session.racing).race? chainId =
          if session.chainId = chainId then some race else model.race? chainId :=
      Model.race?_setRace model session.chainId chainId race
    rw [Model.awaited, found]
    split
    · rfl
    · rfl
  cases begun with
  | passes passes =>
    rw [probesOf_mute passes.mute, awaited_of_probes passes.still.spares.probes]
    exact .none
  | @joins race bundler running =>
    have same : (if session.chainId = chainId then race.outstanding else model.awaited chainId) =
        model.awaited chainId := by
      split
      · next here =>
          rw [Model.awaited, ← here, running]
          rfl
      · rfl
    dsimp only
    rw [awaited, same]
    exact .none
  | opens _ idle =>
    dsimp only
    rw [awaited]
    split
    · next here =>
        have empty : model.awaited chainId = ∅ := by
          rw [Model.awaited, ← here, idle]
          rfl
        have asked : probesOf chainId ((bundlerEligibleUrls model session.chainId nowMs).map
            fun url => .probeChainId session.chainId url pingTimeoutMs) =
              bundlerEligibleUrls model session.chainId nowMs := by
          simp [probesOf, RpcOperation.probed?, here, List.filterMap_map]
        rw [asked, empty]
        exact .race (bundlerEligibleUrls_nodup (distinct _) nowMs)
    · next apart =>
        have silent : probesOf chainId ((bundlerEligibleUrls model session.chainId nowMs).map
            fun url => .probeChainId session.chainId url pingTimeoutMs) = [] := by
          simp [probesOf, RpcOperation.probed?, apart, List.filterMap_map]
        rw [silent]
        exact .none

variable {works : List PendingWork}

theorem Starts.widens (starts : Starts nowMs model works turn)
    (distinct : ∀ chainId, (model.listed chainId .rpc).Nodup) (chainId : UInt32) :
    Opens (model.awaited chainId) (probesOf chainId turn.2) (turn.1.awaited chainId) := by
  induction starts with
  | nil => exact .none
  | @answers model work works answer turn answered rest ih =>
    cases answered with
    | base | bestRpc => exact ih distinct
  | @begins model callId works session first turn held begun rest ih =>
    rw [probesOf_append]
    apply (begun.widens distinct chainId).trans
    apply ih
    intro other
    rw [listed_of_shape (begun.kept.shape other)]
    exact distinct other

theorem Starts.names (starts : Starts nowMs model works turn) {callId url : String}
    (member : .conclude callId (.bestRpcUrl (some url)) ∈ turn.2) :
    ∃ chainId, .bestRpc callId chainId ∈ works ∧ Admissible turn.1 chainId nowMs url := by
  induction starts with
  | nil => cases member
  | @answers model work works answer turn answered rest ih =>
    rcases List.mem_cons.mp member with first | later
    · cases answered with
      | base => cases first
      | bestRpc names =>
        cases first
        refine ⟨_, List.mem_cons_self, ?_⟩
        exact (rest.kept.admissible _ url).mpr (names url rfl)
    · have ⟨chainId, work, admissible⟩ := ih later
      exact ⟨chainId, List.mem_cons_of_mem _ work, admissible⟩
  | @begins model other works session first turn held begun rest ih =>
    rcases List.mem_append.mp member with own | later
    · exfalso
      cases begun with
      | passes passes => cases passes.mute _ own
      | joins => cases own
      | opens =>
        have ⟨probed, _, same⟩ := List.mem_map.mp own
        cases same
    · have ⟨chainId, work, admissible⟩ := ih later
      exact ⟨chainId, List.mem_cons_of_mem _ work, admissible⟩

end Starts

/-- What is heard in a chain's race. -/
inductive Heard (event : Event) (chainId : UInt32) : Finset String → Finset String → Prop where
  | nothing {awaited : Finset String} : Heard event chainId awaited awaited
  | answer {awaited : Finset String} {url : String} {reported : Option UInt32}
      {latencyMs nowMs : Float}
      (told : event = .shellCompleted (.chainIdProbed chainId url reported latencyMs nowMs)) :
      Heard event chainId awaited (awaited.erase url)

/-- The event is an endpoint's answer in the race of a chain. -/
def Event.isProbed : Event → Bool
  | shellCompleted (.chainIdProbed ..) => true
  | _ => false

/-- What a step does to the races, to what is proved of endpoints, and what it names. -/
structure Naming (event : Event) (model : Model) (turn : Turn) : Prop where
  awaits : ∀ chainId, ∃ middle, Heard event chainId (model.awaited chainId) middle ∧
    Opens middle (probesOf chainId turn.2) (turn.1.awaited chainId)
  wrong : ∀ chainId, event.changes chainId = false →
    model.wrongChains chainId ⊆ turn.1.wrongChains chainId
  proves : ∀ chainId url id latencyMs nowMs,
    event = .shellCompleted (.chainIdProbed chainId url (some id) latencyMs nowMs) →
      id ≠ chainId → url ∈ model.awaited chainId → url ∈ turn.1.wrongChains chainId
  names : ∀ callId url, .conclude callId (.bestRpcUrl (some url)) ∈ turn.2 →
    ∃ chainId nowMs, event.nowMs? = some nowMs ∧ Admissible turn.1 chainId nowMs url ∧
      (event.work? = some (.bestRpc callId chainId) ∨
        ∃ other, .bestRpc callId chainId ∈ model.pendingOf other)

variable {event : Event} {model : Model} {nowMs : Float} {turn : Turn}

theorem wrongChains_of_same {after : Model} (same : after.wrongChain = model.wrongChain)
    (chainId : UInt32) : after.wrongChains chainId = model.wrongChains chainId := by
  rw [Model.wrongChains, same, ← Model.wrongChains]

theorem Naming.mute (unprobed : event.isProbed = false) (probes : turn.1.probes = model.probes)
    (wrong : ∀ chainId, event.changes chainId = false →
      turn.1.wrongChains chainId = model.wrongChains chainId)
    (mute : ∀ operation ∈ turn.2, operation.isMute = true) : Naming event model turn where
  awaits chainId := by
    refine ⟨_, .nothing, ?_⟩
    rw [probesOf_mute mute, awaited_of_probes probes]
    exact .none
  wrong chainId unchanged := by rw [wrong chainId unchanged]
  proves chainId url id latencyMs nowMs told := by
    rw [told] at unprobed
    cases unprobed
  names callId url member := by cases mute _ member

theorem Naming.of_starts {before : Model} {works : List PendingWork}
    (starts : Starts nowMs before works turn) (clock : event.nowMs? = some nowMs)
    (unprobed : event.isProbed = false)
    (distinct : ∀ chainId, (before.listed chainId .rpc).Nodup)
    (probes : before.probes = model.probes) (wrongChain : before.wrongChain = model.wrongChain)
    (asked : ∀ callId chainId, .bestRpc callId chainId ∈ works →
      event.work? = some (.bestRpc callId chainId) ∨
        ∃ other, .bestRpc callId chainId ∈ model.pendingOf other) :
    Naming event model turn where
  awaits chainId := by
    refine ⟨_, .nothing, ?_⟩
    rw [← awaited_of_probes probes]
    exact starts.widens distinct chainId
  wrong chainId _ := by
    rw [wrongChains_of_same (starts.kept.wrongChain.trans wrongChain)]
  proves chainId url id latencyMs nowMs told := by
    rw [told] at unprobed
    cases unprobed
  names callId url member := by
    have ⟨chainId, work, admissible⟩ := starts.names member
    exact ⟨chainId, nowMs, clock, admissible, asked callId chainId work⟩

theorem mute_load (loading : Bool) (chainId : UInt32) :
    ∀ operation ∈ (if loading then [] else [RpcOperation.loadPoolConfig chainId]),
      operation.isMute = true := by
  intro operation member
  cases loading with
  | true => cases member
  | false =>
    rw [List.mem_singleton.mp member]
    rfl

theorem ensurePoolThen_naming {before : Model} (chainId : UInt32) {work : PendingWork}
    (called : Called before (callsOf [work])) (clock : event.nowMs? = some nowMs)
    (unprobed : event.isProbed = false) (asked : event.work? = some work)
    (distinct : ∀ chainId, (before.listed chainId .rpc).Nodup)
    (probes : before.probes = model.probes) (wrongChain : before.wrongChain = model.wrongChain) :
    Naming event model (ensurePoolThen before chainId work nowMs) := by
  unfold ensurePoolThen
  dsimp only
  split
  · have starts := startWorks_starts nowMs [work] called
    have alone : inTurn (startWork nowMs) before [work] =
        ((startWork nowMs before work).1, (startWork nowMs before work).2 ++ []) := rfl
    rw [alone, List.append_nil] at starts
    apply Naming.of_starts starts clock unprobed distinct probes wrongChain
    intro callId other member
    rw [asked, List.mem_singleton.mp member]
    exact .inl rfl
  · exact .mute unprobed probes (fun other _ => wrongChains_of_same wrongChain other)
      (mute_load _ chainId)

theorem callRequested_naming (parked : Parked model)
    (distinct : ∀ chainId, (model.listed chainId .rpc).Nodup) (callId : String) (chainId : UInt32)
    (kind : RpcKind) (method : String) (nowMs : Float) :
    Naming (.callRequested callId chainId kind method nowMs) model
      (callRequested model callId chainId kind method nowMs) := by
  unfold callRequested
  split
  · exact .mute rfl rfl (fun _ _ => rfl) nofun
  · next unused =>
      exact ensurePoolThen_naming chainId (parked.called_new unused chainId kind method) rfl rfl rfl
        distinct rfl rfl

theorem acceptConfig_naming (parked : Parked model)
    (distinct : ∀ chainId, (model.listed chainId .rpc).Nodup) (chainId : UInt32)
    (rpcEndpoints bundlerEndpoints : List RpcEndpointSeed) (nowMs : Float) :
    Naming (.shellCompleted (.poolConfig chainId rpcEndpoints bundlerEndpoints nowMs)) model
      (acceptConfig model chainId rpcEndpoints bundlerEndpoints nowMs) := by
  unfold acceptConfig
  split
  · exact .mute rfl rfl (fun _ _ => rfl) nofun
  · next pool held =>
      split
      · exact .mute rfl rfl (fun _ _ => rfl) nofun
      · let read : ChainPool := {
          rpc := mergeEndpoints pool.rpc rpcEndpoints
          bundler := mergeEndpoints pool.bundler bundlerEndpoints
          loadedAtMs := some nowMs
          loading := false
          pending := [] }
        have ⟨_, called⟩ := parked.read held (rfl : read.pending = [])
        have starts := startWorks_starts nowMs pool.pending called
        refine .of_starts starts rfl rfl ?_ rfl rfl ?_
        · intro other
          rw [Model.listed, Model.pool?_setPool]
          split
          · exact mergeEndpoints_nodup pool.rpc rpcEndpoints
          · exact distinct other
        · intro callId other member
          refine .inr ⟨chainId, ?_⟩
          rw [Model.pendingOf, Model.shape?, held]
          exact member

section Proving

variable {after : Model} {chainId : UInt32} {url : String} {reported : Option UInt32}

theorem proving_wrong (proved : after.wrongChain = model.proving chainId url reported)
    (other : UInt32) : model.wrongChains other ⊆ after.wrongChains other := by
  intro known member
  rw [Model.wrongChains, proved]
  unfold Model.proving
  split
  · exact member
  · split
    · exact member
    · rw [Keyed.get?_set]
      split
      · next same =>
          rw [Option.getD_some, same]
          exact Finset.mem_insert_of_mem member
      · exact member

theorem proving_proves {id : UInt32}
    (proved : after.wrongChain = model.proving chainId url (some id)) (wrong : id ≠ chainId) :
    url ∈ after.wrongChains chainId := by
  rw [Model.wrongChains, proved, Model.proving, if_neg wrong, Keyed.get?_set, if_pos rfl,
    Option.getD_some]
  exact Finset.mem_insert_self url _

end Proving

theorem awaited_setRace (model : Model) (chainId other : UInt32) (race : ProbeRace) :
    (model.setRace chainId race).awaited other =
      if chainId = other then race.outstanding else model.awaited other := by
  rw [Model.awaited, Model.race?_setRace]
  split
  · rfl
  · rfl

theorem awaited_dropRace (model : Model) (chainId other : UInt32) :
    (model.dropRace chainId).awaited other =
      if chainId = other then ∅ else model.awaited other := by
  rw [Model.awaited, Model.race?_dropRace]
  split
  · rfl
  · rfl

theorem heard_answer {after : Model} {chainId : UInt32} {url : String} {reported : Option UInt32}
    {latencyMs nowMs : Float}
    (awaited : ∀ other, after.awaited other =
      if chainId = other then (model.awaited chainId).erase url else model.awaited other)
    (other : UInt32) :
    Heard (.shellCompleted (.chainIdProbed chainId url reported latencyMs nowMs)) other
      (model.awaited other) (after.awaited other) := by
  rw [awaited]
  split
  · next same =>
      rw [← same]
      exact .answer rfl
  · exact .nothing

theorem handleProbe_naming (parked : Parked model)
    (distinct : ∀ chainId, (model.listed chainId .rpc).Nodup) (chainId : UInt32) (url : String)
    (reported : Option UInt32) (latencyMs nowMs : Float) :
    Naming (.shellCompleted (.chainIdProbed chainId url reported latencyMs nowMs)) model
      (handleProbe model chainId url reported latencyMs nowMs) := by
  have proves {after : Model} (proved : after.wrongChain = model.proving chainId url reported) :
      ∀ answered told id latency now,
        Event.shellCompleted (.chainIdProbed chainId url reported latencyMs nowMs) =
          .shellCompleted (.chainIdProbed answered told (some id) latency now) →
        id ≠ answered → told ∈ model.awaited answered → told ∈ after.wrongChains answered := by
    intro answered told id latency now same wrong _
    cases same
    exact proving_proves proved wrong
  have told (race : ProbeRace) (running : model.race? chainId = some race) (other : UInt32) :
      ({ model with wrongChain := model.proving chainId url reported }.setRace chainId
        (race.told chainId url latencyMs reported)).awaited other =
          if chainId = other then (model.awaited chainId).erase url else model.awaited other := by
    rw [awaited_setRace, race.told_outstanding, Model.awaited.eq_def model chainId, running]
    rfl
  have probed := handleProbe_probed model chainId url reported latencyMs nowMs
  generalize handleProbe model chainId url reported latencyMs nowMs = turn at probed ⊢
  cases probed with
  | ignores unawaited =>
    constructor
    case awaits => exact fun _ => ⟨_, .nothing, .none⟩
    case wrong => exact fun _ _ => Finset.Subset.refl _
    case proves =>
      intro answered told id latency now same _ member
      cases same
      rw [Model.awaited] at member
      cases running : model.race? chainId with
      | none =>
        rw [running] at member
        cases member
      | some race =>
        rw [running] at member
        exact absurd member (unawaited race running)
    case names => exact nofun
  | @hears race running awaited more =>
    constructor
    case awaits => exact fun other => ⟨_, heard_answer (told race running) other, .none⟩
    case wrong => exact fun other _ => proving_wrong rfl other
    case proves => exact proves rfl
    case names => exact nofun
  | @ends race fastest winner running awaited last =>
    have starts := startWaiters_starts nowMs winner race.waiters
      (parked.told running chainId url latencyMs reported fastest).2
    have ended (other : UInt32) :
        ({ ({ model with wrongChain := model.proving chainId url reported }.setRace chainId
          (race.told chainId url latencyMs reported)).dropRace chainId with fastest } :
            Model).awaited other =
          if chainId = other then (model.awaited chainId).erase url else model.awaited other := by
      have dropped := awaited_dropRace
        ({ model with wrongChain := model.proving chainId url reported }.setRace chainId
          (race.told chainId url latencyMs reported)) chainId other
      have empty := told race running chainId
      rw [if_pos rfl, awaited_setRace, if_pos rfl, last] at empty
      refine Eq.trans dropped ?_
      rw [told race running other, ← empty]
      split
      · rfl
      · rfl
    constructor
    case awaits =>
      intro other
      exact ⟨_, heard_answer ended other, starts.widens distinct other⟩
    case wrong =>
      intro other _
      exact proving_wrong starts.kept.wrongChain other
    case proves => exact proves starts.kept.wrongChain
    case names =>
      intro callId named member
      have ⟨_, work, _⟩ := starts.names member
      have ⟨_, _, same⟩ := List.mem_map.mp work
      cases same

theorem handleOutcome_naming [CaseTable] (model : Model) (callId url : String)
    (outcome : RpcTransportOutcome) (latencyMs nowMs : Float) :
    Naming (.shellCompleted (.postOutcome callId url outcome latencyMs nowMs)) model
      (handleOutcome model callId url outcome latencyMs nowMs) := by
  unfold handleOutcome
  split
  · exact .mute rfl rfl (fun _ _ => rfl) nofun
  · next session _ =>
      split
      · have routed := routeOutcome_routed model callId url session outcome latencyMs nowMs
        generalize routeOutcome model callId url session outcome latencyMs nowMs = turn at routed ⊢
        cases routed with
        | concludes still settled =>
          refine .mute rfl still.spares.probes ?_ ?_
          · exact fun other _ => wrongChains_of_same still.kept.wrongChain other
          · intro operation member
            rw [List.mem_singleton.mp member]
            cases settled with
            | responds => rfl
            | caps => rfl
        | goesOn _ spares wrongChain now writes =>
          have sweeps := @nextEndpoint_sweeps _ _ _ nowMs now
          have probes := sweeps.still.spares.probes.trans spares.probes
          refine .mute rfl probes ?_ ?_
          · intro other _
            exact wrongChains_of_same (sweeps.still.kept.wrongChain.trans wrongChain) other
          · intro operation member
            rcases List.mem_append.mp member with writing | own
            · exact mute_persists writes operation writing
            · exact sweeps.swept.mute operation own
      · exact .mute rfl rfl (fun _ _ => rfl) nofun

theorem acceptJitter_naming (model : Model) (callId : String) (value : Float) :
    Naming (.shellCompleted (.jitter callId value)) model (acceptJitter model callId value) := by
  unfold acceptJitter
  split
  · exact .mute rfl rfl (fun _ _ => rfl) nofun
  · split
    · refine .mute rfl rfl (fun _ _ => rfl) ?_
      intro operation member
      rw [List.mem_singleton.mp member]
      rfl
    · exact .mute rfl rfl (fun _ _ => rfl) nofun

theorem acceptBackoff_naming (model : Model) (callId : String) (nowMs : Float) :
    Naming (.shellCompleted (.backoffElapsed callId nowMs)) model
      (acceptBackoff model callId nowMs) := by
  unfold acceptBackoff
  split
  · exact .mute rfl rfl (fun _ _ => rfl) nofun
  · next session _ =>
      split
      · let again : CallSession := { session with pass := saturatingNext 32 session.pass }
        have present : (model.setCall callId again).call? callId = some again := by
          rw [Model.call?_setCall, if_pos rfl]
        have passes := startPass_passes nowMs present
        have probes : (startPass (model.setCall callId again) callId nowMs).1.probes =
            model.probes := passes.still.spares.probes
        refine .mute rfl probes ?_ ?_
        · exact fun other _ => wrongChains_of_same passes.still.kept.wrongChain other
        · exact passes.mute
      · exact .mute rfl rfl (fun _ _ => rfl) nofun

theorem refreshChain_naming (model : Model) (chainId : UInt32) :
    Naming (.refreshChain chainId) model (refreshChain model chainId) := by
  refine .mute rfl rfl ?_ (mute_load _ chainId)
  intro other unchanged
  have apart : chainId ≠ other := beq_eq_false_iff_ne.mp unchanged
  rw [Model.wrongChains, refreshChain, Keyed.get?_erase_other apart, ← Model.wrongChains]

/-- What every step does to the races, to what is proved of endpoints, and what it names. -/
theorem update_naming [CaseTable] (parked : Parked model)
    (distinct : ∀ chainId, (model.listed chainId .rpc).Nodup) (event : Event) :
    Naming event model (update event model) := by
  cases event with
  | bansLoaded entries =>
    have same : (loadBans model entries).probes = model.probes ∧
        (loadBans model entries).wrongChain = model.wrongChain := by
      unfold loadBans
      split
      · exact ⟨rfl, rfl⟩
      · exact ⟨rfl, rfl⟩
    exact .mute rfl same.1 (fun other _ => wrongChains_of_same same.2 other) nofun
  | callRequested callId chainId kind method nowMs =>
    exact callRequested_naming parked distinct callId chainId kind method nowMs
  | bundlerBaseRequested _ chainId | bestRpcUrlRequested _ chainId =>
    exact ensurePoolThen_naming chainId ⟨List.nodup_nil, nofun, nofun⟩ rfl rfl rfl distinct rfl
      rfl
  | invalidateAll =>
    refine .mute rfl rfl ?_ nofun
    intro other unchanged
    cases unchanged
  | refreshChain chainId => exact refreshChain_naming model chainId
  | shellCompleted result =>
    cases result with
    | poolConfig chainId rpcEndpoints bundlerEndpoints nowMs =>
      exact acceptConfig_naming parked distinct chainId rpcEndpoints bundlerEndpoints nowMs
    | postOutcome callId url outcome latencyMs nowMs =>
      exact handleOutcome_naming model callId url outcome latencyMs nowMs
    | chainIdProbed chainId url reported latencyMs nowMs =>
      exact handleProbe_naming parked distinct chainId url reported latencyMs nowMs
    | jitter callId value => exact acceptJitter_naming model callId value
    | backoffElapsed callId nowMs => exact acceptBackoff_naming model callId nowMs
    | persisted | concluded => exact .mute rfl rfl (fun _ _ => rfl) nofun

end VelaWallet.RpcPool
