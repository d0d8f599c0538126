import VelaWallet.Base.Shell
import VelaWallet.Rpc.Lives

/-!
# The pool and its shell

The machine run with the shell that carries out what it asks for, and what a step does to the
loads of a chain's configuration.
-/

namespace VelaWallet.RpcPool

open Utf8 (CaseTable)

variable {nowMs : Float} {operation : RpcOperation} {chainId : UInt32}

@[reducible] def rpcPool [CaseTable] : Process Model Event (List RpcOperation) where
  init := .fresh
  step event model := some (update event model)

/-- The shell answers each operation with a result of its own kind, which names what it answers. -/
@[reducible] def rpcShell : Shell Event RpcOperation where
  external event := match event with
    | .shellCompleted _ => false
    | _ => true
  answers operation event := match operation, event with
    | .loadPoolConfig chainId, .shellCompleted (.poolConfig answered _ _ _) => answered == chainId
    | .jsonRpcPost callId url _ _ _, .shellCompleted (.postOutcome answered answeredUrl _ _ _) =>
      answered == callId && answeredUrl == url
    | .probeChainId chainId url _, .shellCompleted (.chainIdProbed answered answeredUrl _ _ _) =>
      answered == chainId && answeredUrl == url
    | .drawJitter callId, .shellCompleted (.jitter answered _) => answered == callId
    | .startBackoff callId _, .shellCompleted (.backoffElapsed answered _) => answered == callId
    | .persistBans _, .shellCompleted .persisted => true
    | .conclude .., .shellCompleted .concluded => true
    | _, _ => false

theorem answers_poolConfig {rpcEndpoints bundlerEndpoints : List RpcEndpointSeed}
    (answers : rpcShell.answers operation (.shellCompleted
      (.poolConfig chainId rpcEndpoints bundlerEndpoints nowMs)) = true) :
    operation = .loadPoolConfig chainId := by
  cases operation with
  | loadPoolConfig =>
    rw [beq_iff_eq.mp answers]
  | _ => cases answers

theorem answers_postOutcome {callId url : String}
    {outcome : RpcTransportOutcome} {latencyMs : Float}
    (answers : rpcShell.answers operation (.shellCompleted
      (.postOutcome callId url outcome latencyMs nowMs)) = true) :
    ∃ method xRpcUrl timeoutMs,
      operation = .jsonRpcPost callId url method xRpcUrl timeoutMs := by
  cases operation with
  | jsonRpcPost =>
    have ⟨same, sameUrl⟩ := Bool.and_eq_true_iff.mp answers
    rw [beq_iff_eq.mp same, beq_iff_eq.mp sameUrl]
    exact ⟨_, _, _, rfl⟩
  | _ => cases answers

theorem answers_chainIdProbed {url : String} {reported : Option UInt32} {latencyMs : Float}
    (answers : rpcShell.answers operation (.shellCompleted
      (.chainIdProbed chainId url reported latencyMs nowMs)) = true) :
    ∃ timeoutMs, operation = .probeChainId chainId url timeoutMs := by
  cases operation with
  | probeChainId =>
    have ⟨same, sameUrl⟩ := Bool.and_eq_true_iff.mp answers
    rw [beq_iff_eq.mp same, beq_iff_eq.mp sameUrl]
    exact ⟨_, rfl⟩
  | _ => cases answers

/-! ## Loads -/

/-- The chain's configuration is being read. -/
def Model.loading (model : Model) (chainId : UInt32) : Bool :=
  (model.shape? chainId).any PoolShape.loading

/-- The chain's configuration was read, and holds. -/
def Model.loaded (model : Model) (chainId : UInt32) : Bool :=
  (model.shape? chainId).any fun shape => shape.loadedAtMs.isSome

theorem fresh_iff {model : Model} :
    Fresh model chainId ↔ model.loaded chainId = true := by
  rw [Model.loaded, Option.any_eq_true]
  exact Iff.rfl

/-- The event says that the chain's configuration changed. -/
def Event.changes (chainId : UInt32) : Event → Bool
  | invalidateAll => true
  | refreshChain changed => changed == chainId
  | _ => false

/-- Where lists that hold come from: they held before, or the event brings them. -/
inductive Reads (event : Event) (model : Model) (chainId : UInt32) : Prop where
  | held (loaded : model.loaded chainId = true) (unchanged : event.changes chainId = false)
  | told {rpcEndpoints bundlerEndpoints : List RpcEndpointSeed} {nowMs : Float}
      (loading : model.loading chainId = true)
      (answered : event = .shellCompleted
        (.poolConfig chainId rpcEndpoints bundlerEndpoints nowMs))

def Event.work? : Event → Option PendingWork
  | callRequested callId _ _ _ _ => some (.call callId)
  | bundlerBaseRequested callId chainId _ => some (.base callId chainId)
  | bestRpcUrlRequested callId chainId _ => some (.bestRpc callId chainId)
  | _ => none

/-- The works that wait for a chain's configuration. -/
def Model.pendingOf (model : Model) (chainId : UInt32) : List PendingWork :=
  (model.shape? chainId).elim [] PoolShape.pending

/-- What a step leaves of the pools: the lists that hold are held before or brought, a list that is
changed names each url once, and the works that wait did so before or are asked for. -/
structure ReadsAll (event : Event) (model after : Model) : Prop where
  loaded : ∀ chainId, after.loaded chainId = true → Reads event model chainId
  listed : ∀ chainId kind, after.listed chainId kind = model.listed chainId kind ∨
    (after.listed chainId kind).Nodup
  pending : ∀ chainId, ∀ work ∈ after.pendingOf chainId,
    work ∈ model.pendingOf chainId ∨ event.work? = some work

variable {event : Event} {model after : Model} {nowMs : Float}

/-- The pools have the shapes they had. -/
def Quiet (model after : Model) : Prop := ∀ chainId, after.shape? chainId = model.shape? chainId

theorem Quiet.reads (quiet : Quiet model after)
    (unchanged : ∀ chainId, event.changes chainId = false) : ReadsAll event model after where
  loaded chainId loaded := by
    rw [Model.loaded, quiet chainId] at loaded
    exact .held loaded (unchanged chainId)
  listed chainId kind := .inl (listed_of_shape (quiet chainId) kind)
  pending chainId work member := by
    rw [Model.pendingOf, quiet chainId] at member
    exact .inl member

theorem readsAll_setPool {pool : ChainPool} {chainId : UInt32}
    (own : pool.loadedAtMs.isSome = true → Reads event model chainId)
    (lists : ∀ kind, urls (pool.list kind) = model.listed chainId kind ∨
      (urls (pool.list kind)).Nodup)
    (works : ∀ work ∈ pool.pending, work ∈ model.pendingOf chainId ∨ event.work? = some work)
    (unchanged : ∀ other, other ≠ chainId → event.changes other = false)
    (quiet : Quiet (model.setPool chainId pool) after) : ReadsAll event model after where
  loaded other loaded := by
    rw [Model.loaded, quiet other, Model.shape?, Model.pool?_setPool] at loaded
    split at loaded
    · next same =>
        rw [← same]
        exact own loaded
    · next apart => exact .held loaded (unchanged other fun same => apart same.symm)
  listed other kind := by
    rw [listed_of_shape (quiet other) kind, Model.listed, Model.pool?_setPool]
    split
    · next same =>
        rw [← same]
        exact lists kind
    · exact .inl rfl
  pending other work member := by
    rw [Model.pendingOf, quiet other, Model.shape?, Model.pool?_setPool] at member
    split at member
    · next same =>
        rw [← same]
        exact works work member
    · exact .inl member

theorem reading_getD (model : Model) (chainId : UInt32) :
    model.loading chainId = ((model.pool? chainId).getD .empty).loading ∧
      model.loaded chainId = ((model.pool? chainId).getD .empty).loadedAtMs.isSome := by
  unfold Model.loading Model.loaded Model.shape?
  cases model.pool? chainId with
  | none | some pool => exact ⟨rfl, rfl⟩

theorem listed_getD (model : Model) (chainId : UInt32) (kind : RpcKind) :
    urls (((model.pool? chainId).getD .empty).list kind) = model.listed chainId kind := by
  unfold Model.listed
  cases model.pool? chainId with
  | none =>
    cases kind with
    | rpc | bundler => rfl
  | some => rfl

theorem startWork_quiet {work : PendingWork} (called : Called model (callsOf [work])) :
    Quiet model (startWork nowMs model work).1 :=
  (startWorks_starts nowMs [work] called).kept.shape

theorem pendingOf_getD (model : Model) (chainId : UInt32) :
    ((model.pool? chainId).getD .empty).pending = model.pendingOf chainId := by
  unfold Model.pendingOf Model.shape?
  cases model.pool? chainId with
  | none | some pool => rfl

theorem ensurePoolThen_reads (unchanged : ∀ chainId, event.changes chainId = false)
    (chainId : UInt32) {work : PendingWork} (asked : event.work? = some work)
    (called : Called model (callsOf [work])) :
    ReadsAll event model (ensurePoolThen model chainId work nowMs).1 := by
  unfold ensurePoolThen
  dsimp only
  split
  · exact (startWork_quiet called).reads unchanged
  · have ⟨_, loaded⟩ := reading_getD model chainId
    refine readsAll_setPool ?_ ?_ ?_ (fun other _ => unchanged other) fun _ => rfl
    · intro holds
      exact .held (loaded.trans holds) (unchanged chainId)
    · intro kind
      rw [← listed_getD]
      cases kind with
      | rpc | bundler => exact .inl rfl
    · intro other member
      rcases List.mem_append.mp member with earlier | last
      · exact .inl (pendingOf_getD model chainId ▸ earlier)
      · rw [List.mem_singleton.mp last]
        exact .inr asked

theorem Parked.called_new (parked : Parked model) {callId : String}
    (unused : ¬(model.call? callId).isSome = true) (chainId : UInt32) (kind : RpcKind)
    (method : String) :
    Called (model.setCall callId (.new chainId kind method)) (callsOf [.call callId]) := by
  have absent : model.call? callId = none := Option.not_isSome_iff_eq_none.mp unused
  have free : Free model callId := by
    apply parked.free
    intro session held
    cases absent.symm.trans held
  constructor
  case once => exact List.nodup_singleton callId
  case free =>
    intro other member
    rw [List.mem_singleton.mp member]
    exact free.of_same (fun _ => rfl) rfl
  case live =>
    intro other member
    rw [List.mem_singleton.mp member, Model.call?_setCall, if_pos rfl]
    rfl

theorem callRequested_reads (parked : Parked model) (callId : String) (chainId : UInt32)
    (kind : RpcKind) (method : String) :
    ReadsAll (.callRequested callId chainId kind method nowMs) model
      (callRequested model callId chainId kind method nowMs).1 := by
  unfold callRequested
  split
  · exact Quiet.reads (fun _ => rfl) fun _ => rfl
  · next unused =>
      have reads : ReadsAll (.callRequested callId chainId kind method nowMs)
          (model.setCall callId (.new chainId kind method))
          (ensurePoolThen (model.setCall callId (.new chainId kind method)) chainId
            (.call callId) nowMs).1 := by
        apply ensurePoolThen_reads (fun _ => rfl) chainId rfl
        exact parked.called_new unused chainId kind method
      refine ⟨?_, reads.listed, reads.pending⟩
      intro other loaded
      cases reads.loaded other loaded with
      | held loaded unchanged => exact .held loaded unchanged
      | told loading answered => exact .told loading answered

theorem acceptConfig_reads (parked : Parked model) (chainId : UInt32)
    (rpcEndpoints bundlerEndpoints : List RpcEndpointSeed) (nowMs : Float) :
    ReadsAll (.shellCompleted (.poolConfig chainId rpcEndpoints bundlerEndpoints nowMs)) model
      (acceptConfig model chainId rpcEndpoints bundlerEndpoints nowMs).1 := by
  unfold acceptConfig
  split
  · exact Quiet.reads (fun _ => rfl) fun _ => rfl
  · next pool held =>
      split
      · exact Quiet.reads (fun _ => rfl) fun _ => rfl
      · next loads =>
          have ⟨loading, _⟩ := reading_getD model chainId
          rw [held, Option.getD_some] at loading
          let read : ChainPool := {
            rpc := mergeEndpoints pool.rpc rpcEndpoints
            bundler := mergeEndpoints pool.bundler bundlerEndpoints
            loadedAtMs := some nowMs
            loading := false
            pending := [] }
          have ⟨_, called⟩ := parked.read held (rfl : read.pending = [])
          have starts := startWorks_starts nowMs pool.pending called
          refine readsAll_setPool ?_ ?_ ?_ (fun _ _ => rfl) starts.kept.shape
          · intro _
            have was : pool.loading = true := by simpa using loads
            exact .told (loading.trans was) rfl
          · intro kind
            cases kind with
            | rpc => exact .inr (mergeEndpoints_nodup pool.rpc rpcEndpoints)
            | bundler => exact .inr (mergeEndpoints_nodup pool.bundler bundlerEndpoints)
          · intro work member
            cases member

theorem handleProbe_quiet (parked : Parked model) (chainId : UInt32) (url : String)
    (reported : Option UInt32) (latencyMs nowMs : Float) :
    Quiet model (handleProbe model chainId url reported latencyMs nowMs).1 := by
  have probed := handleProbe_probed model chainId url reported latencyMs nowMs
  generalize handleProbe model chainId url reported latencyMs nowMs = turn at probed ⊢
  cases probed with
  | ignores | hears => exact fun _ => rfl
  | @ends race fastest winner running =>
    have starts := startWaiters_starts nowMs winner race.waiters
      (parked.told running chainId url latencyMs reported fastest).2
    exact starts.kept.shape

theorem acceptJitter_quiet (model : Model) (callId : String) (value : Float) :
    Quiet model (acceptJitter model callId value).1 := by
  unfold acceptJitter
  split
  · exact fun _ => rfl
  · split
    · exact fun _ => rfl
    · exact fun _ => rfl

theorem acceptBackoff_quiet (model : Model) (callId : String) (nowMs : Float) :
    Quiet model (acceptBackoff model callId nowMs).1 := by
  unfold acceptBackoff
  split
  · exact fun _ => rfl
  · next session _ =>
      split
      · let again : CallSession := { session with pass := saturatingNext 32 session.pass }
        have present : (model.setCall callId again).call? callId = some again := by
          rw [Model.call?_setCall, if_pos rfl]
        have passes := startPass_passes nowMs present
        exact passes.still.kept.shape
      · exact fun _ => rfl

theorem handleOutcome_quiet [CaseTable] (model : Model) (callId url : String)
    (outcome : RpcTransportOutcome) (latencyMs nowMs : Float) :
    Quiet model (handleOutcome model callId url outcome latencyMs nowMs).1 := by
  unfold handleOutcome
  split
  · exact fun _ => rfl
  · next session _ =>
      split
      · have routed := routeOutcome_routed model callId url session outcome latencyMs nowMs
        generalize routeOutcome model callId url session outcome latencyMs nowMs = turn at routed ⊢
        cases routed with
        | concludes still => exact still.kept.shape
        | goesOn shapes _ _ now =>
          have sweeps := @nextEndpoint_sweeps _ _ _ nowMs now
          intro chainId
          exact (sweeps.still.kept.shape chainId).trans (shapes chainId)
      · exact fun _ => rfl

theorem invalidateAll_reads (model : Model) :
    ReadsAll .invalidateAll model (invalidateAll model) := by
  have now (chainId : UInt32) : (invalidateAll model).pool? chainId =
      (model.pool? chainId).map fun pool => { pool with loadedAtMs := none } := by
    rw [Model.pool?, invalidateAll, Keyed.get?_mapValues]
    rfl
  constructor
  case loaded =>
    intro chainId loaded
    rw [Model.loaded, Model.shape?, now] at loaded
    cases held : model.pool? chainId with
    | none | some =>
      rw [held] at loaded
      cases loaded
  case listed =>
    intro chainId kind
    left
    rw [Model.listed, now, Model.listed]
    cases model.pool? chainId with
    | none => rfl
    | some =>
      cases kind with
      | rpc => rfl
      | bundler => rfl
  case pending =>
    intro chainId work member
    rw [Model.pendingOf, Model.shape?, now] at member
    rw [Model.pendingOf, Model.shape?]
    cases held : model.pool? chainId with
    | none =>
      rw [held] at member
      cases member
    | some =>
      rw [held] at member
      exact .inl member

theorem refreshChain_reads (model : Model) (chainId : UInt32) :
    ReadsAll (.refreshChain chainId) model (refreshChain model chainId).1 := by
  refine @readsAll_setPool _ model _
    { (model.pool? chainId).getD .empty with loadedAtMs := none, loading := true } chainId nofun
    ?_ ?_
    (fun other apart => beq_eq_false_iff_ne.mpr fun same => apart same.symm) fun _ => rfl
  · intro kind
    rw [← listed_getD]
    cases kind with
    | rpc | bundler => exact .inl rfl
  · intro work member
    exact .inl (pendingOf_getD model chainId ▸ member)

theorem update_reads [CaseTable] (parked : Parked model) (event : Event) :
    ReadsAll event model (update event model).1 := by
  have still {after : Model} (unchanged : ∀ chainId, event.changes chainId = false)
      (pools : after.pools = model.pools) : ReadsAll event model after := by
    apply Quiet.reads _ unchanged
    intro chainId
    rw [Model.shape?, Model.pool?, pools, Model.shape?, Model.pool?]
  cases event with
  | bansLoaded =>
    apply still fun _ => rfl
    unfold update loadBans
    dsimp only
    split <;> rfl
  | callRequested callId chainId kind method =>
    exact callRequested_reads parked callId chainId kind method
  | bundlerBaseRequested _ chainId | bestRpcUrlRequested _ chainId =>
    exact ensurePoolThen_reads (fun _ => rfl) chainId rfl
      ⟨List.nodup_nil, fun _ member => absurd member List.not_mem_nil,
        fun _ member => absurd member List.not_mem_nil⟩
  | invalidateAll => exact invalidateAll_reads model
  | refreshChain chainId => exact refreshChain_reads model chainId
  | shellCompleted result =>
    cases result with
    | poolConfig chainId rpcEndpoints bundlerEndpoints nowMs =>
      exact acceptConfig_reads parked chainId rpcEndpoints bundlerEndpoints nowMs
    | postOutcome callId url outcome latencyMs nowMs =>
      exact (handleOutcome_quiet model callId url outcome latencyMs nowMs).reads fun _ => rfl
    | chainIdProbed chainId url reported latencyMs nowMs =>
      exact (handleProbe_quiet parked chainId url reported latencyMs nowMs).reads fun _ => rfl
    | jitter callId value => exact (acceptJitter_quiet model callId value).reads fun _ => rfl
    | backoffElapsed callId nowMs =>
      exact (acceptBackoff_quiet model callId nowMs).reads fun _ => rfl
    | persisted | concluded => exact still (fun _ => rfl) rfl

end VelaWallet.RpcPool
