import VelaWallet.Rpc.Machine

/-!
# What a sweep leaves as it was

A pass, and each post of it, changes its own call, the endpoints' records and bans that have run
out; the lists of every pool, what may be named to a bundler and all other calls stay.
-/

namespace VelaWallet.RpcPool

variable {nowMs : Float} {chainId : UInt32}

namespace Model

variable (model : Model)

@[simp] theorem call?_setCall (callId other : String) (session : CallSession) :
    (model.setCall callId session).call? other =
      if callId = other then some session else model.call? other :=
  Keyed.get?_set callId other session model.calls

@[simp] theorem call?_dropCall (callId other : String) :
    (model.dropCall callId).call? other = if callId = other then none else model.call? other := by
  split
  · next same =>
      rw [← same]
      exact Keyed.get?_erase_self callId model.calls
  · next different => exact Keyed.get?_erase_other different model.calls

theorem call?_changeCall (callId other : String) (change : CallSession → CallSession) :
    (model.changeCall callId change).call? other =
      if callId = other then (model.call? other).map change else model.call? other := by
  unfold changeCall
  split
  · next missing =>
      split
      · next same => rw [← same, missing, Option.map_none]
      · rfl
  · next held =>
      rw [call?_setCall]
      split
      · next same => rw [← same, held, Option.map_some]
      · rfl

@[simp] theorem pool?_setPool (chainId other : UInt32) (pool : ChainPool) :
    (model.setPool chainId pool).pool? other =
      if chainId = other then some pool else model.pool? other :=
  Keyed.get?_set chainId other pool model.pools

@[simp] theorem race?_setRace (chainId other : UInt32) (race : ProbeRace) :
    (model.setRace chainId race).race? other =
      if chainId = other then some race else model.race? other :=
  Keyed.get?_set chainId other race model.probes

@[simp] theorem race?_dropRace (chainId other : UInt32) :
    (model.dropRace chainId).race? other = if chainId = other then none else model.race? other := by
  split
  · next same =>
      rw [← same]
      exact Keyed.get?_erase_self chainId model.probes
  · next different => exact Keyed.get?_erase_other different model.probes

end Model

theorem changeCall_frame (model : Model) (callId : String) (change : CallSession → CallSession) :
    ∃ calls, model.changeCall callId change = { model with calls } := by
  unfold Model.changeCall
  split
  · exact ⟨_, rfl⟩
  · exact ⟨_, rfl⟩

structure PoolShape where
  rpc : List String
  bundler : List String
  loadedAtMs : Option Float
  loading : Bool
  pending : List PendingWork

def ChainPool.shape (pool : ChainPool) : PoolShape :=
  ⟨urls pool.rpc, urls pool.bundler, pool.loadedAtMs, pool.loading, pool.pending⟩

def Model.shape? (model : Model) (chainId : UInt32) : Option PoolShape :=
  (model.pool? chainId).map ChainPool.shape

/-- The urls a chain's pool lists. -/
def Model.listed (model : Model) (chainId : UInt32) (kind : RpcKind) : List String :=
  (model.pool? chainId).elim [] fun pool => urls (pool.list kind)

theorem listed_of_shape {before after : Model}
    (same : after.shape? chainId = before.shape? chainId) (kind : RpcKind) :
    after.listed chainId kind = before.listed chainId kind := by
  unfold Model.shape? at same
  unfold Model.listed
  cases now : after.pool? chainId with
  | none =>
    cases was : before.pool? chainId with
    | none => rfl
    | some =>
      rw [now, was] at same
      cases same
  | some pool =>
    cases was : before.pool? chainId with
    | none =>
      rw [now, was] at same
      cases same
    | some earlier =>
      rw [now, was] at same
      have shape : pool.shape = earlier.shape := Option.some.inj same
      cases kind with
      | rpc => exact congrArg PoolShape.rpc shape
      | bundler => exact congrArg PoolShape.bundler shape

theorem shape_changeList (pool : ChainPool) (kind : RpcKind)
    {change : List RpcEndpointStats → List RpcEndpointStats}
    (same : ∀ endpoints, urls (change endpoints) = urls endpoints) :
    (pool.changeList kind change).shape = pool.shape := by
  cases kind with
  | rpc | bundler => simp only [ChainPool.changeList, ChainPool.shape, same]

theorem shape?_setPool {model : Model} {pool changed : ChainPool}
    (held : model.pool? chainId = some pool) (same : changed.shape = pool.shape)
    (other : UInt32) : (model.setPool chainId changed).shape? other = model.shape? other := by
  rw [Model.shape?, Model.shape?, Model.pool?_setPool]
  split
  · next equal => rw [← equal, held, Option.map_some, Option.map_some, same]
  · rfl

/-- The endpoint may be named to a bundler: the chain's pool lists it, no ban of it is in force,
and it has not answered with another chain's id. -/
structure Admissible (model : Model) (chainId : UInt32) (nowMs : Float) (url : String) : Prop where
  listed : url ∈ model.listed chainId .rpc
  allowed : ∀ ban ∈ model.banEntries, ban.url = url → isBanActive ban nowMs = false
  unproved : url ∉ model.wrongChains chainId

theorem isBanned_eq_false {bans : List RpcBanEntry} {url : String} :
    isBanned bans nowMs url = false ↔
      ∀ ban ∈ bans, ban.url = url → isBanActive ban nowMs = false := by
  rw [isBanned, List.any_eq_false]
  constructor
  · intro none_bans ban member same
    have inactive := none_bans ban member
    rw [same, beq_self_eq_true, Bool.true_and, Bool.not_eq_true] at inactive
    exact inactive
  · intro inactive ban member active
    have ⟨same, holds⟩ := Bool.and_eq_true_iff.mp active
    rw [inactive ban member (beq_iff_eq.mp same)] at holds
    cases holds

theorem mem_bundlerEligibleUrls {model : Model} {url : String} :
    url ∈ bundlerEligibleUrls model chainId nowMs ↔ Admissible model chainId nowMs url := by
  unfold bundlerEligibleUrls
  split
  · next missing =>
      constructor
      · exact nofun
      · intro admissible
        have listed := admissible.listed
        rw [Model.listed, missing] at listed
        cases listed
  · next held =>
      rw [List.mem_filter, mem_selectUrls, isBanned_eq_false, decide_eq_true_iff]
      constructor
      · rintro ⟨⟨listed, allowed⟩, unproved⟩
        refine ⟨?_, allowed, unproved⟩
        rw [Model.listed, held]
        exact listed
      · rintro ⟨listed, allowed, unproved⟩
        rw [Model.listed, held] at listed
        exact ⟨⟨listed, allowed⟩, unproved⟩

structure Kept (nowMs : Float) (before after : Model) : Prop where
  shape : ∀ chainId, after.shape? chainId = before.shape? chainId
  bans : ∀ url, isBanned after.banEntries nowMs url = isBanned before.banEntries nowMs url
  wrongChain : after.wrongChain = before.wrongChain

namespace Kept

variable {nowMs : Float} {before middle after : Model}

theorem refl (nowMs : Float) (model : Model) : Kept nowMs model model :=
  ⟨fun _ => rfl, fun _ => rfl, rfl⟩

theorem symm (kept : Kept nowMs before after) : Kept nowMs after before where
  shape chainId := (kept.shape chainId).symm
  bans url := (kept.bans url).symm
  wrongChain := kept.wrongChain.symm

theorem trans (first : Kept nowMs before middle) (second : Kept nowMs middle after) :
    Kept nowMs before after where
  shape chainId := (second.shape chainId).trans (first.shape chainId)
  bans url := (second.bans url).trans (first.bans url)
  wrongChain := second.wrongChain.trans first.wrongChain

theorem same (pools : after.pools = before.pools) (bans : after.bans = before.bans)
    (wrongChain : after.wrongChain = before.wrongChain) : Kept nowMs before after where
  shape chainId := by rw [Model.shape?, Model.pool?, pools, Model.shape?, Model.pool?]
  bans url := by rw [Model.banEntries, bans, Model.banEntries]
  wrongChain := wrongChain

theorem admissible (kept : Kept nowMs before after) (chainId : UInt32) (url : String) :
    Admissible after chainId nowMs url ↔ Admissible before chainId nowMs url := by
  have lists := listed_of_shape (kept.shape chainId) .rpc
  have wrong : after.wrongChains chainId = before.wrongChains chainId := by
    rw [Model.wrongChains, kept.wrongChain, Model.wrongChains]
  have bans : (∀ ban ∈ after.banEntries, ban.url = url → isBanActive ban nowMs = false) ↔
      ∀ ban ∈ before.banEntries, ban.url = url → isBanActive ban nowMs = false := by
    rw [← isBanned_eq_false, ← isBanned_eq_false, kept.bans url]
  constructor
  · rintro ⟨listed, allowed, unproved⟩
    exact ⟨lists ▸ listed, bans.mp allowed, wrong ▸ unproved⟩
  · rintro ⟨listed, allowed, unproved⟩
    exact ⟨lists ▸ listed, bans.mpr allowed, wrong ▸ unproved⟩

end Kept

structure Spares (callId : String) (before after : Model) : Prop where
  others : ∀ other, other ≠ callId → after.call? other = before.call? other
  probes : after.probes = before.probes

namespace Spares

variable {callId : String} {before middle after : Model}

theorem refl (callId : String) (model : Model) : Spares callId model model :=
  ⟨fun _ _ => rfl, rfl⟩

theorem trans (first : Spares callId before middle) (second : Spares callId middle after) :
    Spares callId before after where
  others other apart := (second.others other apart).trans (first.others other apart)
  probes := second.probes.trans first.probes

theorem same (calls : after.calls = before.calls) (probes : after.probes = before.probes) :
    Spares callId before after where
  others other _ := by rw [Model.call?, calls, Model.call?]
  probes := probes

theorem setCall (model : Model) (callId : String) (session : CallSession) :
    Spares callId model (model.setCall callId session) where
  others other apart := by rw [Model.call?_setCall, if_neg fun same => apart same.symm]
  probes := rfl

theorem changeCall (model : Model) (callId : String) (change : CallSession → CallSession) :
    Spares callId model (model.changeCall callId change) where
  others other apart := by rw [Model.call?_changeCall, if_neg fun same => apart same.symm]
  probes := by
    have ⟨calls, same⟩ := changeCall_frame model callId change
    rw [same]

theorem dropCall (model : Model) (callId : String) :
    Spares callId model (model.dropCall callId) where
  others other apart := by rw [Model.call?_dropCall, if_neg fun same => apart same.symm]
  probes := rfl

end Spares

/-- The lists, the bans in force and all but one call are as they were. -/
structure Still (nowMs : Float) (callId : String) (before after : Model) : Prop where
  kept : Kept nowMs before after
  spares : Spares callId before after

theorem Still.trans {callId : String} {before middle after : Model}
    (first : Still nowMs callId before middle) (second : Still nowMs callId middle after) :
    Still nowMs callId before after :=
  ⟨first.kept.trans second.kept, first.spares.trans second.spares⟩

end VelaWallet.RpcPool
