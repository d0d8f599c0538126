import VelaWallet.Rpc.Frames

/-!
# What a sweep does

The turns of a call: a post to the next endpoint of its pass, a pause before another pass, or the
end of the call.  What is proved of them once is what every step of the machine rests on.
-/

namespace VelaWallet.RpcPool

variable {model : Model} {callId : String} {nowMs : Float} {session : CallSession}

def RpcKind.timeoutMs : RpcKind → Nat
  | .rpc => rpcReadTimeoutMs
  | .bundler => bundlerRpcTimeoutMs

/-- What a turn of a call comes to: the call after it, and what is asked. -/
inductive Swept (model : Model) (callId : String) (nowMs : Float) (session : CallSession) :
    Option CallSession → List RpcOperation → Prop where
  | posts {url : String} {queue : List String} {held named : Option String}
      (queued : session.queue = url :: queue)
      (names : ∀ header, named = some header → Admissible model session.chainId nowMs header) :
      Swept model callId nowMs session
        (some { session with queue, state := .waitingPost url, xRpcUrl := held })
        [.jsonRpcPost callId url session.method named session.kind.timeoutMs]
  | pauses (swept : session.queue = []) (more : session.pass + 1 < maxPasses session.kind) :
      Swept model callId nowMs session (some { session with state := .waitingJitter })
        [.drawJitter callId]
  | fails {rateLimited : Bool} (swept : session.queue = []) :
      Swept model callId nowMs session none
        [.conclude callId (.failed rateLimited session.maybeDelivered)]

theorem Swept.of_kept {before : Model} {after : Option CallSession} {asked : List RpcOperation}
    (kept : Kept nowMs before model) (swept : Swept model callId nowMs session after asked) :
    Swept before callId nowMs session after asked := by
  cases swept with
  | posts queued names =>
    apply Swept.posts queued
    intro header named
    exact (kept.admissible _ header).mp (names header named)
  | pauses swept more => exact .pauses swept more
  | fails swept => exact .fails swept

structure Sweeps (model : Model) (callId : String) (nowMs : Float) (session : CallSession)
    (turn : Turn) : Prop where
  still : Still nowMs callId model turn.1
  swept : Swept model callId nowMs session (turn.1.call? callId) turn.2

theorem Still.setCall (nowMs : Float) (model : Model) (callId : String) (session : CallSession) :
    Still nowMs callId model (model.setCall callId session) :=
  ⟨.same rfl rfl rfl, .setCall model callId session⟩

theorem Still.changeCall (nowMs : Float) (model : Model) (callId : String)
    (change : CallSession → CallSession) :
    Still nowMs callId model (model.changeCall callId change) := by
  refine ⟨?_, .changeCall model callId change⟩
  have ⟨calls, same⟩ := changeCall_frame model callId change
  rw [same]
  exact .same rfl rfl rfl

theorem failCall_sweeps (swept : session.queue = []) :
    Sweeps model callId nowMs session (failCall model callId session) := by
  have dropped : Still nowMs callId model (model.dropCall callId) :=
    ⟨.same rfl rfl rfl, .dropCall model callId⟩
  have gone (marked : Model) (pools : marked.pools = model.pools) (bans : marked.bans = model.bans)
      (wrong : marked.wrongChain = model.wrongChain)
      (calls : marked.calls = (model.dropCall callId).calls) (probes : marked.probes = model.probes)
      (rateLimited : Bool) : Sweeps model callId nowMs session
        (marked, [.conclude callId (.failed rateLimited session.maybeDelivered)]) := by
    refine ⟨⟨.same pools bans wrong, ?_⟩, ?_⟩
    · exact dropped.spares.trans (.same calls probes)
    · have absent : marked.call? callId = none := by
        rw [Model.call?, calls, ← Model.call?, Model.call?_dropCall, if_pos rfl]
      rw [absent]
      exact .fails swept
  unfold failCall
  dsimp only
  cases session.kind with
  | bundler => apply gone <;> rfl
  | rpc =>
    dsimp only
    split
    · apply gone <;> rfl
    · split
      · apply gone <;> rfl
      · apply gone <;> rfl

theorem concludeFailed_sweeps (held : model.call? callId = some session)
    (swept : session.queue = []) :
    Sweeps model callId nowMs session (concludeFailed model callId) := by
  simp only [concludeFailed, held]
  exact failCall_sweeps swept

theorem Sweeps.of_still {before : Model} {turn : Turn} (still : Still nowMs callId before model)
    (sweeps : Sweeps model callId nowMs session turn) : Sweeps before callId nowMs session turn :=
  ⟨still.trans sweeps.still, sweeps.swept.of_kept still.kept⟩

theorem closePass_sweeps (held : model.call? callId = some session) (swept : session.queue = []) :
    Sweeps model callId nowMs session (closePass model callId session) := by
  have closes (marked : Model) (still : Still nowMs callId model marked)
      (held : marked.call? callId = some session) :
      Sweeps model callId nowMs session
        (if session.kind == .rpc && !hasRpcEndpoints marked session.chainId then
          concludeFailed marked callId
        else if session.pass + 1 < maxPasses session.kind then
          (marked.setCall callId { session with state := .waitingJitter }, [.drawJitter callId])
        else concludeFailed marked callId) := by
    apply Sweeps.of_still still
    split
    · exact concludeFailed_sweeps held swept
    · split
      · next more =>
          refine ⟨.setCall nowMs marked callId _, ?_⟩
          rw [Model.call?_setCall, if_pos rfl]
          exact .pauses swept more
      · exact concludeFailed_sweeps held swept
  unfold closePass
  dsimp only
  split
  · exact closes _ ⟨.same rfl rfl rfl, .same rfl rfl⟩ held
  · exact closes _ ⟨.refl nowMs model, .refl callId model⟩ held

theorem revalidatedXRpcUrl_admissible {chainId : UInt32} {header : String}
    (named : (revalidatedXRpcUrl model callId chainId nowMs).2 = some header) :
    Admissible model chainId nowMs header := by
  rw [← mem_bundlerEligibleUrls]
  unfold revalidatedXRpcUrl at named
  split at named
  · cases named
  · dsimp only at named
    split at named
    · next eligible =>
        cases named
        exact eligible
    · exact List.mem_of_head? named

theorem revalidatedXRpcUrl_call (held : model.call? callId = some session) (chainId : UInt32) :
    Still nowMs callId model (revalidatedXRpcUrl model callId chainId nowMs).1 ∧
      ∃ header, (revalidatedXRpcUrl model callId chainId nowMs).1.call? callId =
        some { session with xRpcUrl := header } := by
  unfold revalidatedXRpcUrl
  split
  · exact ⟨⟨.refl nowMs model, .refl callId model⟩, session.xRpcUrl, held⟩
  · refine ⟨.changeCall nowMs model callId _, ?_⟩
    rw [Model.call?_changeCall, if_pos rfl, held]
    exact ⟨_, rfl⟩

theorem nextEndpoint_sweeps (nowMs : Float) (held : model.call? callId = some session) :
    Sweeps model callId nowMs session (nextEndpoint model callId nowMs) := by
  unfold nextEndpoint
  simp only [held]
  split
  · next swept => exact closePass_sweeps held swept
  · next url queue queued =>
      let waiting : CallSession := { session with queue, state := .waitingPost url }
      have set : Still nowMs callId model (model.setCall callId waiting) :=
        .setCall nowMs model callId _
      have now : (model.setCall callId waiting).call? callId = some waiting := by
        rw [Model.call?_setCall, if_pos rfl]
      split
      · next kind =>
          refine ⟨set, ?_⟩
          rw [now]
          have posts : Swept model callId nowMs session
              (some { session with queue, state := .waitingPost url, xRpcUrl := session.xRpcUrl })
              [.jsonRpcPost callId url session.method none session.kind.timeoutMs] :=
            .posts queued nofun
          have timeout : session.kind.timeoutMs = rpcReadTimeoutMs := by
            rw [kind]
            rfl
          rw [timeout] at posts
          exact posts
      · next kind =>
          have ⟨changed, header, after⟩ := @revalidatedXRpcUrl_call _ _ nowMs _ now session.chainId
          refine ⟨set.trans changed, ?_⟩
          dsimp only
          rw [after]
          have posts : Swept model callId nowMs session
              (some { session with queue, state := .waitingPost url, xRpcUrl := header })
              [.jsonRpcPost callId url session.method
                (revalidatedXRpcUrl (model.setCall callId waiting) callId session.chainId nowMs).2
                session.kind.timeoutMs] := by
            apply Swept.posts queued
            intro named same
            exact (set.kept.admissible _ named).mp (revalidatedXRpcUrl_admissible same)
          have timeout : session.kind.timeoutMs = bundlerRpcTimeoutMs := by
            rw [kind]
            rfl
          rw [timeout] at posts
          exact posts

theorem pruneExpiredBans_kept (model : Model) (nowMs : Float) :
    ∃ bans lastBanPruneMs,
      (pruneExpiredBans model nowMs).1 = { model with bans, lastBanPruneMs } ∧
      Kept nowMs model (pruneExpiredBans model nowMs).1 := by
  unfold pruneExpiredBans
  split
  · refine ⟨_, _, rfl, fun _ => rfl, ?_, rfl⟩
    -- A ban that ran out binds nobody.
    intro url
    simp only [isBanned, Model.banEntries, List.any_map, List.any_filter, Function.comp_def]
    congr 1
    funext entry
    cases isBanActive entry.2 nowMs with
    | true => rfl
    | false => rw [Bool.and_false, Bool.and_false]
  · exact ⟨_, _, rfl, .refl nowMs model⟩

theorem urls_rested (endpoints : List RpcEndpointStats) :
    urls (endpoints.map fun endpoint => { endpoint with consecutiveFailures := 0 }) =
      urls endpoints := by
  rw [urls, List.map_map]
  rfl

/-- What is selected for a pass: endpoints of the list, over the bans where it is all banned. -/
theorem selectWithRescue_kept (model : Model) (chainId : UInt32) (kind : RpcKind) (nowMs : Float) :
    (∃ pools, (selectWithRescue model chainId kind nowMs).1 = { model with pools }) ∧
      Kept nowMs model (selectWithRescue model chainId kind nowMs).1 ∧
      (∀ url ∈ (selectWithRescue model chainId kind nowMs).2, url ∈ model.listed chainId kind) ∧
      ((model.listed chainId kind).Nodup →
        (selectWithRescue model chainId kind nowMs).2.Nodup) := by
  unfold selectWithRescue Model.listed
  split
  · next => exact ⟨⟨_, rfl⟩, .refl nowMs model, nofun, fun _ => List.nodup_nil⟩
  · next pool held =>
      dsimp only
      rw [held]
      split
      · refine ⟨⟨_, rfl⟩, .refl nowMs model, ?_, fun distinct => selectUrls_nodup distinct _ _⟩
        intro url member
        exact (mem_selectUrls.mp member).1
      · have shape := shape_changeList pool kind urls_rested
        have same : urls ((pool.changeList kind fun endpoints => endpoints.map fun endpoint =>
            { endpoint with consecutiveFailures := 0 }).list kind) = urls (pool.list kind) := by
          cases kind with
          | rpc => exact urls_rested pool.rpc
          | bundler => exact urls_rested pool.bundler
        refine ⟨⟨_, rfl⟩, ⟨shape?_setPool held shape, fun _ => rfl, rfl⟩, ?_, ?_⟩
        · intro url member
          rw [Option.elim, ← same]
          exact (mem_selectUrls.mp member).1
        · intro distinct
          apply selectUrls_nodup
          rw [same]
          exact distinct

/-- A call at the start of a pass over the given urls. -/
def CallSession.passing (session : CallSession) (queue : List String) : CallSession :=
  { session with queue, sawRateLimit := false, sawUnreached := false }

/-- A pass of a call over endpoints of its list; bans that ran out may be written down first. -/
inductive Passes (model : Model) (callId : String) (nowMs : Float) (session : CallSession) :
    Turn → Prop where
  | along {queue : List String} {persists asked : List RpcOperation} {after : Model}
      (writes : ∀ operation ∈ persists, ∃ entries, operation = .persistBans entries)
      (listed : ∀ url ∈ queue, url ∈ model.listed session.chainId session.kind)
      (distinct : (model.listed session.chainId session.kind).Nodup → queue.Nodup)
      (sweeps : Sweeps model callId nowMs (session.passing queue) (after, asked)) :
      Passes model callId nowMs session (after, persists ++ asked)

theorem startPass_passes (nowMs : Float) (held : model.call? callId = some session) :
    Passes model callId nowMs session (startPass model callId nowMs) := by
  have ⟨bans, last, pruned, prunes⟩ := pruneExpiredBans_kept model nowMs
  have ⟨⟨pools, rescued⟩, rescues, listed, distinct⟩ := selectWithRescue_kept
    (pruneExpiredBans model nowMs).1 session.chainId session.kind nowMs
  have lists := listed_of_shape (prunes.shape session.chainId) session.kind
  rw [lists] at listed distinct
  let ready := selectWithRescue (pruneExpiredBans model nowMs).1 session.chainId session.kind nowMs
  let begun := ready.1.changeCall callId fun session => session.passing ready.2
  have readied : Still nowMs callId model ready.1 := by
    refine ⟨prunes.trans rescues, ?_⟩
    rw [rescued, pruned]
    exact .same rfl rfl
  have present : ready.1.call? callId = some session := by
    rw [rescued, pruned]
    exact held
  have passes : begun.call? callId = some (session.passing ready.2) := by
    rw [Model.call?_changeCall, if_pos rfl, present, Option.map_some]
  have swept := (nextEndpoint_sweeps nowMs passes).of_still
    (readied.trans (.changeCall nowMs ready.1 callId _))
  have unfolded : startPass model callId nowMs =
      ((nextEndpoint begun callId nowMs).1,
        (if (pruneExpiredBans model nowMs).2 then [.persistBans begun.banEntries] else []) ++
          (nextEndpoint begun callId nowMs).2) := by
    simp only [startPass, held]
    rfl
  rw [unfolded]
  refine .along ?_ listed distinct swept
  intro operation member
  split at member
  · exact ⟨_, List.mem_singleton.mp member⟩
  · cases member

end VelaWallet.RpcPool
