import Mathlib.Logic.Function.Basic
import VelaWallet.Rpc.Races

/-!
# What is named to a bundler

No endpoint is named to a bundler, in the header of a post or in answer to a query, that is not in
its chain's pool, is banned, or has reported another chain's id since the chain's configuration last
changed; and both ways accept the same endpoints.
-/

namespace VelaWallet.RpcPool

open Utf8 (CaseTable)

variable {callId url : String} {chainId : UInt32}

structure Reports where
  chains : String → UInt32
  queries : List (String × UInt32)
  wrong : UInt32 → Finset String

def Reports.none : Reports := ⟨fun _ => 0, [], fun _ => ∅⟩

def Reports.note (reports : Reports) (before : Model) : Event → Reports
  | .callRequested callId chainId _ _ _ =>
    if (before.call? callId).isSome then reports
    else { reports with chains := Function.update reports.chains callId chainId }
  | .bestRpcUrlRequested callId chainId _ =>
    { reports with queries := (callId, chainId) :: reports.queries }
  | .invalidateAll => { reports with wrong := fun _ => ∅ }
  | .refreshChain chainId => { reports with wrong := Function.update reports.wrong chainId ∅ }
  | .shellCompleted (.chainIdProbed chainId url (some id) _ _) =>
    if id = chainId then reports
    else
      { reports with
        wrong := Function.update reports.wrong chainId (insert url (reports.wrong chainId)) }
  | _ => reports

/-- The pool with its shell and the reports. -/
@[reducible] def reported [CaseTable] :
    Process (Served Model RpcOperation × Reports) (Move Event) (List (RpcOperation × Nat)) :=
  (rpcPool.served rpcShell).watching .none
    fun reports before move _ _ => reports.note before.state move.event

/-- The endpoint an operation names to a bundler. -/
def RpcOperation.named? : RpcOperation → Option String
  | jsonRpcPost _ _ _ xRpcUrl _ => xRpcUrl
  | conclude _ (.bestRpcUrl url) => url
  | _ => none

/-- The chain an operation names an endpoint of: that of the call, or of the query it answers. -/
inductive RpcOperation.IsOf (reports : Reports) : RpcOperation → UInt32 → Prop where
  | post {callId url method : String} {header : Option String} {timeoutMs : Nat} :
      RpcOperation.IsOf reports (.jsonRpcPost callId url method header timeoutMs)
        (reports.chains callId)
  | query {callId : String} {chainId : UInt32} {named : Option String}
      (asked : (callId, chainId) ∈ reports.queries) :
      RpcOperation.IsOf reports (.conclude callId (.bestRpcUrl named)) chainId

/-- A post of the call carries the endpoint, where the call held it. -/
def HeaderAccepts (model : Model) (callId : String) (chainId : UInt32) (nowMs : Float)
    (url : String) : Prop :=
  (revalidatedXRpcUrl (model.changeCall callId fun session => { session with xRpcUrl := some url })
    callId chainId nowMs).2 = some url

/-- The posts and the queries accept the same endpoints, and fall back on the same one. -/
structure BothAccept (model : Model) (chainId : UInt32) (nowMs : Float) : Prop where
  post : ∀ callId session, model.call? callId = some session →
    ∀ url, HeaderAccepts model callId chainId nowMs url ↔ Admissible model chainId nowMs url
  query : ∀ callId, ∃ candidates : List String,
    (answerBestRpcUrl model callId chainId nowMs).2 =
      [.conclude callId (.bestRpcUrl candidates.head?)] ∧
      ∀ url, url ∈ candidates ↔ Admissible model chainId nowMs url
  fallback : ∀ callId session held, model.call? callId = some session →
    session.xRpcUrl = some held → ¬Admissible model chainId nowMs held → ∀ asker,
      (answerBestRpcUrl model asker chainId nowMs).2 =
        [.conclude asker (.bestRpcUrl (revalidatedXRpcUrl model callId chainId nowMs).2)]

theorem revalidatedXRpcUrl_held {model : Model} {held : String} {session : CallSession}
    (found : model.call? callId = some session) (holds : session.xRpcUrl = some held)
    (chainId : UInt32) (nowMs : Float) :
    (revalidatedXRpcUrl model callId chainId nowMs).2 =
      if held ∈ bundlerEligibleUrls model chainId nowMs then some held
      else (bundlerEligibleUrls model chainId nowMs).head? := by
  simp only [revalidatedXRpcUrl, found, Option.bind_some, holds]

theorem both_accept (model : Model) (chainId : UInt32) (nowMs : Float) :
    BothAccept model chainId nowMs where
  post callId session found url := by
    have now : (model.changeCall callId fun session =>
        { session with xRpcUrl := some url }).call? callId =
          some { session with xRpcUrl := some url } := by
      rw [Model.call?_changeCall, if_pos rfl, found, Option.map_some]
    have kept : Kept nowMs model (model.changeCall callId fun session =>
        { session with xRpcUrl := some url }) := (Still.changeCall nowMs model callId _).kept
    rw [HeaderAccepts, revalidatedXRpcUrl_held now rfl, ← kept.admissible chainId url,
      ← mem_bundlerEligibleUrls]
    split
    · next eligible => exact ⟨fun _ => eligible, fun _ => rfl⟩
    · next absent =>
        constructor
        · intro first
          exact List.mem_of_head? first
        · exact fun eligible => absurd eligible absent
  query callId := ⟨_, rfl, fun url => mem_bundlerEligibleUrls⟩
  fallback callId session held found holds refused asker := by
    rw [revalidatedXRpcUrl_held found holds, if_neg]
    · rfl
    · exact fun eligible => refused (mem_bundlerEligibleUrls.mp eligible)

section Turns

variable {after : Model} {callId : String} {nowMs : Float} {session : CallSession}
  {next : Option CallSession} {asked : List RpcOperation} {url method header : String}
  {timeoutMs : Nat}

theorem Swept.names (swept : Swept after callId nowMs session next asked)
    (member : .jsonRpcPost callId url method (some header) timeoutMs ∈ asked) :
    ∃ held, next = some held ∧ Admissible after held.chainId nowMs header := by
  cases swept with
  | posts _ names =>
    refine ⟨_, rfl, ?_⟩
    cases List.mem_singleton.mp member
    exact names header rfl
  | pauses | fails => cases List.mem_singleton.mp member

theorem Passed.names (passed : Passed after callId nowMs session next asked)
    (member : .jsonRpcPost callId url method (some header) timeoutMs ∈ asked) :
    ∃ held, next = some held ∧ Admissible after held.chainId nowMs header := by
  cases passed with
  | along _ _ swept => exact swept.names member

theorem Entered.names (entered : Entered after callId nowMs session next asked)
    (member : .jsonRpcPost callId url method (some header) timeoutMs ∈ asked) :
    ∃ held, next = some held ∧ Admissible after held.chainId nowMs header := by
  cases entered with
  | races => cases member
  | passes passed => exact passed.names member

theorem Life.names {event : Event} {before : Option CallSession}
    (life : Life event after callId before asked next)
    (member : .jsonRpcPost callId url method (some header) timeoutMs ∈ asked) :
    ∃ held nowMs, next = some held ∧ event.nowMs? = some nowMs ∧
      Admissible after held.chainId nowMs header := by
  have at_time {nowMs : Float} (clock : event.nowMs? = some nowMs)
      (names : ∃ held, next = some held ∧ Admissible after held.chainId nowMs header) :
      ∃ held nowMs, next = some held ∧ event.nowMs? = some nowMs ∧
        Admissible after held.chainId nowMs header := by
    have ⟨held, same, admissible⟩ := names
    exact ⟨held, nowMs, same, clock, admissible⟩
  cases life with
  | stays | parks => cases member
  | asked requested _ entered => exact at_time (by rw [requested]; rfl) (entered.names member)
  | starts clock _ _ entered | raced clock _ entered => exact at_time clock (entered.names member)
  | retries elapsed _ passed => exact at_time (by rw [elapsed]; rfl) (passed.names member)
  | failsOver told _ swept => exact at_time (by rw [told]; rfl) (swept.names member)
  | settles | draws => cases List.mem_singleton.mp member

end Turns

section Notes

variable {reports : Reports} {before : Model} {event : Event}

theorem chains_note_held {session : CallSession} (held : before.call? callId = some session) :
    (reports.note before event).chains callId = reports.chains callId := by
  unfold Reports.note
  split
  · split
    · rfl
    · next unused =>
        apply Function.update_of_ne
        intro same
        rw [← same, held] at unused
        exact unused rfl
  · rfl
  · rfl
  · rfl
  · split
    · rfl
    · rfl
  · rfl

theorem chains_note_new {kind : RpcKind} {method : String}
    {nowMs : Float} (unused : before.call? callId = none)
    (requested : event = .callRequested callId chainId kind method nowMs) :
    (reports.note before event).chains callId = chainId := by
  simp only [Reports.note, requested, unused, Option.isSome_none, Bool.false_eq_true, if_false,
    Function.update_self]

theorem queries_note {query : String × UInt32} (noted : query ∈ reports.queries) :
    query ∈ (reports.note before event).queries := by
  unfold Reports.note
  split
  · split
    · exact noted
    · exact noted
  · exact List.mem_cons_of_mem _ noted
  · exact noted
  · exact noted
  · split
    · exact noted
    · exact noted
  · exact noted

theorem queries_note_asked (asked : event.work? = some (.bestRpc callId chainId)) :
    (callId, chainId) ∈ (reports.note before event).queries := by
  cases event with
  | bestRpcUrlRequested =>
    cases asked
    exact List.mem_cons_self
  | callRequested | bundlerBaseRequested | _ => cases asked

theorem wrong_note (member : url ∈ (reports.note before event).wrong chainId) :
    url ∈ reports.wrong chainId ∧ event.changes chainId = false ∨
      ∃ id latencyMs nowMs, id ≠ chainId ∧
        event = .shellCompleted (.chainIdProbed chainId url (some id) latencyMs nowMs) := by
  have unchanged (same : (reports.note before event).wrong = reports.wrong)
      (calm : event.changes chainId = false) :
      url ∈ reports.wrong chainId ∧ event.changes chainId = false ∨
        ∃ id latencyMs nowMs, id ≠ chainId ∧
          event = .shellCompleted (.chainIdProbed chainId url (some id) latencyMs nowMs) := by
    rw [same] at member
    exact .inl ⟨member, calm⟩
  cases event with
  | bansLoaded | bundlerBaseRequested | bestRpcUrlRequested => exact unchanged rfl rfl
  | callRequested =>
    apply unchanged _ rfl
    unfold Reports.note
    dsimp only
    split
    · rfl
    · rfl
  | invalidateAll => cases member
  | refreshChain refreshed =>
    have updated : url ∈ Function.update reports.wrong refreshed ∅ chainId := member
    rw [Function.update_apply] at updated
    split at updated
    · cases updated
    · next apart => exact .inl ⟨updated, beq_eq_false_iff_ne.mpr fun same => apart same.symm⟩
  | shellCompleted result =>
    cases result with
    | chainIdProbed answered _ reported latencyMs nowMs =>
      cases reported with
      | none => exact unchanged rfl rfl
      | some id =>
        by_cases right : id = answered
        · apply unchanged _ rfl
          rw [Reports.note, if_pos right]
        · rw [Reports.note, if_neg right] at member
          dsimp only at member
          rw [Function.update_apply] at member
          split at member
          · next same =>
              rw [same]
              rcases Finset.mem_insert.mp member with now | earlier
              · rw [now]
                exact .inr ⟨id, latencyMs, nowMs, right, rfl⟩
              · exact .inl ⟨earlier, rfl⟩
          · exact .inl ⟨member, rfl⟩
    | _ => exact unchanged rfl rfl

end Notes

/-- What is known of a run's reports: the chain of each call, the queries that wait, the endpoints
that reported another chain's id, and those that are still asked. -/
structure Watched (reached : Served Model RpcOperation × Reports) : Prop where
  parked : Parked reached.1.state
  distinct : ∀ chainId kind, (reached.1.state.listed chainId kind).Nodup
  chains : ∀ callId session, reached.1.state.call? callId = some session →
    session.chainId = reached.2.chains callId
  queries : ∀ other callId chainId,
    .bestRpc callId chainId ∈ reached.1.state.pendingOf other →
      (callId, chainId) ∈ reached.2.queries
  wrong : ∀ chainId, reached.2.wrong chainId ⊆ reached.1.state.wrongChains chainId
  once : ∀ chainId, (probesOf chainId reached.1.requests).Nodup
  awaited : ∀ chainId, ∀ url ∈ probesOf chainId reached.1.requests,
    url ∈ reached.1.state.awaited chainId

section Answers

variable {event : Event} {requests left : List RpcOperation} {chainId : UInt32}

section

variable (takes : rpcShell.Takes event requests left)
include takes

theorem probed_out {reported : Option UInt32} {latencyMs nowMs : Float}
    (told : event = .shellCompleted (.chainIdProbed chainId url reported latencyMs nowMs)) :
    ∃ before after, probesOf chainId requests = before ++ url :: after ∧
      probesOf chainId left = before ++ after := by
  cases takes with
  | none external =>
    rw [told] at external
    cases external
  | @one request before after answers =>
    rw [told] at answers
    have ⟨timeoutMs, same⟩ := answers_chainIdProbed answers
    refine ⟨probesOf chainId before, probesOf chainId after, ?_, probesOf_append _ _ _⟩
    rw [probesOf_append, probesOf, probesOf, List.filterMap_cons, same]
    simp only [RpcOperation.probed?, if_true]
    rfl

theorem probesOf_left :
    (probesOf chainId left).Sublist (probesOf chainId requests) := by
  apply List.Sublist.filterMap
  cases takes with
  | none => exact List.Sublist.refl _
  | one => exact List.Sublist.append_left (List.sublist_cons_self _ _) _

theorem awaited_left {awaited middle : Finset String} (once : (probesOf chainId requests).Nodup)
    (inside : ∀ url ∈ probesOf chainId requests, url ∈ awaited)
    (heard : Heard event chainId awaited middle) :
    ∀ url ∈ probesOf chainId left, url ∈ middle := by
  intro url member
  have out := (probesOf_left takes).subset member
  cases heard with
  | nothing => exact inside url out
  | @answer told reported latencyMs nowMs answered =>
    refine Finset.mem_erase.mpr ⟨?_, inside url out⟩
    intro same
    have ⟨before, after, were, are⟩ := probed_out takes answered
    rw [were] at once
    rw [are, same] at member
    have ⟨absent, _⟩ := List.nodup_cons.mp (List.nodup_middle.mp once)
    exact absent member

end

end Answers

theorem Watched.init [CaseTable] : Watched reported.init where
  parked := ⟨nofun, nofun⟩
  distinct _ _ := List.nodup_nil
  chains := nofun
  queries := nofun
  wrong _ := Finset.Subset.refl _
  once _ := List.nodup_nil
  awaited := nofun

section Steps

variable [CaseTable] {move : Move Event} {before after : Served Model RpcOperation}
  {reports : Reports} {rest : List (RpcOperation × Nat)} {requests : List RpcOperation}

section

variable (watched : Watched (before, reports))
  (serves : rpcPool.Serves rpcShell move before after rest requests)
include watched serves

theorem Watched.chains_step
    {session : CallSession} (held : after.state.call? callId = some session) :
    session.chainId = (reports.note before.state move.event).chains callId := by
  have stepped : update move.event before.state = (after.state, requests) :=
    Option.some.inj serves.stepped
  have life := (update_lives watched.parked move.event).life callId
  rw [stepped, held] at life
  have kin := life.kin
  cases was : before.state.call? callId with
  | none =>
    rw [was] at kin
    cases kin with
    | new requested => exact (chains_note_new was requested).symm
  | some earlier =>
    rw [was] at kin
    cases kin with
    | same chain =>
      rw [chains_note_held was, chain]
      exact watched.chains callId earlier was

theorem Watched.wrong_step (chainId : UInt32) :
    (reports.note before.state move.event).wrong chainId ⊆ after.state.wrongChains chainId := by
  have stepped : update move.event before.state = (after.state, requests) :=
    Option.some.inj serves.stepped
  have naming := update_naming watched.parked (watched.distinct · .rpc) move.event
  rw [stepped] at naming
  intro url member
  rcases wrong_note member with ⟨earlier, unchanged⟩ | ⟨id, latencyMs, nowMs, wrong, told⟩
  · exact naming.wrong chainId unchanged (watched.wrong chainId earlier)
  · obtain ⟨left, takes, _⟩ := serves.takes
    have ⟨_, _, were, _⟩ := probed_out takes told
    have asked : url ∈ probesOf chainId before.requests := by
      rw [were]
      exact List.mem_append_right _ List.mem_cons_self
    exact naming.proves chainId url id latencyMs nowMs told wrong
      (watched.awaited chainId url asked)

end

theorem Watched.step (watched : Watched (before, reports))
    (serves : rpcPool.Serves rpcShell move before after rest requests) :
    Watched (after, reports.note before.state move.event) := by
  have stepped : update move.event before.state = (after.state, requests) :=
    Option.some.inj serves.stepped
  have lives := update_lives watched.parked move.event
  have reads := update_reads watched.parked move.event
  have naming := update_naming watched.parked (watched.distinct · .rpc) move.event
  rw [stepped] at lives reads naming
  obtain ⟨left, takes, outstanding⟩ := serves.takes
  have asked (chainId : UInt32) : (probesOf chainId after.requests).Nodup ∧
      ∀ url ∈ probesOf chainId after.requests, url ∈ after.state.awaited chainId := by
    have ⟨middle, heard, opens⟩ := naming.awaits chainId
    have waits := awaited_left takes (watched.once chainId) (watched.awaited chainId) heard
    have once := (watched.once chainId).sublist (probesOf_left takes)
    rw [outstanding, probesOf_append]
    dsimp only at opens
    generalize probesOf chainId requests = anew at opens
    generalize after.state.awaited chainId = awaited at opens
    cases opens with
    | none =>
      rw [List.append_nil]
      exact ⟨once, waits⟩
    | race distinct =>
      have nothing : probesOf chainId left = [] := by
        apply List.eq_nil_iff_forall_not_mem.mpr
        intro url member
        exact absurd (waits url member) (Finset.notMem_empty url)
      rw [nothing, List.nil_append]
      exact ⟨distinct, fun url member => List.mem_toFinset.mpr member⟩
  constructor
  case parked => exact lives.parked
  case distinct =>
    intro chainId kind
    rcases reads.listed chainId kind with same | once
    · exact same ▸ watched.distinct chainId kind
    · exact once
  case chains => exact fun callId session held => watched.chains_step serves held
  case queries =>
    intro other callId chainId member
    rcases reads.pending other _ member with earlier | now
    · exact queries_note (watched.queries other callId chainId earlier)
    · exact queries_note_asked now
  case wrong => exact watched.wrong_step serves
  case once => exact fun chainId => (asked chainId).1
  case awaited => exact fun chainId => (asked chainId).2

theorem Watched.names (watched : Watched (before, reports))
    (serves : rpcPool.Serves rpcShell move before after rest requests) {operation : RpcOperation}
    (member : operation ∈ requests) (named : operation.named? = some url) :
    ∃ chainId nowMs, operation.IsOf (reports.note before.state move.event) chainId ∧
      move.event.nowMs? = some nowMs ∧ Admissible after.state chainId nowMs url ∧
      url ∉ (reports.note before.state move.event).wrong chainId := by
  have stepped : update move.event before.state = (after.state, requests) :=
    Option.some.inj serves.stepped
  have unproved {chainId : UInt32} {nowMs : Float}
      (admissible : Admissible after.state chainId nowMs url) :
      url ∉ (reports.note before.state move.event).wrong chainId :=
    fun wrong => admissible.unproved (watched.wrong_step serves chainId wrong)
  cases operation with
  | jsonRpcPost callId posted method header timeoutMs =>
    have header_named : header = some url := named
    rw [header_named] at member
    have life := (update_lives watched.parked move.event).life callId
    rw [stepped] at life
    have own : .jsonRpcPost callId posted method (some url) timeoutMs ∈ about callId requests :=
      List.mem_filter.mpr ⟨member, beq_self_eq_true callId⟩
    have ⟨held, nowMs, found, clock, admissible⟩ := life.names own
    refine ⟨held.chainId, nowMs, ?_, clock, admissible, unproved admissible⟩
    rw [watched.chains_step serves found]
    exact .post
  | conclude callId verdict =>
    cases verdict with
    | bestRpcUrl answer =>
      have answer_named : answer = some url := named
      rw [answer_named] at member
      have naming := update_naming watched.parked (watched.distinct · .rpc) move.event
      rw [stepped] at naming
      have ⟨chainId, nowMs, clock, admissible, asked⟩ := naming.names callId url member
      refine ⟨chainId, nowMs, .query ?_, clock, admissible, unproved admissible⟩
      rcases asked with now | ⟨other, earlier⟩
      · exact queries_note_asked now
      · exact queries_note (watched.queries other callId chainId earlier)
    | _ => cases named
  | _ => cases named

end Steps

/-- In every run each operation that names an endpoint to a bundler names one that its chain's pool
lists, that no ban in force is of, and that has not reported another chain's id since its chain's
configuration changed; and at any time the posts and the queries accept the same endpoints. -/
theorem condemned_endpoints_unnamed [CaseTable]
    {history : List (Move Event × List (RpcOperation × Nat))}
    {reached : Served Model RpcOperation × Reports}
    (run : reported.Run Process.unrestricted history reached) :
    (∀ move next output, reported.step move reached = some (next, output) →
      ∀ operation ∈ output.map Prod.fst, ∀ url, operation.named? = some url →
        ∃ chainId nowMs, operation.IsOf next.2 chainId ∧ move.event.nowMs? = some nowMs ∧
          Admissible next.1.state chainId nowMs url ∧ url ∉ next.2.wrong chainId) ∧
      ∀ chainId nowMs, BothAccept reached.1.state chainId nowMs := by
  have watched : Watched reached := by
    apply run.state_invariant Watched .init
    intro move before after output _ stepped watched
    obtain ⟨served, noting⟩ := Process.watching_step.mp stepped
    obtain ⟨rest, requests, serves, _⟩ := Process.served_step served
    have next := watched.step serves
    rw [← noting] at next
    exact next
  refine ⟨?_, both_accept reached.1.state⟩
  intro move next output stepped operation member url named
  obtain ⟨served, noting⟩ := Process.watching_step.mp stepped
  obtain ⟨rest, requests, serves, given⟩ := Process.served_step served
  have asked : output.map Prod.fst = requests := by
    rw [given]
    exact List.zipIdx_map_fst _ _
  rw [asked] at member
  rw [noting]
  exact watched.names serves member named

/-- The configuration of a chain with one endpoint and one bundler. -/
def sampleAnswer : Move Event :=
  .answers 0 (.shellCompleted
    (.poolConfig 1 [⟨"https://node", .user⟩] [⟨"https://bundler", .user⟩] 0))

/-- A bundler's call that waits for the configuration is told the chain's endpoint. -/
theorem condemned_endpoints_unnamed_sample :
    ∃ history reached next output operation,
      (@reported Utf8.asciiCaseTable).Run Process.unrestricted history reached ∧
      (@reported Utf8.asciiCaseTable).step sampleAnswer reached = some (next, output) ∧
      operation ∈ output.map Prod.fst ∧ operation.named? = some "https://node" ∧
      ∃ chainId nowMs, Admissible next.1.state chainId nowMs "https://node" := by
  have ⟨history, reached, run, facts⟩ := @Process.exists_run_of_play _ _ _
    (@reported Utf8.asciiCaseTable) Process.unrestricted
    [.arrives (.callRequested "a" 1 .bundler "eth_sendUserOperation" 0)]
    (fun reached => ((@reported Utf8.asciiCaseTable).step sampleAnswer reached.2).any fun result =>
      (result.2.map Prod.fst).any fun operation => operation.named? == some "https://node")
    (by decide)
  rw [Option.any_eq_true] at facts
  have ⟨⟨next, output⟩, stepped, named⟩ := facts
  have ⟨operation, member, names⟩ := List.any_eq_true.mp named
  have ⟨chainId, nowMs, _, _, admissible, _⟩ :=
    (@condemned_endpoints_unnamed Utf8.asciiCaseTable history reached run).1 sampleAnswer next
      output stepped operation member "https://node" (beq_iff_eq.mp names)
  exact ⟨history, reached, next, output, operation, run, stepped, member, beq_iff_eq.mp names,
    chainId, nowMs, admissible⟩

end VelaWallet.RpcPool
