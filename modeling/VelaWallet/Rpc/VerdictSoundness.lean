import Mathlib.Data.List.ProdSigma
import VelaWallet.Rpc.Session

/-!
# Verdicts

A call is concluded once at most, after a bounded number of posts, and what it is told of delivery
is what its posts came to.
-/

namespace VelaWallet.RpcPool

open Utf8 (CaseTable)

/-- What happened to a call since it was accepted: the verdicts it was told, its posts, each with
the number of backoffs before it, the backoffs, whether a post of it may have been delivered, and the
lists its chain's pool had while it was routed. -/
structure Ledger where
  kind : RpcKind
  verdicts : List RpcCallVerdict
  posts : List (Nat × String)
  passes : Nat
  delivered : Bool
  lists : List (List String)

def Ledger.opened (kind : RpcKind) : Ledger := ⟨kind, [], [], 0, false, []⟩

namespace Ledger

/-- A call is accepted, or a post of it has come out. -/
def hear (ledger : Ledger) (callId : String) (before : Option CallSession) : Event → Ledger
  | .callRequested asked _ kind _ _ =>
    if asked = callId ∧ before.isNone then .opened kind else ledger
  | .shellCompleted (.postOutcome told _ outcome _ _) =>
    if told = callId then
      { ledger with delivered := ledger.delivered || mayHaveDelivered outcome }
    else ledger
  | _ => ledger

/-- Something is asked of the shell for the call. -/
def ask (ledger : Ledger) : RpcOperation → Ledger
  | .jsonRpcPost _ url _ _ _ => { ledger with posts := (ledger.passes, url) :: ledger.posts }
  | .startBackoff .. => { ledger with passes := ledger.passes + 1 }
  | .conclude _ verdict => { ledger with verdicts := verdict :: ledger.verdicts }
  | _ => ledger

/-- The list the call is routed over is looked at. -/
def see (ledger : Ledger) (after : Model) : Option CallSession → Ledger
  | none => ledger
  | some session =>
    if session.state = .waitingPool then ledger
    else { ledger with lists := after.listed session.chainId session.kind :: ledger.lists }

/-- What a step adds to the ledger of a call. -/
def note (ledger : Ledger) (callId : String) (before : Model) (event : Event) (after : Model)
    (operations : List RpcOperation) : Ledger :=
  ((about callId operations).foldl ask (ledger.hear callId (before.call? callId) event)).see after
    (after.call? callId)

end Ledger

/-- The pool with its shell and a ledger of every call. -/
@[reducible] def recorded [CaseTable] :
    Process (Served Model RpcOperation × (String → Ledger)) (Move Event)
      (List (RpcOperation × Nat)) :=
  (rpcPool.served rpcShell).watching (fun _ => .opened .rpc)
    fun ledgers before move after output callId =>
      (ledgers callId).note callId before.state move.event after.state (output.map Prod.fst)

def RpcCallVerdict.maybeDelivered? : RpcCallVerdict → Option Bool
  | respond _ maybeDelivered | failed _ maybeDelivered => some maybeDelivered
  | rangeCap .. | bundlerBase _ | bestRpcUrl _ => none

/-- What holds of a call's ledger at any time. -/
structure Honest (ledger : Ledger) : Prop where
  once : ledger.verdicts.length ≤ 1
  truthful : ∀ verdict ∈ ledger.verdicts, ∀ flag, verdict.maybeDelivered? = some flag →
    flag = ledger.delivered
  distinct : ledger.posts.Nodup
  within : ∀ post ∈ ledger.posts,
    post.1 < maxPasses ledger.kind ∧ ∃ list ∈ ledger.lists, post.2 ∈ list

variable {ledger : Ledger}

/-- Over lists that stay the same, a call posts to each endpoint once in each pass, at most. -/
theorem Honest.bounded (honest : Honest ledger) {endpoints : List String}
    (unchanged : ∀ list ∈ ledger.lists, list = endpoints) :
    ledger.posts.length ≤ maxPasses ledger.kind * endpoints.length := by
  have inside : ledger.posts ⊆ List.range (maxPasses ledger.kind) ×ˢ endpoints := by
    intro post member
    have ⟨early, list, seen, listed⟩ := honest.within post member
    rw [unchanged list seen] at listed
    exact List.mem_product.mpr ⟨List.mem_range.mpr early, listed⟩
  have bound := (List.subperm_of_subset honest.distinct inside).length_le
  rw [List.length_product, List.length_range] at bound
  exact bound

structure Going (ledger : Ledger) (session : CallSession) : Prop where
  kind : ledger.kind = session.kind
  unsettled : ledger.verdicts = []
  delivered : ledger.delivered = session.maybeDelivered
  passes : ledger.passes = session.pass + if session.state = .waitingBackoff then 1 else 0
  early : ledger.passes < maxPasses session.kind
  again : session.state = .waitingJitter → session.pass + 1 < maxPasses session.kind
  unstarted : session.state = .waitingPool ∨ session.state = .waitingProbe →
    session.pass = 0 ∧ session.queue = [] ∧ ledger.posts = []
  earlier : ∀ post ∈ ledger.posts, post.1 ≤ session.pass
  fresh : ∀ url ∈ session.queue, (session.pass, url) ∉ ledger.posts
  queued : session.queue.Nodup
  seen : ∀ url ∈ session.queue, ∃ list ∈ ledger.lists, url ∈ list

/-- What holds of a call's ledger, with the call where it is in flight. -/
structure Holds (ledger : Ledger) (session : Option CallSession) : Prop where
  honest : Honest ledger
  going : ∀ held, session = some held → Going ledger held

theorem Honest.see (honest : Honest ledger) (after : Model)
    (session : Option CallSession) : Honest (ledger.see after session) := by
  unfold Ledger.see
  split
  · exact honest
  · split
    · exact honest
    · refine ⟨honest.once, honest.truthful, honest.distinct, ?_⟩
      intro post member
      have ⟨early, list, seen, listed⟩ := honest.within post member
      exact ⟨early, list, List.mem_cons_of_mem _ seen, listed⟩

theorem Going.see {session : CallSession} (going : Going ledger session)
    (after : Model) (looked : Option CallSession) : Going (ledger.see after looked) session := by
  unfold Ledger.see
  split
  · exact going
  · split
    · exact going
    · refine { going with seen := ?_ }
      intro url member
      have ⟨list, seen, listed⟩ := going.seen url member
      exact ⟨list, List.mem_cons_of_mem _ seen, listed⟩

theorem Holds.see {session : Option CallSession} (holds : Holds ledger session)
    (after : Model) : Holds (ledger.see after session) session where
  honest := holds.honest.see after session
  going held same := (holds.going held same).see after session

/-- What holds of a call that is in a pass, whose queue is of the list at hand or of one before. -/
structure Sweeping (listed : List String) (ledger : Ledger) (session : CallSession) : Prop where
  honest : Honest ledger
  kind : ledger.kind = session.kind
  unsettled : ledger.verdicts = []
  delivered : ledger.delivered = session.maybeDelivered
  passes : ledger.passes = session.pass
  early : session.pass < maxPasses session.kind
  earlier : ∀ post ∈ ledger.posts, post.1 ≤ session.pass
  fresh : ∀ url ∈ session.queue, (session.pass, url) ∉ ledger.posts
  queued : session.queue.Nodup
  seen : ∀ url ∈ session.queue, url ∈ listed ∨ ∃ list ∈ ledger.lists, url ∈ list

theorem Honest.concluded (honest : Honest ledger)
    (unsettled : ledger.verdicts = []) (callId : String) {verdict : RpcCallVerdict}
    (truthful : ∀ flag, verdict.maybeDelivered? = some flag → flag = ledger.delivered) :
    Holds (ledger.ask (.conclude callId verdict)) none where
  honest := by
    refine ⟨?_, ?_, honest.distinct, honest.within⟩
    · rw [Ledger.ask, unsettled]
      exact Nat.le_refl 1
    · intro other member
      rw [Ledger.ask, unsettled] at member
      rw [List.mem_singleton.mp member]
      exact truthful
  going := nofun

section Turns

variable {after : Model} {callId : String} {nowMs : Float} {ledger : Ledger}
  {session : CallSession} {next : Option CallSession} {asked : List RpcOperation}

theorem Swept.holds (sweeping : Sweeping (after.listed session.chainId session.kind) ledger session)
    (swept : Swept after callId nowMs session next asked) :
    Holds ((asked.foldl Ledger.ask ledger).see after next) next := by
  cases swept with
  | @posts url queue held named queued names =>
    have distinct := sweeping.queued
    have fresh := sweeping.fresh
    have seen := sweeping.seen
    rw [queued] at distinct fresh seen
    have ⟨absent, rest⟩ := List.nodup_cons.mp distinct
    have unposted : (ledger.passes, url) ∉ ledger.posts := by
      rw [sweeping.passes]
      exact fresh url List.mem_cons_self
    have looks {url : String} (member : url ∈ session.queue) :
        ∃ list ∈ after.listed session.chainId session.kind :: ledger.lists, url ∈ list := by
      rcases sweeping.seen url member with now | ⟨list, earlier, listed⟩
      · exact ⟨_, List.mem_cons_self, now⟩
      · exact ⟨list, List.mem_cons_of_mem _ earlier, listed⟩
    rw [queued] at looks
    constructor
    case honest =>
      refine ⟨sweeping.honest.once, sweeping.honest.truthful, ?_, ?_⟩
      · exact List.nodup_cons.mpr ⟨unposted, sweeping.honest.distinct⟩
      · intro post member
        rcases List.mem_cons.mp member with last | earlier
        · rw [last]
          refine ⟨?_, looks List.mem_cons_self⟩
          have early := sweeping.early
          rw [← sweeping.passes, ← sweeping.kind] at early
          exact early
        · have ⟨early, list, listed, inside⟩ := sweeping.honest.within post earlier
          exact ⟨early, list, List.mem_cons_of_mem _ listed, inside⟩
    case going =>
      intro going same
      cases same
      constructor
      case kind => exact sweeping.kind
      case unsettled => exact sweeping.unsettled
      case delivered => exact sweeping.delivered
      case passes => exact sweeping.passes
      case early => exact sweeping.passes ▸ sweeping.early
      case again => exact nofun
      case unstarted => exact fun waits => waits.elim nofun nofun
      case earlier =>
        intro post member
        rcases List.mem_cons.mp member with last | earlier
        · rw [last]
          exact Nat.le_of_eq sweeping.passes
        · exact sweeping.earlier post earlier
      case fresh =>
        intro other member posted
        rcases List.mem_cons.mp posted with last | earlier
        · exact absent ((Prod.mk.inj last).2 ▸ member)
        · exact fresh other (List.mem_cons_of_mem _ member) earlier
      case queued => exact rest
      case seen => exact fun other member => looks (List.mem_cons_of_mem _ member)
  | pauses swept more =>
    constructor
    case honest => exact sweeping.honest.see after _
    case going =>
      intro going same
      cases same
      refine Going.see ?_ after _
      constructor
      case kind => exact sweeping.kind
      case unsettled => exact sweeping.unsettled
      case delivered => exact sweeping.delivered
      case passes => exact sweeping.passes
      case early => exact sweeping.passes ▸ sweeping.early
      case again => exact fun _ => more
      case unstarted => exact fun waits => waits.elim nofun nofun
      case earlier => exact sweeping.earlier
      case fresh => exact sweeping.fresh
      case queued => exact sweeping.queued
      case seen =>
        intro url member
        rw [swept] at member
        cases member
  | fails =>
    apply sweeping.honest.concluded sweeping.unsettled callId
    intro flag told
    exact (Option.some.inj told).symm.trans sweeping.delivered.symm

structure Ready (ledger : Ledger) (session : CallSession) : Prop where
  honest : Honest ledger
  kind : ledger.kind = session.kind
  unsettled : ledger.verdicts = []
  delivered : ledger.delivered = session.maybeDelivered
  passes : ledger.passes = session.pass
  early : session.pass < maxPasses session.kind
  earlier : ∀ post ∈ ledger.posts, post.1 < session.pass

theorem Passed.holds (ready : Ready ledger session)
    (distinct : (after.listed session.chainId session.kind).Nodup)
    (passed : Passed after callId nowMs session next asked) :
    Holds ((asked.foldl Ledger.ask ledger).see after next) next := by
  cases passed with
  | @along queue _ _ listed once swept =>
    have sweeping : Sweeping (after.listed session.chainId session.kind) ledger
        (session.passing queue) := by
      constructor
      case honest => exact ready.honest
      case kind => exact ready.kind
      case unsettled => exact ready.unsettled
      case delivered => exact ready.delivered
      case passes => exact ready.passes
      case early => exact ready.early
      case earlier => exact fun post member => Nat.le_of_lt (ready.earlier post member)
      case fresh => exact fun url _ posted => Nat.lt_irrefl _ (ready.earlier _ posted)
      case queued => exact once distinct
      case seen => exact fun url member => .inl (listed url member)
    exact swept.holds sweeping

theorem Going.ready (going : Going ledger session) (honest : Honest ledger)
    (waits : session.state = .waitingPool ∨ session.state = .waitingProbe) :
    Ready ledger session := { going with
  honest := honest
  passes := by
    rw [going.passes]
    rcases waits with pool | probe
    · rw [pool]
      rfl
    · rw [probe]
      rfl
  early := by
    have bound := going.early
    rw [going.passes] at bound
    exact Nat.lt_of_le_of_lt (Nat.le_add_right _ _) bound
  earlier := by
    rw [(going.unstarted waits).2.2]
    exact nofun }

theorem Entered.holds (ready : Ready ledger session) (first : session.pass = 0)
    (unqueued : session.queue = [])
    (distinct : ∀ kind, (after.listed session.chainId kind).Nodup)
    (entered : Entered after callId nowMs session next asked) :
    Holds ((asked.foldl Ledger.ask ledger).see after next) next := by
  have unposted : ledger.posts = [] := by
    apply List.eq_nil_iff_forall_not_mem.mpr
    intro post member
    have early := ready.earlier post member
    rw [first] at early
    exact Nat.not_lt_zero _ early
  cases entered with
  | races =>
    apply Holds.see
    rw [List.foldl_nil]
    refine ⟨ready.honest, ?_⟩
    intro going same
    cases same
    constructor
    case kind => exact ready.kind
    case unsettled => exact ready.unsettled
    case delivered => exact ready.delivered
    case passes => exact ready.passes
    case early => exact ready.passes ▸ ready.early
    case again => exact nofun
    case unstarted => exact fun _ => ⟨first, unqueued, unposted⟩
    case earlier =>
      rw [unposted]
      exact nofun
    case fresh =>
      rw [unposted]
      exact fun _ _ => List.not_mem_nil
    case queued =>
      rw [CallSession.racing, unqueued]
      exact List.nodup_nil
    case seen =>
      rw [CallSession.racing, unqueued]
      exact nofun
  | @passes header _ _ passed =>
    have headed : Ready ledger { session with xRpcUrl := header } := { ready with }
    exact passed.holds headed (distinct session.kind)

end Turns

def RpcOperation.posts (callId : String) : RpcOperation → Bool
  | jsonRpcPost id .. => id == callId
  | _ => false

def postsFor (callId : String) (requests : List RpcOperation) : List RpcOperation :=
  requests.filter (·.posts callId)

theorem postsFor_about (callId : String) (operations : List RpcOperation) :
    postsFor callId (about callId operations) = postsFor callId operations := by
  rw [postsFor, about, List.filter_filter, postsFor]
  congr 1
  funext operation
  cases operation with
  | jsonRpcPost => exact Bool.and_self _
  | _ => rfl

/-- What is out for a call: no post, or the one it waits for. -/
inductive Posted (callId : String) : List RpcOperation → Option CallSession → Prop where
  | none {session : Option CallSession} : Posted callId [] session
  | one {url method : String} {header : Option String} {timeoutMs : Nat} {session : CallSession}
      (waits : session.state = .waitingPost url) :
      Posted callId [.jsonRpcPost callId url method header timeoutMs] (some session)

/-- The call waits for no post, or is told the outcome of the one it waits for. -/
def Unwaiting (event : Event) (callId : String) (session : Option CallSession) : Prop :=
  ∀ held url, session = some held → held.state = .waitingPost url → event.tells callId held = true

section Turns

variable {after : Model} {callId : String} {nowMs : Float} {session : CallSession}
  {next : Option CallSession} {asked : List RpcOperation}

theorem Swept.posted (swept : Swept after callId nowMs session next asked) :
    Posted callId (postsFor callId asked) next := by
  cases swept with
  | posts =>
    simp only [postsFor, RpcOperation.posts, List.filter_cons, List.filter_nil, beq_self_eq_true,
      if_true]
    exact .one rfl
  | pauses => exact .none
  | fails => exact .none

theorem Passed.posted (passed : Passed after callId nowMs session next asked) :
    Posted callId (postsFor callId asked) next := by
  cases passed with
  | along _ _ swept => exact swept.posted

theorem Entered.posted (entered : Entered after callId nowMs session next asked) :
    Posted callId (postsFor callId asked) next := by
  cases entered with
  | races => exact .none
  | passes passed => exact passed.posted

end Turns

theorem Life.posted {event : Event} {after : Model} {callId : String}
    {before next : Option CallSession} {operations : List RpcOperation}
    (life : Life event after callId before operations next) :
    operations = [] ∧ next = before ∨
      Unwaiting event callId before ∧ Posted callId (postsFor callId operations) next := by
  have unwaiting {session : CallSession} {state : SessionState} (waits : session.state = state)
      (other : ∀ url, state ≠ .waitingPost url) : Unwaiting event callId (some session) := by
    intro held url same posted
    cases same
    exact absurd (waits.symm.trans posted) (other url)
  have told {session : CallSession} {url : String} {outcome : RpcTransportOutcome}
      {latencyMs nowMs : Float}
      (told : event = .shellCompleted (.postOutcome callId url outcome latencyMs nowMs))
      (waits : session.state = .waitingPost url) : Unwaiting event callId (some session) := by
    intro held other same posted
    cases same
    rw [told, Event.tells, waits, beq_self_eq_true, beq_self_eq_true, Bool.and_self]
  cases life with
  | stays => exact .inl ⟨rfl, rfl⟩
  | parks => exact .inr ⟨by rintro _ _ ⟨⟩, .none⟩
  | asked _ _ entered => exact .inr ⟨by rintro _ _ ⟨⟩, entered.posted⟩
  | starts _ waits _ entered | raced _ waits entered =>
    exact .inr ⟨unwaiting waits (by rintro _ ⟨⟩), entered.posted⟩
  | retries _ waits passed => exact .inr ⟨unwaiting waits (by rintro _ ⟨⟩), passed.posted⟩
  | failsOver out waits swept => exact .inr ⟨told out waits, swept.posted⟩
  | settles out waits => exact .inr ⟨told out waits, .none⟩
  | draws _ waits => exact .inr ⟨unwaiting waits (by rintro _ ⟨⟩), .none⟩

theorem tells_inv {event : Event} {callId : String} {session : CallSession}
    (tells : event.tells callId session = true) :
    ∃ url outcome latencyMs nowMs,
      event = .shellCompleted (.postOutcome callId url outcome latencyMs nowMs) ∧
        session.state = .waitingPost url := by
  cases event with
  | shellCompleted result =>
    cases result with
    | postOutcome _ url outcome latencyMs nowMs =>
      have ⟨same, waits⟩ := Bool.and_eq_true_iff.mp tells
      rw [beq_iff_eq.mp same]
      exact ⟨url, outcome, latencyMs, nowMs, rfl, beq_iff_eq.mp waits⟩
    | _ => cases tells
  | _ => cases tells

section Answers

variable {event : Event} {callId : String} {session : Option CallSession}
  {requests left : List RpcOperation}

theorem Posted.heard (posted : Posted callId (postsFor callId requests) session)
    (takes : rpcShell.Takes event requests left) {url : String} {outcome : RpcTransportOutcome}
    {latencyMs nowMs : Float}
    (told : event = .shellCompleted (.postOutcome callId url outcome latencyMs nowMs)) :
    ∃ held, session = some held ∧ event.tells callId held = true := by
  cases takes with
  | none external =>
    rw [told] at external
    cases external
  | @one request before after answers =>
    rw [told] at answers
    have ⟨method, header, timeoutMs, same⟩ := answers_postOutcome answers
    have member : request ∈ postsFor callId (before ++ request :: after) := by
      apply List.mem_filter.mpr
      refine ⟨List.mem_append_right before List.mem_cons_self, ?_⟩
      rw [same]
      exact beq_self_eq_true callId
    generalize postsFor callId (before ++ request :: after) = posts at posted member
    cases posted with
    | none => cases member
    | one waits =>
      refine ⟨_, rfl, ?_⟩
      rw [same] at member
      cases List.mem_singleton.mp member
      rw [told, Event.tells, waits, beq_self_eq_true, beq_self_eq_true, Bool.and_self]

theorem Posted.answered (posted : Posted callId (postsFor callId requests) session)
    (takes : rpcShell.Takes event requests left) :
    Posted callId (postsFor callId left) session ∧
      (Unwaiting event callId session → postsFor callId left = []) := by
  have fewer : (postsFor callId left).Sublist (postsFor callId requests) := by
    apply List.Sublist.filter
    cases takes with
    | none => exact List.Sublist.refl _
    | one => exact List.Sublist.append_left (List.sublist_cons_self _ _) _
  generalize reached : postsFor callId requests = posts at posted fewer
  cases posted with
  | none =>
    rw [List.sublist_nil.mp fewer]
    exact ⟨.none, fun _ => rfl⟩
  | @one url method header timeoutMs held waits =>
    constructor
    · rcases List.sublist_singleton.mp fewer with none | same
      · rw [none]
        exact .none
      · rw [same]
        exact .one waits
    · intro unwaiting
      have ⟨_, _, _, _, told, _⟩ := tells_inv (unwaiting held url rfl waits)
      cases takes with
      | none external =>
        rw [told] at external
        cases external
      | @one request before after answers =>
        rw [told] at answers
        have ⟨_, _, _, same⟩ := answers_postOutcome answers
        have posts : request.posts callId = true := by
          rw [same]
          exact beq_self_eq_true callId
        rw [postsFor, List.filter_append, List.filter_cons, if_pos posts] at reached
        have length := congrArg List.length reached
        rw [List.length_append, List.length_cons, List.length_singleton] at length
        rw [postsFor, List.filter_append]
        apply List.eq_nil_of_length_eq_zero
        rw [List.length_append]
        omega

end Answers

theorem posted_step [CaseTable] {move : Move Event} {before after : Served Model RpcOperation}
    {rest : List (RpcOperation × Nat)} {requests : List RpcOperation} (callId : String)
    (parked : Parked before.state)
    (posted : Posted callId (postsFor callId before.requests) (before.state.call? callId))
    (serves : rpcPool.Serves rpcShell move before after rest requests) :
    Posted callId (postsFor callId after.requests) (after.state.call? callId) := by
  have stepped : update move.event before.state = (after.state, requests) :=
    Option.some.inj serves.stepped
  have life := (update_lives parked move.event).life callId
  rw [stepped] at life
  obtain ⟨left, takes, outstanding⟩ := serves.takes
  have ⟨still, none_left⟩ := posted.answered takes
  rw [outstanding, postsFor, List.filter_append, ← postsFor, ← postsFor,
    ← postsFor_about callId requests]
  rcases life.posted with ⟨silent, same⟩ | ⟨unwaiting, next⟩
  · dsimp only at silent same
    rw [silent, same]
    have nothing : postsFor callId [] = [] := rfl
    rw [nothing, List.append_nil]
    exact still
  · rw [none_left unwaiting, List.nil_append]
    exact next

section Ledgers

variable {event : Event} {callId : String} {ledger : Ledger}

theorem hear_untold {session : CallSession} (untold : event.tells callId session = false)
    (heard : ∀ url outcome latencyMs nowMs,
      event = .shellCompleted (.postOutcome callId url outcome latencyMs nowMs) →
        event.tells callId session = true) :
    ledger.hear callId (some session) event = ledger := by
  unfold Ledger.hear
  cases event with
  | callRequested =>
    dsimp only
    rw [if_neg]
    exact fun accepted => Bool.false_ne_true accepted.2
  | shellCompleted result =>
    cases result with
    | postOutcome _ url outcome latencyMs nowMs =>
      dsimp only
      rw [if_neg]
      intro same
      rw [same] at heard untold
      have tells := heard url outcome latencyMs nowMs rfl
      rw [untold] at tells
      cases tells
    | _ => rfl
  | _ => rfl

theorem hear_unused
    (unheard : ∀ url outcome latencyMs nowMs,
      event ≠ .shellCompleted (.postOutcome callId url outcome latencyMs nowMs)) :
    ledger.hear callId none event = ledger ∨
      ∃ kind, ledger.hear callId none event = .opened kind := by
  unfold Ledger.hear
  cases event with
  | callRequested _ _ kind =>
    dsimp only
    split
    · exact .inr ⟨kind, rfl⟩
    · exact .inl rfl
  | shellCompleted result =>
    cases result with
    | postOutcome _ url outcome latencyMs nowMs =>
      dsimp only
      rw [if_neg]
      · exact .inl rfl
      · intro same
        rw [same] at unheard
        exact unheard url outcome latencyMs nowMs rfl
    | _ => exact .inl rfl
  | _ => exact .inl rfl

theorem honest_opened (kind : RpcKind) : Honest (.opened kind) where
  once := Nat.zero_le 1
  truthful := nofun
  distinct := List.nodup_nil
  within := nofun

theorem maxPasses_pos (kind : RpcKind) : 0 < maxPasses kind := by
  cases kind with
  | rpc | bundler => exact Nat.zero_lt_succ _

theorem ready_opened (chainId : UInt32) (kind : RpcKind) (method : String) :
    Ready (.opened kind) (.new chainId kind method) where
  honest := honest_opened kind
  kind := rfl
  unsettled := rfl
  delivered := rfl
  passes := rfl
  early := maxPasses_pos kind
  earlier := nofun

theorem hear_accepted {chainId : UInt32} {kind : RpcKind} {method : String} {nowMs : Float}
    (requested : event = .callRequested callId chainId kind method nowMs) :
    ledger.hear callId none event = .opened kind := by
  rw [requested, Ledger.hear, if_pos ⟨rfl, rfl⟩]

theorem Going.retries {session : CallSession} (going : Going ledger session)
    (honest : Honest ledger) (waits : session.state = .waitingBackoff) :
    Ready ledger { session with pass := saturatingNext 32 session.pass } := by
  have passes := going.passes
  rw [if_pos waits] at passes
  have early := going.early
  have small : maxPasses session.kind ≤ 3 := by
    cases session.kind with
    | rpc => exact Nat.le_refl 3
    | bundler => exact Nat.le_succ 2
  have next : saturatingNext 32 session.pass = session.pass + 1 := by
    apply Nat.min_eq_left
    rw [← passes]
    exact Nat.le_trans (Nat.le_of_lt early) (Nat.le_trans small (by decide))
  rw [next]
  constructor
  case honest => exact honest
  case kind => exact going.kind
  case unsettled => exact going.unsettled
  case delivered => exact going.delivered
  case passes => exact passes
  case early => exact passes ▸ early
  case earlier => exact fun post member => Nat.lt_succ_of_le (going.earlier post member)

theorem Going.sweeping {session : CallSession} {url : String} {listed : List String}
    (going : Going ledger session) (honest : Honest ledger)
    (waits : session.state = .waitingPost url) (outcome : RpcTransportOutcome) (signal : Bool) :
    Sweeping listed
      { ledger with delivered := ledger.delivered || mayHaveDelivered outcome }
      (session.after outcome signal) := by
  have passes : ledger.passes = session.pass := by
    rw [going.passes, waits]
    rfl
  constructor
  case honest =>
    refine ⟨honest.once, ?_, honest.distinct, honest.within⟩
    rw [going.unsettled]
    exact nofun
  case kind => exact going.kind
  case unsettled => exact going.unsettled
  case delivered =>
    dsimp only
    rw [going.delivered]
    rfl
  case passes => exact passes
  case early => exact passes ▸ going.early
  case earlier => exact going.earlier
  case fresh => exact going.fresh
  case queued => exact going.queued
  case seen => exact fun other member => .inr (going.seen other member)

theorem Life.holds {after : Model} {before next : Option CallSession}
    {operations : List RpcOperation} (life : Life event after callId before operations next)
    (holds : Holds ledger before)
    (heard : ∀ url outcome latencyMs nowMs,
      event = .shellCompleted (.postOutcome callId url outcome latencyMs nowMs) →
        ∃ held, before = some held ∧ event.tells callId held = true)
    (distinct : ∀ chainId kind, (after.listed chainId kind).Nodup) :
    Holds ((operations.foldl Ledger.ask (ledger.hear callId before event)).see after next)
      next := by
  have unheard {session : CallSession} (same : before = some session)
      (untold : event.tells callId session = false) :
      ledger.hear callId before event = ledger := by
    rw [same]
    apply hear_untold untold
    intro url outcome latencyMs nowMs told
    have ⟨held, twin, tells⟩ := heard url outcome latencyMs nowMs told
    cases same.symm.trans twin
    exact tells
  have waiting {session : CallSession} {state : SessionState} (waits : session.state = state)
      (other : ∀ url, state ≠ .waitingPost url) : event.tells callId session = false := by
    apply Bool.eq_false_iff.mpr
    intro tells
    have ⟨url, _, _, _, _, posted⟩ := tells_inv tells
    exact other url (waits.symm.trans posted)
  cases life with
  | stays untold =>
    apply Holds.see
    rw [List.foldl_nil]
    cases before with
    | none =>
      have unused : ∀ url outcome latencyMs nowMs,
          event ≠ .shellCompleted (.postOutcome callId url outcome latencyMs nowMs) := by
        intro url outcome latencyMs nowMs told
        have ⟨held, missing, _⟩ := heard url outcome latencyMs nowMs told
        cases missing
      rcases @hear_unused event callId ledger unused with same | ⟨kind, opened⟩
      · rw [same]
        exact holds
      · rw [opened]
        exact ⟨honest_opened kind, nofun⟩
    | some session =>
      rw [unheard rfl (untold session rfl)]
      exact holds
  | @parks chainId kind method nowMs requested =>
    apply Holds.see
    rw [hear_accepted requested]
    refine ⟨honest_opened kind, ?_⟩
    intro going same
    cases same
    constructor
    case kind | unsettled | delivered | passes => rfl
    case early => exact maxPasses_pos kind
    case again | earlier | fresh | seen => exact nofun
    case unstarted => exact fun _ => ⟨rfl, rfl, rfl⟩
    case queued => exact List.nodup_nil
  | @asked chainId kind method nowMs _ _ requested fresh entered =>
    rw [hear_accepted requested]
    exact entered.holds (ready_opened chainId kind method) rfl rfl (distinct chainId)
  | @starts session nowMs _ _ clock waits fresh entered =>
    rw [unheard rfl (waiting waits nofun)]
    have going := holds.going session rfl
    have ⟨first, unqueued, _⟩ := going.unstarted (.inl waits)
    exact entered.holds (going.ready holds.honest (.inl waits)) first unqueued (distinct _)
  | @raced session nowMs _ _ clock waits entered =>
    rw [unheard rfl (waiting waits nofun)]
    have going := holds.going session rfl
    have ⟨first, unqueued, _⟩ := going.unstarted (.inr waits)
    exact entered.holds (going.ready holds.honest (.inr waits)) first unqueued (distinct _)
  | @retries session nowMs _ _ elapsed waits passed =>
    rw [unheard rfl (waiting waits nofun)]
    exact passed.holds ((holds.going session rfl).retries holds.honest waits) (distinct _ _)
  | @failsOver session url outcome latencyMs nowMs signal _ _ told waits swept =>
    rw [told, Ledger.hear, if_pos rfl]
    exact swept.holds ((holds.going session rfl).sweeping holds.honest waits outcome signal)
  | @settles session url outcome latencyMs nowMs verdict told waits settled =>
    have sweeping : Sweeping [] _ (session.after outcome false) :=
      (holds.going session rfl).sweeping holds.honest waits outcome false
    rw [told, Ledger.hear, if_pos rfl]
    apply sweeping.honest.concluded sweeping.unsettled callId
    intro flag said
    cases settled with
    | responds => exact (Option.some.inj said).symm.trans sweeping.delivered.symm
    | caps => cases said
  | @draws session value delayMs drawn waits =>
    rw [unheard rfl (waiting waits nofun)]
    have going := holds.going session rfl
    have passes := going.passes
    rw [waits] at passes
    apply Holds.see
    refine ⟨⟨holds.honest.once, holds.honest.truthful, holds.honest.distinct,
      holds.honest.within⟩, ?_⟩
    intro backing same
    cases same
    constructor
    case kind => exact going.kind
    case unsettled => exact going.unsettled
    case delivered => exact going.delivered
    case passes => exact congrArg Nat.succ passes
    case early =>
      rw [List.foldl_cons, List.foldl_nil, Ledger.ask, passes]
      exact going.again waits
    case again => exact nofun
    case unstarted => exact fun waits => waits.elim nofun nofun
    case earlier => exact going.earlier
    case fresh => exact going.fresh
    case queued => exact going.queued
    case seen => exact going.seen

end Ledgers

/-- Every call's ledger holds, and what is out for it is what it waits for. -/
structure Recorded (reached : Served Model RpcOperation × (String → Ledger)) : Prop where
  parked : Parked reached.1.state
  distinct : ∀ chainId kind, (reached.1.state.listed chainId kind).Nodup
  posted : ∀ callId,
    Posted callId (postsFor callId reached.1.requests) (reached.1.state.call? callId)
  holds : ∀ callId, Holds (reached.2 callId) (reached.1.state.call? callId)

theorem Recorded.init [CaseTable] : Recorded recorded.init where
  parked := ⟨nofun, nofun⟩
  distinct _ _ := List.nodup_nil
  posted _ := .none
  holds _ := ⟨honest_opened .rpc, nofun⟩

theorem Recorded.step [CaseTable] {move : Move Event} {before after : Served Model RpcOperation}
    {ledgers : String → Ledger} {rest : List (RpcOperation × Nat)} {requests : List RpcOperation}
    (kept : Recorded (before, ledgers))
    (serves : rpcPool.Serves rpcShell move before after rest requests) :
    Recorded (after, fun callId =>
      (ledgers callId).note callId before.state move.event after.state requests) := by
  have stepped : update move.event before.state = (after.state, requests) :=
    Option.some.inj serves.stepped
  have lives := update_lives kept.parked move.event
  have reads := update_reads kept.parked move.event
  rw [stepped] at lives reads
  have distinct (chainId : UInt32) (kind : RpcKind) : (after.state.listed chainId kind).Nodup := by
    rcases reads.listed chainId kind with same | once
    · exact same ▸ kept.distinct chainId kind
    · exact once
  refine ⟨lives.parked, distinct, ?_, ?_⟩
  · intro callId
    exact posted_step callId kept.parked (kept.posted callId) serves
  · intro callId
    obtain ⟨left, takes, _⟩ := serves.takes
    apply (lives.life callId).holds (kept.holds callId) _ distinct
    intro url outcome latencyMs nowMs told
    exact (kept.posted callId).heard takes told

/-- In every run each call is told one verdict at most, posts to no endpoint twice in one pass,
posts no more often than it has passes and endpoints where its lists stay the same, and is told that it
may have been delivered exactly if a post of it may have been. -/
theorem calls_concluded_once_in_truth [CaseTable]
    {history : List (Move Event × List (RpcOperation × Nat))}
    {reached : Served Model RpcOperation × (String → Ledger)}
    (run : recorded.Run Process.unrestricted history reached) (callId : String) :
    let ledger := reached.2 callId
    ledger.verdicts.length ≤ 1 ∧
      ledger.posts.Nodup ∧
      (∀ endpoints, (∀ list ∈ ledger.lists, list = endpoints) →
        ledger.posts.length ≤ maxPasses ledger.kind * endpoints.length) ∧
      ∀ verdict ∈ ledger.verdicts, ∀ flag, verdict.maybeDelivered? = some flag →
        flag = ledger.delivered := by
  have kept : Recorded reached := by
    apply run.state_invariant Recorded .init
    intro move before after output _ stepped kept
    obtain ⟨served, noting⟩ := Process.watching_step.mp stepped
    obtain ⟨rest, requests, serves, given⟩ := Process.served_step served
    have next := kept.step serves
    have asked : output.map Prod.fst = requests := by
      rw [given]
      exact List.zipIdx_map_fst _ _
    rw [asked] at noting
    rw [← noting] at next
    exact next
  have honest := (kept.holds callId).honest
  exact ⟨honest.once, honest.distinct, fun _ unchanged => honest.bounded unchanged,
    honest.truthful⟩

/-- A call that posts once and is told the answer. -/
theorem calls_concluded_once_in_truth_sample :
    ∃ history reached, (@recorded Utf8.asciiCaseTable).Run Process.unrestricted history reached ∧
      (reached.2 "a").posts = [(0, "https://node")] ∧ (reached.2 "a").verdicts.length = 1 ∧
      (reached.2 "a").posts.Nodup := by
  have ⟨history, reached, run, facts⟩ := @Process.exists_run_of_play _ _ _
    (@recorded Utf8.asciiCaseTable) Process.unrestricted
    [.arrives (.callRequested "a" 1 .rpc "eth_call" 0),
      .answers 0 (.shellCompleted (.poolConfig 1 [⟨"https://node", .user⟩] [] 0)),
      .answers 1 (.shellCompleted (.postOutcome "a" "https://node" (.response none) 5 0))]
    (fun reached => (reached.2.2 "a").posts == [(0, "https://node")] &&
      (reached.2.2 "a").verdicts.length == 1) (by decide)
  have ⟨posted, concluded⟩ := Bool.and_eq_true_iff.mp facts
  have ⟨_, distinct, _⟩ :=
    @calls_concluded_once_in_truth Utf8.asciiCaseTable history reached run "a"
  exact ⟨history, reached, run, beq_iff_eq.mp posted, beq_iff_eq.mp concluded, distinct⟩

end VelaWallet.RpcPool
