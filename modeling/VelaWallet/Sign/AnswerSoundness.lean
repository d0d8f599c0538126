import VelaWallet.Sign.SubmitSoundness

/-!
# One answer a request

Which requests have been answered, and what the sheet, the pipeline and the funding view
may still be of: nothing leaves for a request that was.
-/

namespace VelaWallet.SignRequest

variable {fl : Inflight} {payload : SignResponsePayload} {outcome : SignSubmitOutcome}
  {pending : Pending}

def SignOperation.speaksFor : SignOperation → Option String
  | sendResponse _ id _ => some id
  | signAndSubmit id .. => some id
  | clearToPost id _ => some id
  | _ => none

/-- The requests answered by the operations, in order. -/
def answeredBy (operations : List SignOperation) : List String :=
  operations.filterMap SignOperation.answersFor

/-- Nothing is said of a request after its answer. -/
def Follows (earlier later : SignOperation) : Prop :=
  ∀ id, earlier.answersFor = some id → later.speaksFor ≠ some id

instance (earlier later : SignOperation) : Decidable (Follows earlier later) :=
  decidable_of_iff (∀ id ∈ earlier.answersFor, later.speaksFor ≠ some id) Iff.rfl

theorem mem_answeredBy {operations : List SignOperation} {id : String} :
    id ∈ answeredBy operations ↔
      ∃ operation ∈ operations, operation.answersFor = some id := by
  simp [answeredBy]

/-- Operations that say nothing of the requests answered before, and nothing of one after
they answered it. -/
structure Fresh (answered : List String) (operations : List SignOperation) : Prop where
  order : operations.Pairwise Follows
  unanswered : ∀ operation ∈ operations, ∀ id, operation.speaksFor = some id → id ∉ answered

namespace Fresh

variable {answered : List String} {first second operations : List SignOperation}

theorem append (before : Fresh answered first)
    (after : Fresh (answered ++ answeredBy first) second) : Fresh answered (first ++ second) where
  order := by
    rw [List.pairwise_append]
    refine ⟨before.order, after.order, ?_⟩
    intro earlier isEarlier later isLater id answers speaks
    have unanswered := after.unanswered later isLater id speaks
    exact unanswered (List.mem_append_right _ (mem_answeredBy.mpr ⟨earlier, isEarlier, answers⟩))
  unanswered := by
    intro operation member id speaks
    rcases List.mem_append.mp member with early | late
    · exact before.unanswered operation early id speaks
    · have unanswered := after.unanswered operation late id speaks
      exact fun was => unanswered (List.mem_append_left _ was)

theorem quiet (quiet : ∀ operation ∈ operations, operation.speaksFor = none) :
    Fresh answered operations where
  order := by
    apply List.Pairwise.imp_of_mem (R := fun _ _ => True)
    · intro earlier later _ isLater _ id _ speaks
      rw [quiet later isLater] at speaks
      contradiction
    · exact List.pairwise_of_forall fun _ _ => trivial
  unanswered := by
    intro operation member id speaks
    rw [quiet operation member] at speaks
    contradiction

theorem one {operation : SignOperation} {id : String} (speaks : operation.speaksFor = some id)
    (unanswered : id ∉ answered) : Fresh answered [operation] where
  order := List.pairwise_singleton _ _
  unanswered := by
    intro other member otherId otherSpeaks
    rw [List.mem_singleton.mp member, speaks] at otherSpeaks
    exact Option.some.inj otherSpeaks ▸ unanswered

end Fresh

/-! ## The answered requests -/

def Event.asks : Event → List String
  | requestArrived arrival => [arrival.id]
  | chainSwitchRequested (some id) _ _ => [id]
  | _ => []

/-- What the machine may still hold of the requests answered so far. -/
structure Answering (asked answered : List String) (core : Core) : Prop where
  known : ∀ id ∈ answered, id ∈ asked
  sheetAsked : ∀ pending, core.pending = some pending → pending.id ∈ asked
  pipelineAsked : ∀ fl, core.inflight = some fl → fl.id ∈ asked
  sheet : ∀ pending, core.pending = some pending → pending.id ∈ answered →
    pending.responded = true ∧ pending.held = none
  pipeline : ∀ fl, core.inflight = some fl → fl.id ∉ answered
  unheld : ∀ pending fl, core.pending = some pending → core.inflight = some fl →
    pending.id = fl.id → pending.held = none
  funded : core.funding.isSome = true → core.inflight = none ∧
    ∀ pending, core.pending = some pending → pending.id ∉ answered

namespace Answering

variable {asked answered : List String} {core before after : Core}

/-- Nothing new is on the sheet, in the pipeline or in the funding view. -/
structure Kept (before after : Core) : Prop where
  sheet : ∀ pending, after.pending = some pending → before.pending = some pending
  pipeline : ∀ fl, after.inflight = some fl → ∃ was, before.inflight = some was ∧ was.id = fl.id
  funded : after.funding.isSome = true → before.funding.isSome = true

theorem Kept.refl : Kept core core where
  sheet _ shown := shown
  pipeline fl running := ⟨fl, running, rfl⟩
  funded up := up

theorem Kept.front (front : Front) : Kept core { core with front } where
  sheet _ shown := shown
  pipeline fl running := ⟨fl, running, rfl⟩
  funded up := up

theorem Kept.trans {first second third : Core} (left : Kept first second)
    (right : Kept second third) : Kept first third where
  sheet pending shown := left.sheet pending (right.sheet pending shown)
  pipeline fl running := by
    obtain ⟨middle, ran, same⟩ := right.pipeline fl running
    obtain ⟨was, ran, earlier⟩ := left.pipeline middle ran
    exact ⟨was, ran, earlier.trans same⟩
  funded up := left.funded (right.funded up)

theorem Kept.unfunded : Kept core core.unfunded where
  sheet _ shown := shown
  pipeline fl running := ⟨fl, running, rfl⟩
  funded up := by contradiction

theorem Kept.cleared : Kept core core.cleared where
  sheet _ shown := by contradiction
  pipeline fl running := ⟨fl, running, rfl⟩
  funded up := by contradiction

theorem Kept.clearedIf (id : String) : Kept core (core.clearedIf id) := by
  unfold Core.clearedIf
  split
  · exact .cleared
  · exact .refl

theorem Kept.ended : Kept core core.ended where
  sheet _ shown := shown
  pipeline _ running := by contradiction
  funded up := up

theorem Kept.stopped : Kept core core.stopped where
  sheet _ shown := shown
  pipeline _ running := by contradiction
  funded up := up

theorem Kept.stoppedFor (id : String) : Kept core (core.stoppedFor id) := by
  unfold Core.stoppedFor
  split
  · exact .stopped
  · exact .refl

theorem Kept.settle (id : String) (outcome : SignSettledOutcome) :
    Kept core (core.settle id outcome) where
  sheet _ shown := shown
  pipeline fl running := ⟨fl, running, rfl⟩
  funded up := up

theorem Kept.running {next : Inflight} {lastOpts : Option SignApproveOpts}
    {settled : List (String × SignSettledOutcome)} {attempt : Nat}
    (running : core.inflight = some fl) (same : fl.id = next.id) :
    Kept core { core with
      inflight := some next
      lastOpts
      settled
      attempt } where
  sheet _ shown := shown
  pipeline other ran := by
    cases ran
    exact ⟨fl, running, same⟩
  funded up := up

theorem Kept.marked (transportId : String) :
    Kept core { core with inflight := core.inflight.map (Inflight.leftBy transportId) } where
  sheet _ shown := shown
  pipeline fl running := by
    obtain ⟨was, ran, rfl⟩ := Option.map_eq_some_iff.mp running
    refine ⟨was, ran, ?_⟩
    unfold Inflight.leftBy
    split <;> rfl
  funded up := up

theorem kept (held : Answering asked answered before) (kept : Kept before after) :
    Answering asked answered after where
  known := held.known
  sheetAsked pending shown := held.sheetAsked pending (kept.sheet pending shown)
  pipelineAsked fl running := by
    obtain ⟨was, ran, same⟩ := kept.pipeline fl running
    exact same ▸ held.pipelineAsked was ran
  sheet pending shown := held.sheet pending (kept.sheet pending shown)
  pipeline fl running := by
    obtain ⟨was, ran, same⟩ := kept.pipeline fl running
    exact same ▸ held.pipeline was ran
  unheld pending fl shown running same := by
    obtain ⟨was, ran, earlier⟩ := kept.pipeline fl running
    exact held.unheld pending was (kept.sheet pending shown) ran (same.trans earlier.symm)
  funded up := by
    obtain ⟨idle, open_⟩ := held.funded (kept.funded up)
    constructor
    · cases running : after.inflight with
      | none => rfl
      | some fl =>
        obtain ⟨was, ran, _⟩ := kept.pipeline fl running
        rw [idle] at ran
        contradiction
    · intro pending shown
      exact open_ pending (kept.sheet pending shown)

/-- A request is answered when the sheet, the pipeline and the funding view are done with
it. -/
theorem answer {id : String} (held : Answering asked answered core) (wasAsked : id ∈ asked)
    (sheet : ∀ pending, core.pending = some pending → pending.id = id →
      pending.responded = true ∧ pending.held = none)
    (pipeline : ∀ fl, core.inflight = some fl → fl.id ≠ id)
    (unfunded : core.funding.isSome = true →
      ∀ pending, core.pending = some pending → pending.id ≠ id) :
    Answering asked (answered ++ [id]) core := { held with
  known other member := by
    rcases List.mem_append.mp member with early | late
    · exact held.known other early
    · exact List.mem_singleton.mp late ▸ wasAsked
  sheet pending shown member := by
    rcases List.mem_append.mp member with early | late
    · exact held.sheet pending shown early
    · exact sheet pending shown (List.mem_singleton.mp late)
  pipeline fl running member := by
    rcases List.mem_append.mp member with early | late
    · exact held.pipeline fl running early
    · exact pipeline fl running (List.mem_singleton.mp late)
  funded up := by
    refine ⟨(held.funded up).1, ?_⟩
    intro pending shown member
    rcases List.mem_append.mp member with early | late
    · exact (held.funded up).2 pending shown early
    · exact unfunded up pending shown (List.mem_singleton.mp late) }

section

variable (held : Answering asked answered core)
include held

theorem ask (ids : List String) :
    Answering (asked ++ ids) answered core := { held with
  known id member := List.mem_append_left _ (held.known id member)
  sheetAsked pending shown := List.mem_append_left _ (held.sheetAsked pending shown)
  pipelineAsked fl running := List.mem_append_left _ (held.pipelineAsked fl running) }

theorem changed {next : Pending}
    (shown : core.pending = some pending) (sameId : next.id = pending.id)
    (sameWord : next.responded = pending.responded)
    (sameHeld : next.held = none ∨ next.held = pending.held) :
    Answering asked answered { core with pending := some next } := { held with
  sheetAsked other here := by
    cases here
    exact sameId ▸ held.sheetAsked pending shown
  sheet other here member := by
    cases here
    obtain ⟨responded, unheld⟩ := held.sheet pending shown (sameId ▸ member)
    exact ⟨sameWord.trans responded, sameHeld.elim id fun same => same.trans unheld⟩
  unheld other fl here running same := by
    cases here
    have unheld := held.unheld pending fl shown running (sameId ▸ same)
    exact sameHeld.elim id fun sameHeld => sameHeld.trans unheld
  funded up := by
    refine ⟨(held.funded up).1, ?_⟩
    intro other here
    cases here
    exact sameId ▸ (held.funded up).2 pending shown }

theorem fails (shown : core.pending = some pending)
    (open_ : pending.id ∉ answered)
    (finished : ∀ fl, core.inflight = some fl → fl.id ≠ pending.id) :
    Answering asked answered { core with pending := some (pending.failing payload) } := { held with
  sheetAsked other here := by
    cases here
    exact held.sheetAsked pending shown
  sheet other here member := by
    cases here
    exact (open_ member).elim
  unheld other fl here running same := by
    cases here
    exact (finished fl running same.symm).elim
  funded up := by
    refine ⟨(held.funded up).1, ?_⟩
    intro other here
    cases here
    exact open_ }

end

theorem starts {fl : Inflight} (held : Answering asked answered core)
    (shown : core.pending = some pending) (same : fl.id = pending.id)
    (open_ : pending.id ∉ answered) (unheld : pending.held = none)
    (unfunded : core.funding = none) :
    Answering asked answered { core with inflight := some fl } := { held with
  pipelineAsked other running := by
    cases running
    exact same ▸ held.sheetAsked pending shown
  pipeline other running := by
    cases running
    exact same ▸ open_
  unheld other started here running _ := by
    obtain rfl := Option.some.inj (shown.symm.trans here)
    exact unheld
  funded up := by
    rw [show core.funding = none from unfunded] at up
    contradiction }

section

variable (held : Answering asked answered core)
include held

theorem shows (fresh : pending.id ∉ asked) (unfunded : core.funding = none) :
    Answering (asked ++ [pending.id]) answered { core with pending := some pending } where
  known id member := List.mem_append_left _ (held.known id member)
  sheetAsked other here := by
    cases here
    exact List.mem_append_right _ (List.mem_singleton_self _)
  pipelineAsked fl running := List.mem_append_left _ (held.pipelineAsked fl running)
  sheet other here member := by
    cases here
    exact (fresh (held.known _ member)).elim
  pipeline := held.pipeline
  unheld other fl here running same := by
    cases here
    exact (fresh (same ▸ held.pipelineAsked fl running)).elim
  funded up := by
    rw [show core.funding = none from unfunded] at up
    contradiction

theorem answerFresh {id : String} (fresh : id ∉ asked) :
    Answering (asked ++ [id]) (answered ++ [id]) core := by
  apply (held.ask [id]).answer (List.mem_append_right _ (List.mem_singleton_self id))
  · intro pending shown same
    exact (fresh (same ▸ held.sheetAsked pending shown)).elim
  · intro fl running same
    exact fresh (same ▸ held.pipelineAsked fl running)
  · intro _ pending shown same
    exact fresh (same ▸ held.sheetAsked pending shown)

end

theorem refuses {next : Pending} (held : Answering asked answered core)
    (shown : core.pending = some pending) (sameId : next.id = pending.id)
    (responded : next.responded = true) (unheld : next.held = none)
    (idle : core.inflight = none) (unfunded : core.funding = none) :
    Answering asked (answered ++ [pending.id]) { core with pending := some next } where
  known id member := by
    rcases List.mem_append.mp member with early | late
    · exact held.known id early
    · exact List.mem_singleton.mp late ▸ held.sheetAsked pending shown
  sheetAsked other here := by
    cases here
    exact sameId ▸ held.sheetAsked pending shown
  pipelineAsked := held.pipelineAsked
  sheet other here _ := by
    cases here
    exact ⟨responded, unheld⟩
  pipeline fl running := by
    rw [show core.inflight = some fl from running] at idle
    contradiction
  unheld other fl here _ _ := by
    cases here
    exact unheld
  funded up := by
    rw [show core.funding = none from unfunded] at up
    contradiction

theorem ends {fl : Inflight} (held : Answering asked answered before)
    (running : before.inflight = some fl) (kept : Kept before after)
    (finished : after.inflight = none)
    (hidden : ∀ pending, after.pending = some pending → pending.id ≠ fl.id) :
    Answering asked (answered ++ [fl.id]) after := by
  apply (held.kept kept).answer (held.pipelineAsked fl running)
  · intro pending shown same
    exact (hidden pending shown same).elim
  · intro other ran
    rw [finished] at ran
    contradiction
  · intro _ pending shown
    exact hidden pending shown

section

variable (held : Answering asked answered core)
include held

theorem waits {funding : Option FundingState} {pinned : Option String}
    (running : core.inflight = some fl) (shown : core.pending = some pending)
    (same : pending.id = fl.id) :
    Answering asked answered { core.ended with
      funding
      fundingPinnedRid := pinned } := { held with
  pipelineAsked _ ran := by contradiction
  pipeline _ ran := by contradiction
  unheld _ _ _ ran := by contradiction
  funded _ := by
    refine ⟨rfl, ?_⟩
    intro other here
    obtain rfl := Option.some.inj (shown.symm.trans here)
    exact same ▸ held.pipeline fl running }

theorem owed (shown : core.pending = some pending)
    (owed : pending.held = some payload) :
    pending.id ∉ answered ∧ ∀ fl, core.inflight = some fl → fl.id ≠ pending.id := by
  constructor
  · intro was
    obtain ⟨_, unheld⟩ := held.sheet pending shown was
    rw [owed] at unheld
    contradiction
  · intro fl running same
    have unheld := held.unheld pending fl shown running same.symm
    rw [owed] at unheld
    contradiction

theorem open_of_unanswered
    (shown : core.pending = some pending) (unanswered : pending.responded = false) :
    pending.id ∉ answered := by
  intro was
  obtain ⟨responded, _⟩ := held.sheet pending shown was
  rw [unanswered] at responded
  contradiction

end

end Answering

namespace Core

variable {core : Core}

theorem stoppedFor_inflight {id : String}
    (uncommitted : ∀ fl, core.inflight = some fl → fl.id = id → fl.stage.beforePasskey = true)
    (fl : Inflight) (running : (core.stoppedFor id).inflight = some fl) : fl.id ≠ id := by
  intro same
  unfold stoppedFor at running
  split at running
  case isTrue => contradiction
  case isFalse goes =>
    apply goes
    simp [running, same, uncommitted fl running same]

theorem clearedIf_pending {id : String}
    (shown : (core.clearedIf id).pending = some pending) : pending.id ≠ id := by
  intro same
  unfold clearedIf at shown
  split at shown
  case isTrue => contradiction
  case isFalse hidden =>
    apply hidden
    simp [shown, same]

theorem clearedIf_inflight (id : String) : (core.clearedIf id).inflight = core.inflight := by
  unfold clearedIf
  split <;> rfl

end Core

/-! ## Every change -/

section Cases

open Answering (Kept)

variable {event : Event} {model : Model} {issued : List (Nat × SignOperation)}
  {asked answered : List String} {core : Core} {operations : List SignOperation}

/-- What a step says, and the requests answered behind it. -/
structure Speaks (asked answered : List String) (core : Core)
    (operations : List SignOperation) : Prop where
  fresh : Fresh answered operations
  after : Answering asked (answered ++ answeredBy operations) core

/-- Nothing is said of a request. -/
def Silent (operations : List SignOperation) : Prop :=
  ∀ operation ∈ operations, operation.speaksFor = none

theorem silent_nil : Silent [] := by simp [Silent]

theorem silent_one {operation : SignOperation} (silent : operation.speaksFor = none) :
    Silent [operation] := by simp [Silent, silent]

theorem Silent.append {first second : List SignOperation} (before : Silent first)
    (after : Silent second) : Silent (first ++ second) := by
  intro operation member
  rcases List.mem_append.mp member with early | late
  · exact before operation early
  · exact after operation late

theorem Silent.answeredBy (silent : Silent operations) : answeredBy operations = [] := by
  rw [SignRequest.answeredBy, List.filterMap_eq_nil_iff]
  intro operation member
  have quiet := silent operation member
  cases operation
  case sendResponse => contradiction
  all_goals rfl

theorem silent_of_onRecords (records : ∀ operation ∈ operations, operation.onRecords = true) :
    Silent operations := by
  intro operation member
  have onRecords := records operation member
  cases operation
  case persistRecord | updateRecord | deleteRecord => rfl
  all_goals contradiction

theorem Speaks.silent (held : Answering asked answered core) (silent : Silent operations) :
    Speaks asked answered core operations where
  fresh := .quiet silent
  after := by
    rw [silent.answeredBy, List.append_nil]
    exact held

theorem Speaks.answer {transportId id : String} {payload : SignResponsePayload}
    (silent : Silent operations) (unanswered : id ∉ answered)
    (held : Answering asked (answered ++ [id]) core) :
    Speaks asked answered core (operations ++ [respondOp transportId id payload]) where
  fresh := by
    apply Fresh.append (.quiet silent)
    rw [silent.answeredBy, List.append_nil]
    exact .one rfl unanswered
  after := by
    have said : answeredBy (operations ++ [respondOp transportId id payload]) = [id] := by
      rw [answeredBy, List.filterMap_append, ← answeredBy, silent.answeredBy]
      rfl
    rw [said]
    exact held

theorem Speaks.reply {transportId id : String}
    (unanswered : id ∉ answered) (held : Answering asked (answered ++ [id]) core) :
    Speaks asked answered core [respondOp transportId id payload] := by
  have speaks : Speaks asked answered core ([] ++ [respondOp transportId id payload]) :=
    .answer silent_nil unanswered held
  exact speaks

theorem Speaks.append {first second : List SignOperation} (before : Fresh answered first)
    (after : Speaks asked (answered ++ answeredBy first) core second) :
    Speaks asked answered core (first ++ second) where
  fresh := before.append after.fresh
  after := by
    rw [answeredBy, List.filterMap_append, ← List.append_assoc]
    exact after.after

theorem Tapped.keeps {opts : SignApproveOpts} (tapped : Tapped model event opts core) :
    Kept model.core core := by
  cases tapped
  case approve =>
    exact {
      sheet := fun _ shown => shown
      pipeline := fun fl running => ⟨fl, running, rfl⟩
      funded := fun up => up }
  case again => exact .unfunded

theorem Written.keeps {next : Inflight} {before : Core} (running : before.inflight = some fl)
    (written : Written outcome fl before next core operations) : Kept before core := by
  cases written
  case kept => exact .refl
  case adopted | withdrawn => exact .running running rfl

section

variable (submitted : Submitted model event fl core operations outcome)
include submitted

theorem Submitted.keeps
    : Kept model.core core := by
  obtain ⟨_, _, _, _, running, _, written, _⟩ := submitted
  exact written.keeps running

theorem Submitted.silent
    : Silent operations :=
  silent_of_onRecords submitted.onRecords

end

def cancelsOpen (event : Event) (model : Model) : Bool :=
  match event with
  | .fundingCancelled =>
    model.pending.all fun pending =>
      !pending.responded && !model.inflight.any (·.id == pending.id)
  | _ => true

theorem Speaks.ends {fl : Inflight} {after : Core} {payload : SignResponsePayload}
    (held : Answering asked answered core) (running : core.inflight = some fl)
    (silent : Silent operations) (kept : Kept core after) (finished : after.inflight = none)
    (hidden : ∀ pending, after.pending = some pending → pending.id ≠ fl.id) :
    Speaks asked answered after (operations ++ [fl.respond payload]) :=
  .answer silent (held.pipeline fl running) (held.ends running kept finished hidden)

theorem Speaks.closes {after : Core}
    (held : Answering asked answered core) (running : core.inflight = some fl)
    (kept : Kept core after) (finished : after.inflight = none)
    (hidden : ∀ pending, after.pending = some pending → pending.id ≠ fl.id) :
    Speaks asked answered after [fl.respond payload] :=
  .reply (held.pipeline fl running) (held.ends running kept finished hidden)

theorem Speaks.signs {operation : SignOperation} {id : String}
    (speaks : operation.speaksFor = some id) (silent : operation.answersFor = none)
    (unanswered : id ∉ answered) (held : Answering asked answered core) :
    Speaks asked answered core [operation] where
  fresh := .one speaks unanswered
  after := by
    have said : answeredBy [operation] = [] := by simp [answeredBy, silent]
    rw [said, List.append_nil]
    exact held

theorem Starts.id [SignRuntime] {opts : SignApproveOpts}
    (starts : Starts model event opts core pending fl) : fl.id = pending.id := by
  obtain ⟨_, _, _, _, _, rfl⟩ := starts.captured
  rfl

section

variable (held : Answering asked answered core)
include held

theorem Speaks.leaves {after : Core} (shown : core.pending = some pending)
    (open_ : pending.id ∉ answered) (kept : Kept core after) (gone : after.pending = none)
    (finished : ∀ fl, after.inflight = some fl → fl.id ≠ pending.id) :
    Speaks asked answered after [pending.respond payload] := by
  apply Speaks.reply open_
  apply (held.kept kept).answer (held.sheetAsked pending shown) _ finished
  · intro _ other shown
    rw [gone] at shown
    contradiction
  · intro other shown
    rw [gone] at shown
    contradiction

theorem Speaks.switch {id transportId param : Option String}
    (fresh : ∀ id_ ∈ (Event.chainSwitchRequested id transportId param).asks, id_ ∉ asked) :
    Speaks (asked ++ (Event.chainSwitchRequested id transportId param).asks) answered core
      (switchAnswer id transportId payload) := by
  unfold switchAnswer
  split
  case _ id _ =>
    have fresh : id ∉ asked := fresh id (List.mem_singleton_self id)
    apply Speaks.reply
    · exact fun was => fresh (held.known id was)
    · exact held.answerFresh fresh
  case _ => exact .silent (held.ask _) silent_nil

theorem Speaks.replaces {switches : List SignOperation}
    (fresh : pending.id ∉ asked)
    (unfunded : core.funding = none) (silent : Silent switches) :
    Speaks (asked ++ [pending.id]) answered { core with pending := some pending }
      ((core.pending.map Pending.owed).getD [] ++ switches) := by
  have shows := held.shows fresh unfunded
  cases shown : core.pending with
  | none => exact .silent shows silent
  | some old =>
    rw [Option.map_some, Option.getD_some]
    cases owed : old.held with
    | none =>
      rw [Pending.owed, owed]
      exact .silent shows silent
    | some =>
      rw [Pending.owed, owed]
      obtain ⟨open_, finished⟩ := held.owed shown owed
      have asked := held.sheetAsked old shown
      apply Speaks.append (.one rfl open_)
      apply Speaks.silent _ silent
      apply shows.answer (List.mem_append_left _ asked) _ finished
      · intro _ other here same
        cases here
        exact fresh (same ▸ asked)
      · intro other here same
        cases here
        exact (fresh (same ▸ asked)).elim

end

theorem Answering.step [SignRuntime] (held : Answering asked answered model.core)
    (fits : cancelsOpen event model = true) (fresh : ∀ id ∈ event.asks, id ∉ asked)
    (change : Change event model core issued) :
    Speaks (asked ++ event.asks) answered core (issued.map (·.2)) := by
  have goes := held.ask event.asks
  cases change
  all_goals simp only [List.map_nil, map_snd_under]
  case kept => exact .silent goes silent_nil
  case unfunded => exact .silent (goes.kept .unfunded) silent_nil
  case accountsListed | accountSwitched => exact .silent (goes.kept (.front _)) silent_nil
  case arrivalRefused arrival _ named =>
    subst named
    have fresh : arrival.id ∉ asked := fresh arrival.id (List.mem_singleton_self _)
    apply Speaks.reply
    · exact fun was => fresh (held.known _ was)
    · exact (held.answerFresh fresh).kept .unfunded
  case arrivalShown arrival admitted switches front named sameId _ asks =>
    subst named
    have fresh : admitted.pending.id ∉ asked := by
      rw [show admitted.pending.id = arrival.id from sameId]
      exact fresh arrival.id (List.mem_singleton_self _)
    have silent : Silent switches := by
      rcases asks with rfl | ⟨index, rfl⟩
      · exact silent_nil
      · exact silent_one rfl
    have replaces := Speaks.replaces (held.kept .unfunded) fresh rfl silent
    rw [show admitted.pending.id = arrival.id from sameId] at replaces
    exact ⟨replaces.fresh, replaces.after.kept (.front front)⟩
  case switchAnswered named =>
    subst named
    exact .switch held fresh
  case switchCancelled pending payload _ named shown unanswered uncommitted =>
    subst named
    have leaves : Speaks asked answered (model.core.stoppedFor pending.id).cleared
        [pending.respond payload] :=
      .leaves held shown (held.open_of_unanswered shown unanswered)
        (.trans (.stoppedFor _) .cleared) rfl (Core.stoppedFor_inflight uncommitted)
    exact .append leaves.fresh (.switch leaves.after fresh)
  case tapped tapped => exact .silent (goes.kept tapped.keeps) silent_nil
  case refusedTap tapCore pending _ _ _ takes =>
    have shown : tapCore.pending = some pending := takes.tapped.pending.trans takes.shown
    apply Speaks.reply
    · exact held.open_of_unanswered takes.shown takes.unanswered
    · exact (goes.kept takes.tapped.keeps).refuses shown rfl rfl takes.unheld takes.inflight
        takes.unfunded
  case started tapCore pending _ _ starts _ =>
    have taps := goes.kept starts.tapped.keeps
    have shown : tapCore.pending = some pending := starts.tapped.pending.trans starts.shown
    have open_ := held.open_of_unanswered starts.shown starts.unanswered
    exact .silent (taps.starts shown starts.id open_ starts.unheld starts.unfunded)
      (silent_one rfl)
  case startedSubmit tapCore pending _ starts _ =>
    have taps := goes.kept starts.tapped.keeps
    have shown : tapCore.pending = some pending := starts.tapped.pending.trans starts.shown
    have open_ := held.open_of_unanswered starts.shown starts.unanswered
    exact .signs rfl rfl (starts.id ▸ open_)
      (taps.starts shown starts.id open_ starts.unheld starts.unfunded)
  case startedFailed tapCore pending _ takes =>
    have taps := goes.kept takes.tapped.keeps
    have shown : tapCore.pending = some pending := takes.tapped.pending.trans takes.shown
    apply Speaks.silent _ silent_nil
    apply taps.fails shown (held.open_of_unanswered takes.shown takes.unanswered)
    intro fl running
    rw [takes.inflight] at running
    contradiction
  case sponsoring running _ | signed running _ =>
    exact .silent (goes.kept (.running running rfl)) (silent_one rfl)
  case submits fl running _ _ | postCleared fl _ _ running _ _ _ _ =>
    exact .signs rfl rfl (held.pipeline fl running) (goes.kept (.running running rfl))
  case failedShown fl _ _ running _ shown same _ =>
    apply Speaks.silent _ (silent_of_onRecords (closeFailed_onRecords fl))
    apply (goes.kept .ended).fails shown (same ▸ held.pipeline fl running)
    intro _ ran
    contradiction
  case failedAnswered fl _ _ _ running _ hidden _ =>
    exact .ends goes running (silent_of_onRecords (closeFailed_onRecords fl)) .ended rfl
      (Model.shows_eq_false.mp hidden)
  case fundingWait running _ shown _ =>
    obtain ⟨pending, here, same⟩ := Model.shows_iff.mp shown
    exact .silent (goes.waits running here same) silent_nil
  case submittedAhead operations _ running _ _ patches =>
    have silent : Silent operations := by
      rcases patches with rfl | rfl
      · exact silent_nil
      · exact silent_one rfl
    exact .silent (goes.kept (.running running rfl)) silent
  case batchAnswered wa _ _ _ _ _ running _ _ _ =>
    have silent : Silent [.updateRecord wa.recordId .admitted] := silent_one rfl
    apply Speaks.ends goes running silent
    · exact .trans (.settle _ _) (.trans .stopped (.clearedIf _))
    · rw [Core.clearedIf_inflight]
      rfl
    · exact fun pending shown => Core.clearedIf_pending shown
  case submittedAfresh fl _ _ recordId _ _ _ _ running _ =>
    have silent : Silent ((fl.writeAhead.map fun wa =>
        [SignOperation.deleteRecord wa.recordId]).getD []) := by
      cases fl.writeAhead with
      | none => exact silent_nil
      | some => exact silent_one rfl
    exact .silent (goes.kept (.running running rfl)) (silent.append (silent_one rfl))
  case trackedAnswered running _ _ =>
    apply Speaks.closes goes running
    · exact .trans (.settle _ _) (.trans .stopped (.clearedIf _))
    · rw [Core.clearedIf_inflight]
      rfl
    · exact fun pending shown => Core.clearedIf_pending shown
  case trackedHeld fl _ _ _ _ _ _ _ running _ shown same =>
    apply Speaks.silent _ silent_nil
    apply (goes.kept (.trans (.settle _ _) .stopped)).fails shown
      (same ▸ held.pipeline fl running)
    intro _ ran
    contradiction
  case prompted running =>
    exact .silent (goes.kept (.running running rfl)) silent_nil
  case submitQuiet submitted =>
    exact .silent (goes.kept (submitted.keeps.trans .ended)) submitted.silent
  case submitRefused submitted hidden =>
    apply Speaks.ends (goes.kept submitted.keeps) submitted.inflight submitted.silent
    · exact .trans .ended (.settle _ _)
    · rfl
    · intro pending shown
      exact Model.shows_eq_false.mp hidden pending (submitted.pending ▸ shown)
  case submitGone submitted =>
    exact .silent (goes.kept (submitted.keeps.trans (.trans .ended (.clearedIf _))))
      submitted.silent
  case submitAnswered submitted _ _ =>
    apply Speaks.ends (goes.kept submitted.keeps) submitted.inflight submitted.silent
    · exact .trans (.settle _ _) (.trans .ended (.clearedIf _))
    · rw [Core.clearedIf_inflight]
      rfl
    · exact fun pending shown => Core.clearedIf_pending shown
  case submitRecorded submitted _ _ | submitUnderfunded submitted =>
    exact .silent ((goes.kept submitted.keeps).kept (.running submitted.inflight rfl))
      (submitted.silent.append (silent_one rfl))
  case submitFailedShown fl _ _ _ pending _ submitted shown same =>
    apply Speaks.silent _
      (submitted.silent.append (silent_of_onRecords (closeFailed_onRecords fl)))
    apply (goes.kept (submitted.keeps.trans .ended)).fails (submitted.pending.trans shown)
    · obtain ⟨was, ran, earlier⟩ := submitted.keeps.pipeline fl submitted.inflight
      rw [same, ← earlier]
      exact held.pipeline was ran
    · intro _ ran
      contradiction
  case submitFailedAnswered fl _ _ _ _ _ _ submitted hidden =>
    rw [← List.append_assoc]
    apply Speaks.ends (goes.kept submitted.keeps) submitted.inflight
      (submitted.silent.append (silent_of_onRecords (closeFailed_onRecords fl))) .ended rfl
    intro pending shown
    exact Model.shows_eq_false.mp hidden pending (submitted.pending ▸ shown)
  case recordAnswered running _ =>
    apply Speaks.closes goes running
    · exact .trans .ended (.clearedIf _)
    · rw [Core.clearedIf_inflight]
      rfl
    · exact fun pending shown => Core.clearedIf_pending shown
  case rejected shown unanswered _ uncommitted =>
    apply Speaks.leaves goes shown (held.open_of_unanswered shown unanswered)
    · exact .trans (.settle _ _) (.trans (.stoppedFor _) .cleared)
    · rfl
    · exact Core.stoppedFor_inflight uncommitted
  case dismissed =>
    cases shown : model.pending with
    | none => exact .silent (goes.kept .cleared) silent_nil
    | some =>
      rw [Option.map_some, Option.getD_some]
      unfold Pending.owed
      split
      case _ owed =>
        obtain ⟨open_, finished⟩ := held.owed shown owed
        exact .leaves goes shown open_ .cleared rfl finished
      case _ => exact .silent (goes.kept .cleared) silent_nil
  case retried shown _ =>
    exact .silent (goes.changed shown rfl rfl (.inl rfl)) silent_nil
  case fundingCancelled pending _ _ shown cancels =>
    have cancelled : pending.id ∉ answered ∧
        ∀ fl, model.inflight = some fl → fl.id ≠ pending.id := by
      rcases cancels with named | up
      · subst named
        rw [cancelsOpen, shown, Option.all_some, Bool.and_eq_true, Bool.not_eq_true',
          Bool.not_eq_true', Option.any_eq_false] at fits
        refine ⟨held.open_of_unanswered shown fits.1, ?_⟩
        intro fl running
        simpa using fits.2 fl running
      · obtain ⟨idle, open_⟩ := held.funded up
        refine ⟨open_ pending shown, ?_⟩
        intro fl running
        rw [show model.core.inflight = some fl from running] at idle
        contradiction
    apply Speaks.leaves goes shown cancelled.1
    · exact {
        sheet := fun _ shown => by contradiction
        pipeline := fun fl running => ⟨fl, running, rfl⟩
        funded := fun up => by contradiction }
    · rfl
    · exact cancelled.2
  case simStarted shown _ =>
    exact .silent (goes.changed shown rfl rfl (.inr rfl))
      (silent_one rfl)
  case simEnded shown _ =>
    exact .silent (goes.changed shown rfl rfl (.inr rfl)) silent_nil
  case dropped transportId left sheet =>
    have marked : Kept left { left with
        inflight := left.inflight.map (Inflight.leftBy transportId) } := .marked transportId
    rcases sheet with rfl | rfl
    · exact .silent (goes.kept marked) silent_nil
    · exact .silent (goes.kept (.trans .cleared marked)) silent_nil
  case droppedStopped sheet =>
    rcases sheet with rfl | rfl
    · exact .silent (goes.kept .stopped) silent_nil
    · exact .silent (goes.kept (.trans .cleared .stopped)) silent_nil

end Cases

/-- The ids handed in so far. -/
def askedIn (history : List (Event × List (Nat × SignOperation))) : List String :=
  history.flatMap (·.1.asks)

@[simp] theorem askedIn_append (history : List (Event × List (Nat × SignOperation)))
    (event : Event) (issued : List (Nat × SignOperation)) :
    askedIn (history ++ [(event, issued)]) = askedIn history ++ event.asks := by
  simp [askedIn]

/-- In every run that hands each id in once, nothing is said of a request after its
answer, as long as every cancel of the funding view finds the request on the sheet open
and its pipeline not running. -/
theorem answered_once [SignRuntime] {history : List (Event × List (Nat × SignOperation))}
    {model : Model} (run : signing.Run cancelsOpen history model)
    (fresh : (askedIn history).Nodup) : (handedOut history).Pairwise Follows := by
  have holds : (askedIn history).Nodup →
      Answering (askedIn history) (answeredBy (handedOut history)) model.core ∧
        Fresh [] (handedOut history) := by
    refine run.invariant (fun history model => (askedIn history).Nodup →
      Answering (askedIn history) (answeredBy (handedOut history)) model.core ∧
        Fresh [] (handedOut history)) ?_ ?_
    · intro _
      constructor
      · constructor <;> simp [askedIn, answeredBy, Model.core]
      · exact .quiet silent_nil
    · intro history event state next issued fits stepped held nodup
      rw [askedIn_append, List.nodup_append] at nodup
      obtain ⟨answering, said⟩ := held nodup.1
      have unasked : ∀ id ∈ event.asks, id ∉ askedIn history := by
        intro id asks asked
        exact nodup.2.2 id asked id asks rfl
      have speaks := answering.step fits unasked (signing_change stepped)
      rw [askedIn_append, handedOut_append]
      constructor
      · rw [answeredBy, List.filterMap_append]
        exact speaks.after
      · exact said.append speaks.fresh
  exact (holds fresh).2.order

/-- The request is sent to the funding view and approved again there; the view's cancel
arrives late, while the new pre-check is out. -/
def lateCancel : List Event :=
  [.accountsChanged [sampleOwner, sampleOther] 1,
    .requestArrived (sampleArrival "1" moduleText),
    .approveTapped {},
    .shellCompleted 0 (.preCheck (some sampleFunding)),
    .shellCompleted 0 (.sponsorship (.denied none)),
    .fundingCompleteTapped,
    .fundingCancelled,
    .shellCompleted 0 (.preCheck none)]

theorem lateCancel_signsAnswered : ∃ history model,
    (@signing moduleRuntime).Run Process.unrestricted history model ∧
      (askedIn history).Nodup ∧ ¬ (handedOut history).Pairwise Follows := by
  have played : ((@signing moduleRuntime).play Process.unrestricted lateCancel).any
      (fun reached => decide ((askedIn reached.1).Nodup ∧
        ¬ (handedOut reached.1).Pairwise Follows)) = true := by decide +kernel
  obtain ⟨history, model, run, said⟩ := Process.exists_run_of_play played
  exact ⟨history, model, run, of_decide_eq_true said⟩

/-- The request is approved, submitted and recorded, and its result answered. -/
def answeredEvents : List Event :=
  checkedWith 1 1 ++ [.shellCompleted 0 (.submit (.succeeded "0xabc") 0),
    .shellCompleted 0 .recordPersisted, .fundingCancelled]

theorem answered_once_succeeded : ∃ history model,
    (@signing moduleRuntime).Run cancelsOpen history model ∧ (askedIn history).Nodup ∧
      answeredBy (handedOut history) = ["1"] ∧ (handedOut history).Pairwise Follows := by
  have played : ((@signing moduleRuntime).play cancelsOpen answeredEvents).any
      (fun reached => decide ((askedIn reached.1).Nodup ∧
        answeredBy (handedOut reached.1) = ["1"])) = true := by decide +kernel
  obtain ⟨history, model, run, said⟩ := Process.exists_run_of_play played
  obtain ⟨fresh, answered⟩ := of_decide_eq_true said
  exact ⟨history, model, run, fresh, answered, @answered_once moduleRuntime history model run fresh⟩

end VelaWallet.SignRequest
