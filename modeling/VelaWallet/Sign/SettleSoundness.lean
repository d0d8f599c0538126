import VelaWallet.Sign.AnswerSoundness

/-!
# A settled request does not sign again

The register of settled ids, which keeps the latest of them, and what the sheet and the
pipeline may still be of a settled request.
-/

namespace VelaWallet.SignRequest

open Json (fromStr)
open SelfCallGuard (enforceNoSelfCall)

variable {opts : SignApproveOpts}

section Register

variable {settled : List (String × SignSettledOutcome)} {id other : String}
  {outcome : SignSettledOutcome}

theorem map_fst_replaceOutcome :
    (replaceOutcome id outcome settled).map (·.1) = settled.map (·.1) := by
  induction settled with
  | nil => rfl
  | cons _ _ ih =>
    unfold replaceOutcome
    split
    case isTrue same => simp [same]
    case isFalse => simp [ih]

theorem map_fst_settleIn : (settleIn settled id outcome).map (·.1) =
      if id ∈ settled.map (·.1) then settled.map (·.1)
      else if maxSettledRids ≤ settled.length then (settled.map (·.1)).drop 1 ++ [id]
      else settled.map (·.1) ++ [id] := by
  have any : settled.any (·.1 == id) = true ↔ id ∈ settled.map (·.1) := by
    simp [List.any_eq_true]
  unfold settleIn
  split
  case isTrue present =>
    rw [if_pos (any.mp present), map_fst_replaceOutcome]
  case isFalse absent =>
    rw [if_neg fun present => absent (any.mpr present)]
    split <;> simp

theorem mem_of_mem_settleIn (member : other ∈ (settleIn settled id outcome).map (·.1)) :
    other = id ∨ other ∈ settled.map (·.1) := by
  rw [map_fst_settleIn] at member
  split at member
  case isTrue => exact .inr member
  case isFalse =>
    split at member
    case isTrue =>
      rcases List.mem_append.mp member with kept | new
      · exact .inr (List.mem_of_mem_drop kept)
      · exact .inl (List.mem_singleton.mp new)
    case isFalse =>
      rcases List.mem_append.mp member with kept | new
      · exact .inr kept
      · exact .inl (List.mem_singleton.mp new)

theorem nodup_settleIn (nodup : (settled.map (·.1)).Nodup) :
    ((settleIn settled id outcome).map (·.1)).Nodup := by
  rw [map_fst_settleIn]
  split
  case isTrue => exact nodup
  case isFalse absent =>
    split
    case isTrue =>
      rw [List.nodup_append]
      refine ⟨nodup.sublist (List.drop_sublist 1 _), List.pairwise_singleton _ id, ?_⟩
      intro kept isKept new isNew same
      rw [List.mem_singleton.mp isNew] at same
      exact absent (same ▸ List.mem_of_mem_drop isKept)
    case isFalse =>
      rw [List.nodup_append]
      refine ⟨nodup, List.pairwise_singleton _ id, ?_⟩
      intro kept isKept new isNew same
      rw [List.mem_singleton.mp isNew] at same
      exact absent (same ▸ isKept)

theorem mem_replaceOutcome (present : id ∈ settled.map (·.1)) :
    (id, outcome) ∈ replaceOutcome id outcome settled := by
  induction settled with
  | nil => contradiction
  | cons _ _ ih =>
    unfold replaceOutcome
    split
    case isTrue => exact List.mem_cons_self
    case isFalse other =>
      rw [List.map_cons, List.mem_cons] at present
      rcases present with here | later
      · exact (other here.symm).elim
      · exact List.mem_cons_of_mem _ (ih later)

theorem mem_replaceOutcome_other {entry : String × SignSettledOutcome} (different : entry.1 ≠ id)
    (member : entry ∈ settled) : entry ∈ replaceOutcome id outcome settled := by
  induction settled with
  | nil => contradiction
  | cons _ _ ih =>
    unfold replaceOutcome
    rcases List.mem_cons.mp member with here | later
    · rw [if_neg (here ▸ different)]
      exact here ▸ List.mem_cons_self
    · split
      · exact List.mem_cons_of_mem _ later
      · exact List.mem_cons_of_mem _ (ih later)

theorem mem_settleIn_outcome : (id, outcome) ∈ settleIn settled id outcome := by
  unfold settleIn
  split
  case isTrue present =>
    apply mem_replaceOutcome
    simpa [List.any_eq_true] using present
  case isFalse => split <;> simp

theorem mem_settleIn_other {entry : String × SignSettledOutcome} (different : entry.1 ≠ id)
    (nodup : (settled.map (·.1)).Nodup) (member : entry ∈ settled)
    (stays : entry.1 ∈ (settleIn settled id outcome).map (·.1)) :
    entry ∈ settleIn settled id outcome := by
  unfold settleIn at stays ⊢
  split
  case isTrue present => exact mem_replaceOutcome_other different member
  case isFalse absent =>
    rw [if_neg absent] at stays
    split
    case isFalse => exact List.mem_append_left _ member
    case isTrue full =>
      rw [if_pos full, List.map_append, List.mem_append] at stays
      apply List.mem_append_left
      rcases stays with kept | new
      · -- the ids are distinct, so the oldest entry is not this one
        cases settled with
        | nil => contradiction
        | cons =>
          rw [List.drop_one, List.tail_cons] at kept ⊢
          rcases List.mem_cons.mp member with here | later
          · rw [List.map_cons, List.nodup_cons] at nodup
            exact (nodup.1 (here ▸ kept)).elim
          · exact later
      · exact (different (List.mem_singleton.mp new)).elim

end Register

def Core.settledIds (core : Core) : List String := core.settled.map (·.1)

/-- A pipeline of a settled id has submitted, and a settled request on the sheet is over:
answered, held for good, or waiting for its record. -/
structure Settled (core : Core) : Prop where
  nodup : core.settledIds.Nodup
  pipeline : ∀ fl, core.inflight = some fl → fl.id ∈ core.settledIds →
    ∃ next, fl.stage = .persistingResult next
  sheet : ∀ pending, core.pending = some pending → pending.id ∈ core.settledIds →
    pending.responded = true ∨
      (pending.held.isSome = true ∧ (pending.id, SignSettledOutcome.submitted) ∈ core.settled) ∨
      ∃ fl, core.inflight = some fl ∧ fl.id = pending.id

namespace Settled

variable {core before after : Core} {fl : Inflight}

theorem absent (settled : Settled core) (running : core.inflight = some fl)
    (submits : ∀ next, fl.stage ≠ .persistingResult next) : fl.id ∉ core.settledIds := by
  intro member
  obtain ⟨next, stage⟩ := settled.pipeline fl running member
  exact submits next stage

theorem unsettled (settled : Settled core) {pending : Pending}
    (shown : core.pending = some pending) (unanswered : pending.responded = false)
    (unheld : pending.held = none) (idle : core.inflight = none) :
    pending.id ∉ core.settledIds := by
  intro member
  rcases settled.sheet pending shown member with responded | ⟨held, _⟩ | ⟨fl, running, _⟩
  · rw [unanswered] at responded
    contradiction
  · rw [unheld] at held
    contradiction
  · rw [idle] at running
    contradiction

theorem kept (settled : Settled before) (register : after.settled = before.settled)
    (pipeline : ∀ fl, after.inflight = some fl →
      ∃ was, before.inflight = some was ∧ was.id = fl.id ∧ was.stage = fl.stage)
    (sheet : ∀ pending, after.pending = some pending → pending.id ∈ before.settledIds →
      pending.responded = true ∨
        (pending.held.isSome = true ∧ (pending.id, .submitted) ∈ before.settled) ∨
        ∃ fl, after.inflight = some fl ∧ fl.id = pending.id) : Settled after where
  nodup := by
    rw [Core.settledIds, register]
    exact settled.nodup
  pipeline fl running member := by
    rw [Core.settledIds, register] at member
    obtain ⟨was, ran, sameId, sameStage⟩ := pipeline fl running
    obtain ⟨next, stage⟩ := settled.pipeline was ran (sameId ▸ member)
    exact ⟨next, sameStage ▸ stage⟩
  sheet pending shown member := by
    rw [Core.settledIds, register] at member
    rw [register]
    exact sheet pending shown member

/-- The pipeline of an id not settled goes on or ends, with whatever it leaves of its own
on the sheet. -/
theorem moves (settled : Settled before) (running : before.inflight = some fl)
    (absent : fl.id ∉ before.settledIds) (register : after.settled = before.settled)
    (sheet : ∀ pending, after.pending = some pending → pending.id ≠ fl.id →
      before.pending = some pending)
    (pipeline : ∀ next, after.inflight = some next → next.id = fl.id) : Settled after where
  nodup := by
    rw [Core.settledIds, register]
    exact settled.nodup
  pipeline next ran member := by
    rw [Core.settledIds, register, pipeline next ran] at member
    exact (absent member).elim
  sheet pending shown member := by
    rw [Core.settledIds, register] at member
    rw [register]
    have different : pending.id ≠ fl.id := fun same => absent (same ▸ member)
    rcases settled.sheet pending (sheet pending shown different) member with
      responded | held | ⟨was, ran, same⟩
    · exact .inl responded
    · exact .inr (.inl held)
    · obtain rfl := Option.some.inj (running.symm.trans ran)
      exact (different same.symm).elim

theorem same (settled : Settled before) (register : after.settled = before.settled)
    (pipeline : after.inflight = before.inflight) (sheet : after.pending = before.pending) :
    Settled after := by
  apply settled.kept register
  · intro fl running
    exact ⟨fl, pipeline ▸ running, rfl, rfl⟩
  · intro pending shown member
    rw [pipeline]
    exact settled.sheet pending (sheet ▸ shown) member

section

variable (settled : Settled core)
include settled

theorem marked {next : Inflight} (running : core.inflight = some fl)
    (sameId : next.id = fl.id) (sameStage : next.stage = fl.stage) :
    Settled { core with inflight := some next } := by
  refine settled.kept ?_ ?_ ?_
  · rfl
  · intro other ran
    cases ran
    exact ⟨fl, running, sameId.symm, sameStage.symm⟩
  · intro pending shown member
    rcases settled.sheet pending shown member with responded | held | ⟨was, ran, same⟩
    · exact .inl responded
    · exact .inr (.inl held)
    · obtain rfl := Option.some.inj (running.symm.trans ran)
      exact .inr (.inr ⟨next, rfl, sameId.trans same⟩)

theorem leftBy (transportId : String) :
    Settled { core with inflight := core.inflight.map (Inflight.leftBy transportId) } := by
  cases running : core.inflight with
  | none => exact .same settled rfl running.symm rfl
  | some =>
    rw [Option.map_some]
    apply settled.marked running
    · unfold Inflight.leftBy
      split <;> rfl
    · unfold Inflight.leftBy
      split <;> rfl

theorem advances {next : Inflight} (running : core.inflight = some fl)
    (absent : fl.id ∉ core.settledIds) (same : next.id = fl.id) :
    Settled { core with inflight := some next } := by
  apply settled.moves running absent
  · rfl
  · exact fun _ shown _ => shown
  · intro other ran
    cases ran
    exact same

end

theorem ends (settled : Settled before) (running : before.inflight = some fl)
    (absent : fl.id ∉ before.settledIds) (register : after.settled = before.settled)
    (finished : after.inflight = none)
    (sheet : ∀ pending, after.pending = some pending → pending.id ≠ fl.id →
      before.pending = some pending) : Settled after := by
  apply settled.moves running absent register sheet
  intro next ran
  rw [finished] at ran
  contradiction

/-- The pipeline's own id is settled: it is over, or waits for its record; what it leaves
on the sheet is held for good. -/
theorem settles {outcome : SignSettledOutcome} (settled : Settled before)
    (running : before.inflight = some fl)
    (register : after.settled = settleIn before.settled fl.id outcome)
    (sheet : ∀ pending, after.pending = some pending → pending.id ≠ fl.id →
      before.pending = some pending)
    (own : ∀ pending, after.pending = some pending → pending.id = fl.id →
      (pending.held.isSome = true ∧ outcome = .submitted) ∨ after.inflight.isSome = true)
    (pipeline : ∀ next, after.inflight = some next →
      next.id = fl.id ∧ ∃ result, next.stage = .persistingResult result) : Settled after where
  nodup := by
    rw [Core.settledIds, register]
    exact nodup_settleIn settled.nodup
  pipeline next ran _ := (pipeline next ran).2
  sheet pending shown member := by
    rw [Core.settledIds, register] at member
    rw [register]
    by_cases same : pending.id = fl.id
    · rcases own pending shown same with ⟨held, rfl⟩ | goes
      · exact .inr (.inl ⟨held, same ▸ mem_settleIn_outcome⟩)
      · obtain ⟨next, ran⟩ := Option.isSome_iff_exists.mp goes
        exact .inr (.inr ⟨next, ran, (pipeline next ran).1.trans same.symm⟩)
    · have was : pending.id ∈ before.settledIds := (mem_of_mem_settleIn member).resolve_left same
      rcases settled.sheet pending (sheet pending shown same) was with
        responded | ⟨held, submitted⟩ | ⟨other, ran, isOwn⟩
      · exact .inl responded
      · exact .inr (.inl ⟨held, mem_settleIn_other same settled.nodup submitted member⟩)
      · obtain rfl := Option.some.inj (running.symm.trans ran)
        exact (same isOwn.symm).elim

theorem leaves (settled : Settled before) (register : after.settled = before.settled)
    (pipeline : ∀ fl, after.inflight = some fl → before.inflight = some fl)
    (gone : after.pending = none) : Settled after := by
  apply settled.kept register
  · exact fun fl running => ⟨fl, pipeline fl running, rfl, rfl⟩
  · intro pending shown
    rw [gone] at shown
    contradiction

theorem clears (settled : Settled core) : Settled core.cleared := by
  apply settled.leaves
  · rfl
  · exact fun _ running => running
  · rfl

theorem changed {pending next : Pending} (settled : Settled core)
    (shown : core.pending = some pending) (sameId : next.id = pending.id)
    (sameWord : next.responded = pending.responded) (sameHeld : next.held = pending.held) :
    Settled { core with pending := some next } := by
  refine settled.kept ?_ ?_ ?_
  · rfl
  · exact fun fl running => ⟨fl, running, rfl, rfl⟩
  · intro other here member
    cases here
    rw [sameWord, sameHeld, sameId]
    exact settled.sheet pending shown (sameId ▸ member)

end Settled

namespace Core

variable {core : Core}

theorem settled_clearedIf (id : String) : (core.clearedIf id).settled = core.settled := by
  unfold clearedIf
  split <;> rfl

theorem settled_stoppedFor (id : String) : (core.stoppedFor id).settled = core.settled := by
  unfold stoppedFor
  split <;> rfl

theorem clearedIf_shown {id : String} {pending : Pending}
    (shown : (core.clearedIf id).pending = some pending) : core.pending = some pending := by
  unfold clearedIf at shown
  split at shown
  case isTrue => contradiction
  case isFalse => exact shown

theorem stoppedFor_running {id : String} {fl : Inflight}
    (running : (core.stoppedFor id).inflight = some fl) : core.inflight = some fl := by
  unfold stoppedFor at running
  split at running
  case isTrue => contradiction
  case isFalse => exact running

end Core

/-! ## Every change -/

section Cases

variable {event : Event} {model : Model} {issued : List (Nat × SignOperation)} {core : Core}
  {fl : Inflight} {operations : List SignOperation} {outcome : SignSubmitOutcome}

theorem Stage.not_persisting_of_beforePasskey {stage : Stage} (before : stage.beforePasskey = true)
    (next : AfterRecord) : stage ≠ .persistingResult next := by
  rintro rfl
  contradiction

theorem Stage.not_persisting_of_submitting {stage : Stage} (submitting : stage = .submitting)
    (next : AfterRecord) : stage ≠ .persistingResult next := by
  rintro rfl
  contradiction

theorem Inflight.takesSigned_stage {id : String} (takes : fl.takesSigned id = true) :
    fl.stage = .submitting := by
  simp only [takesSigned, Bool.and_eq_true, beq_iff_eq] at takes
  exact takes.1.1.2

theorem Inflight.takesSubmitted_stage {id : String} (takes : fl.takesSubmitted id = true) :
    fl.stage = .submitting := by
  simp only [takesSubmitted, Bool.and_eq_true, beq_iff_eq] at takes
  exact takes.1.2

theorem LetsSubmit.stage (lets : LetsSubmit model fl event) : fl.stage.beforePasskey = true := by
  cases lets
  case prechecked stage | sponsored stage _ => rw [stage]; rfl

theorem Submitted.running (submitted : Submitted model event fl core operations outcome) :
    ∃ was, model.inflight = some was ∧ was.id = fl.id ∧ was.stage = .submitting ∧
      core.settled = model.settled := by
  obtain ⟨_, was, _, _, running, stage, written, _⟩ := submitted
  refine ⟨was, running, ?_⟩
  cases written
  case kept | adopted | withdrawn => exact ⟨rfl, stage, rfl⟩

variable {pending : Pending}

theorem Settled.takes [SignRuntime] (settled : Settled model.core) {opts : SignApproveOpts} (takes : Takes model event opts core pending) :
    pending.id ∉ model.core.settledIds :=
  settled.unsettled takes.shown takes.unanswered takes.unheld takes.free

theorem Tapped.settled (tapped : Tapped model event opts core) :
    core.settled = model.settled := by
  cases tapped <;> rfl

theorem Settled.answered {after : Core} (settled : Settled model.core)
    (submitted : Submitted model event fl core operations outcome)
    (register : after.settled = core.settled)
    (sheet : ∀ pending, after.pending = some pending → pending.id ≠ fl.id →
      core.pending = some pending)
    (pipeline : ∀ next, after.inflight = some next → next.id = fl.id) : Settled after := by
  obtain ⟨was, running, sameId, stage, same⟩ := submitted.running
  apply settled.moves running (settled.absent running (Stage.not_persisting_of_submitting stage))
    (register.trans same)
  · intro pending shown different
    exact submitted.pending.symm.trans (sheet pending shown (sameId ▸ different))
  · intro next ran
    exact (pipeline next ran).trans sameId.symm

theorem Settled.answers {after : Core} {outcome_ : SignSettledOutcome}
    (settled : Settled model.core)
    (submitted : Submitted model event fl core operations outcome)
    (register : after.settled = settleIn core.settled fl.id outcome_)
    (sheet : ∀ pending, after.pending = some pending → pending.id ≠ fl.id →
      core.pending = some pending)
    (own : ∀ pending, after.pending = some pending → pending.id = fl.id →
      after.inflight.isSome = true)
    (pipeline : ∀ next, after.inflight = some next →
      next.id = fl.id ∧ ∃ result, next.stage = .persistingResult result) : Settled after := by
  obtain ⟨was, running, sameId, stage, same⟩ := submitted.running
  apply settled.settles running
  · rw [register, same, sameId]
    rfl
  · intro pending shown different
    exact submitted.pending.symm.trans (sheet pending shown (sameId ▸ different))
  · intro pending shown isOwn
    exact .inr (own pending shown (sameId ▸ isOwn))
  · intro next ran
    exact ⟨(pipeline next ran).1.trans sameId.symm, (pipeline next ran).2⟩

theorem unsettled_of_settledOutcome {id : String} (unsettled : model.settledOutcome id = none) :
    id ∉ model.core.settledIds := by
  intro member
  rw [Model.settledOutcome, Option.map_eq_none_iff, List.find?_eq_none] at unsettled
  obtain ⟨entry, isEntry, rfl⟩ := List.mem_map.mp member
  exact unsettled entry isEntry (beq_self_eq_true _)

section

variable (settled : Settled model.core)
include settled

theorem Settled.taken [SignRuntime] {after : Core} (takes : Takes model event opts core pending)
    (register : after.settled = core.settled)
    (sheet : ∀ other, after.pending = some other → other.id = pending.id)
    (pipeline : ∀ fl, after.inflight = some fl → fl.id = pending.id) : Settled after := by
  have absent := settled.takes takes
  have ids : after.settledIds = model.core.settledIds :=
    congrArg (List.map fun entry : String × SignSettledOutcome => entry.1)
      (register.trans takes.tapped.settled)
  constructor
  · rw [ids]
    exact settled.nodup
  · intro fl running member
    rw [ids, pipeline fl running] at member
    exact (absent member).elim
  · intro other shown member
    rw [ids, sheet other shown] at member
    exact (absent member).elim

theorem Settled.answersPipeline
    (running : model.inflight = some fl) :
    Settled ((model.core.settle fl.id .submitted).stopped.clearedIf fl.id) := by
  have register : ((model.core.settle fl.id .submitted).stopped.clearedIf fl.id).settled =
      settleIn model.core.settled fl.id .submitted := by
    rw [Core.settled_clearedIf]
    rfl
  apply settled.settles running register
  · intro pending shown _
    have left := Core.clearedIf_shown shown
    exact left
  · intro pending shown same
    exact (Core.clearedIf_pending shown same).elim
  · intro next ran
    rw [Core.clearedIf_inflight] at ran
    contradiction

theorem Settled.recorded (running : model.inflight = some fl) :
    Settled (model.core.ended.clearedIf fl.id) := by
  refine settled.kept ?_ ?_ ?_
  · exact Core.settled_clearedIf _
  · intro next ran
    rw [Core.clearedIf_inflight] at ran
    contradiction
  · intro pending shown member
    have left := Core.clearedIf_shown shown
    rcases settled.sheet pending left member with responded | held | ⟨was, ran, same⟩
    · exact .inl responded
    · exact .inr (.inl held)
    · obtain rfl := Option.some.inj (running.symm.trans ran)
      exact (Core.clearedIf_pending shown same.symm).elim

theorem Settled.rejects
    (uncommitted : ∀ fl, model.inflight = some fl → fl.id = pending.id →
      fl.stage.beforePasskey = true) :
    Settled ((model.core.settle pending.id .rejected).stoppedFor pending.id).cleared := by
  have register : ((model.core.settle pending.id .rejected).stoppedFor
      pending.id).cleared.settledIds =
      (settleIn model.core.settled pending.id .rejected).map (·.1) :=
    congrArg (List.map fun entry : String × SignSettledOutcome => entry.1)
      (Core.settled_stoppedFor _)
  constructor
  · rw [register]
    exact nodup_settleIn settled.nodup
  · intro fl running member
    have ran : ((model.core.settle pending.id .rejected).stoppedFor pending.id).inflight =
        some fl := running
    have goes := Core.stoppedFor_inflight uncommitted fl ran
    rw [register] at member
    have running := Core.stoppedFor_running ran
    exact settled.pipeline fl running
      ((mem_of_mem_settleIn member).resolve_left goes)
  · intro _ shown
    contradiction

theorem Settled.retries
    (shown : model.pending = some pending) (retryable : model.failureRetryable = true) :
    Settled { model.core with pending := some pending.unheld } := by
  simp only [Model.failureRetryable, shown, Option.any_some, Bool.and_eq_true, Bool.not_eq_true',
    Model.settledSubmitted, List.any_eq_false] at retryable
  refine settled.kept ?_ ?_ ?_
  · rfl
  · exact fun fl running => ⟨fl, running, rfl, rfl⟩
  · intro other here member
    cases here
    rcases settled.sheet pending shown member with responded | ⟨_, submitted⟩ | running
    · exact .inl responded
    · have unsubmitted := retryable.1.1.2 _ submitted
      simp at unsubmitted
    · exact .inr (.inr running)

end

theorem Takes.shown_after [SignRuntime]
    (takes : Takes model event opts core pending) (other : Pending)
    (shown : core.pending = some other) : other.id = pending.id := by
  have here := takes.tapped.pending.trans takes.shown
  rw [Option.some.inj (here.symm.trans shown)]

section

variable (submitted : Submitted model event fl core operations outcome)
include submitted

theorem Submitted.settled :
    core.settled = model.core.settled := by
  obtain ⟨_, _, _, _, same⟩ := submitted.running
  exact same

theorem Submitted.settle {outcome_ : SignSettledOutcome} :
    (core.settle fl.id outcome_).settled = settleIn model.core.settled fl.id outcome_ := by
  rw [← submitted.settled]
  rfl

end

theorem Settled.step [SignRuntime] (settled : Settled model.core)
    (change : Change event model core issued) : Settled core := by
  cases change
  case kept | switchAnswered => exact settled
  case unfunded | accountsListed | accountSwitched | arrivalRefused =>
    exact .same settled rfl rfl rfl
  case arrivalShown arrival admitted _ _ _ sameId unsettled _ =>
    refine settled.kept ?_ ?_ ?_
    · rfl
    · exact fun fl running => ⟨fl, running, rfl, rfl⟩
    · intro pending shown member
      cases shown
      rw [show admitted.pending.id = arrival.id from sameId] at member
      exact (unsettled_of_settledOutcome unsettled member).elim
  case switchCancelled =>
    exact settled.leaves (Core.settled_stoppedFor _) (fun _ => Core.stoppedFor_running) rfl
  case tapped tapped =>
    cases tapped
    case approve | again => exact .same settled rfl rfl rfl
  case refusedTap takes | startedFailed takes =>
    apply settled.taken takes
    · rfl
    · intro other shown
      cases shown
      rfl
    · intro fl running
      exact (Option.some_ne_none fl (running.symm.trans takes.inflight)).elim
  case started starts _ | startedSubmit starts _ =>
    apply settled.taken starts.toTakes
    · rfl
    · exact starts.shown_after
    · intro other running
      cases running
      exact starts.id
  case sponsoring running stage =>
    exact settled.advances running (settled.absent running (by simp [stage])) rfl
  case submits running lets _ =>
    exact settled.advances running
      (settled.absent running (Stage.not_persisting_of_beforePasskey lets.stage)) rfl
  case failedShown running stage _ same _ =>
    apply settled.ends running
      (settled.absent running (Stage.not_persisting_of_beforePasskey stage))
    · rfl
    · rfl
    · intro other here different
      cases here
      exact (different same).elim
  case failedAnswered running stage _ _ | fundingWait running stage shown _ =>
    apply settled.ends running
      (settled.absent running (Stage.not_persisting_of_beforePasskey stage))
    · rfl
    · rfl
    · exact fun _ shown _ => shown
  case signed running takes =>
    exact settled.advances running (settled.absent running
      (Stage.not_persisting_of_submitting (Inflight.takesSigned_stage takes))) rfl
  case submittedAhead running takes _ _ | submittedAfresh running takes =>
    exact settled.advances running (settled.absent running
      (Stage.not_persisting_of_submitting (Inflight.takesSubmitted_stage takes))) rfl
  case batchAnswered running _ _ _ | trackedAnswered running _ _ =>
    exact settled.answersPipeline running
  case trackedHeld running _ _ same =>
    apply settled.settles running
    · rfl
    · intro other here different
      cases here
      exact (different same).elim
    · intro other here _
      cases here
      exact .inl ⟨rfl, rfl⟩
    · intro _ ran
      contradiction
  case prompted running =>
    exact settled.marked running rfl rfl
  case submitQuiet submitted | submitFailedAnswered submitted _ =>
    apply settled.answered submitted
    · rfl
    · exact fun _ shown _ => shown
    · intro _ ran
      contradiction
  case submitRefused submitted hidden =>
    apply settled.answers submitted
    · rfl
    · exact fun _ shown _ => shown
    · intro pending shown same
      have here := submitted.pending.symm.trans shown
      exact (Model.shows_eq_false.mp hidden pending here same).elim
    · intro _ ran
      contradiction
  case submitGone submitted =>
    apply settled.answered submitted
    · exact Core.settled_clearedIf _
    · intro pending shown _
      have left := Core.clearedIf_shown shown
      exact left
    · intro next ran
      rw [Core.clearedIf_inflight] at ran
      contradiction
  case submitAnswered submitted _ answers =>
    apply settled.answers submitted
    · exact Core.settled_clearedIf _
    · intro pending shown _
      have left := Core.clearedIf_shown shown
      exact left
    · intro pending shown same
      exact (Core.clearedIf_pending shown same).elim
    · intro next ran
      rw [Core.clearedIf_inflight] at ran
      contradiction
  case submitRecorded next submitted _ answers =>
    apply settled.answers submitted
    · rfl
    · exact fun _ shown _ => shown
    · exact fun _ _ _ => rfl
    · intro other ran
      cases ran
      exact ⟨rfl, next, rfl⟩
  case submitUnderfunded submitted =>
    apply settled.answered submitted
    · rfl
    · exact fun _ shown _ => shown
    · intro other ran
      cases ran
      rfl
  case submitFailedShown submitted _ same =>
    apply settled.answered submitted
    · rfl
    · intro other here different
      cases here
      exact (different same).elim
    · intro _ ran
      contradiction
  case postCleared running stage _ _ _ =>
    exact settled.advances running
      (settled.absent running (Stage.not_persisting_of_submitting stage)) rfl
  case recordAnswered running _ =>
    exact settled.recorded running
  case rejected uncommitted =>
    exact settled.rejects uncommitted
  case dismissed => exact settled.clears
  case retried shown retryable => exact settled.retries shown retryable
  case fundingCancelled =>
    apply settled.leaves
    · rfl
    · exact fun _ running => running
    · rfl
  case simStarted shown _ | simEnded shown _ =>
    exact settled.changed shown rfl rfl rfl
  case dropped transportId _ sheet =>
    rcases sheet with rfl | rfl
    · exact settled.leftBy transportId
    · exact settled.clears.leftBy transportId
  case droppedStopped running stage sheet =>
    apply settled.ends running
      (settled.absent running (Stage.not_persisting_of_beforePasskey stage))
    · rcases sheet with rfl | rfl <;> rfl
    · rfl
    · intro pending shown _
      rcases sheet with rfl | rfl
      · exact shown
      · contradiction

theorem Change.register_cases [SignRuntime] (change : Change event model core issued) :
    core.settled = model.core.settled ∨
      ∃ id outcome, core.settled = settleIn model.core.settled id outcome := by
  cases change
  case switchCancelled => exact .inl (Core.settled_stoppedFor _)
  case tapped tapped => exact .inl tapped.settled
  case refusedTap takes | startedFailed takes => exact .inl takes.tapped.settled
  case started starts _ | startedSubmit starts _ => exact .inl starts.tapped.settled
  case batchAnswered | trackedAnswered => exact .inr ⟨_, _, Core.settled_clearedIf _⟩
  case trackedHeld => exact .inr ⟨_, _, rfl⟩
  case submitQuiet submitted | submitUnderfunded submitted | submitFailedShown submitted _ _
      | submitFailedAnswered submitted _ => exact .inl submitted.settled
  case submitRefused submitted _ | submitRecorded submitted _ _ =>
    exact .inr ⟨_, _, submitted.settle⟩
  case submitGone submitted => exact .inl ((Core.settled_clearedIf _).trans submitted.settled)
  case submitAnswered submitted _ _ =>
    exact .inr ⟨_, _, (Core.settled_clearedIf _).trans submitted.settle⟩
  case recordAnswered => exact .inl (Core.settled_clearedIf _)
  case rejected => exact .inr ⟨_, _, Core.settled_stoppedFor _⟩
  case dropped sheet | droppedStopped sheet =>
    rcases sheet with rfl | rfl
    · exact .inl rfl
    · exact .inl rfl
  all_goals exact .inl rfl

theorem Settled.submit [SignRuntime] (settled : Settled model.core)
    (change : Change event model core issued) {operation : SignOperation} {id : String}
    (member : operation ∈ issued.map (·.2)) (submits : operation.submitsFor = some id) :
    id ∉ model.core.settledIds := by
  rcases change.submits_cases with quiet | ⟨fl, rfl, _, by_⟩
  · rw [quiet operation member] at submits
    contradiction
  · rw [map_snd_under, List.mem_singleton] at member
    subst member
    obtain rfl : fl.id = id := Option.some.inj submits
    cases by_
    case tap starts => exact starts.id ▸ settled.takes starts.toTakes
    case check running lets =>
      exact settled.absent running (Stage.not_persisting_of_beforePasskey lets.stage)

end Cases

def registers (registered : List String) (before : Model) (_ : Event) (after : Model)
    (_ : List (Nat × SignOperation)) : List String :=
  registered ++ after.core.settledIds.filter (· ∉ before.core.settledIds)

/-- The signing machine with the ids it settled remembered. -/
@[reducible] def recalled [SignRuntime] :
    Process (Model × List String) Event (List (Nat × SignOperation)) :=
  signing.watching [] registers

/-- The register holds the latest of the ids that entered it, and no pipeline or request
can submit for one of them. -/
structure Recalls (registered : List String) (core : Core) : Prop where
  latest : core.settledIds = registered.rtake maxSettledRids
  settled : Settled core

section Recalled

variable {registered : List String} {before after : Core} {id : String}

theorem filter_new_nil {ids kept : List String} (sub : ∀ id ∈ ids, id ∈ kept) :
    ids.filter (· ∉ kept) = [] := by
  rw [List.filter_eq_nil_iff]
  intro id member
  simpa using sub id member

theorem filter_new_concat {ids kept : List String} (sub : ∀ id ∈ ids, id ∈ kept)
    (new : id ∉ kept) : (ids ++ [id]).filter (· ∉ kept) = [id] := by
  rw [List.filter_append, filter_new_nil sub]
  simp [new]

theorem filter_settleIn {settled : List (String × SignSettledOutcome)}
    {outcome : SignSettledOutcome} (absent : id ∉ settled.map (·.1)) :
    ((settleIn settled id outcome).map (·.1)).filter (· ∉ settled.map (·.1)) = [id] := by
  rw [map_fst_settleIn, if_neg absent]
  split
  case isTrue => exact filter_new_concat (fun _ member => List.mem_of_mem_drop member) absent
  case isFalse => exact filter_new_concat (fun _ member => member) absent

theorem rtake_settles {outcome : SignSettledOutcome}
    (latest : before.settledIds = registered.rtake maxSettledRids)
    (register : after.settled = settleIn before.settled id outcome) :
    after.settledIds = (registered ++ after.settledIds.filter
      (· ∉ before.settledIds)).rtake maxSettledRids := by
  have ids : after.settledIds = (settleIn before.settled id outcome).map (·.1) :=
    congrArg (List.map fun entry : String × SignSettledOutcome => entry.1) register
  have size : before.settled.length = (registered.rtake maxSettledRids).length := by
    rw [← latest, Core.settledIds, List.length_map]
  by_cases present : id ∈ before.settled.map (·.1)
  · rw [map_fst_settleIn, if_pos present] at ids
    rw [ids, show before.settled.map (·.1) = before.settledIds from rfl,
      filter_new_nil fun _ member => member, List.append_nil]
    exact latest
  · have new : after.settledIds.filter (· ∉ before.settledIds) = [id] := by
      rw [ids]
      exact filter_settleIn present
    rw [new, ids, map_fst_settleIn, if_neg present, size,
      show before.settled.map (·.1) = before.settledIds from rfl, latest]
    split
    case isTrue full => rw [BoundedQueue.rtake_concat_of_full (by decide) full]
    case isFalse room =>
      rw [BoundedQueue.rtake_concat_of_room (Nat.lt_of_not_le room)]

theorem Recalls.init : Recalls [] ({} : Model).core where
  latest := (List.rtake_nil (n := maxSettledRids)).symm
  settled := {
    nodup := List.nodup_nil
    pipeline := fun _ running => by contradiction
    sheet := fun _ shown => by contradiction }

theorem recalls_of_run [SignRuntime] {history : List (Event × List (Nat × SignOperation))}
    {watched : Model × List String}
    (run : recalled.Run Process.unrestricted history watched) :
    Recalls watched.2 watched.1.core := by
  apply run.state_invariant (fun watched => Recalls watched.2 watched.1.core)
  · exact .init
  · intro event before after issued _ stepped recalls
    obtain ⟨stepped, observed⟩ := Process.watching_step.mp stepped
    have change := signing_change stepped
    refine ⟨?_, recalls.settled.step change⟩
    rw [observed, registers]
    rcases change.register_cases with same | ⟨id, outcome, settles⟩
    · have ids : after.1.core.settledIds = before.1.core.settledIds :=
        congrArg (List.map fun entry : String × SignSettledOutcome => entry.1) same
      rw [ids, filter_new_nil fun _ member => member, List.append_nil]
      exact recalls.latest
    · exact rtake_settles recalls.latest settles

/-- A settled id is not signed for while fewer than 256 others have been settled since. -/
theorem settled_unsubmitted [SignRuntime] {model next : Model} {event : Event}
    {history : List (Event × List (Nat × SignOperation))} {issued : List (Nat × SignOperation)}
    {operation : SignOperation} {earlier later : List String}
    (run : recalled.Run Process.unrestricted history (model, earlier ++ id :: later))
    (recent : later.length < maxSettledRids)
    (stepped : signing.step event model = some (next, issued))
    (member : operation ∈ issued.map (·.2)) : operation.submitsFor ≠ some id := by
  intro submits
  have recalls := recalls_of_run run
  apply recalls.settled.submit (signing_change stepped) member submits
  rw [recalls.latest]
  exact BoundedQueue.mem_rtake recent

end Recalled

@[reducible] def emptyRuntime : SignRuntime := sampleRuntime [("[]", .array [])]

def messageArrival (id : String) : Arrival where
  id := id
  method := "personal_sign"
  paramsJson := "[]"
  origin := "https://site.example"
  transportId := "page"
  nowMs := 0

/-- Nothing on the sheet and nothing in flight, the given ids settled. -/
def resting (reconciled : Bool) (settled : List (String × SignSettledOutcome)) : Model :=
  { accounts := [sampleOther]
    reconciled
    settled }

/-- The message request of the id on the sheet. -/
def reviewing (settled : List (String × SignSettledOutcome)) (id : String) : Model :=
  { resting true settled with pending := some (messageArrival id).pending }

section Rests

variable {reconciled : Bool} {settled : List (String × SignSettledOutcome)} {id : String}

theorem checkArrival_message :
    @checkArrival emptyRuntime (arriving (resting reconciled settled)) (messageArrival id) =
      .ok (messageArrival id, none) := by
  have typed : @readTypedData emptyRuntime (messageArrival id) = .ok (messageArrival id) :=
    if_pos (by decide : (!looksLikeTypedData "personal_sign") = true)
  have canonical : @canonicalParamsJson emptyRuntime.toReader emptyRuntime.toWriter
      "personal_sign" "[]" = .ok none :=
    if_pos (by decide : (!isTransactionMethod "personal_sign") = true)
  have values : @readValues emptyRuntime (messageArrival id) = .ok (messageArrival id) := by
    unfold readValues
    rw [show @canonicalParamsJson emptyRuntime.toReader emptyRuntime.toWriter
      (messageArrival id).method (messageArrival id).paramsJson = .ok none from canonical]
  have chain : (@fromStr emptyRuntime.toReader "[]").bind
      (@extractRequestChainId emptyRuntime "personal_sign") = none := by decide
  have route : @routeChain emptyRuntime (arriving (resting reconciled settled)) (messageArrival id) =
      .ok none := by
    unfold routeChain
    dsimp only [messageArrival]
    rw [chain]
    rfl
  unfold checkArrival
  rw [typed]
  dsimp only [bind, Except.bind]
  rw [values]
  dsimp only
  rw [if_pos (by rfl), route]

theorem takeSheet_message :
    @takeSheet emptyRuntime (messageArrival id) (arriving (resting reconciled settled)) =
      .ok (reviewing settled id, [.render]) := by
  have params : @fromStr emptyRuntime.toReader "[]" = some (.array []) := by
    simp [fromStr]
  have judged : @SelfCallGuard.detectSelfCall emptyRuntime.toReader "personal_sign"
      (some (.array [])) sampleOther.address = .ok none := by decide
  have replaced : answerReplaced (arriving (resting reconciled settled)) =
      done (arriving (resting reconciled settled)) := rfl
  have reconciled : reconcile (messageArrival id).grantedAddress
      (arriving (resting reconciled settled)) = done (arriving (resting true settled)) := by
    unfold reconcile
    exact if_pos rfl
  have word : @judgeArrival emptyRuntime (arriving (resting true settled)) (messageArrival id) =
      .ok none := by
    unfold judgeArrival
    dsimp only [messageArrival]
    rw [params]
    exact judged
  unfold takeSheet
  dsimp only
  rw [replaced, done_fst, reconciled, done_fst, word]
  rfl

theorem arrives_step (fresh : id ∉ settled.map (·.1)) :
    (@signing emptyRuntime).step (.requestArrived (messageArrival id))
      (resting reconciled settled) = some (reviewing settled id, []) := by
  have unsettled : (arriving (resting reconciled settled)).settledOutcome
      (messageArrival id).id = none := by
    rw [Model.settledOutcome, Option.map_eq_none_iff, List.find?_eq_none]
    intro entry member same
    rw [beq_iff_eq] at same
    exact fresh (List.mem_map.mpr ⟨entry, member, same⟩)
  have signs : isSigningMethod (messageArrival id).method = true :=
    (by decide : isSigningMethod "personal_sign" = true)
  have current : isExpired (messageArrival id) = false := rfl
  have updated : @update emptyRuntime (.requestArrived (messageArrival id))
      (resting reconciled settled) = .ok (reviewing settled id, [.render]) := by
    unfold update onRequestArrived
    dsimp only
    rw [signs, unsettled, current, checkArrival_message]
    exact @takeSheet_message reconciled settled id
  exact (@signing_step _ _ _ _ emptyRuntime).mpr ⟨_, updated, rfl⟩

theorem rejects_step : (@signing emptyRuntime).step .rejectTapped (reviewing settled id) =
      some (resting true (settleIn settled id .rejected),
        [(0, respondOp "page" id (errPayload codeUserRejected .userRejected none))]) := rfl

def messagePipeline (id : String) : Inflight :=
  @pipelineOf emptyRuntime (messageArrival id).pending {} sampleOther 1 "[]" (.array [])

theorem proceeds_message {start : Model} (account : start.activeAccount = some sampleOther)
    (running : start.inflight = some (messagePipeline id)) :
    @proceedSubmit emptyRuntime start = .ok (request (messagePipeline id).submit
      { start with inflight := some { messagePipeline id with stage := .submitting } }) := by
  have params : @fromStr emptyRuntime.toReader (messagePipeline id).paramsJson =
      some (.array []) := by
    simp [fromStr, messagePipeline, pipelineOf]
  have passes : @enforceNoSelfCall emptyRuntime.toReader "personal_sign"
      (some (.array [])) sampleOther.address = .ok (.ok ()) := by decide
  have bounded : @unlimitedIn emptyRuntime "personal_sign" (.array []) = none := by decide
  unfold proceedSubmit
  rw [running]
  dsimp only
  rw [params]
  dsimp only
  rw [activeAddress, account, Option.map_some, Option.getD_some,
    show (messagePipeline id).method = "personal_sign" from rfl, passes]
  unfold submitGuarded
  dsimp only [Except.map]
  rw [show (messagePipeline id).method = "personal_sign" from rfl, bounded]
  rfl

theorem approveWith_message {start : Model}
    (shown : start.pending = some (messageArrival id).pending)
    (front : start.activeAccount = some sampleOther)
    (taken : takesApprove start (messageArrival id).pending = true)
    (chain : (approving start).chainOf (messageArrival id).pending = 1) :
    ∃ next, @approveWith emptyRuntime {} false start =
      .ok (request (messagePipeline id).submit next) ∧ next.attempt = start.attempt := by
  have params : @fromStr emptyRuntime.toReader (messageArrival id).pending.paramsJson =
      some (.array []) := by
    simp [fromStr, messageArrival, Arrival.pending]
  have fits : @refuseParams emptyRuntime (messageArrival id).pending.method (.array []) 1 = none :=
    (by decide : @refuseParams emptyRuntime "personal_sign" (.array []) 1 = none)
  have plain : takesNonce (messagePipeline id).method = false :=
    (by decide : takesNonce "personal_sign" = false)
  have pipeline : @pipelineOf emptyRuntime (messageArrival id).pending {} sampleOther 1
      (messageArrival id).pending.paramsJson (.array []) = messagePipeline id := rfl
  unfold approveWith
  rw [shown, front]
  dsimp only
  rw [if_pos taken]
  unfold approveTaken
  dsimp only [Option.getD_none]
  rw [params]
  dsimp only
  rw [chain, fits]
  dsimp only
  rw [if_neg (by decide), pipeline]
  unfold startPipeline
  dsimp only
  rw [plain, if_neg Bool.false_ne_true]
  exact ⟨_, proceeds_message front rfl, rfl⟩

theorem approves_step : ∃ next,
    (@signing emptyRuntime).step (.approveTapped {}) (reviewing settled id) =
      some (next, [(0, (messagePipeline id).submit)]) := by
  obtain ⟨next, approved, attempt⟩ := @approveWith_message id
    { reviewing settled id with lastOpts := some {} } rfl rfl rfl rfl
  have issued : issuedBy (request (messagePipeline id).submit next).2 =
      [(0, (messagePipeline id).submit)] := by
    rw [issuedBy_request, attempt]
    rfl
  exact ⟨next, (@signing_step _ _ _ _ emptyRuntime).mpr ⟨_, approved, issued⟩⟩

end Rests

section Row

variable {history : List (Event × List (Nat × SignOperation))} {registered : List String}
  {reconciled : Bool} {settled : List (String × SignSettledOutcome)} {id : String}

section

variable
  (run : (@recalled emptyRuntime).Run Process.unrestricted history (resting reconciled settled, registered))
  (fresh : id ∉ settled.map (·.1))
include run fresh

theorem arrives_run :
    (@recalled emptyRuntime).Run Process.unrestricted
      (history ++ [(.requestArrived (messageArrival id), [])])
      (reviewing settled id, registered) := by
  refine run.step rfl (Process.watching_step.mpr ⟨arrives_step fresh, ?_⟩)
  have same : (reviewing settled id).core.settledIds =
      (resting reconciled settled).core.settledIds := rfl
  rw [registers, same, filter_new_nil fun _ member => member, List.append_nil]

theorem rejects_run :
    ∃ history, (@recalled emptyRuntime).Run Process.unrestricted history
      (resting true (settleIn settled id .rejected), registered ++ [id]) := by
  refine ⟨_, (arrives_run run fresh).step rfl (Process.watching_step.mpr ⟨rejects_step, ?_⟩)⟩
  exact congrArg (registered ++ ·) (filter_settleIn fresh).symm

end

/-- A row of distinct ids. -/
def sampleId (index : Nat) : String := String.ofList (List.replicate index 'r')

theorem sampleId_injective {first second : Nat} (same : sampleId first = sampleId second) :
    first = second := by
  have lengths := congrArg (fun text : String => text.toList.length) same
  simpa [sampleId] using lengths

theorem rejects_row (count : Nat) : ∃ history reconciled settled,
    (@recalled emptyRuntime).Run Process.unrestricted history
      (resting reconciled settled, (List.range count).map sampleId) := by
  induction count with
  | zero =>
    have started : (@signing emptyRuntime).step (.accountsChanged [sampleOther] 0) {} =
        some (resting false [], []) := rfl
    exact ⟨_, false, [], Process.Run.init.step rfl (Process.watching_step.mpr ⟨started, rfl⟩)⟩
  | succ count ih =>
    obtain ⟨history, reconciled, settled, run⟩ := ih
    have latest := (@recalls_of_run emptyRuntime _ _ run).latest
    have fresh : sampleId count ∉ settled.map (·.1) := by
      intro member
      rw [show settled.map (·.1) = _ from latest] at member
      obtain ⟨index, isEarly, same⟩ := List.mem_map.mp (List.mem_of_mem_drop member)
      rw [sampleId_injective same] at isEarly
      exact Nat.lt_irrefl _ (List.mem_range.mp isEarly)
    obtain ⟨after, rejected⟩ := rejects_run run fresh
    refine ⟨after, true, settleIn settled (sampleId count) .rejected, ?_⟩
    rw [List.range_succ, List.map_append]
    exact rejected

/-- An id rejected before 256 others takes the sheet again, and is signed for. -/
theorem forgotten_signs : ∃ history model registered id event next issued,
    (@recalled emptyRuntime).Run Process.unrestricted history (model, registered) ∧
      id ∈ registered ∧ (@signing emptyRuntime).step event model = some (next, issued) ∧
      ∃ operation ∈ issued.map (·.2), operation.submitsFor = some id := by
  obtain ⟨history, reconciled, settled, run⟩ := rejects_row (maxSettledRids + 1)
  have latest := (@recalls_of_run emptyRuntime _ _ run).latest
  have forgotten : sampleId 0 ∉ settled.map (·.1) := by
    intro member
    rw [show settled.map (·.1) = _ from latest, List.rtake, List.length_map, List.length_range,
      Nat.add_sub_cancel_left, List.range_succ_eq_map, List.map_cons, List.drop_one,
      List.tail_cons] at member
    obtain ⟨index, isLater, same⟩ := List.mem_map.mp member
    obtain ⟨earlier, _, rfl⟩ := List.mem_map.mp isLater
    exact Nat.succ_ne_zero earlier (sampleId_injective same)
  obtain ⟨next, approved⟩ := @approves_step settled (sampleId 0)
  refine ⟨_, _, _, sampleId 0, .approveTapped {}, next, _, arrives_run run forgotten, ?_,
    approved, (messagePipeline (sampleId 0)).submit, List.mem_singleton_self _, rfl⟩
  exact List.mem_map.mpr ⟨0, List.mem_range.mpr (Nat.succ_pos _), rfl⟩

theorem settled_unsubmitted_rejected : ∃ history model next issued operation,
    (@recalled emptyRuntime).Run Process.unrestricted history (model, [sampleId 0]) ∧
      (@signing emptyRuntime).step (.approveTapped {}) model = some (next, issued) ∧
      operation ∈ issued.map (·.2) ∧ operation.submitsFor = some (sampleId 1) ∧
      operation.submitsFor ≠ some (sampleId 0) := by
  obtain ⟨history, reconciled, settled, run⟩ := rejects_row 1
  have latest := (@recalls_of_run emptyRuntime _ _ run).latest
  have fresh : sampleId 1 ∉ settled.map (·.1) := by
    intro member
    rw [show settled.map (·.1) = _ from latest] at member
    have first : sampleId 1 = sampleId 0 :=
      List.mem_singleton.mp (List.mem_of_mem_drop member)
    exact absurd (sampleId_injective first) Nat.one_ne_zero
  obtain ⟨next, approved⟩ := @approves_step settled (sampleId 1)
  have arrived := arrives_run run fresh
  have member : (messagePipeline (sampleId 1)).submit ∈
      [(0, (messagePipeline (sampleId 1)).submit)].map (·.2) := List.mem_singleton_self _
  exact ⟨_, _, next, _, _, arrived, approved, member, rfl,
    @settled_unsubmitted (sampleId 0) emptyRuntime _ next _ _ _ _ [] [] arrived (by decide)
      approved member⟩

end Row

end VelaWallet.SignRequest
