import VelaWallet.Send.Verdicts

/-!
# The slot, its flag and its lock

While no event takes the slot from a check or a run, the estimating flag is up
exactly for a pre-check in the slot, and the re-entry lock is held exactly for
the confirm run in it.
-/

namespace VelaWallet.Send

open FeePolicy

variable {event : Event} {before model : Model} {result : Model × Cmd} {gen : Nat}
  {pipeline : Pipeline} {slot : Slot}

namespace ReentryLock

theorem begin_cases {lock next : ReentryLock} (begun : lock.begin? = some (gen, next)) :
    lock.held = false ∧ gen = lock.generation + 1 ∧ next = ⟨true, lock.generation + 1⟩ := by
  unfold begin? at begun
  split at begun
  · cases begun
  · next free =>
      cases begun
      exact ⟨Bool.eq_false_of_not_eq_true free, rfl, rfl⟩

@[simp] theorem endRun_generation (lock : ReentryLock) (token : Nat) :
    (lock.endRun token).generation = lock.generation := by
  unfold endRun
  split
  · rfl
  · rfl

theorem endRun_held (lock : ReentryLock) (token : Nat) :
    (lock.endRun token).held = (lock.held && token != lock.generation) := by
  unfold endRun
  cases held : lock.held with
  | false => simp [held]
  | true => by_cases same : token = lock.generation <;> simp [same, held]

end ReentryLock

namespace Pipeline

theorem run_of_loose (loose : pipeline.isLoose = true) :
    pipeline.run = none := by
  simp only [isLoose, Bool.and_eq_true, Option.isNone_iff_eq_none] at loose
  exact loose.2

theorem isPreCheck_of_loose (loose : pipeline.isLoose = true) :
    pipeline.isPreCheck = false := by
  simp only [isLoose, Bool.and_eq_true, Bool.not_eq_true'] at loose
  exact loose.1

theorem run_of_preCheck (checking : pipeline.isPreCheck = true) :
    pipeline.run = none := by
  cases pipeline <;> first | rfl | cases checking

theorem isPreCheck_of_run (run : pipeline.run = some gen) :
    pipeline.isPreCheck = false := by
  cases pipeline <;> first | rfl | cases run

end Pipeline

structure Slot.Sound (slot : Slot) : Prop where
  estimating : slot.estimatingGas = slot.pipeline.isPreCheck
  locked : slot.lock.held = true ↔ slot.pipeline.run = some slot.lock.generation
  bounded : ∀ gen, slot.pipeline.run = some gen → gen ≤ slot.lock.generation
  cancelled : ∀ id gen, slot.withdrawn = some id → slot.pipeline.submitId = some id →
    slot.pipeline.run = some gen → gen < slot.lock.generation

namespace Slot.Sound

variable {slot : Slot}

theorem replaced (free : slot.lock.held = false) {target : Pipeline} (quote : target.run = none)
    {estimating : Bool} (same : estimating = target.isPreCheck) :
    Slot.Sound { slot with pipeline := target, estimatingGas := estimating } where
  estimating := same
  locked := by
    rw [quote, free]
    exact ⟨nofun, nofun⟩
  bounded gen run := by
    rw [quote] at run
    cases run
  cancelled id gen _ _ run := by
    rw [quote] at run
    cases run

theorem free (sound : slot.Sound) (idle : slot.pipeline.run = none) : slot.lock.held = false := by
  rw [← Bool.not_eq_true, sound.locked, idle]
  exact nofun

theorem ended (sound : slot.Sound) (run : slot.pipeline.run = some gen) :
    Slot.Sound { slot with pipeline := .idle, lock := slot.lock.endRun gen } where
  estimating := sound.estimating.trans (Pipeline.isPreCheck_of_run run)
  locked := by
    have finished : (slot.lock.endRun gen).held = false := by
      rw [ReentryLock.endRun_held, Bool.and_eq_false_iff]
      cases held : slot.lock.held with
      | false => exact Or.inl rfl
      | true =>
        have current := sound.locked.mp held
        rw [run, Option.some.injEq] at current
        rw [current, bne_self_eq_false]
        exact Or.inr rfl
    rw [finished]
    exact ⟨nofun, nofun⟩
  bounded _ := nofun
  cancelled _ _ _ := nofun

theorem rechecked (sound : slot.Sound) (run : slot.pipeline.run = some gen)
    {target : Pipeline} (runs : target.run = some gen) (unsigned : target.submitId = none) :
    Slot.Sound { slot with pipeline := target } where
  estimating := by
    have was := Pipeline.isPreCheck_of_run run
    rw [Pipeline.isPreCheck_of_run runs, ← was]
    exact sound.estimating
  locked := by
    rw [runs, ← run]
    exact sound.locked
  bounded other is := sound.bounded other (run.trans (runs.symm.trans is))
  cancelled id other _ submitted _ := by
    rw [unsigned] at submitted
    cases submitted

end Slot.Sound

/-- The slot holds nothing that is still on: no pre-check, and no run that has the
lock. -/
def Slot.IsOver (slot : Slot) : Prop :=
  slot.pipeline.isPreCheck = false ∧ slot.lock.held = false

theorem Move.sound {taken : Slot → Prop} {ends : Prop} {next : Slot}
    (harmless : ∀ slot, taken slot → slot.IsOver) (move : Move taken ends slot next)
    (sound : slot.Sound) : next.Sound := by
  cases move with
  | quoted free quote =>
    apply Slot.Sound.replaced (sound.free (Pipeline.run_of_loose free))
      (Pipeline.run_of_loose quote)
    rw [sound.estimating, Pipeline.isPreCheck_of_loose free, Pipeline.isPreCheck_of_loose quote]
  | displaced takes quote =>
    have finished := harmless slot takes
    apply Slot.Sound.replaced finished.2 (Pipeline.run_of_loose quote)
    rw [sound.estimating, finished.1, Pipeline.isPreCheck_of_loose quote]
  | checking free check =>
    have unlocked : slot.lock.held = false := by
      cases run : slot.pipeline.run with
      | none => exact sound.free run
      | some => exact (harmless slot (free (by rw [run]; rfl))).2
    exact Slot.Sound.replaced unlocked (Pipeline.run_of_preCheck check) check.symm
  | heard was check =>
    apply Slot.Sound.replaced (sound.free (Pipeline.run_of_preCheck was))
      (Pipeline.run_of_preCheck check)
    rw [sound.estimating, was, check]
  | checked was quote =>
    exact Slot.Sound.replaced (sound.free (Pipeline.run_of_preCheck was))
      (Pipeline.run_of_loose quote) (Pipeline.isPreCheck_of_loose quote).symm
  | begun locks quiet prepares =>
    obtain ⟨_, rfl, rfl⟩ := ReentryLock.begin_cases locks
    have run := Pipeline.run_of_prepares prepares
    exact {
      estimating := quiet.trans (Pipeline.isPreCheck_of_run run).symm
      locked := by
        rw [run]
        exact ⟨fun _ => rfl, fun _ => rfl⟩
      bounded := by
        intro gen is
        rw [run] at is
        cases is
        exact Nat.le_refl _
      cancelled := by
        intro id gen _ submitted
        rw [Pipeline.submitId_of_prepares prepares] at submitted
        cases submitted }
  | rechecked was prepares =>
    exact sound.rechecked (Pipeline.run_of_prepares was) (Pipeline.run_of_prepares prepares)
      (Pipeline.submitId_of_prepares prepares)
  | ended _ was =>
    have finished := sound.ended was
    exact ⟨finished.estimating, finished.locked, finished.bounded, finished.cancelled⟩

/-! ## Every step -/

/-- The slot is sound, and no submit that is out is a request still to come. -/
structure SlotInvariant (model : Model) : Prop where
  sound : model.slot.Sound
  withdrawn : ∀ id, model.withdrawnSubmit = some id → id ≤ model.attempt
  slotted : ∀ id, model.pipeline.submitId = some id → id ≤ model.attempt

theorem SlotInvariant.kept {taken : Slot → Prop} {ends : Prop} {after : Model}
    (harmless : ∀ slot, taken slot → slot.IsOver) (invariant : SlotInvariant before)
    (kept : Kept taken ends before after) : SlotInvariant after := by
  have untouched := kept.untouched
  refine ⟨?_, ?_, ?_⟩
  · have moved := kept.moved
    generalize after.slot = last at moved ⊢
    induction moved with
    | refl => exact invariant.sound
    | tail _ move ih => exact move.sound harmless ih
  · intro id withdrawn
    have same : after.withdrawnSubmit = before.withdrawnSubmit := untouched.withdrawn
    exact (invariant.withdrawn id (same ▸ withdrawn)).trans kept.counted
  · intro id submitted
    rcases untouched.submit with same | emptied
    · have pipeline : after.pipeline = before.pipeline := same
      exact (invariant.slotted id (pipeline ▸ submitted)).trans kept.counted
    · have none_out : after.pipeline.submitId = none := emptied
      rw [none_out] at submitted
      cases submitted

theorem SlotInvariant.of_slot {after : Model} (invariant : SlotInvariant before)
    (pipeline : after.pipeline = before.pipeline) (lock : after.lock = before.lock)
    (estimating : after.fees.estimatingGas = before.fees.estimatingGas)
    (withdrawn : after.withdrawnSubmit = before.withdrawnSubmit)
    (counted : before.attempt ≤ after.attempt) : SlotInvariant after where
  sound := by
    have sound := invariant.sound
    exact {
      estimating := by
        show after.fees.estimatingGas = after.pipeline.isPreCheck
        rw [estimating, pipeline]
        exact sound.estimating
      locked := by
        show after.lock.held = true ↔ after.pipeline.run = some after.lock.generation
        rw [lock, pipeline]
        exact sound.locked
      bounded := by
        show ∀ gen, after.pipeline.run = some gen → gen ≤ after.lock.generation
        rw [lock, pipeline]
        exact sound.bounded
      cancelled := by
        show ∀ id gen, after.withdrawnSubmit = some id → after.pipeline.submitId = some id →
          after.pipeline.run = some gen → gen < after.lock.generation
        rw [lock, pipeline, withdrawn]
        exact sound.cancelled }
  withdrawn id is := (invariant.withdrawn id (withdrawn ▸ is)).trans counted
  slotted id is := (invariant.slotted id (pipeline ▸ is)).trans counted

theorem SlotInvariant.reopened (reopened : Reopened before result) : SlotInvariant result.1 where
  sound := by
    rw [reopened.slot]
    exact ⟨rfl, ⟨nofun, nofun⟩, nofun, nofun⟩
  withdrawn id is := by
    have empty : result.1.withdrawnSubmit = none := congrArg Slot.withdrawn reopened.slot
    rw [empty] at is
    cases is
  slotted id is := by
    have empty : result.1.pipeline = .idle := congrArg Slot.pipeline reopened.slot
    rw [empty] at is
    cases is

theorem SlotInvariant.submits [Runtime]
    (invariant : SlotInvariant model) (submits : Submits event model result) :
    SlotInvariant result.1 := by
  have sound := invariant.sound
  have run : model.slot.pipeline.run = some submits.gen := by
    show model.pipeline.run = _
    rw [submits.waiting]
    rfl
  rw [submits.handed]
  exact {
    sound := {
      estimating := sound.estimating.trans (Pipeline.isPreCheck_of_run run)
      locked := by
        have same := sound.locked
        rw [run] at same
        exact same
      bounded := by
        intro gen is
        cases is
        exact sound.bounded _ run
      cancelled := by
        intro id gen withdrawn is _
        cases is
        exact absurd (invariant.withdrawn _ withdrawn) (Nat.not_succ_le_self _) }
    withdrawn := fun id is => Nat.le_succ_of_le (invariant.withdrawn id is)
    slotted := by
      intro id is
      cases is
      exact Nat.le_refl _ }

theorem Pipeline.run_afterCancel
    (run : pipeline.afterCancel.run = some gen) : pipeline.run = some gen := by
  cases pipeline <;> first | exact run | cases run

theorem Pipeline.isPreCheck_afterCancel (pipeline : Pipeline) :
    pipeline.afterCancel.isPreCheck = pipeline.isPreCheck := by
  cases pipeline <;> rfl

theorem Pipeline.submitId_afterCancel (pipeline : Pipeline) :
    pipeline.afterCancel.submitId = pipeline.submitId := by
  cases pipeline <;> rfl

theorem SlotInvariant.cancels (invariant : SlotInvariant model) (cancels : Cancels model result) :
    SlotInvariant result.1 := by
  have sound := invariant.sound
  have pipeline : result.1.pipeline = model.pipeline.afterCancel :=
    congrArg Slot.pipeline cancels.slot
  have withdrawn : result.1.withdrawnSubmit = model.pipeline.submitId.or model.withdrawnSubmit :=
    congrArg Slot.withdrawn cancels.slot
  have below : ∀ gen, model.pipeline.afterCancel.run = some gen → gen < model.lock.generation + 1 :=
    fun gen run => Nat.lt_succ_of_le (sound.bounded gen (Pipeline.run_afterCancel run))
  refine ⟨?_, ?_, ?_⟩
  · rw [cancels.slot]
    exact {
      estimating := sound.estimating.trans (Pipeline.isPreCheck_afterCancel _).symm
      locked := ⟨nofun, fun run => absurd (below _ run) (Nat.lt_irrefl _)⟩
      bounded := fun gen run => Nat.le_of_lt (below gen run)
      cancelled := fun _ gen _ _ run => below gen run }
  · intro id is
    rw [withdrawn, Option.or_eq_some_iff] at is
    rw [cancels.counted]
    rcases is with slotted | ⟨_, older⟩
    · exact Nat.le_succ_of_le (invariant.slotted id slotted)
    · exact Nat.le_succ_of_le (invariant.withdrawn id older)
  · intro id is
    rw [pipeline, Pipeline.submitId_afterCancel] at is
    rw [cancels.counted]
    exact Nat.le_succ_of_le (invariant.slotted id is)

theorem answeredBy_eq_some {id other : Nat} {withdrawn : Option Nat}
    (owed : answeredBy id withdrawn = some other) : withdrawn = some other := by
  unfold answeredBy at owed
  split at owed
  · cases owed
  · exact owed

theorem SlotInvariant.owes_less (invariant : SlotInvariant model) {withdrawn : Option Nat}
    (less : ∀ id, withdrawn = some id → model.withdrawnSubmit = some id) :
    SlotInvariant { model with withdrawnSubmit := withdrawn } where
  sound := {
    estimating := invariant.sound.estimating
    locked := invariant.sound.locked
    bounded := invariant.sound.bounded
    cancelled := fun id gen is => invariant.sound.cancelled id gen (less id is) }
  withdrawn id is := invariant.withdrawn id (less id is)
  slotted := invariant.slotted

theorem SlotInvariant.settled {id : Nat}
    (invariant : SlotInvariant model) (run : model.pipeline.run = some gen)
    (settled : Settled id gen model result) : SlotInvariant result.1 := by
  have free : SlotInvariant { model with pipeline := .idle, lock := model.lock.endRun gen } :=
    ⟨invariant.sound.ended run, invariant.withdrawn, nofun⟩
  have owed := free.owes_less fun other (is : answeredBy id model.withdrawnSubmit = some other) =>
    answeredBy_eq_some is
  exact owed.of_slot settled.pipeline settled.lock settled.estimating settled.withdrawn
    settled.counted

theorem SlotInvariant.submittedAnswer [Runtime] (invariant : SlotInvariant model)
    (id : Nat) (userOpHash : String) (nowMs : Float) (maybeSent : Bool)
    (submitBlock : Option UInt64) :
    SlotInvariant (submitted id userOpHash nowMs maybeSent submitBlock model).1 := by
  by_cases held : model.pipeline.submitId = some id
  · cases waiting : model.pipeline with
    | submitting =>
      rw [waiting] at held
      cases held
      exact invariant.settled (by rw [waiting]; rfl) (submitted_held waiting)
    | _ =>
      rw [waiting] at held
      cases held
  · rw [submitted_unheld held]
    exact invariant.owes_less fun other is => answeredBy_eq_some is

theorem SlotInvariant.failed {model before : Model} {result : Model × Cmd} {gen : Nat}
    (invariant : SlotInvariant model) (run : model.pipeline.run = some gen)
    (lock : before.lock = model.lock)
    (estimating : before.fees.estimatingGas = model.fees.estimatingGas)
    (withdrawn : before.withdrawnSubmit = model.withdrawnSubmit)
    (counted : model.attempt ≤ before.attempt) (failed : Failed gen before result) :
    SlotInvariant result.1 := by
  rcases failed.outcome with ⟨idle, ended⟩ | ⟨probeId, fallback, probing, same⟩
  · have free : SlotInvariant { model with pipeline := .idle, lock := model.lock.endRun gen } :=
      ⟨invariant.sound.ended run, invariant.withdrawn, nofun⟩
    exact free.of_slot idle (by rw [ended, lock]) (failed.estimating.trans estimating)
      (failed.withdrawn.trans withdrawn) (counted.trans failed.counted)
  · have asks : SlotInvariant
        { model with pipeline := .failureProbe probeId gen fallback } :=
      ⟨invariant.sound.rechecked run rfl rfl, invariant.withdrawn, nofun⟩
    exact asks.of_slot probing (same.trans lock) (failed.estimating.trans estimating)
      (failed.withdrawn.trans withdrawn) (counted.trans failed.counted)

theorem SlotInvariant.withdrawnAnswer {id : Nat} (invariant : SlotInvariant model)
    (owed : model.withdrawnSubmit = some id) :
    SlotInvariant { model with
      withdrawnSubmit := none
      pipeline := if model.pipeline.submitId = some id then .idle else model.pipeline } := by
  have paid : SlotInvariant { model with withdrawnSubmit := none } := invariant.owes_less nofun
  split
  · next held =>
      have sound := invariant.sound
      have unlocked : model.lock.held = false := by
        rw [← Bool.not_eq_true]
        intro locked
        exact absurd (sound.cancelled id _ owed held (sound.locked.mp locked)) (Nat.lt_irrefl _)
      refine ⟨?_, nofun, nofun⟩
      have same : model.fees.estimatingGas = false := by
        have flag : model.fees.estimatingGas = model.pipeline.isPreCheck := sound.estimating
        rw [flag]
        cases waiting : model.pipeline <;> first | rfl | (rw [waiting] at held; cases held)
      exact {
        estimating := same
        locked := ⟨fun locked => absurd locked (Bool.eq_false_iff.mp unlocked), nofun⟩
        bounded := nofun
        cancelled := nofun }
  · exact paid

theorem SlotInvariant.failedAnswer (invariant : SlotInvariant model) (id : Nat)
    (failure : SendSubmitFailure) :
    SlotInvariant (submitFailedAnswer id failure model).1 := by
  by_cases owed : model.withdrawnSubmit = some id
  · rw [submitFailedAnswer_withdrawn owed]
    exact invariant.withdrawnAnswer owed
  · by_cases held : model.pipeline.submitId = some id
    · cases waiting : model.pipeline with
      | submitting =>
        rw [waiting] at held
        cases held
        obtain ⟨freed, kept, rfl, failed, same, _⟩ :=
          submitFailedAnswer_failed failure waiting owed
        rw [same]
        exact invariant.failed (by rw [waiting]; rfl) kept.lock kept.estimating kept.withdrawn
          kept.counted failed
      | _ =>
        rw [waiting] at held
        cases held
    · rw [submitFailedAnswer_unheld owed held]
      exact invariant

section Runs

variable [Runtime]

/-- The event leaves the slot to a pre-check, and to a run that has the lock. -/
def keepsSlot (event : Event) (model : Model) : Bool :=
  !(takesSlot event model && (model.pipeline.isPreCheck || model.lock.held))

omit [Runtime] in
theorem isOver_of_keepsSlot (keeps : keepsSlot event model = true) :
    ∀ slot, takenBy event model slot → slot.IsOver := by
  rintro slot ⟨takes, rfl⟩
  simp only [keepsSlot, takes, Bool.true_and, Bool.not_eq_true', Bool.or_eq_false_iff] at keeps
  exact keeps

theorem step_invariant (event : Event) (model : Model) (keeps : keepsSlot event model = true)
    (invariant : SlotInvariant model) : SlotInvariant (step event model).1 := by
  have harmless := isOver_of_keepsSlot keeps
  cases step_change event model with
  | quiet _ quiet => exact invariant.kept harmless quiet.toKept
  | reopened _ reopened => exact .reopened reopened
  | submits submits => exact invariant.submits submits
  | signed _ same =>
    rw [same]
    rcases opSigned_cases _ _ _ model with nothing | taken
    · rw [nothing]
      exact invariant
    · obtain ⟨signs⟩ := taken
      exact invariant.of_slot (congrArg Slot.pipeline signs.slot) (congrArg Slot.lock signs.slot)
        (congrArg Slot.estimatingGas signs.slot) (congrArg Slot.withdrawn signs.slot)
        (Nat.le.intro signs.counted.symm)
  | cancelled _ same =>
    rw [same]
    rcases cancelSigning_cases model with nothing | cancels
    · rw [nothing]
      exact invariant
    · exact invariant.cancels cancels
  | submitted _ same =>
    rw [same]
    exact invariant.submittedAnswer _ _ _ _ _
  | failed _ same =>
    rw [same]
    exact invariant.failedAnswer _ _
  | persisted _ same =>
    rw [same]
    rcases recordsPersisted_slot _ model with ⟨slot | slot, counted⟩
    · exact invariant.of_slot (congrArg Slot.pipeline slot) (congrArg Slot.lock slot)
        (congrArg Slot.estimatingGas slot) (congrArg Slot.withdrawn slot) counted
    · exact invariant.of_slot (congrArg Slot.pipeline slot) (congrArg Slot.lock slot)
        (congrArg Slot.estimatingGas slot) (congrArg Slot.withdrawn slot) counted

theorem update_invariant (event : Event) (model : Model) (keeps : keepsSlot event model = true)
    (invariant : SlotInvariant model) : SlotInvariant (update event model).1 := by
  have same := update_slot event model
  exact (step_invariant event model keeps invariant).of_slot (congrArg Slot.pipeline same)
    (congrArg Slot.lock same) (congrArg Slot.estimatingGas same) (congrArg Slot.withdrawn same)
    (Nat.le_of_eq (update_attempt event model).symm)

theorem reached_invariant (reached : machine.ReachableBy keepsSlot model) :
    SlotInvariant model := by
  apply reached.invariant
  · exact ⟨⟨rfl, ⟨nofun, nofun⟩, nofun, nofun⟩, nofun, nofun⟩
  · intro event model keeps invariant
    exact update_invariant event model keeps invariant

/-- The confirm run of the lock's current generation that a slot holds: a
credential load, a treasury recheck, a failure probe, or a submit nobody
cancelled. -/
def Slot.holdsRun (slot : Slot) : Bool :=
  match slot.pipeline with
  | .submitCredential _ gen | .submitTreasury _ gen _ | .failureProbe _ gen _ =>
    gen == slot.lock.generation
  | .submitting id gen _ _ => gen == slot.lock.generation && slot.withdrawn != some id
  | _ => false

omit [Runtime] in
theorem Slot.Sound.held_eq (sound : slot.Sound) :
    slot.lock.held = slot.holdsRun := by
  have locked := sound.locked
  have cancelled := sound.cancelled
  rw [Bool.eq_iff_iff, locked]
  unfold holdsRun
  cases waiting : slot.pipeline with
  | submitting id =>
    simp only [Pipeline.run, Option.some.injEq, Bool.and_eq_true, beq_iff_eq, bne_iff_ne,
      iff_self_and]
    rintro rfl owed
    exact Nat.lt_irrefl _ (cancelled id _ owed (by rw [waiting]; rfl) (by rw [waiting]; rfl))
  | _ => simp [Pipeline.run]

omit [Runtime] in
theorem Move.lock_kept {taken : Slot → Prop} {next : Slot} (move : Move taken False slot next)
    (locked : slot.lock.held = true) : next.lock = slot.lock := by
  cases move with
  | begun locks =>
    rw [(ReentryLock.begin_cases locks).1] at locked
    cases locked
  | ended finished => exact finished.elim
  | _ => rfl

omit [Runtime] in
theorem Kept.lock_kept {taken : Slot → Prop} {after : Model}
    (kept : Kept taken False before after) (locked : before.lock.held = true) :
    after.lock = before.lock := by
  have held : before.slot.lock.held = true := locked
  have moved := kept.moved
  show after.slot.lock = before.slot.lock
  generalize after.slot = last at moved ⊢
  induction moved with
  | refl => rfl
  | tail _ move ih => exact (move.lock_kept (ih ▸ held)).trans ih

omit [Runtime] in
theorem awaits_of_submitId {id : Nat} (held : pipeline.submitId = some id) :
    pipeline.awaits = some id := by
  cases pipeline <;> first | exact held | cases held

/-- A held lock stays as it is, but for a new start, a cancel, and the answer the
run in the slot waits for. -/
theorem lock_kept (opened : reopens event model = false)
    (goes_on : event ≠ .cancelSigning) (late : endsRun event model = false)
    (locked : model.lock.held = true) : (update event model).1.lock = model.lock := by
  have dropped : (update event model).1.lock = (step event model).1.lock :=
    congrArg Slot.lock (update_slot event model)
  rw [dropped]
  have unheld : ∀ {id answer}, event = .shellCompleted id answer →
      model.pipeline.submitId ≠ some id := by
    rintro id answer rfl held
    rw [endsRun, awaits_of_submitId held, beq_self_eq_true] at late
    cases late
  cases step_change event model with
  | quiet _ quiet =>
    rw [late] at quiet
    have kept : Kept (takenBy event model) False model (step event model).1 := by
      simpa using quiet.toKept
    exact kept.lock_kept locked
  | reopened reopening =>
    rw [opened] at reopening
    cases reopening
  | submits submits =>
    rw [submits.handed]
    rfl
  | signed _ same =>
    rw [same]
    rcases opSigned_cases _ _ _ model with nothing | taken
    · rw [nothing]
      rfl
    · obtain ⟨signs⟩ := taken
      exact congrArg Slot.lock signs.slot
  | cancelled named => exact (goes_on named).elim
  | submitted named same =>
    rw [same, submitted_unheld (unheld named)]
    rfl
  | @failed id failure named same =>
    rw [same]
    by_cases owed : model.withdrawnSubmit = some id
    · rw [submitFailedAnswer_withdrawn owed]
      rfl
    · rw [submitFailedAnswer_unheld owed (unheld named)]
      rfl
  | persisted _ same =>
    rw [same]
    rcases (recordsPersisted_slot _ model).1 with slot | slot
    · exact congrArg Slot.lock slot
    · exact congrArg Slot.lock slot

theorem precheckFail_estimating {feeId treasuryId timerId : Nat} {fee : Option FeeEstimate}
    {treasury : Option TreasuryAnswer}
    (checking : model.pipeline = .preCheck feeId treasuryId timerId fee treasury)
    (kind : SendEstimateFailure) :
    (acceptFee feeId (.failed kind) model).1.fees.estimatingGas = false := by
  unfold acceptFee precheckFee
  simp only [checking, if_true]
  rfl

omit [Runtime] in
theorem submitFailedAnswer_releases {id : Nat} {chainId : UInt32} {lines : List SendLine}
    (waiting : model.pipeline = .submitting id gen chainId lines)
    (running : model.slot.holdsRun = true) :
    (submitFailedAnswer id .passkeyCancelled model).1.lock.held = false := by
  have slotted : model.slot.pipeline = .submitting id gen chainId lines := waiting
  simp only [Slot.holdsRun, slotted, Bool.and_eq_true, beq_iff_eq, bne_iff_ne] at running
  obtain ⟨freed, kept, rfl, _, same, _⟩ :=
    submitFailedAnswer_failed .passkeyCancelled waiting running.2
  rw [same]
  show ((withdrawWriteAhead id { model with pipeline := .idle }).1.lock.endRun gen).held = false
  rw [kept.lock, ReentryLock.endRun_held, Bool.and_eq_false_iff, running.1]
  exact Or.inr (bne_self_eq_false _)

/-- In every run whose events leave the slot to a pre-check and to a run that has
the lock, the estimating flag is up exactly for a pre-check in the slot and the
lock is held exactly for the run in it; only a new start, a cancel and the answer
that run waits for move a held lock; and the check's and the submit's own answers
take the flag and the lock down. -/
theorem slot_agrees {model : Model} (reached : machine.ReachableBy keepsSlot model) :
    model.fees.estimatingGas = model.pipeline.isPreCheck ∧
      model.lock.held = model.slot.holdsRun ∧
      (∀ event, reopens event model = false → event ≠ .cancelSigning →
        endsRun event model = false → model.lock.held = true →
        (machine.step event model).1.lock = model.lock) ∧
      (∀ feeId treasuryId timerId fee treasury kind,
        model.pipeline = .preCheck feeId treasuryId timerId fee treasury →
        (machine.step (.shellCompleted feeId (.feeEstimated (.failed kind)))
          model).1.fees.estimatingGas = false) ∧
      ∀ id gen chainId lines, model.pipeline = .submitting id gen chainId lines →
        model.lock.held = true →
        (machine.step (.shellCompleted id (.submitFailed .passkeyCancelled))
          model).1.lock.held = false := by
  have sound := (reached_invariant reached).sound
  refine ⟨sound.estimating, sound.held_eq, ?_, ?_, ?_⟩
  · intro event opened goes_on late locked
    exact lock_kept opened goes_on late locked
  · intro feeId treasuryId timerId fee treasury kind checking
    have same := congrArg Slot.estimatingGas
      (update_slot (.shellCompleted feeId (.feeEstimated (.failed kind))) model)
    exact same.trans (precheckFail_estimating checking kind)
  · intro id gen chainId lines waiting locked
    have same := congrArg Slot.lock
      (update_slot (.shellCompleted id (.submitFailed .passkeyCancelled)) model)
    have freed := submitFailedAnswer_releases waiting (sound.held_eq ▸ locked)
    exact (congrArg ReentryLock.held same).trans freed

end Runs

/-- The operation is out in a run that leaves the slot alone, and the lock is held
for it. -/
theorem slot_agrees_sampleSubmit : (plainSend.after sampleSubmit).lock.held = true ∧
      (plainSend.after sampleSubmit).slot.holdsRun = true ∧
      (plainSend.after sampleSubmit).fees.estimatingGas =
        (plainSend.after sampleSubmit).pipeline.isPreCheck := by
  have reached := @Machine.reachableBy_after _ _ _ plainSend keepsSlot sampleSubmit (by decide +kernel)
  have agrees := @slot_agrees plainRuntime _ reached
  have locked : (plainSend.after sampleSubmit).lock.held = true := by decide +kernel
  exact ⟨locked, agrees.2.1 ▸ locked, agrees.1⟩

/-- A token picked while the pre-check is out, and one picked while the treasury
is asked again, leave the flag and the lock behind. -/
theorem slot_disagrees_selectToken : (∃ model, plainSend.Reachable model ∧
      model.fees.estimatingGas = true ∧ model.pipeline.isPreCheck = false) ∧
      ∃ model, plainSend.Reachable model ∧
        model.lock.held = true ∧ model.slot.holdsRun = false := by
  constructor
  · refine ⟨_, Machine.reachable_after (sampleCheck ++ [.selectToken sampleEther.id]), ?_⟩
    decide +kernel
  · refine ⟨_, Machine.reachable_after
      (sampleConfirm ++ [.slideConfirm none, .selectToken sampleEther.id]), ?_⟩
    decide +kernel

end VelaWallet.Send
