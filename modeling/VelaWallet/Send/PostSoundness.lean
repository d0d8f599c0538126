import VelaWallet.Send.Ledger

/-!
# What is cleared to post

A report of a signature does not say which submit it is from.  While the machine
remembers every submit that is out, a cleared POST is the one signed by the submit
in the slot, and nobody cancelled it.
-/

namespace VelaWallet.Send

variable {event : Event} {ledger : Ledger} {before model : Model} {slot : Slot}
  {userOpHash : String} {ends : Prop} {after : Model}

def Slot.isOut (slot : Slot) : Bool :=
  slot.pipeline.submitId.any fun id => slot.withdrawn != some id

/-- The slot is part of a confirm run that may still send. -/
def Slot.isLive (slot : Slot) : Bool := slot.pipeline.prepares.isSome || slot.isOut

theorem Slot.isOut_eq (slot : Slot) : slot.isOut =
    slot.pipeline.submitId.any fun id => slot.withdrawn != some id := rfl

theorem Slot.isLive_eq (slot : Slot) :
    slot.isLive = (slot.pipeline.prepares.isSome || slot.isOut) := rfl

theorem Pipeline.prepares_of_loose {pipeline : Pipeline} (loose : pipeline.isLoose = true) :
    pipeline.prepares = none := by
  cases pipeline <;> first | rfl | cases loose

theorem Pipeline.prepares_of_preCheck {pipeline : Pipeline} (checking : pipeline.isPreCheck = true) :
    pipeline.prepares = none := by
  cases pipeline <;> first | rfl | cases checking

theorem Slot.isLive_of_over (prepares : slot.pipeline.prepares = none)
    (unsigned : slot.pipeline.submitId = none) : slot.isLive = false := by
  rw [isLive_eq, isOut_eq, prepares, unsigned]
  rfl

theorem Slot.isOut_submits {slot : Slot} (out : slot.isOut = true) :
    ∃ id, slot.pipeline.submitId = some id ∧ slot.withdrawn ≠ some id := by
  rw [isOut_eq] at out
  cases held : slot.pipeline.submitId with
  | none =>
    rw [held] at out
    cases out
  | some id =>
    rw [held, Option.any_some, bne_iff_ne] at out
    exact ⟨id, rfl, out⟩

theorem Slot.withdrawn_of_not_out {id : Nat} (finished : slot.isOut = false)
    (held : slot.pipeline.submitId = some id) : slot.withdrawn = some id := by
  rw [isOut_eq, held, Option.any_some, bne_eq_false_iff_eq] at finished
  exact finished

/-- A run that may still send has the lock. -/
def Slot.Locked (slot : Slot) : Prop := slot.isLive = true → slot.lock.held = true

theorem Slot.locked_of_over (prepares : slot.pipeline.prepares = none)
    (unsigned : slot.pipeline.submitId = none) : slot.Locked := by
  intro live
  rw [isLive_of_over prepares unsigned] at live
  cases live

variable {taken : Slot → Prop}

theorem Move.locked {next : Slot}
    (move : Move taken ends slot next) (locked : slot.Locked) : next.Locked := by
  cases move with
  | quoted _ quote | displaced _ quote | checked _ quote =>
    exact Slot.locked_of_over (Pipeline.prepares_of_loose quote) (Pipeline.submitId_of_loose quote)
  | checking _ check | heard _ check =>
    exact Slot.locked_of_over (Pipeline.prepares_of_preCheck check)
      (Pipeline.submitId_of_preCheck check)
  | begun locks =>
    obtain ⟨_, rfl, rfl⟩ := ReentryLock.begin_cases locks
    exact fun _ => rfl
  | rechecked was =>
    intro _
    apply locked
    rw [Slot.isLive_eq, was]
    rfl
  | ended => exact Slot.locked_of_over rfl rfl

theorem Move.blocked {next : Slot}
    (move : Move taken ends slot next) (untaken : ¬ taken slot) (held : slot.lock.held = true)
    {id : Nat} (submitted : slot.pipeline.submitId = some id) : False := by
  cases move with
  | quoted free =>
    rw [Pipeline.submitId_of_loose free] at submitted
    cases submitted
  | displaced takes => exact untaken takes
  | checking free =>
    apply untaken
    apply free
    cases waiting : slot.pipeline with
    | submitting => rfl
    | _ =>
      rw [waiting] at submitted
      cases submitted
  | heard was _ | checked was _ =>
    rw [Pipeline.submitId_of_preCheck was] at submitted
    cases submitted
  | begun locks =>
    rw [(ReentryLock.begin_cases locks).1] at held
    cases held
  | rechecked was =>
    rw [Pipeline.submitId_of_prepares was] at submitted
    cases submitted
  | ended _ _ unsigned =>
    rw [unsigned] at submitted
    cases submitted

theorem Kept.locked
    (kept : Kept taken ends before after) (locked : before.slot.Locked) : after.slot.Locked := by
  have moved := kept.moved
  generalize after.slot = last at moved ⊢
  induction moved with
  | refl => exact locked
  | tail _ move ih => exact move.locked ih

theorem Kept.blocked
    (kept : Kept taken ends before after) (untaken : ¬ taken before.slot)
    (locked : before.slot.Locked) (out : before.slot.isOut = true) :
    after.slot = before.slot := by
  rcases kept.moved.cases_head with same | ⟨next, move, _⟩
  · exact same.symm
  · obtain ⟨id, submitted, _⟩ := Slot.isOut_submits out
    have held := locked (by rw [Slot.isLive_eq, out, Bool.or_true])
    exact (move.blocked untaken held submitted).elim

structure Pending (slot : Slot) (ledger : Ledger) (recordsId : Nat) (userOpHash : String)
    (submit : Nat) : Prop where
  slotted : slot.pipeline.submitId = some submit
  written : writtenFor slot.writeAhead submit = true
  nothingOwed : slot.withdrawn = none
  reported : (submit, userOpHash) ∈ ledger.reported
  asked : (recordsId, submit, userOpHash) ∈ ledger.written
  uncleared : some submit ∉ ledger.cleared
  uncancelled : submit ∉ ledger.cancelled
  answered : ∀ id ∈ ledger.cancelled, id ∈ ledger.answered

/-- What the slot says of the operations of the run so far. -/
structure Accounted (attempt : Nat) (slot : Slot) (ledger : Ledger) : Prop where
  counted : ∀ id ∈ ledger.submits.map (·.1), id ≤ attempt
  answered : ∀ id ∈ ledger.answered, id ∈ ledger.submits.map (·.1)
  cancelled : ∀ id ∈ ledger.cancelled, id ∈ ledger.submits.map (·.1)
  slotted : ∀ id, slot.pipeline.submitId = some id → ledger.owes id = true
  owed : ∀ id, ledger.owes id = true →
    slot.pipeline.submitId = some id ∨ slot.withdrawn = some id
  locked : slot.Locked
  withdrawn : ∀ id ∈ ledger.cancelled, slot.pipeline.submitId = some id →
    slot.withdrawn = some id
  pending : ∀ recordsId ctx, slot.persist = some (recordsId, ctx) → ctx.writeAhead = true →
    ∃ submit, Pending slot ledger recordsId ctx.userOpHash submit
  cleared : ∀ entry ∈ ledger.cleared, ∃ id ∈ ledger.reported.map (·.1), entry = some id
  once : ledger.cleared.Nodup

theorem Ledger.owes_iff {id : Nat} :
    ledger.owes id = true ↔ id ∈ ledger.submits.map (·.1) ∧ id ∉ ledger.answered := by
  simp only [owes, Bool.and_eq_true, List.any_eq_true, beq_iff_eq, List.mem_map,
    Bool.not_eq_true', List.contains_eq_mem, decide_eq_false_iff_not]

namespace Accounted

variable {attempt : Nat} {slot next : Slot} {ledger : Ledger}

theorem start : Accounted 0 Slot.fresh {} where
  counted := nofun
  answered := nofun
  cancelled := nofun
  slotted := nofun
  owed := nofun
  locked := Slot.locked_of_over rfl rfl
  withdrawn := nofun
  pending := nofun
  cleared := nofun
  once := List.nodup_nil

section

variable (accounted : Accounted attempt slot ledger)
include accounted

theorem counts {later : Nat} (counted : attempt ≤ later) :
    Accounted later slot ledger :=
  { accounted with counted := fun id inside => (accounted.counted id inside).trans counted }

theorem moved (untouched : slot.Untouched next)
    (locked : next.Locked) (finished : slot.isOut = false) :
    Accounted attempt next ledger := { accounted with
  slotted id held := by
    rcases untouched.submit with same | emptied
    · exact accounted.slotted id (same ▸ held)
    · rw [emptied] at held
      cases held
  owed id owes := by
    apply Or.inr
    rw [untouched.withdrawn]
    rcases accounted.owed id owes with held | withdrawn
    · exact Slot.withdrawn_of_not_out finished held
    · exact withdrawn
  locked := locked
  withdrawn id inside held := by
    rw [untouched.withdrawn]
    rcases untouched.submit with same | emptied
    · exact accounted.withdrawn id inside (same ▸ held)
    · rw [emptied] at held
      cases held
  pending recordsId ctx waiting ahead := by
    obtain ⟨submit, pending⟩ := accounted.pending recordsId ctx (untouched.persist ▸ waiting) ahead
    have withdrawn := Slot.withdrawn_of_not_out finished pending.slotted
    rw [pending.nothingOwed] at withdrawn
    cases withdrawn }

end

theorem kept (accounted : Accounted before.attempt before.slot ledger)
    (kept : Kept taken ends before after)
    (untaken : before.slot.isOut = true → ¬ taken before.slot) :
    Accounted after.attempt after.slot ledger := by
  apply counts _ kept.counted
  cases out : before.slot.isOut with
  | false => exact accounted.moved kept.untouched (kept.locked accounted.locked) out
  | true =>
    rw [kept.blocked (untaken out) accounted.locked out]
    exact accounted

section

variable (accounted : Accounted attempt slot ledger)
include accounted

theorem reopened (unheld : slot.pipeline.submitId = none) (paid : slot.withdrawn = none) :
    Accounted attempt Slot.fresh ledger := { accounted with
  slotted _ := nofun
  owed id owes := by
    rcases accounted.owed id owes with held | withdrawn
    · rw [unheld] at held
      cases held
    · rw [paid] at withdrawn
      cases withdrawn
  locked := Slot.locked_of_over rfl rfl
  withdrawn _ _ := nofun
  pending _ _ := nofun }

theorem submits {id gen : Nat} {key : String}
    (waiting : slot.pipeline = .submitTreasury id gen key) {chainId : UInt32}
    {lines : List SendLine} (operation : SubmitRequest) :
    Accounted (attempt + 1) { slot with pipeline := .submitting (attempt + 1) gen chainId lines }
      { ledger with submits := (attempt + 1, operation) :: ledger.submits } := by
  have unknown : attempt + 1 ∉ ledger.submits.map (·.1) := by
    intro inside
    exact Nat.not_succ_le_self attempt (accounted.counted _ inside)
  have unheld : slot.pipeline.submitId = none := by
    rw [waiting]
    rfl
  have grows : ∀ id, id ∈ ledger.submits.map (·.1) →
      id ∈ ((attempt + 1, operation) :: ledger.submits).map (·.1) :=
    fun id inside => List.mem_cons_of_mem _ inside
  refine {
    counted := ?_, answered := ?_, cancelled := ?_, slotted := ?_, owed := ?_, locked := ?_
    withdrawn := ?_, pending := ?_, cleared := accounted.cleared, once := accounted.once }
  · intro id inside
    rcases List.mem_cons.mp inside with rfl | older
    · exact Nat.le_refl _
    · exact Nat.le_succ_of_le (accounted.counted id older)
  · intro id inside
    exact grows id (accounted.answered id inside)
  · intro id inside
    exact grows id (accounted.cancelled id inside)
  · intro id held
    cases held
    rw [Ledger.owes_iff]
    exact ⟨List.mem_cons_self, fun inside => unknown (accounted.answered _ inside)⟩
  · intro id owes
    obtain ⟨inside, unanswered⟩ := Ledger.owes_iff.mp owes
    rcases List.mem_cons.mp inside with rfl | older
    · exact Or.inl rfl
    · rcases accounted.owed id (Ledger.owes_iff.mpr ⟨older, unanswered⟩) with held | withdrawn
      · rw [unheld] at held
        cases held
      · exact Or.inr withdrawn
  · intro _
    apply accounted.locked
    rw [Slot.isLive_eq, waiting]
    rfl
  · intro id inside held
    cases held
    exact (unknown (accounted.cancelled _ inside)).elim
  · intro recordsId ctx waitsFor ahead
    obtain ⟨submit, pending⟩ := accounted.pending recordsId ctx waitsFor ahead
    have held := pending.slotted
    rw [unheld] at held
    cases held

theorem reports (entry : Nat × String) :
    Accounted attempt slot { ledger with reported := entry :: ledger.reported } := { accounted with
  pending recordsId ctx waiting ahead := by
    obtain ⟨submit, pending⟩ := accounted.pending recordsId ctx waiting ahead
    exact ⟨submit, { pending with reported := List.mem_cons_of_mem _ pending.reported }⟩
  cleared entry inside := by
    obtain ⟨id, reported, named⟩ := accounted.cleared entry inside
    exact ⟨id, List.mem_cons_of_mem _ reported, named⟩ }

theorem signs {reporter submit : Nat} {records : List String} {submitBlock : Option UInt64}
    {chainId : UInt32}
    (held : slot.pipeline.submitId = some submit) (paid : slot.withdrawn = none)
    (owes : ledger.owes reporter = true) (unreported : reporter ∉ ledger.reported.map (·.1)) :
    Accounted (attempt + 1)
      { slot with
        writeAhead := some ⟨submit, userOpHash, records, submitBlock⟩
        persist := some (attempt + 1, ⟨userOpHash, records, chainId, true, submitBlock, true⟩) }
      { ledger with
        reported := (reporter, userOpHash) :: ledger.reported
        written := (attempt + 1, reporter, userOpHash) :: ledger.written } := by
  have own : reporter = submit := by
    rcases accounted.owed reporter owes with mine | withdrawn
    · rw [held] at mine
      exact (Option.some.inj mine).symm
    · rw [paid] at withdrawn
      cases withdrawn
  subst own
  have reported := (accounted.reports (reporter, userOpHash)).counts (Nat.le_succ attempt)
  refine { reported with pending := ?_, locked := accounted.locked }
  intro recordsId ctx waiting _
  cases waiting
  refine ⟨reporter, {
    slotted := held
    written := beq_self_eq_true reporter
    nothingOwed := paid
    reported := List.mem_cons_self
    asked := List.mem_cons_self
    uncleared := ?_
    uncancelled := ?_
    answered := ?_ }⟩
  · intro cleared
    obtain ⟨id, inside, named⟩ := accounted.cleared _ cleared
    cases named
    exact unreported inside
  · intro cancelled
    have withdrawn := accounted.withdrawn reporter cancelled held
    rw [paid] at withdrawn
    cases withdrawn
  · intro id cancelled
    by_contra unanswered
    have out := Ledger.owes_iff.mpr ⟨accounted.cancelled id cancelled, unanswered⟩
    rcases accounted.owed id out with mine | withdrawn
    · have owed := accounted.withdrawn id cancelled mine
      rw [paid] at owed
      cases owed
    · rw [paid] at withdrawn
      cases withdrawn

/-- A cancel that is taken remembers the submit in the slot, and no other is
remembered for it to forget. -/
theorem cancels (unwritten : slot.pipeline.submitId.any (writtenFor slot.writeAhead) = false)
    (remembers : ∀ id older, slot.pipeline.submitId = some id → slot.withdrawn = some older →
      older = id) :
    Accounted attempt
      { slot with
        lock := slot.lock.cancel
        pipeline := slot.pipeline.afterCancel
        withdrawn := slot.pipeline.submitId.or slot.withdrawn }
      { ledger with cancelled := ledger.owed ++ ledger.cancelled } := { accounted with
  cancelled id inside := by
    rcases List.mem_append.mp inside with owed | older
    · exact (Ledger.owes_iff.mp (mem_owed.mp owed)).1
    · exact accounted.cancelled id older
  slotted id held := by
    rw [Pipeline.submitId_afterCancel] at held
    exact accounted.slotted id held
  owed id owes := by
    rw [Pipeline.submitId_afterCancel]
    rcases accounted.owed id owes with held | withdrawn
    · exact Or.inl held
    · cases held : slot.pipeline.submitId with
      | none => exact Or.inr withdrawn
      | some other => exact Or.inl (congrArg some (remembers other id held withdrawn).symm)
  locked := by
    intro live
    have prepares : slot.pipeline.afterCancel.prepares = none := by
      cases slot.pipeline <;> rfl
    simp only [Slot.isLive_eq, Slot.isOut_eq, prepares, Pipeline.submitId_afterCancel,
      Option.isSome_none, Bool.false_or] at live
    cases held : slot.pipeline.submitId with
    | none =>
      rw [held] at live
      cases live
    | some =>
      rw [held, Option.any_some, Option.some_or, bne_self_eq_false] at live
      cases live
  withdrawn id _ held := by
    rw [Pipeline.submitId_afterCancel] at held
    rw [held]
    rfl
  pending recordsId ctx waiting ahead := by
    obtain ⟨submit, pending⟩ := accounted.pending recordsId ctx waiting ahead
    rw [pending.slotted, Option.any_some, pending.written] at unwritten
    cases unwritten }

end

theorem owes_answered {id other : Nat} :
    Ledger.owes { ledger with answered := id :: ledger.answered } other = true ↔
      other ≠ id ∧ ledger.owes other = true := by
  simp only [Ledger.owes_iff, List.mem_cons, not_or]
  constructor
  · exact fun ⟨inside, different, unanswered⟩ => ⟨different, inside, unanswered⟩
  · exact fun ⟨different, inside, unanswered⟩ => ⟨inside, different, unanswered⟩

theorem answeredBy_of_ne {id other : Nat} {withdrawn : Option Nat} (different : other ≠ id)
    (owed : withdrawn = some other) : answeredBy id withdrawn = some other := by
  rw [owed, answeredBy, if_neg]
  intro same
  exact different (Option.some.inj same)

section

variable (accounted : Accounted attempt slot ledger)
include accounted

theorem answers_other {id : Nat}
    (owes : ledger.owes id = true) (unheld : slot.pipeline.submitId ≠ some id) :
    Accounted attempt { slot with withdrawn := answeredBy id slot.withdrawn }
      { ledger with answered := id :: ledger.answered } := { accounted with
  answered other inside := by
    rcases List.mem_cons.mp inside with rfl | older
    · exact (Ledger.owes_iff.mp owes).1
    · exact accounted.answered other older
  slotted other held := by
    rw [owes_answered]
    refine ⟨?_, accounted.slotted other held⟩
    rintro rfl
    exact unheld held
  owed other out := by
    obtain ⟨different, owed⟩ := owes_answered.mp out
    rcases accounted.owed other owed with held | withdrawn
    · exact Or.inl held
    · exact Or.inr (answeredBy_of_ne different withdrawn)
  locked := by
    intro live
    by_cases out : slot.isOut = true
    · exact accounted.locked (by rw [Slot.isLive_eq, out, Bool.or_true])
    · rw [Bool.not_eq_true] at out
      apply accounted.locked
      cases prepares : slot.pipeline.prepares with
      | some =>
        rw [Slot.isLive_eq, prepares]
        rfl
      | none =>
        rw [Slot.isLive_eq, prepares] at live
        obtain ⟨other, held, freed⟩ := @Slot.isOut_submits
          { slot with withdrawn := answeredBy id slot.withdrawn } live
        have different : other ≠ id := by
          rintro rfl
          exact unheld held
        exact (freed (answeredBy_of_ne different (Slot.withdrawn_of_not_out out held))).elim
  withdrawn other inside held := by
    have different : other ≠ id := by
      rintro rfl
      exact unheld held
    exact answeredBy_of_ne different (accounted.withdrawn other inside held)
  pending recordsId ctx waiting ahead := by
    obtain ⟨submit, pending⟩ := accounted.pending recordsId ctx waiting ahead
    refine ⟨submit, { pending with nothingOwed := ?_, answered := ?_ }⟩
    · show answeredBy id slot.withdrawn = none
      rw [pending.nothingOwed]
      rfl
    · intro other inside
      exact List.mem_cons_of_mem _ (pending.answered other inside) }

/-- The verdict on the submit in the slot: the slot is free of it, and no write
ahead of its POST is left in flight. -/
theorem answers_slot {id : Nat}
    (held : slot.pipeline.submitId = some id) (prepares : next.pipeline.prepares = none)
    (freed : next.pipeline.submitId = none)
    (withdrawn : next.withdrawn = answeredBy id slot.withdrawn)
    (dropped : (next.persist.any (·.2.writeAhead)) = false) :
    Accounted attempt next { ledger with answered := id :: ledger.answered } := { accounted with
  answered other inside := by
    rcases List.mem_cons.mp inside with rfl | older
    · exact (Ledger.owes_iff.mp (accounted.slotted _ held)).1
    · exact accounted.answered other older
  slotted other is := by
    rw [freed] at is
    cases is
  owed other out := by
    obtain ⟨different, owed⟩ := owes_answered.mp out
    rcases accounted.owed other owed with mine | owes
    · rw [held] at mine
      exact (different (Option.some.inj mine).symm).elim
    · rw [withdrawn]
      exact Or.inr (answeredBy_of_ne different owes)
  locked := Slot.locked_of_over prepares freed
  withdrawn other _ is := by
    rw [freed] at is
    cases is
  pending recordsId ctx waiting ahead := by
    rw [waiting, Option.any_some, ahead] at dropped
    cases dropped }

theorem writes_nothing
    (none_pending : ∀ recordsId userOpHash submit,
      ¬ Pending slot ledger recordsId userOpHash submit) :
    (slot.persist.any (·.2.writeAhead)) = false := by
  cases waiting : slot.persist with
  | none => rfl
  | some persist =>
    rw [Option.any_some, ← Bool.not_eq_true]
    intro ahead
    obtain ⟨submit, pending⟩ := accounted.pending persist.1 persist.2 waiting ahead
    exact none_pending _ _ _ pending

theorem acknowledges :
    Accounted attempt { slot with persist := none } ledger := { accounted with
  pending _ _ := nofun }

theorem clears {recordsId submit : Nat}
    (pending : Pending slot ledger recordsId userOpHash submit) :
    Accounted attempt { slot with persist := none }
      { ledger with cleared := slot.pipeline.submitId :: ledger.cleared } := { accounted with
  pending _ _ := nofun
  cleared entry inside := by
    rcases List.mem_cons.mp inside with rfl | older
    · exact ⟨submit, List.mem_map_of_mem pending.reported, pending.slotted⟩
    · exact accounted.cleared entry older
  once := by
    rw [pending.slotted]
    exact List.nodup_cons.mpr ⟨pending.uncleared, accounted.once⟩ }

end

end Accounted

/-! ## Every step -/

section Runs

variable [Runtime]

/-- A cancel that is not ignored: the prompt is up, or on its way, and no records
are written ahead. -/
def cancelTakes (model : Model) : Bool :=
  (model.tx == .preparing || model.tx == .signing) &&
    !model.pipeline.submitId.any (writtenFor model.writeAhead)

/-- The event makes the machine forget a submit that is out: a second cancel while
one is owed, a slot taken from a submit nobody cancelled, or a new start. -/
def forgets (event : Event) (model : Model) : Bool :=
  match event with
  | .cancelSigning => cancelTakes model && model.pipeline.submitId.isSome &&
      model.withdrawnSubmit.any (model.pipeline.submitId != some ·)
  | _ => (takesSlot event model && model.slot.isOut) || (reopens event model &&
      (model.pipeline.submitId.isSome || model.withdrawnSubmit.isSome))

/-- The event is the verdict on the submit in the slot, under the hash of its
write-ahead, while that write is still in flight. -/
def outruns (event : Event) (model : Model) : Bool :=
  match event with
  | .shellCompleted id (.submitted userOpHash _ _ _) => model.pipeline.submitId == some id &&
      answersWritten id userOpHash model && model.flights.writesAhead
  | _ => false

/-- The machine forgets no submit that is out, and no verdict outruns the write of
its own records. -/
def orderly (event : Event) (model : Model) : Bool := !forgets event model && !outruns event model

def World.Accounted (world : World) : Prop :=
  Send.Accounted world.model.attempt world.model.slot world.ledger

omit [Runtime] in
theorem isOut_of_forgets (plain : event.isVerdict = false)
    (keeps : forgets event model = false) (out : model.slot.isOut = true) :
    ¬ takenBy event model model.slot := by
  rintro ⟨takes, _⟩
  unfold forgets at keeps
  split at keeps
  · cases plain
  · rw [takes, out] at keeps
    cases keeps

omit [Runtime] in
theorem idle_of_reopens (reopening : reopens event model = true)
    (keeps : forgets event model = false) :
    model.pipeline.submitId = none ∧ model.withdrawnSubmit = none := by
  unfold forgets at keeps
  split at keeps
  · cases reopening
  · simpa [reopening] using (Bool.or_eq_false_iff.mp keeps).2

omit [Runtime] in
theorem plain_of_reopens (reopening : reopens event model = true) : event.isVerdict = false := by
  cases event with
  | opSigned | cancelSigning | shellCompleted => cases reopening
  | _ => rfl

omit [Runtime] in
theorem remembers_of_forgets {result : Model × Cmd}
    (named : event = .cancelSigning) (cancels : Cancels model result)
    (keeps : forgets event model = false) (id older : Nat)
    (held : model.pipeline.submitId = some id) (withdrawn : model.withdrawnSubmit = some older) :
    older = id := by
  have takes : cancelTakes model = true := by
    rw [cancelTakes, cancels.unwritten]
    rcases cancels.asked with preparing | signing
    · rw [preparing]
      rfl
    · rw [signing]
      rfl
  rw [named, forgets, takes, withdrawn, held] at keeps
  have same : (some id != some older) = false := keeps
  exact (Option.some.inj (bne_eq_false_iff_eq.mp same)).symm

theorem submitted_accounted {id : Nat}
    {nowMs : Float} {maybeSent : Bool} {submitBlock : Option UInt64}
    (accounted : Accounted model.attempt model.slot ledger) (owes : ledger.owes id = true)
    (behind : outruns (.shellCompleted id (.submitted userOpHash nowMs maybeSent submitBlock))
      model = false) :
    Accounted (submitted id userOpHash nowMs maybeSent submitBlock model).1.attempt
      (submitted id userOpHash nowMs maybeSent submitBlock model).1.slot
      { ledger with answered := id :: ledger.answered } := by
  by_cases held : model.pipeline.submitId = some id
  · obtain ⟨gen, chainId, lines, waiting⟩ := submitting_of_submitId held
    have settled : Settled id gen model (submitted id userOpHash nowMs maybeSent submitBlock model) :=
      submitted_held waiting
    apply Accounted.counts _ settled.counted
    apply accounted.answers_slot held
    · show (submitted id userOpHash nowMs maybeSent submitBlock model).1.pipeline.prepares = none
      rw [settled.pipeline]
      rfl
    · show (submitted id userOpHash nowMs maybeSent submitBlock model).1.pipeline.submitId = none
      rw [settled.pipeline]
      rfl
    · exact settled.withdrawn
    · have flights := @submitted_held_flights submitBlock userOpHash maybeSent nowMs _ id gen
        chainId lines model waiting
      rw [outruns, held, beq_self_eq_true, Bool.true_and] at behind
      exact flights.trans behind
  · rw [submitted_unheld held]
    exact accounted.answers_other owes held

omit [Runtime] in
theorem failed_accounted {id : Nat}
    (failure : SendSubmitFailure) (accounted : Accounted model.attempt model.slot ledger)
    (owes : ledger.owes id = true) :
    Accounted (submitFailedAnswer id failure model).1.attempt
      (submitFailedAnswer id failure model).1.slot
      { ledger with answered := id :: ledger.answered } := by
  by_cases withdrawn : model.withdrawnSubmit = some id
  · have freed : answeredBy id model.withdrawnSubmit = none := if_pos withdrawn
    rw [submitFailedAnswer_withdrawn withdrawn]
    by_cases held : model.pipeline.submitId = some id
    · rw [if_pos held]
      refine accounted.answers_slot held rfl rfl freed.symm (accounted.writes_nothing ?_)
      intro recordsId userOpHash submit pending
      have paid : model.withdrawnSubmit = none := pending.nothingOwed
      rw [withdrawn] at paid
      cases paid
    · rw [if_neg held]
      have other := accounted.answers_other owes held
      have same : answeredBy id model.slot.withdrawn = none := freed
      rw [same] at other
      exact other
  · by_cases held : model.pipeline.submitId = some id
    · obtain ⟨gen, chainId, lines, waiting⟩ := submitting_of_submitId held
      obtain ⟨freed, kept, rfl, failed, same, _⟩ :=
        submitFailedAnswer_failed failure waiting withdrawn
      have flights := submitFailedAnswer_held_flights failure waiting withdrawn
      have finished : (submitFailedAnswer id failure model).1.pipeline.prepares = none ∧
          (submitFailedAnswer id failure model).1.pipeline.submitId = none := by
        rw [same]
        rcases failed.outcome with ⟨idle, _⟩ | ⟨_, _, probing, _⟩
        · rw [idle]
          exact ⟨rfl, rfl⟩
        · rw [probing]
          exact ⟨rfl, rfl⟩
      have owed : (submitFailedAnswer id failure model).1.withdrawnSubmit =
          answeredBy id model.withdrawnSubmit := by
        rw [same, failed.withdrawn, kept.withdrawn, answeredBy, if_neg withdrawn]
      have counted : model.attempt ≤ (submitFailedAnswer id failure model).1.attempt := by
        rw [same]
        exact kept.counted.trans failed.counted
      apply Accounted.counts _ counted
      refine accounted.answers_slot held finished.1 finished.2 owed (flights.trans ?_)
      cases written : writtenFor model.writeAhead id with
      | true => rfl
      | false =>
        apply accounted.writes_nothing
        intro recordsId userOpHash submit pending
        have mine := pending.slotted
        have ahead : writtenFor model.writeAhead submit = true := pending.written
        rw [show model.slot.pipeline.submitId = some id from held, Option.some.injEq] at mine
        rw [← mine, written] at ahead
        cases ahead
    · rw [submitFailedAnswer_unheld withdrawn held]
      have same : answeredBy id model.slot.withdrawn = model.slot.withdrawn := if_neg withdrawn
      have other := accounted.answers_other owes held
      rw [same] at other
      exact other

theorem journal_accounted {input : Input} {world : World} (fits : possible input world = true)
    (keeps : orderly input.event world.model = true) (accounted : world.Accounted) :
    ((journal.step input world).1).Accounted := by
  obtain ⟨heard, behind⟩ : forgets input.event world.model = false ∧
      outruns input.event world.model = false := by
    simpa [orderly] using keeps
  obtain ⟨answers, reports⟩ := Bool.and_eq_true_iff.mp fits
  show Accounted (update input.event world.model).1.attempt (update input.event world.model).1.slot
    (world.ledger.after input world.model.pipeline.submitId (step input.event world.model).2)
  rw [update_slot, update_attempt]
  cases step_change input.event world.model with
  | quiet plain quiet =>
    rw [Ledger.after_quiet plain quiet.effects]
    exact accounted.kept quiet.toKept (isOut_of_forgets plain heard)
  | reopened reopening reopened =>
    obtain ⟨unheld, paid⟩ := idle_of_reopens reopening heard
    rw [Ledger.after_quiet (plain_of_reopens reopening) reopened.effects, reopened.slot]
    exact (accounted.reopened unheld paid).counts reopened.counted
  | submits submits =>
    rw [Ledger.after_submits submits]
    have handed := congrArg Prod.fst submits.handed
    rw [handed]
    exact accounted.submits submits.waiting _
  | signed named same =>
    rw [same]
    rw [named] at reports
    obtain ⟨owes, unreported⟩ := Bool.and_eq_true_iff.mp reports
    rcases opSigned_cases _ _ _ world.model with nothing | taken
    · rw [nothing, done, Ledger.after_report named]
      exact accounted.reports _
    · obtain ⟨signs⟩ := taken
      rw [Ledger.after_signs named signs, signs.slot, signs.counted]
      have held : world.model.slot.pipeline.submitId = some signs.pipelineId := by
        show world.model.pipeline.submitId = _
        rw [signs.waiting]
        rfl
      exact accounted.signs held signs.nothingOwed owes (by simpa using unreported)
  | cancelled named same =>
    rw [same]
    rcases cancelSigning_cases world.model with nothing | cancels
    · rw [nothing, done, Ledger.after_calm (by rw [named]; rfl) rfl, named]
      exact accounted
    · rw [Ledger.after_cancels named cancels, cancels.slot]
      apply Accounted.counts _ (Nat.le.intro cancels.counted.symm)
      exact accounted.cancels cancels.unwritten (remembers_of_forgets named cancels heard)
  | submitted named same =>
    rw [named] at answers behind
    rw [same, Ledger.after_calm (by rw [named]; rfl) (submitted_calm _ _ _ _ _ _), named]
    exact submitted_accounted accounted answers behind
  | failed named same =>
    rw [named] at answers
    rw [same, Ledger.after_calm (by rw [named]; rfl) (submitFailedAnswer_calm _ _ _), named]
    exact failed_accounted _ accounted answers
  | @persisted recordsId named same =>
    rw [same]
    rcases recordsPersisted_cases recordsId world.model with ⟨_, nothing⟩ | taken
    · rw [nothing, done, Ledger.after_calm (by rw [named]; rfl) rfl, named]
      exact accounted
    · obtain ⟨acknowledges⟩ := taken
      rw [Ledger.after_acknowledges named acknowledges, acknowledges.slot]
      apply Accounted.counts _ acknowledges.counted
      split
      · next ahead =>
          obtain ⟨submit, pending⟩ := accounted.pending _ _ acknowledges.waiting ahead
          exact accounted.clears pending
      · exact accounted.acknowledges

theorem emitted_by_acknowledgement {event : Event} {model : Model} {requestId : Nat}
    (emitted : SendEffect.request requestId (.clearToPost userOpHash) ∈ (step event model).2) :
    ∃ recordsId, event = .shellCompleted recordsId .recordsPersisted ∧
      ∃ acknowledges : Acknowledges recordsId model (step event model),
        acknowledges.ctx.writeAhead = true ∧ acknowledges.ctx.userOpHash = userOpHash := by
  have loud : (step event model).2.all SendEffect.sendsNothing ≠ true := by
    intro silent
    cases List.all_eq_true.mp silent _ emitted
  cases step_change event model with
  | quiet _ quiet => exact (loud (sendsNothing_of_quiet quiet.effects)).elim
  | reopened _ reopened => exact (loud (sendsNothing_of_quiet reopened.effects)).elim
  | submits submits =>
    have handed := congrArg Prod.snd submits.handed
    rw [handed] at emitted
    simp at emitted
  | signed _ same => exact (loud (same ▸ opSigned_silent _ _ _ _)).elim
  | cancelled _ same => exact (loud (same ▸ cancelSigning_silent _)).elim
  | submitted _ same =>
    exact (loud (same ▸ sendsNothing_of_calm (submitted_calm _ _ _ _ _ _))).elim
  | failed _ same =>
    exact (loud (same ▸ sendsNothing_of_calm (submitFailedAnswer_calm _ _ _))).elim
  | @persisted recordsId named same =>
    refine ⟨recordsId, named, ?_⟩
    rcases recordsPersisted_cases recordsId model with ⟨_, nothing⟩ | taken
    · rw [same, nothing] at emitted
      cases emitted
    · rw [← same] at taken
      obtain ⟨acknowledges⟩ := taken
      rw [acknowledges.effects] at emitted
      refine ⟨acknowledges, ?_⟩
      cases ahead : acknowledges.ctx.writeAhead with
      | false => simp [ahead] at emitted
      | true =>
        simp only [ahead, if_true, List.mem_cons, List.not_mem_nil, or_false,
          SendEffect.request.injEq, reduceCtorEq, and_false, false_or,
          SendOperation.clearToPost.injEq] at emitted
        exact ⟨rfl, emitted.2.symm⟩

/-- The runs of the machine in which every submit reports and is answered as it
should, and every event is orderly. -/
def lawful (input : Input) (world : World) : Bool :=
  possible input world && orderly input.event world.model

/-- What a step that clears a POST has in hand: the submit in the slot signed that
hash, nobody cancelled it, its own records are acknowledged and tracked, and no
cancelled submit is owed. -/
structure PostsSigned (input : Input) (world : World) (userOpHash : String) (submit : Nat) :
    Prop where
  slotted : world.model.pipeline.submitId = some submit
  kept : (journal.step input world).1.model.pipeline.submitId = some submit
  signed : (submit, userOpHash) ∈ world.ledger.reported
  uncancelled : submit ∉ world.ledger.cancelled
  acknowledged : ∃ recordsId, input.event = .shellCompleted recordsId .recordsPersisted ∧
    (recordsId, submit, userOpHash) ∈ world.ledger.written
  tracked : ∃ trackId track clearId, track.userOpHash = userOpHash ∧
    (journal.step input world).2 =
      [.request trackId (.trackSubmitted track), .request clearId (.clearToPost userOpHash)]
  uncleared : some submit ∉ world.ledger.cleared
  answered : ∀ id ∈ world.ledger.cancelled, id ∈ world.ledger.answered

theorem lawful_accounted {world : World} (reached : journal.ReachableBy lawful world) :
    world.Accounted := by
  apply reached.invariant
  · exact Accounted.start
  · intro input world fits accounted
    obtain ⟨possible, keeps⟩ := Bool.and_eq_true_iff.mp fits
    exact journal_accounted possible keeps accounted

/-- In every lawful run, a POST is cleared once per submit, and a POST that is
cleared is the one the submit in the slot signed, nobody having cancelled it. -/
theorem cleared_posts_signed {world : World} (reached : journal.ReachableBy lawful world) :
    world.ledger.cleared.Nodup ∧
      ∀ input, lawful input world = true → ∀ requestId userOpHash,
        SendEffect.request requestId (.clearToPost userOpHash) ∈ (journal.step input world).2 →
          ∃ submit, PostsSigned input world userOpHash submit := by
  have accounted := lawful_accounted reached
  refine ⟨accounted.once, ?_⟩
  intro input _ requestId userOpHash emitted
  obtain ⟨recordsId, named, acknowledges, ahead, rfl⟩ :=
    @emitted_by_acknowledgement userOpHash _ input.event world.model requestId emitted
  obtain ⟨submit, pending⟩ := accounted.pending _ _ acknowledges.waiting ahead
  have effects := acknowledges.effects
  rw [ahead] at effects
  have slot := (update_slot input.event world.model).trans acknowledges.slot
  exact ⟨submit, {
    slotted := pending.slotted
    kept := (congrArg (fun slot => slot.pipeline.submitId) slot).trans pending.slotted
    signed := pending.reported
    uncancelled := pending.uncancelled
    acknowledged := ⟨recordsId, named, pending.asked⟩
    tracked := ⟨_, _, _, rfl, effects⟩
    uncleared := pending.uncleared
    answered := pending.answered }⟩

theorem not_postsSigned {input : Input} {world : World} {id : Nat}
    (held : world.model.pipeline.submitId = some id)
    (other : (id, userOpHash) ∉ world.ledger.reported) :
    ¬ ∃ submit, PostsSigned input world userOpHash submit := by
  rintro ⟨submit, posts⟩
  cases held.symm.trans posts.slotted
  exact other posts.signed

end Runs

/-- The operation of the sample run is out, and its signature is reported. -/
def sampleSigned : List Input :=
  sampleSubmit.map Input.unsigned ++ [{ event := .opSigned "0xaa" none 0, reporter := 12 }]

/-- The records of the sample operation are acknowledged, and its POST is cleared. -/
theorem cleared_posts_signed_sampleSigned :
    ∃ submit, @PostsSigned plainRuntime { event := .shellCompleted 13 .recordsPersisted }
      ((@journal plainRuntime).after sampleSigned) "0xaa" submit := by
  have reached := @Machine.reachableBy_after _ _ _ (@journal plainRuntime) (@lawful plainRuntime)
    sampleSigned (by decide +kernel)
  exact (@cleared_posts_signed plainRuntime _ reached).2
    { event := .shellCompleted 13 .recordsPersisted } (by decide) 15 "0xaa"
    (by decide +kernel)

/-- Two payments cancelled one after the other, and a third one confirmed: the
second is answered, and the report of the first is still to come. -/
def sampleThird : List Event := sampleSubmit ++
  [.signingStarted, .cancelSigning, .slideConfirm none, .shellCompleted 14 (.treasuryProbed .covered),
    .signingStarted, .cancelSigning, .slideConfirm none, .shellCompleted 17 (.treasuryProbed .covered),
    .shellCompleted 15 (.submitFailed .passkeyCancelled)]

/-- The third payment of the run, its slot taken by the report of the first. -/
def sampleMistaken : List Input :=
  sampleThird.map Input.unsigned ++ [{ event := .opSigned "0xaa" none 0, reporter := 12 }]

/-- The first of two cancelled payments is forgotten: its late report passes for
one of the third, and its POST is cleared while its result is owed. -/
theorem cleared_posts_cancelled :
    ∃ input world, (@journal plainRuntime).ReachableBy possible world ∧
      possible input world = true ∧
      (∃ requestId, SendEffect.request requestId (.clearToPost "0xaa") ∈
        ((@journal plainRuntime).step input world).2) ∧
      world.model.pipeline.submitId = some 18 ∧ world.ledger.reported = [(12, "0xaa")] ∧
      12 ∈ world.ledger.cancelled ∧ 12 ∉ world.ledger.answered ∧
      ¬ ∃ submit, @PostsSigned plainRuntime input world "0xaa" submit := by
  have facts : (@journal plainRuntime).allows possible (@journal plainRuntime).init sampleMistaken = true ∧
      possible { event := .shellCompleted 19 .recordsPersisted }
        ((@journal plainRuntime).after sampleMistaken) = true ∧
      SendEffect.request 21 (.clearToPost "0xaa") ∈ ((@journal plainRuntime).step
        { event := .shellCompleted 19 .recordsPersisted }
        ((@journal plainRuntime).after sampleMistaken)).2 ∧
      ((@journal plainRuntime).after sampleMistaken).model.pipeline.submitId = some 18 ∧
      ((@journal plainRuntime).after sampleMistaken).ledger.reported = [(12, "0xaa")] ∧
      12 ∈ ((@journal plainRuntime).after sampleMistaken).ledger.cancelled ∧
      12 ∉ ((@journal plainRuntime).after sampleMistaken).ledger.answered := by
    decide +kernel
  obtain ⟨fits, possible, emitted, third, reported, cancelled, unanswered⟩ := facts
  refine ⟨_, _, Machine.reachableBy_after sampleMistaken fits, possible, ⟨21, emitted⟩, third,
    reported, cancelled, unanswered, ?_⟩
  apply @not_postsSigned _ plainRuntime _ _ _ third
  rw [reported]
  decide

end VelaWallet.Send
