import VelaWallet.Send.Ledger

/-!
# The records of an accepted payment

An answer is a submit's own only while the slot holds that submit.  Then its
operation is recorded, one record for each line signed, and tracked.
-/

namespace VelaWallet.Send

open FeePolicy
open SignedReview (ReviewedTransfer)

variable {cmd : Cmd} {event : Event} {lines : List SendLine} {model : Model} {chainId : UInt32}
  {userOpHash : String}

def SendLine.transfer (line : SendLine) : Option ReviewedTransfer := do
  let units ← toBaseUnits line.amount line.decimals.toNat
  return ⟨Utf8.trim line.target, line.tokenAddress, toString units⟩

theorem transfers_of_signedReview {plan : SubmitPlan} {review : SignedReview.Review}
    (reviewed : signedReview plan = some review) :
    plan.lines.mapM SendLine.transfer = some review.transfers ∧ review.chainId = plan.chainId := by
  obtain ⟨transfers, listed, made⟩ := Option.bind_eq_some_iff.mp reviewed
  cases made
  exact ⟨listed, rfl⟩

structure RecordOf (chainId : UInt32) (userOpHash : String) (line : SendLine)
    (record : SendTxRecord) : Prop where
  operation : record.userOpHash = userOpHash
  chain : record.chainId = chainId
  target : record.target = line.target
  value : record.value = line.amount
  symbol : record.symbol = line.symbol
  decimals : record.decimals = line.decimals

theorem txRecords_lines (model : Model) (lines : List SendLine) (chainId : UInt32)
    (userOpHash : String) (nowMs : Float) (maybeSent : Bool) (submitBlock : Option UInt64) :
    List.Forall₂ (RecordOf chainId userOpHash) lines
      (txRecords model lines chainId userOpHash nowMs maybeSent submitBlock) := by
  rw [List.forall₂_iff_get]
  constructor
  · simp only [txRecords, List.length_mapIdx]
  · intro index inside _
    simp only [txRecords, List.get_eq_getElem, List.getElem_mapIdx]
    exact ⟨rfl, rfl, rfl, rfl, rfl, rfl⟩

/-- The records an effect asks to be written, under its request number. -/
def SendEffect.records : SendEffect → Option (Nat × List SendTxRecord)
  | request id (.persistTxRecords records) => some (id, records)
  | _ => none

/-- The operation an effect hands the tracker. -/
def SendEffect.tracks : SendEffect → Option TrackRequest
  | request _ (.trackSubmitted track) => some track
  | _ => none

/-- The records written ahead name the operation: they are handed over. -/
structure HandsOver (written : WriteAhead) (before : Model) (result : Model × Cmd) : Prop where
  tracked : ∃ track, track ∈ result.2.filterMap SendEffect.tracks ∧
    track.userOpHash = written.userOpHash ∧ track.recordIds = written.recordIds
  unwritten : result.2.filterMap SendEffect.records = []
  persist : result.1.flights.persist = before.flights.persist

/-- Nothing was written ahead for the hash: the records are written now. -/
structure WritesRecords (lines : List SendLine) (chainId : UInt32) (userOpHash : String)
    (attempt : Nat) (result : Model × Cmd) where
  requestId : Nat
  records : List SendTxRecord
  ctx : PersistCtx
  lined : List.Forall₂ (RecordOf chainId userOpHash) lines records
  numbered : attempt < requestId
  counted : requestId ≤ result.1.attempt
  asked : result.2.filterMap SendEffect.records = [(requestId, records)]
  persist : result.1.flights.persist = some (requestId, ctx)
  named : ctx.userOpHash = userOpHash
  listed : ctx.recordIds = records.map (·.id)
  late : ctx.writeAhead = false

theorem announceSubmitted_asks (maybeSent : Bool) (model : Model) :
    (announceSubmitted maybeSent model).2.filterMap SendEffect.records = [] := by
  unfold announceSubmitted
  dsimp only
  split
  · rfl
  · rfl

theorem handOver_asks (written : WriteAhead) (chainId : UInt32) (maybeSent : Bool)
    (submitBlock : Option UInt64) (model : Model) :
    (handOver written chainId maybeSent submitBlock model).2.filterMap SendEffect.records = [] := by
  unfold handOver
  dsimp only
  split
  · rfl
  · rfl

theorem handOver_tracks (written : WriteAhead) (chainId : UInt32) (maybeSent : Bool)
    (submitBlock : Option UInt64) (model : Model) :
    ∃ track, track ∈ (handOver written chainId maybeSent submitBlock model).2.filterMap
        SendEffect.tracks ∧
      track.userOpHash = written.userOpHash ∧ track.recordIds = written.recordIds := by
  unfold handOver
  dsimp only
  split
  · exact ⟨_, List.mem_singleton_self _, rfl, rfl⟩
  · exact ⟨_, List.mem_singleton_self _, rfl, rfl⟩

theorem withdrawWriteAhead_asks (id : Nat) (model : Model) :
    (withdrawWriteAhead id model).2.filterMap SendEffect.records = [] := by
  unfold withdrawWriteAhead
  split
  · rfl
  · rfl

theorem late_records [Runtime] (id : Nat) (lines : List SendLine) (chainId : UInt32)
    (userOpHash : String) (nowMs : Float) (maybeSent : Bool) (submitBlock : Option UInt64)
    {accepted : Model} {attempt : Nat} (before : attempt ≤ accepted.attempt) :
    Nonempty (WritesRecords lines chainId userOpHash attempt
      (all [withdrawWriteAhead id, announceSubmitted maybeSent,
        persistSubmitted lines chainId userOpHash nowMs maybeSent submitBlock, render] accepted)) := by
  have withdrawn := withdrawWriteAhead_runKept id accepted
  have announced := announceSubmitted_runKept maybeSent (withdrawWriteAhead id accepted).1
  have counted := before.trans (withdrawn.counted.trans announced.counted)
  simp only [all, done, render]
  have asked := announceSubmitted_asks maybeSent (withdrawWriteAhead id accepted).1
  generalize announceSubmitted maybeSent (withdrawWriteAhead id accepted).1 = last at counted asked ⊢
  exact ⟨{
    requestId := last.1.nextId
    records := txRecords last.1 lines chainId userOpHash nowMs maybeSent submitBlock
    ctx := ⟨userOpHash, (txRecords last.1 lines chainId userOpHash nowMs maybeSent submitBlock).map
      (·.id), chainId, maybeSent, submitBlock, false⟩
    lined := txRecords_lines _ _ _ _ _ _ _
    numbered := Nat.lt_succ_of_le counted
    counted := Nat.le_refl _
    asked := by
      simp only [List.filterMap_append, withdrawWriteAhead_asks, asked]
      rfl
    persist := rfl
    named := rfl
    listed := rfl
    late := rfl }⟩

theorem submitted_records [Runtime] {id gen : Nat} {chainId : UInt32} {lines : List SendLine}
    {nowMs : Float} {maybeSent : Bool} {submitBlock : Option UInt64}
    {model : Model} (waiting : model.pipeline = .submitting id gen chainId lines) :
    (∃ written, model.writeAhead = some written ∧ written.pipelineId = id ∧
        sameText written.userOpHash userOpHash = true ∧
        HandsOver written model (submitted id userOpHash nowMs maybeSent submitBlock model)) ∨
      Nonempty (WritesRecords lines chainId userOpHash model.attempt
        (submitted id userOpHash nowMs maybeSent submitBlock model)) := by
  unfold submitted acceptSubmitted
  simp only [waiting, ne_eq, not_true_eq_false, if_false]
  split
  · next written matching =>
      obtain ⟨held, fits⟩ := Option.filter_eq_some_iff.mp matching
      obtain ⟨mine, same⟩ := Bool.and_eq_true_iff.mp fits
      refine Or.inl ⟨written, held, beq_iff_eq.mp mine, same, ?_, ?_, ?_⟩
      · simp only [all, done, List.filterMap_append, List.mem_append]
        obtain ⟨track, inside, named⟩ := handOver_tracks written chainId maybeSent submitBlock _
        exact ⟨track, Or.inr (Or.inl inside), named⟩
      · simp only [all, done, List.filterMap_append, announceSubmitted_asks, handOver_asks]
        rfl
      · simp only [all, done, render, handOver_persist, announceSubmitted_flights]
  · exact Or.inr (late_records _ _ _ _ _ _ _ (Nat.le_refl model.attempt))

theorem SendEffect.records_of_quiet {effect : SendEffect} (quiet : effect.isQuiet = true) :
    effect.records = none := by
  cases effect with
  | render => rfl
  | request _ operation => cases operation <;> first | rfl | cases quiet

theorem failureProbe_asks (gen : Nat) (fallback : FailureFallback) (model : Model) :
    (failureProbe gen fallback model).2.filterMap SendEffect.records = [] := by
  unfold failureProbe
  split
  · rfl
  · rfl

theorem submitFailed_asks (gen : Nat) (failure : SendSubmitFailure) (model : Model) :
    (submitFailed gen failure model).2.filterMap SendEffect.records = [] := by
  cases failure with
  | relayerUnavailable | bundlerUnderfunded => exact failureProbe_asks _ _ _
  | _ => rfl

theorem submitFailedAnswer_asks (id : Nat) (failure : SendSubmitFailure) (model : Model) :
    (submitFailedAnswer id failure model).2.filterMap SendEffect.records = [] := by
  by_cases owed : model.withdrawnSubmit = some id
  · rw [submitFailedAnswer_withdrawn owed]
    rfl
  · by_cases held : model.pipeline.submitId = some id
    · obtain ⟨gen, chainId, lines, waiting⟩ := submitting_of_submitId held
      rw [submitFailedAnswer_held waiting owed]
      simp only [all, done, List.filterMap_append, withdrawWriteAhead_asks, submitFailed_asks]
      rfl
    · rw [submitFailedAnswer_unheld owed held]
      rfl

structure Slot.Loses (before after : Slot) : Prop where
  pipeline : ∀ id gen chainId lines, after.pipeline = .submitting id gen chainId lines →
    before.pipeline = .submitting id gen chainId lines
  written : ∀ written, after.writeAhead = some written → before.writeAhead = some written
  persist : ∀ persist, after.persist = some persist → before.persist = some persist

theorem Slot.Loses.refl (slot : Slot) : slot.Loses slot :=
  ⟨fun _ _ _ _ held => held, fun _ held => held, fun _ held => held⟩

theorem Slot.Untouched.loses {before after : Slot} (untouched : before.Untouched after) :
    before.Loses after where
  pipeline id gen chainId lines waiting := by
    rcases untouched.submit with same | emptied
    · exact same ▸ waiting
    · rw [waiting] at emptied
      cases emptied
  written written held := untouched.writeAhead ▸ held
  persist persist held := untouched.persist ▸ held

theorem Cancels.loses {result : Model × Cmd} (cancels : Cancels model result) :
    model.slot.Loses result.1.slot := by
  rw [cancels.slot]
  refine ⟨?_, fun _ held => held, fun _ held => held⟩
  intro id gen chainId lines waiting
  have after : model.pipeline.afterCancel = .submitting id gen chainId lines := waiting
  cases held : model.pipeline with
  | submitting =>
    rw [held] at after
    cases after
    exact held
  | _ =>
    rw [held] at after
    cases after

theorem withdrawWriteAhead_persist {id : Nat} {model : Model} {persist : Nat × PersistCtx}
    (held : (withdrawWriteAhead id model).1.flights.persist = some persist) :
    model.flights.persist = some persist := by
  unfold withdrawWriteAhead at held
  split at held
  · exact held
  · exact (Option.filter_eq_some_iff.mp held).1

theorem submitFailedAnswer_loses (id : Nat) (failure : SendSubmitFailure) (model : Model) :
    model.slot.Loses (submitFailedAnswer id failure model).1.slot ∧
      model.attempt ≤ (submitFailedAnswer id failure model).1.attempt := by
  by_cases owed : model.withdrawnSubmit = some id
  · rw [submitFailedAnswer_withdrawn owed]
    refine ⟨⟨?_, fun _ held => held, fun _ held => held⟩, Nat.le_refl _⟩
    intro other gen chainId lines waiting
    have after : (if model.pipeline.submitId = some id then Pipeline.idle else model.pipeline) =
        .submitting other gen chainId lines := waiting
    split at after
    · cases after
    · exact after
  · by_cases held : model.pipeline.submitId = some id
    · obtain ⟨gen, chainId, lines, waiting⟩ := submitting_of_submitId held
      obtain ⟨freed, kept, rfl, failed, same, _⟩ := submitFailedAnswer_failed failure waiting owed
      rw [same]
      refine ⟨⟨?_, ?_, ?_⟩, kept.counted.trans failed.counted⟩
      · intro other gen chainId lines after
        have pipeline := after
        rcases failed.outcome with ⟨idle, _⟩ | ⟨_, _, probing, _⟩
        · cases idle.symm.trans pipeline
        · cases probing.symm.trans pipeline
      · intro written after
        have ahead := failed.writeAhead.symm.trans after
        rcases kept.written with same | dropped
        · exact same.symm.trans ahead
        · cases dropped.symm.trans ahead
      · intro persist after
        exact @withdrawWriteAhead_persist id { model with pipeline := .idle } persist
          (failed.persist.symm.trans after)
    · rw [submitFailedAnswer_unheld owed held]
      exact ⟨.refl _, Nat.le_refl _⟩

/-- The operations handed out in a run, the records asked to be written, and of
them those asked for at an answer, with the hash it named. -/
structure Archive where
  submits : List (Nat × SubmitRequest) := []
  records : List (Nat × List SendTxRecord) := []
  late : List (Nat × String × List SendTxRecord) := []

def Event.answer : Event → Option String
  | shellCompleted _ (.submitted userOpHash ..) => some userOpHash
  | _ => none

def Archive.after (archive : Archive) (event : Event) (cmd : Cmd) : Archive where
  submits := cmd.filterMap SendEffect.handed ++ archive.submits
  records := cmd.filterMap SendEffect.records ++ archive.records
  late := (match event.answer with
    | some userOpHash => (cmd.filterMap SendEffect.records).map fun asked =>
      (asked.1, userOpHash, asked.2)
    | none => []) ++ archive.late

def archiving [Runtime] : Machine (Model × Archive) Event SendEffect where
  init := ({}, {})
  step event state :=
    (((machine.step event state.1).1, state.2.after event (machine.step event state.1).2),
      (machine.step event state.1).2)

/-- A step that neither hands out an operation nor asks for records leaves the
archive as it is. -/
theorem Archive.after_silent {archive : Archive} (handed : cmd.filterMap SendEffect.handed = [])
    (asked : cmd.filterMap SendEffect.records = []) : archive.after event cmd = archive := by
  unfold after
  rw [handed, asked]
  cases event.answer with
  | none | some userOpHash => rfl

theorem handed_of_calm (calm : cmd.all SendEffect.isCalm = true) :
    cmd.filterMap SendEffect.handed = [] :=
  filterMap_eq_nil_of_all (sendsNothing_of_calm calm) fun _ => SendEffect.handed_of_silent

theorem Archive.after_quiet {archive : Archive}
    (quiet : cmd.all SendEffect.isQuiet = true) : archive.after event cmd = archive :=
  after_silent
    (filterMap_eq_nil_of_all (sendsNothing_of_quiet quiet) fun _ => SendEffect.handed_of_silent)
    (filterMap_eq_nil_of_all quiet fun _ => SendEffect.records_of_quiet)

/-- What the slot holds was archived: the submit with its lines, the records
written ahead of it, and a write of records asked for at an answer. -/
structure Archived (attempt : Nat) (slot : Slot) (archive : Archive) : Prop where
  numbered : ∀ id ∈ archive.submits.map (·.1), id ≤ attempt
  unique : (archive.submits.map (·.1)).Nodup
  written : ∀ written, slot.writeAhead = some written → written.pipelineId ≤ attempt
  lined : ∀ id gen chainId lines, slot.pipeline = .submitting id gen chainId lines →
    ∃ operation, (id, operation) ∈ archive.submits ∧ operation.chainId = chainId ∧
      lines.mapM SendLine.transfer = some operation.review.transfers
  ahead : ∀ written gen chainId lines, slot.writeAhead = some written →
    slot.pipeline = .submitting written.pipelineId gen chainId lines →
      ∃ requestId records, (requestId, records) ∈ archive.records ∧
        written.recordIds = records.map (·.id) ∧
        List.Forall₂ (RecordOf chainId written.userOpHash) lines records
  late : ∀ requestId userOpHash records, (requestId, userOpHash, records) ∈ archive.late →
    requestId ≤ attempt
  persist : ∀ requestId userOpHash records ctx, (requestId, userOpHash, records) ∈ archive.late →
    slot.persist = some (requestId, ctx) →
      ctx.userOpHash = userOpHash ∧ ctx.recordIds = records.map (·.id) ∧ ctx.writeAhead = false

namespace Archived

variable {attempt later : Nat} {slot next : Slot} {archive : Archive}

theorem start : Archived 0 Slot.fresh {} where
  numbered := nofun
  unique := List.nodup_nil
  written := nofun
  lined := nofun
  ahead := nofun
  late := nofun
  persist := nofun

section

variable (archived : Archived attempt slot archive)
include archived

theorem loses (loses : slot.Loses next)
    (counted : attempt ≤ later) : Archived later next archive where
  numbered id inside := (archived.numbered id inside).trans counted
  unique := archived.unique
  written written held := (archived.written written (loses.written written held)).trans counted
  lined id gen chainId lines waiting :=
    archived.lined id gen chainId lines (loses.pipeline id gen chainId lines waiting)
  ahead written gen chainId lines held waiting :=
    archived.ahead written gen chainId lines (loses.written written held)
      (loses.pipeline _ gen chainId lines waiting)
  late requestId userOpHash records inside :=
    (archived.late requestId userOpHash records inside).trans counted
  persist requestId userOpHash records ctx inside waiting :=
    archived.persist requestId userOpHash records ctx inside (loses.persist _ waiting)

theorem submits {gen : Nat}
    {operation : SubmitRequest} (chain : operation.chainId = chainId)
    (listed : lines.mapM SendLine.transfer = some operation.review.transfers) :
    Archived (attempt + 1) { slot with pipeline := .submitting (attempt + 1) gen chainId lines }
      { archive with submits := (attempt + 1, operation) :: archive.submits } where
  numbered id inside := by
    rcases List.mem_cons.mp inside with rfl | older
    · exact Nat.le_refl _
    · exact Nat.le_succ_of_le (archived.numbered id older)
  unique := by
    refine List.nodup_cons.mpr ⟨?_, archived.unique⟩
    intro inside
    exact Nat.not_succ_le_self attempt (archived.numbered _ inside)
  written written held := Nat.le_succ_of_le (archived.written written held)
  lined id other chain lines waiting := by
    cases waiting
    exact ⟨operation, List.mem_cons_self, by assumption, listed⟩
  ahead written other chain lines held waiting := by
    have bound := archived.written written held
    have same : attempt + 1 = written.pipelineId := congrArg (fun pipeline : Pipeline =>
      pipeline.submitId.getD 0) waiting
    rw [← same] at bound
    exact (Nat.not_succ_le_self attempt bound).elim
  late requestId userOpHash records inside :=
    Nat.le_succ_of_le (archived.late requestId userOpHash records inside)
  persist := archived.persist

theorem signs {id gen : Nat}
    {records : List SendTxRecord}
    {submitBlock : Option UInt64} {ctx : PersistCtx}
    (waiting : slot.pipeline = .submitting id gen chainId lines)
    (recorded : List.Forall₂ (RecordOf chainId userOpHash) lines records) (slotted : id ≤ attempt) :
    Archived (attempt + 1)
      { slot with
        writeAhead := some ⟨id, userOpHash, records.map (·.id), submitBlock⟩
        persist := some (attempt + 1, ctx) }
      { archive with records := (attempt + 1, records) :: archive.records } where
  numbered id inside := Nat.le_succ_of_le (archived.numbered id inside)
  unique := archived.unique
  written written held := by
    cases held
    exact Nat.le_succ_of_le slotted
  lined := archived.lined
  ahead written other chain more held same := by
    cases held
    cases waiting.symm.trans same
    exact ⟨attempt + 1, records, List.mem_cons_self, rfl, recorded⟩
  late requestId userOpHash records inside :=
    Nat.le_succ_of_le (archived.late requestId userOpHash records inside)
  persist requestId userOpHash records ctx inside held := by
    cases held
    exact (Nat.not_succ_le_self attempt (archived.late _ _ _ inside)).elim

theorem writes {result : Model × Cmd}
    (writes : WritesRecords lines chainId userOpHash attempt result)
    (idle : result.1.pipeline = .idle)
    (written : result.1.writeAhead = slot.writeAhead ∨ result.1.writeAhead = none) :
    Archived result.1.attempt result.1.slot
      { archive with
        records := (writes.requestId, writes.records) :: archive.records
        late := (writes.requestId, userOpHash, writes.records) :: archive.late } := by
  have counted : attempt ≤ result.1.attempt :=
    Nat.le_of_lt (Nat.lt_of_lt_of_le writes.numbered writes.counted)
  refine {
    numbered := fun id inside => (archived.numbered id inside).trans counted
    unique := archived.unique
    written := ?_, lined := ?_, ahead := ?_, late := ?_, persist := ?_ }
  · intro ahead held
    rcases written with same | dropped
    · exact (archived.written ahead (same.symm.trans held)).trans counted
    · cases dropped.symm.trans held
  · intro id gen chainId lines waiting
    cases idle.symm.trans waiting
  · intro ahead gen chainId lines _ waiting
    cases idle.symm.trans waiting
  · intro requestId userOpHash records inside
    rcases List.mem_cons.mp inside with newest | older
    · cases newest
      exact writes.counted
    · exact (archived.late _ _ _ older).trans counted
  · intro requestId userOpHash records ctx inside held
    have mine := writes.persist.symm.trans held
    cases mine
    rcases List.mem_cons.mp inside with newest | older
    · cases newest
      exact ⟨writes.named, writes.listed, writes.late⟩
    · exact (Nat.not_le_of_lt writes.numbered (archived.late _ _ _ older)).elim

end

end Archived

section Runs

variable [Runtime]

theorem archiving_archived {archive : Archive}
    (archived : Archived model.attempt model.slot archive) :
    Archived (update event model).1.attempt (update event model).1.slot
      (archive.after event (step event model).2) := by
  rw [update_slot, update_attempt]
  cases step_change event model with
  | quiet _ quiet =>
    rw [Archive.after_quiet quiet.effects]
    exact archived.loses quiet.toKept.untouched.loses quiet.counted
  | reopened _ reopened =>
    rw [Archive.after_quiet reopened.effects, reopened.slot]
    exact archived.loses ⟨by rintro _ _ _ _ ⟨⟩, by rintro _ ⟨⟩, by rintro _ ⟨⟩⟩
      reopened.counted
  | submits submits =>
    obtain ⟨listed, _⟩ := transfers_of_signedReview submits.reviewed
    have archive_after : archive.after event (step event model).2 = { archive with
        submits := (model.nextId,
          submitRequest submits.plan submits.review submits.publicKeyHex) :: archive.submits } := by
      have handed := congrArg Prod.snd submits.handed
      have unanswered : event.answer = none := by
        rw [submits.answered]
        rfl
      simp only [Archive.after, handed, unanswered]
      rfl
    have handed := congrArg Prod.fst submits.handed
    rw [archive_after, handed]
    exact archived.submits rfl listed
  | @signed userOpHash submitBlock nowMs named same =>
    rw [same]
    rcases opSigned_cases userOpHash submitBlock nowMs model with nothing | taken
    · rw [nothing, done, Archive.after_silent rfl rfl]
      exact archived
    · obtain ⟨signs⟩ := taken
      have archive_after : archive.after event
          (opSigned userOpHash submitBlock nowMs model).2 = { archive with
          records := (model.nextId, signs.records) :: archive.records } := by
        rw [signs.effects, named]
        rfl
      rw [archive_after, signs.slot, signs.counted]
      obtain ⟨operation, inside, _⟩ := archived.lined _ _ _ _ signs.waiting
      apply archived.signs signs.waiting
      · rw [signs.recorded]
        exact txRecords_lines _ _ _ _ _ _ _
      · exact archived.numbered _ (List.mem_map_of_mem inside)
  | cancelled _ same =>
    rw [same]
    rcases cancelSigning_cases model with nothing | cancels
    · rw [nothing, done, Archive.after_silent rfl rfl]
      exact archived
    · rw [cancels.effects, Archive.after_silent rfl rfl]
      exact archived.loses cancels.loses (Nat.le.intro cancels.counted.symm)
  | @submitted id userOpHash nowMs maybeSent submitBlock named same =>
    rw [same]
    have calm := submitted_calm id userOpHash nowMs maybeSent submitBlock model
    by_cases held : model.pipeline.submitId = some id
    · obtain ⟨gen, chainId, lines, waiting⟩ := submitting_of_submitId held
      have settled : Settled id gen model
        (submitted id userOpHash nowMs maybeSent submitBlock model) := submitted_held waiting
      rcases @submitted_records userOpHash _ id gen chainId lines nowMs maybeSent submitBlock
        model waiting with ⟨_, _, _, _, finished⟩ | late
      · rw [Archive.after_silent (handed_of_calm calm) finished.unwritten]
        refine archived.loses ⟨?_, ?_, ?_⟩ settled.counted
        · intro other gen chainId lines after
          cases settled.pipeline.symm.trans after
        · intro written after
          rcases settled.written with kept | dropped
          · exact kept.symm.trans after
          · cases dropped.symm.trans after
        · exact fun persist after => finished.persist.symm.trans after
      · obtain ⟨writes⟩ := late
        have archive_after : archive.after event
            (submitted id userOpHash nowMs maybeSent submitBlock model).2 = { archive with
              records := (writes.requestId, writes.records) :: archive.records
              late := (writes.requestId, userOpHash, writes.records) :: archive.late } := by
          unfold Archive.after
          rw [writes.asked, handed_of_calm calm, named]
          rfl
        rw [archive_after]
        exact archived.writes writes settled.pipeline settled.written
    · rw [submitted_unheld held, done, Archive.after_silent rfl rfl]
      exact archived.loses ⟨fun _ _ _ _ waiting => waiting, fun _ held => held,
        fun _ held => held⟩ (Nat.le_refl _)
  | @failed id failure named same =>
    obtain ⟨loses, counted⟩ := submitFailedAnswer_loses id failure model
    rw [same, Archive.after_silent (handed_of_calm (submitFailedAnswer_calm _ _ _))
      (submitFailedAnswer_asks _ _ _)]
    exact archived.loses loses counted
  | @persisted id named same =>
    rw [same]
    rcases recordsPersisted_cases id model with ⟨_, nothing⟩ | taken
    · rw [nothing, done, Archive.after_silent rfl rfl]
      exact archived
    · obtain ⟨acknowledges⟩ := taken
      have silent : (recordsPersisted id model).2.filterMap SendEffect.handed = [] ∧
          (recordsPersisted id model).2.filterMap SendEffect.records = [] := by
        rw [acknowledges.effects]
        cases acknowledges.ctx.writeAhead with
        | false | true => exact ⟨rfl, rfl⟩
      rw [Archive.after_silent silent.1 silent.2, acknowledges.slot]
      exact archived.loses
        ⟨fun _ _ _ _ waiting => waiting, fun _ held => held, by rintro _ ⟨⟩⟩ acknowledges.counted

theorem reached_archived {state : Model × Archive} (reached : archiving.Reachable state) :
    Archived state.1.attempt state.1.slot state.2 := by
  apply reached.invariant
  · exact Archived.start
  · intro event state archived
    exact archiving_archived archived

/-- What becomes of an accepted operation: under the hash its answer names, the
records written ahead are handed to the tracker, or its records are asked to be
written, one for each line it signed; and the lock of its run is let go. -/
def Recorded (id : Nat) (operation : SubmitRequest) (userOpHash : String)
    (before : Model × Archive) (result : (Model × Archive) × Cmd) : Prop :=
  (∃ lines, lines.mapM SendLine.transfer = some operation.review.transfers ∧
    ((∃ track requestId records, track ∈ result.2.filterMap SendEffect.tracks ∧
        sameText track.userOpHash userOpHash = true ∧ (requestId, records) ∈ before.2.records ∧
        track.recordIds = records.map (·.id) ∧
        List.Forall₂ (RecordOf operation.chainId track.userOpHash) lines records) ∨
      ∃ requestId records, (requestId, records) ∈ result.2.filterMap SendEffect.records ∧
        (requestId, userOpHash, records) ∈ result.1.2.late ∧
        List.Forall₂ (RecordOf operation.chainId userOpHash) lines records)) ∧
  ∀ gen chainId lines, before.1.pipeline = .submitting id gen chainId lines →
    ¬ (result.1.1.lock.held = true ∧ result.1.1.lock.generation = gen)

/-- The tracker is handed the records of an operation. -/
def Tracked (userOpHash : String) (records : List SendTxRecord) (cmd : Cmd) : Prop :=
  ∃ track ∈ cmd.filterMap SendEffect.tracks,
    track.userOpHash = userOpHash ∧ track.recordIds = records.map (·.id)

omit [Runtime] in
theorem ReentryLock.endRun_releases (lock : ReentryLock) (gen : Nat) :
    ¬ ((lock.endRun gen).held = true ∧ (lock.endRun gen).generation = gen) := by
  rintro ⟨held, same⟩
  rw [endRun_generation] at same
  rw [endRun_held, same, bne_self_eq_false, Bool.and_false] at held
  cases held

theorem recorded_of_held {archive : Archive} {id : Nat}
    {operation : SubmitRequest} (archived : Archived model.attempt model.slot archive)
    (inside : (id, operation) ∈ archive.submits) (held : model.pipeline.submitId = some id)
    (userOpHash : String) (nowMs : Float) (maybeSent : Bool) (submitBlock : Option UInt64) :
    Recorded id operation userOpHash (model, archive) (archiving.step
      (.shellCompleted id (.submitted userOpHash nowMs maybeSent submitBlock))
      (model, archive)) := by
  obtain ⟨gen, chainId, lines, waiting⟩ := submitting_of_submitId held
  have settled : Settled id gen model (submitted id userOpHash nowMs maybeSent submitBlock model) :=
    submitted_held waiting
  obtain ⟨signed, mine, rfl, listed⟩ := archived.lined id gen chainId lines waiting
  have one : (id, signed) = (id, operation) :=
    List.inj_on_of_nodup_map archived.unique mine inside rfl
  cases one
  constructor
  · refine ⟨lines, listed, ?_⟩
    rcases @submitted_records userOpHash _ id gen operation.chainId lines nowMs maybeSent
      submitBlock model waiting with ⟨written, ahead, rfl, same, finished⟩ | late
    · obtain ⟨requestId, records, asked, named, recorded⟩ :=
        archived.ahead written gen operation.chainId lines ahead waiting
      obtain ⟨track, tracks, hash, ids⟩ := finished.tracked
      refine Or.inl ⟨track, requestId, records, tracks, ?_, asked, ids.trans named, ?_⟩
      · rw [hash]
        exact same
      · rw [hash]
        exact recorded
    · obtain ⟨writes⟩ := late
      refine Or.inr ⟨writes.requestId, writes.records, ?_, ?_, writes.lined⟩
      · show _ ∈ (submitted id userOpHash nowMs maybeSent submitBlock model).2.filterMap _
        rw [writes.asked]
        exact List.mem_singleton_self _
      · show _ ∈ ((submitted id userOpHash nowMs maybeSent submitBlock model).2.filterMap
          SendEffect.records).map _ ++ _
        rw [writes.asked]
        exact List.mem_cons_self
  · intro other chain more same
    cases waiting.symm.trans same
    have lock := (congrArg Slot.lock (update_slot
      (.shellCompleted id (.submitted userOpHash nowMs maybeSent submitBlock)) model)).trans
        settled.lock
    show ¬ ((update (.shellCompleted id (.submitted userOpHash nowMs maybeSent submitBlock))
      model).1.lock.held = true ∧ (update _ model).1.lock.generation = gen)
    have same : (update (.shellCompleted id (.submitted userOpHash nowMs maybeSent submitBlock))
      model).1.lock = model.lock.endRun gen := lock
    rw [same]
    exact ReentryLock.endRun_releases model.lock gen

theorem not_recorded_of_unheld {state : Model × Archive} {id : Nat}
    (unheld : state.1.pipeline.submitId ≠ some id) (operation : SubmitRequest)
    (userOpHash : String) (nowMs : Float) (maybeSent : Bool) (submitBlock : Option UInt64) :
    ¬ Recorded id operation userOpHash state (archiving.step
      (.shellCompleted id (.submitted userOpHash nowMs maybeSent submitBlock)) state) := by
  rintro ⟨⟨lines, _, recorded⟩, _⟩
  have nothing : (archiving.step
      (.shellCompleted id (.submitted userOpHash nowMs maybeSent submitBlock)) state).2 = [] :=
    congrArg Prod.snd (submitted_unheld unheld)
  rw [nothing] at recorded
  rcases recorded with ⟨_, _, _, tracks, _⟩ | ⟨_, _, asked, _⟩
  · cases tracks
  · cases asked

/-- In every run, the answer to a submit records its operation and lets its lock go
exactly when the slot still holds that submit; and records asked for at an answer
are tracked, once acknowledged, exactly when their write is the one in flight. -/
theorem accepted_is_recorded {state : Model × Archive} (reached : archiving.Reachable state) :
    (∀ id operation, (id, operation) ∈ state.2.submits →
      ∀ userOpHash nowMs maybeSent submitBlock,
        Recorded id operation userOpHash state (archiving.step
          (.shellCompleted id (.submitted userOpHash nowMs maybeSent submitBlock)) state) ↔
            state.1.pipeline.submitId = some id) ∧
      ∀ requestId userOpHash records, (requestId, userOpHash, records) ∈ state.2.late →
        (Tracked userOpHash records
          (archiving.step (.shellCompleted requestId .recordsPersisted) state).2 ↔
            state.1.flights.persist.any (·.1 == requestId) = true) := by
  have archived := reached_archived reached
  constructor
  · intro id operation inside userOpHash nowMs maybeSent submitBlock
    constructor
    · intro recorded
      by_contra unheld
      exact not_recorded_of_unheld unheld operation userOpHash nowMs maybeSent submitBlock recorded
    · intro held
      exact recorded_of_held archived inside held userOpHash nowMs maybeSent submitBlock
  · intro requestId userOpHash records inside
    show Tracked userOpHash records (recordsPersisted requestId state.1).2 ↔ _
    rcases recordsPersisted_cases requestId state.1 with ⟨other, nothing⟩ | taken
    · rw [nothing, other]
      exact ⟨fun ⟨_, tracks, _⟩ => (List.not_mem_nil tracks).elim, nofun⟩
    · obtain ⟨acknowledges⟩ := taken
      obtain ⟨hash, ids, late⟩ :=
        archived.persist requestId userOpHash records _ inside acknowledges.waiting
      rw [acknowledges.waiting, Option.any_some, beq_self_eq_true, acknowledges.effects]
      refine ⟨fun _ => rfl, fun _ => ⟨_, List.mem_cons_self, hash, ?_⟩⟩
      rw [PersistCtx.track, late]
      exact ids

end Runs

/-- The sample operation is in the slot when its answer comes, and is recorded. -/
theorem accepted_is_recorded_sampleSubmit :
    ∃ operation, (12, operation) ∈ ((@archiving plainRuntime).after sampleSubmit).2.submits ∧
      Recorded 12 operation "0xaa" ((@archiving plainRuntime).after sampleSubmit)
        ((@archiving plainRuntime).step (.shellCompleted 12 (.submitted "0xaa" 0 false none))
          ((@archiving plainRuntime).after sampleSubmit)) := by
  have facts : ((@archiving plainRuntime).after sampleSubmit).2.submits.map (·.1) = [12] ∧
      ((@archiving plainRuntime).after sampleSubmit).1.pipeline.submitId = some 12 := by
    decide +kernel
  have inside : 12 ∈ ((@archiving plainRuntime).after sampleSubmit).2.submits.map (·.1) := by
    rw [facts.1]
    exact List.mem_singleton_self 12
  obtain ⟨⟨id, operation⟩, submitted, rfl⟩ := List.mem_map.mp inside
  exact ⟨operation, submitted, ((@accepted_is_recorded plainRuntime _
    (Machine.reachable_after sampleSubmit)).1 _ operation submitted "0xaa" 0 false none).mpr facts.2⟩

/-- A payment is cancelled while it is signed, and confirmed again. -/
def cancelledAndRetried : List Event :=
  sampleSubmit ++ [.signingStarted, .cancelSigning, .slideConfirm none]

/-- A token is picked while the payment is out. -/
def tokenPickedMeanwhile : List Event := sampleSubmit ++ [.selectToken sampleEther.id]

/-- The answer to a payment whose slot a retry or another token has taken is lost:
nothing is recorded and nothing is tracked. -/
theorem accepted_is_lost : (∃ operation, (12, operation) ∈
        ((@archiving plainRuntime).after cancelledAndRetried).2.submits ∧
      ¬ Recorded 12 operation "0xaa"
        ((@archiving plainRuntime).after cancelledAndRetried)
        ((@archiving plainRuntime).step (.shellCompleted 12 (.submitted "0xaa" 0 false none))
          ((@archiving plainRuntime).after cancelledAndRetried))) ∧
    ∃ operation, (12, operation) ∈
        ((@archiving plainRuntime).after tokenPickedMeanwhile).2.submits ∧
      ¬ Recorded 12 operation "0xaa"
        ((@archiving plainRuntime).after tokenPickedMeanwhile)
        ((@archiving plainRuntime).step (.shellCompleted 12 (.submitted "0xaa" 0 false none))
          ((@archiving plainRuntime).after tokenPickedMeanwhile)) := by
  have facts : ∀ events ∈ [cancelledAndRetried, tokenPickedMeanwhile],
      12 ∈ ((@archiving plainRuntime).after events).2.submits.map (·.1) ∧
        ((@archiving plainRuntime).after events).1.pipeline.submitId ≠ some 12 := by
    decide +kernel
  have lost : ∀ events ∈ [cancelledAndRetried, tokenPickedMeanwhile],
      ∃ operation, (12, operation) ∈ ((@archiving plainRuntime).after events).2.submits ∧
        ¬ Recorded 12 operation "0xaa" ((@archiving plainRuntime).after events)
          ((@archiving plainRuntime).step (.shellCompleted 12 (.submitted "0xaa" 0 false none))
            ((@archiving plainRuntime).after events)) := by
    intro events member
    obtain ⟨inside, unheld⟩ := facts events member
    obtain ⟨⟨id, operation⟩, submitted, rfl⟩ := List.mem_map.mp inside
    exact ⟨operation, submitted, @not_recorded_of_unheld plainRuntime _ _ unheld operation _ _ _ _⟩
  exact ⟨lost _ List.mem_cons_self, lost _ (List.mem_cons_of_mem _ List.mem_cons_self)⟩

end VelaWallet.Send
