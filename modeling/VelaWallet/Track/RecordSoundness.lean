import VelaWallet.Track.EntryMoves

/-!
# No record is left behind

Every record of an operation that landed is named in exactly one patch that says how, whichever
way the record came to the operation.
-/

namespace VelaWallet.TxTracker

section Tracker

variable {Time : Type} [TrackRuntime]

inductive Answered (before after : Entry Time) (patches : List (List String × TrackRecordPatch)) :
    Prop where
  | calm (recordIds : after.recordIds = before.recordIds)
      (landing : after.landing = before.landing)
      (none_landing : ∀ update ∈ patches, update.2.isLanding = false) :
      Answered before after patches
  | landed {patch : TrackRecordPatch} (unlanded : before.landing = none)
      (recordIds : after.recordIds = before.recordIds)
      (carried : after.status.carriedBy patch = true)
      (only : patches = [(before.recordIds, patch)]) : Answered before after patches

namespace Answered

variable {before middle after : Entry Time} {patches : List (List String × TrackRecordPatch)}

omit [TrackRuntime] in
omit [TrackRuntime] in
theorem of_same (answered : Answered middle after patches)
    (recordIds : middle.recordIds = before.recordIds) (landing : middle.landing = before.landing) :
    Answered before after patches := by
  cases answered with
  | calm same kept none_landing =>
    exact .calm (same.trans recordIds) (kept.trans landing) none_landing
  | landed unlanded same carried only =>
    refine .landed (landing ▸ unlanded) (same.trans recordIds) carried ?_
    rw [only, recordIds]

omit [TrackRuntime] in
theorem then_kept (answered : Answered before middle patches) (kept : Kept middle after) :
    Answered before after patches := by
  cases answered with
  | calm recordIds landing none_landing =>
    exact .calm (kept.recordIds.trans recordIds) (kept.landing.trans landing) none_landing
  | landed unlanded recordIds carried only =>
    refine .landed unlanded (kept.recordIds.trans recordIds) ?_ only
    have landed := (EntryStatus.isLanded_of_carriedBy carried).1
    rw [kept.resolved (EntryStatus.isTerminal_of_isLanded landed)]
    exact carried

omit [TrackRuntime] in
theorem dead {ids : List String} {failure : TrackFailure} (other : failure ≠ .reverted)
    (unlanded : before.landing = none) (still : after.status.isLanded = false)
    (recordIds : after.recordIds = before.recordIds) :
    Answered before after (Next.reply (failRecords ids none failure)).updates := by
  refine .calm recordIds ?_ ?_
  · rw [unlanded, Entry.landing, still]
    rfl
  · intro update member
    have only : (Next.reply (failRecords ids none failure)).updates = [(ids, .failed failure)] := rfl
    rw [only, List.mem_singleton] at member
    rw [member]
    simp [TrackRecordPatch.isLanding, TrackRecordPatch.failed, other]

end Answered

section Handlers

variable [Clock Time] (entry : Entry Time) (key : String) (nowMs : Time)

omit [TrackRuntime] [Clock Time] in
theorem landing_of_status {before after : Entry Time} (same : after.status = before.status) :
    after.landing = before.landing := by
  unfold Entry.landing
  rw [same]

omit [TrackRuntime] [Clock Time] in
theorem onReceipt_answered (txHash : String) (moved : Option (List TrackMove)) :
    Answered entry (entry.onReceipt key txHash nowMs moved).1
      (entry.onReceipt key txHash nowMs moved).2.updates := by
  simp only [Entry.onReceipt]
  split
  · exact .calm rfl (landing_of_status rfl) nofun
  · next live =>
      have unlanded : entry.landing = none := Entry.landing_eq_none (Bool.eq_false_iff.mpr live)
      refine .landed unlanded rfl ?_ rfl
      simp [EntryStatus.carriedBy, TrackRecordPatch.confirmed]

omit [TrackRuntime] [Clock Time] in
theorem updates_failRecords (ids : List String) (landed : Option Nat) (failure : TrackFailure) :
    updates (failRecords ids landed failure) = [(ids, .failed failure)] := by
  cases landed <;> rfl

omit [TrackRuntime] [Clock Time] in
theorem onReceiptFailed_answered (txHash : String) :
    Answered entry (entry.onReceiptFailed txHash nowMs).1
      (entry.onReceiptFailed txHash nowMs).2.updates := by
  simp only [Entry.onReceiptFailed]
  split
  · exact .calm rfl (landing_of_status rfl) nofun
  · next live =>
      have unlanded : entry.landing = none := Entry.landing_eq_none (Bool.eq_false_iff.mpr live)
      refine .landed unlanded rfl ?_ (updates_failRecords _ _ _)
      simp [EntryStatus.carriedBy, TrackRecordPatch.failed]

omit [TrackRuntime] [Clock Time] in
theorem onLanded_answered (unlanded : entry.landing = none) (txHash : String) (success : Bool)
    (moved : Option (List TrackMove)) :
    Answered entry (entry.onLanded key txHash success moved).1
      (entry.onLanded key txHash success moved).2.updates := by
  cases success with
  | true =>
    refine .landed unlanded rfl ?_ rfl
    simp [Entry.onLanded, EntryStatus.carriedBy, TrackRecordPatch.confirmed]
  | false =>
    refine .landed unlanded rfl ?_ (updates_failRecords _ _ _)
    simp [Entry.onLanded, EntryStatus.carriedBy, TrackRecordPatch.failed]

omit [TrackRuntime] in
theorem onNotFound_answered (live : entry.status.isTerminal = false) :
    Answered entry (entry.onNotFound nowMs).1 (entry.onNotFound nowMs).2.updates := by
  have counted : ((entry.countMissed nowMs).countForgotten nowMs).recordIds = entry.recordIds ∧
      ((entry.countMissed nowMs).countForgotten nowMs).status = entry.status := by
    unfold Entry.countForgotten Entry.countMissed
    split <;> split <;> exact ⟨rfl, rfl⟩
  obtain ⟨recordIds, status⟩ := counted
  unfold Entry.onNotFound
  dsimp only
  split
  · exact Answered.dead (by decide) (Entry.landing_eq_none live) rfl recordIds
  · exact .calm recordIds (landing_of_status status) nofun

omit [TrackRuntime] [Clock Time] in
theorem noteStatus_records (answer : StatusAnswer) :
    (entry.noteStatus answer nowMs).recordIds = entry.recordIds ∧
      (entry.noteStatus answer nowMs).status = entry.status := by
  have heard : ∀ (entry : Entry Time) status stage,
      (entry.heard status stage nowMs).recordIds = entry.recordIds ∧
        (entry.heard status stage nowMs).status = entry.status := by
    intro entry status stage
    unfold Entry.heard
    split <;> exact ⟨rfl, rfl⟩
  simp only [Entry.noteStatus]
  constructor
  · rw [(heard _ _ _).1]
    split <;> split <;> split <;> rfl
  · rw [(heard _ _ _).2]
    split <;> split <;> split <;> rfl

omit [TrackRuntime] in
theorem onStatus_answered (answer : StatusAnswer) :
    Answered entry (entry.onStatus answer nowMs).1 (entry.onStatus answer nowMs).2.updates := by
  unfold Entry.onStatus
  dsimp only
  split
  · exact .calm rfl (landing_of_status rfl) nofun
  · next going =>
      have live : entry.status.isTerminal = false := Bool.eq_false_iff.mpr going
      obtain ⟨recordIds, status⟩ :=
        noteStatus_records { entry with statusInFlight := false } nowMs answer
      generalize Entry.noteStatus { entry with statusInFlight := false } answer nowMs = noted
        at recordIds status
      have unlanded := Entry.landing_eq_none live
      split
      · split
        · exact .calm recordIds (landing_of_status status) nofun
        · exact Answered.dead (by decide) unlanded rfl recordIds
      · split
        · have still : noted.status.isTerminal = false := by
            rw [status]
            exact live
          exact (onNotFound_answered noted nowMs still).of_same recordIds
            (landing_of_status status)
        · exact .calm recordIds (landing_of_status status) nofun

omit [Clock Time] in
theorem onTxReceipt_answered (receiptJson : Option String) :
    Answered entry (entry.onTxReceipt key nowMs receiptJson).1
      (entry.onTxReceipt key nowMs receiptJson).2.updates := by
  unfold Entry.onTxReceipt
  dsimp only
  split
  · exact .calm rfl (landing_of_status rfl) nofun
  · next going =>
      have unlanded : entry.landing = none := Entry.landing_eq_none (Bool.eq_false_iff.mpr going)
      split
      · exact .calm rfl (landing_of_status rfl) nofun
      · split
        · split
          · exact Answered.dead (by decide) unlanded rfl rfl
          · exact .calm rfl (landing_of_status rfl) nofun
        · split
          · refine Answered.of_same (onLanded_answered _ key ?_ _ true _) ?_ ?_
            · exact unlanded
            · rfl
            · exact landing_of_status rfl
          · refine Answered.of_same (onLanded_answered _ key ?_ _ false _) ?_ ?_
            · exact unlanded
            · rfl
            · exact landing_of_status rfl

omit [TrackRuntime] [Clock Time] in
theorem kept_continueScan :
    Kept entry (continueScan key entry nowMs).1 ∧
      updates (continueScan key entry nowMs).2 = [] := by
  unfold continueScan
  split
  · exact ⟨.refl _, rfl⟩
  · refine ⟨?_, rfl⟩
    constructor <;> first | rfl | exact id | exact fun _ => rfl

theorem onOpEvent_answered (answer : OpEventAnswer) :
    Answered entry (entry.onOpEvent key nowMs answer).1
      (entry.onOpEvent key nowMs answer).2.updates := by
  have scans : ∀ next : Entry Time, next.recordIds = entry.recordIds → next.status = entry.status →
      Answered entry (continueScan key next nowMs).1 (updates (continueScan key next nowMs).2) := by
    intro next recordIds status
    obtain ⟨kept, nothing⟩ := kept_continueScan next key nowMs
    rw [nothing]
    exact .calm (kept.recordIds.trans recordIds) (kept.landing.trans (landing_of_status status)) nofun
  have noted : ∀ (entry : Entry Time) head, (entry.noteHead head).recordIds = entry.recordIds ∧
      (entry.noteHead head).status = entry.status := by
    intro entry head
    cases head <;> exact ⟨rfl, rfl⟩
  unfold Entry.onOpEvent
  split
  · exact .calm rfl rfl nofun
  · dsimp only
    obtain ⟨recordIds, status⟩ := noted { entry with find.inFlight := none } answer.headBlock
    generalize Entry.noteHead { entry with find.inFlight := none } answer.headBlock = head
      at recordIds status
    split
    · exact .calm recordIds (landing_of_status status) nofun
    · next going =>
        have live : entry.landing = none := by
          apply Entry.landing_eq_none
          rw [← status]
          exact Bool.eq_false_iff.mpr going
        split
        · unfold Entry.onWindow
          split
          · split
            · next txHash success _ =>
                have unlanded : head.landing = none := by
                  rw [landing_of_status status]
                  exact live
                exact (onLanded_answered head key unlanded txHash success none).of_same recordIds
                  (landing_of_status status)
            · exact scans _ recordIds status
            · exact .calm recordIds (landing_of_status status) nofun
          · split
            · exact scans _ recordIds status
            · exact .calm recordIds (landing_of_status status) nofun
        · apply scans
          · unfold Entry.anchorScan
            split <;> exact recordIds
          · unfold Entry.anchorScan
            split <;> exact status

/-- An answer patches an entry's records where, and only where, it shows the operation landed. -/
theorem handle_answered (result : TrackShellResult Time) :
    Answered entry (result.handle key entry).1 (result.handle key entry).2.updates := by
  cases result with
  | receipt _ txHash nowMs => exact onReceipt_answered entry key nowMs txHash none
  | receiptWithLogs _ txHash nowMs =>
    simp only [TrackShellResult.handle]
    split
    · exact onReceiptFailed_answered entry nowMs txHash
    · exact onReceipt_answered entry key nowMs txHash _
  | receiptFailed _ txHash nowMs => exact onReceiptFailed_answered entry nowMs txHash
  | status _ answer nowMs => exact onStatus_answered entry nowMs answer
  | opEvent _ nowMs answer => exact onOpEvent_answered entry key nowMs answer
  | txReceipt _ nowMs receiptJson => exact onTxReceipt_answered entry key nowMs receiptJson
  | receiptPending _ nowMs | receiptUnreachable _ nowMs | statusUnavailable _ nowMs | clock nowMs
  | recordsLoaded _ nowMs | recordsPatched | notified =>
    exact .calm rfl (landing_of_status rfl) nofun

end Handlers

section Records

variable {entry : Entry Time} {id : String}

omit [TrackRuntime] in
theorem mem_mergeRecordId {other : String} :
    id ∈ (entry.mergeRecordId other).recordIds ↔ id ∈ entry.recordIds ∨ id = other := by
  unfold Entry.mergeRecordId
  split
  · next held =>
      constructor
      case mp => exact .inl
      case mpr =>
        rintro (inside | rfl)
        · exact inside
        · exact held
  · simp

omit [TrackRuntime] in
theorem mem_mergeRecordIds (ids : List String) :
    id ∈ (ids.foldl Entry.mergeRecordId entry).recordIds ↔ id ∈ entry.recordIds ∨ id ∈ ids := by
  induction ids generalizing entry with
  | nil => simp
  | cons _ _ ih =>
    rw [List.foldl_cons, ih, mem_mergeRecordId, List.mem_cons, or_assoc]

omit [TrackRuntime] in
theorem status_mergeRecordId (entry : Entry Time) (id : String) :
    (entry.mergeRecordId id).status = entry.status := by
  unfold Entry.mergeRecordId
  split <;> rfl

omit [TrackRuntime] in
theorem status_mergeRecordIds (ids : List String) (entry : Entry Time) :
    (ids.foldl Entry.mergeRecordId entry).status = entry.status := by
  induction ids generalizing entry with
  | nil => rfl
  | cons _ _ ih => rw [List.foldl_cons, ih, status_mergeRecordId]

omit [TrackRuntime] in
theorem mergeSubmitFacts_records (entry : Entry Time) (maybeSent : Bool)
    (submitBlock : Option Nat) :
    (entry.mergeSubmitFacts maybeSent submitBlock).recordIds = entry.recordIds ∧
      (entry.mergeSubmitFacts maybeSent submitBlock).status = entry.status := by
  unfold Entry.mergeSubmitFacts
  dsimp only
  split
  · split <;> exact ⟨rfl, rfl⟩
  · exact ⟨rfl, rfl⟩

theorem mergeSender_records (entry : Entry Time) (sender : Option String) :
    (entry.mergeSender sender).recordIds = entry.recordIds ∧
      (entry.mergeSender sender).status = entry.status := by
  unfold Entry.mergeSender
  split <;> exact ⟨rfl, rfl⟩

omit [TrackRuntime] in
theorem posted_records (entry : Entry Time) (posting fresh : Bool) :
    (entry.posted posting fresh).recordIds = entry.recordIds ∧
      (entry.posted posting fresh).status = entry.status := by
  unfold Entry.posted
  split
  · dsimp only
    split <;> exact ⟨rfl, rfl⟩
  · split <;> exact ⟨rfl, rfl⟩

omit [TrackRuntime] in
theorem acknowledge_records (entry : Entry Time) (admitted : Bool) :
    (entry.acknowledge admitted).recordIds = entry.recordIds ∧
      (entry.acknowledge admitted).status = entry.status := by
  unfold Entry.acknowledge
  split <;> exact ⟨rfl, rfl⟩

theorem mem_submit (submission : Submission) (posting fresh : Bool) :
    id ∈ (entry.submit submission posting fresh).recordIds ↔
      id ∈ entry.recordIds ∨ id ∈ submission.recordIds := by
  unfold Entry.submit
  dsimp only
  rw [(acknowledge_records _ _).1, (mergeSender_records _ _).1, (mergeSubmitFacts_records _ _ _).1,
    mem_mergeRecordIds, (posted_records _ _ _).1]

theorem status_submit (entry : Entry Time) (submission : Submission) (posting fresh : Bool) :
    (entry.submit submission posting fresh).status = entry.status := by
  unfold Entry.submit
  dsimp only
  rw [(acknowledge_records _ _).2, (mergeSender_records _ _).2, (mergeSubmitFacts_records _ _ _).2,
    status_mergeRecordIds, (posted_records _ _ _).2]

end Records

def Event.key : Event Time → Option String
  | .submitted submission => some (normalize submission.userOpHash)
  | .withdrawn userOpHash _ | .abort userOpHash => some (normalize userOpHash)
  | .shellCompleted _ result => result.target
  | .tick | .appResumed | .homeFocused => none

/-- The patches of an operation's records, over a history. -/
def patchesFor (key : String) (history : List (Event Time × List TrackEffect)) :
    List (List String × TrackRecordPatch) :=
  history.flatMap fun step => if step.1.key = some key then updates step.2 else []

/-- A patch names a record, and says how its operation landed. -/
def tells (status : EntryStatus) (id : String) (update : List String × TrackRecordPatch) : Bool :=
  update.1.contains id && status.carriedBy update.2

/-- The records that a withdrawal takes from an operation that landed. -/
def takenBack (model : Model Time) : Event Time → List (String × String)
  | .withdrawn userOpHash recordIds =>
    let key := normalize userOpHash
    match model.lookup key with
    | none => []
    | some entry =>
      if entry.fromPosting && entry.status.isLanded then
        (entry.recordIds.filter (recordIds.contains ·)).map fun id => (key, id)
      else []
  | _ => []

/-- No record comes to an operation that landed but by a submit, and none that was taken from it
comes back. -/
def bringsRecordsInTime [Clock Time] (event : Event Time)
    (watched : Model Time × List (String × String)) : Bool :=
  match event with
  | .submitted submission =>
    submission.recordIds.all fun id => !watched.2.contains (normalize submission.userOpHash, id)
  | .shellCompleted attempt (.recordsLoaded records nowMs) =>
    attempt != watched.1.attempt ||
      (records.filter (·.isFollowed nowMs)).all fun record =>
        let key := normalize record.userOpHash
        !watched.2.contains (key, record.recordId) &&
          (watched.1.lookup key).all fun entry =>
            !entry.status.isLanded || entry.recordIds.contains record.recordId
  | _ => true

/-- The tracker, watched for what withdrawals take. -/
def watchedTracker (Time : Type) [Clock Time] :
    Process (Model Time × List (String × String)) (Event Time) (List TrackEffect) :=
  (tracker Time).watching [] fun taken model event _ _ => taken ++ takenBack model event

/-- Every record of an operation that landed is told so once, and no other record is told that
its operation did. -/
structure Settled (patches : List (List String × TrackRecordPatch)) (model : Model Time)
    (taken : List (String × String)) (key : String) : Prop where
  held : ∀ entry, model.lookup key = some entry → ∀ id ∈ entry.recordIds, (key, id) ∉ taken
  landed : ∀ entry, model.lookup key = some entry → ∀ status, entry.landing = some status →
    ∀ id ∈ entry.recordIds, patches.countP (tells status id) = 1
  others : ∀ id, (key, id) ∉ taken →
    (∀ entry, model.lookup key = some entry → entry.landing.isSome = true →
      id ∉ entry.recordIds) →
    ∀ update ∈ patches, update.2.isLanding = true → id ∉ update.1

namespace Settled

variable {patches more : List (List String × TrackRecordPatch)} {before after : Model Time}
  {taken : List (String × String)} {key : String}

omit [TrackRuntime] in
theorem of_kept (settled : Settled patches before taken key) (kept : KeptAt key before after) :
    Settled patches after taken key := by
  unfold KeptAt at kept
  obtain ⟨held, landed, others⟩ := settled
  generalize before.lookup key = left at kept held landed others
  constructor
  case held =>
    intro entry found
    rw [found] at kept
    cases kept with
    | some kept =>
      rw [kept.recordIds]
      exact held _ rfl
  case landed =>
    intro entry found status
    rw [found] at kept
    cases kept with
    | some kept =>
      rw [kept.recordIds, kept.landing]
      exact landed _ rfl status
  case others =>
    intro id free unheld
    apply others id free
    intro entry found
    rw [found] at kept
    generalize there : after.lookup key = right at kept
    cases kept with
    | some kept =>
      rw [← kept.recordIds, ← kept.landing]
      exact unheld _ there

omit [TrackRuntime] in
theorem countP_tells_eq_zero {status : EntryStatus} {id : String}
    (none_tells : ∀ update ∈ patches, update.2.isLanding = true → id ∉ update.1) :
    patches.countP (tells status id) = 0 := by
  rw [List.countP_eq_zero]
  intro update member told
  simp only [tells, Bool.and_eq_true] at told
  have landing := (EntryStatus.isLanded_of_carriedBy told.2).2
  exact none_tells update member landing (by simpa using told.1)

omit [TrackRuntime] in
theorem of_answered (settled : Settled patches before taken key) {entry next : Entry Time}
    (found : before.lookup key = some entry) (found_later : after.lookup key = some next)
    (answered : Answered entry next more) : Settled (patches ++ more) after taken key := by
  obtain ⟨held, landed, others⟩ := settled
  have only : ∀ other, after.lookup key = some other → other = next := by
    intro other same
    rw [found_later] at same
    exact (Option.some.inj same).symm
  cases answered with
  | calm recordIds landing none_landing =>
    constructor
    case held =>
      intro other same
      rw [only other same, recordIds]
      exact held entry found
    case landed =>
      intro other same status is_landed id member
      rw [only other same] at is_landed member
      rw [landing] at is_landed
      rw [recordIds] at member
      rw [List.countP_append, landed entry found status is_landed id member,
        countP_tells_eq_zero]
      intro update inside told
      rw [none_landing update inside] at told
      cases told
    case others =>
      intro id free unheld update member told
      rcases List.mem_append.mp member with inside | inside
      · refine others id free ?_ update inside told
        intro other same is_landed
        rw [found] at same
        cases same
        rw [← landing] at is_landed
        rw [← recordIds]
        exact unheld next found_later is_landed
      · rw [none_landing update inside] at told
        cases told
  | @landed patch unlanded recordIds carried only_patch =>
    have untold : ∀ id, (key, id) ∉ taken →
        ∀ update ∈ patches, update.2.isLanding = true → id ∉ update.1 := by
      intro id free
      apply others id free
      intro other same is_landed
      rw [found] at same
      cases same
      rw [unlanded] at is_landed
      cases is_landed
    have status_is : next.landing = some next.status := by
      unfold Entry.landing
      rw [if_pos (EntryStatus.isLanded_of_carriedBy carried).1]
    constructor
    case held =>
      intro other same
      rw [only other same, recordIds]
      exact held entry found
    case landed =>
      intro other same status is_landed id member
      rw [only other same] at is_landed member
      rw [status_is] at is_landed
      cases is_landed
      rw [recordIds] at member
      rw [List.countP_append, countP_tells_eq_zero (untold id (held entry found id member)),
        only_patch]
      simp [tells, member, carried]
    case others =>
      intro id free unheld update member told
      rcases List.mem_append.mp member with inside | inside
      · exact untold id free update inside told
      · rw [only_patch, List.mem_singleton] at inside
        rw [inside, ← recordIds]
        exact unheld next found_later (by rw [status_is]; rfl)

omit [TrackRuntime] in
theorem latePatch_unlanded {entry : Entry Time} (unlanded : entry.landing = none)
    (named : List String) : entry.latePatch named = none := by
  unfold Entry.latePatch
  unfold Entry.landing at unlanded
  split
  · rfl
  · cases status : entry.status <;>
      simp [status, EntryStatus.isLanded] at unlanded ⊢

omit [TrackRuntime] in
theorem latePatch_landed {entry : Entry Time} {status : EntryStatus}
    (landed : entry.landing = some status) {named : List String} (some_named : named ≠ []) :
    ∃ patch, entry.latePatch named = some patch ∧ status.carriedBy patch = true := by
  unfold Entry.landing at landed
  split at landed
  · next is_landed =>
      cases landed
      unfold Entry.latePatch
      rw [if_neg some_named]
      cases status : entry.status with
      | confirmed =>
        exact ⟨_, rfl, by simp [EntryStatus.carriedBy, TrackRecordPatch.confirmed]⟩
      | failed => exact ⟨_, rfl, by simp [EntryStatus.carriedBy, TrackRecordPatch.failed]⟩
      | pending | feeHeld | rejected | notSent | unknown =>
        rw [status] at is_landed
        cases is_landed
  · cases landed

section

variable (settled : Settled patches before taken key)
include settled

theorem of_submitted (submission : Submission)
    (same : normalize submission.userOpHash = key)
    (free : ∀ id ∈ submission.recordIds, (key, id) ∉ taken) :
    Settled (patches ++ updates (submitted before submission).2) (submitted before submission).1
      taken key := by
  subst same
  obtain ⟨held, landed, others⟩ := settled
  obtain ⟨⟨next, found_later, kept⟩, _⟩ := lookup_submitted before submission
  have only : ∀ other, (submitted before submission).1.lookup
      (normalize submission.userOpHash) = some other → other = next := by
    intro other same
    rw [found_later] at same
    exact (Option.some.inj same).symm
  have recordIds : ∀ id, id ∈ next.recordIds ↔
      id ∈ (submission.base before).recordIds ∨ id ∈ submission.recordIds := by
    intro id
    rw [kept.recordIds]
    exact mem_submit submission _ _
  have landing : next.landing = (submission.base before).landing := by
    rw [kept.landing]
    exact landing_of_status (status_submit _ _ _ _)
  have based : (submission.base before).landing = none ∧ (submission.base before).recordIds = [] ∧
      (∀ entry, before.lookup (normalize submission.userOpHash) = some entry →
        entry.landing = none) ∨
      before.lookup (normalize submission.userOpHash) = some (submission.base before) := by
    unfold Submission.base
    cases joined : submission.joins before with
    | some => exact .inr (Option.filter_eq_some_iff.mp joined).1
    | none =>
      refine .inl ⟨rfl, rfl, ?_⟩
      intro entry found
      have dead := isDead_of_joins_eq_none joined found
      simp only [Entry.isDead, Bool.or_eq_true, decide_eq_true_eq] at dead
      rcases dead with status | status <;> simp [Entry.landing, status, EntryStatus.isLanded]
  have told := updates_submitted before submission
  have left : (submission.entry before).landing = (submission.base before).landing :=
    landing_of_status (status_submit _ _ _ _)
  have named_iff : ∀ id, id ∈ submission.named before ↔
      id ∈ submission.recordIds ∧ id ∉ (submission.base before).recordIds := by
    intro id
    simp [Submission.named]
  have still_held : ∀ id ∈ next.recordIds, (normalize submission.userOpHash, id) ∉ taken := by
    intro id member
    rcases (recordIds id).mp member with inside | brought
    · rcases based with ⟨_, none_held, _⟩ | found
      · rw [none_held] at inside
        cases inside
      · exact held _ found id inside
    · exact free id brought
  cases landed_as : (submission.base before).landing with
  | none =>
    rw [landed_as] at left landing
    rw [told, latePatch_unlanded left]
    constructor
    case held =>
      intro other same
      rw [only other same]
      exact still_held
    case landed =>
      intro other same status is_landed
      rw [only other same, landing] at is_landed
      cases is_landed
    case others =>
      intro id unheld_free _ update member
      simp only [Option.toList_none, List.map_nil, List.append_nil] at member
      refine others id unheld_free ?_ update member
      intro entry found is_landed
      rcases based with ⟨_, _, dead⟩ | same
      · rw [dead entry found] at is_landed
        cases is_landed
      · rw [found] at same
        cases same
        rw [landed_as] at is_landed
        cases is_landed
  | some status =>
    rw [landed_as] at left landing
    have found : before.lookup (normalize submission.userOpHash) =
        some (submission.base before) := by
      rcases based with ⟨unlanded, _⟩ | found
      · rw [landed_as] at unlanded
        cases unlanded
      · exact found
    have untold : ∀ id, (normalize submission.userOpHash, id) ∉ taken →
        id ∉ (submission.base before).recordIds →
        ∀ update ∈ patches, update.2.isLanding = true → id ∉ update.1 := by
      intro id unheld_free unheld
      apply others id unheld_free
      intro entry same _
      rw [found] at same
      cases same
      exact unheld
    constructor
    case held =>
      intro other same
      rw [only other same]
      exact still_held
    case landed =>
      intro other same status_later is_landed id member
      rw [only other same] at is_landed member
      rw [landing] at is_landed
      cases is_landed
      rw [List.countP_append, told]
      by_cases inside : id ∈ (submission.base before).recordIds
      · rw [landed _ found status landed_as id inside, List.countP_eq_zero.mpr]
        intro update among
        obtain ⟨patch, _, rfl⟩ := List.mem_map.mp among
        simp [tells, named_iff, inside]
      · have brought := ((recordIds id).mp member).resolve_left inside
        have among := (named_iff id).mpr ⟨brought, inside⟩
        obtain ⟨patch, late, carried⟩ := latePatch_landed left (List.ne_nil_of_mem among)
        rw [countP_tells_eq_zero (untold id (free id brought) inside), late]
        simp [tells, among, carried]
    case others =>
      intro id unheld_free unheld update member is_landing
      have outside : id ∉ next.recordIds := unheld next found_later (by rw [landing]; rfl)
      rw [recordIds, not_or] at outside
      rw [told] at member
      rcases List.mem_append.mp member with earlier | now
      · exact untold id unheld_free outside.1 update earlier is_landing
      · obtain ⟨patch, _, rfl⟩ := List.mem_map.mp now
        rw [named_iff]
        exact fun named => outside.2 named.1

omit [TrackRuntime] in
theorem of_taken {more : List (String × String)}
    (others : ∀ id, (key, id) ∉ more) : Settled patches before (taken ++ more) key := by
  have same : ∀ id, (key, id) ∉ taken ++ more ↔ (key, id) ∉ taken := by
    intro id
    simp [others id]
  constructor
  case held => exact fun entry found id member => (same id).mpr (settled.held entry found id member)
  case landed => exact settled.landed
  case others => exact fun id free => settled.others id ((same id).mp free)

/-- A withdrawal takes records from an operation, and leaves the others told as they were. -/
theorem of_withdrawn (userOpHash : String)
    (recordIds : List String) (same : normalize userOpHash = key) :
    Settled patches (withdrawn before userOpHash recordIds)
      (taken ++ takenBack before (.withdrawn userOpHash recordIds)) key := by
  subst same
  obtain ⟨held, landed, others⟩ := settled
  unfold withdrawn takenBack
  dsimp only
  cases found : before.lookup (normalize userOpHash) with
  | none =>
    rw [List.append_nil]
    exact ⟨held, landed, others⟩
  | some entry =>
    dsimp only
    -- what is left of the entry, and what is taken from it if it landed
    have shrunk : ∀ after : Model Time, ∀ gone : List (String × String),
        (∀ next, after.lookup (normalize userOpHash) = some next →
          next.landing = entry.landing ∧
            ∀ id ∈ next.recordIds, id ∈ entry.recordIds ∧ (normalize userOpHash, id) ∉ gone) →
        (entry.landing.isSome = true → ∀ id ∈ entry.recordIds,
          (normalize userOpHash, id) ∈ gone ∨
            ∃ next, after.lookup (normalize userOpHash) = some next ∧ id ∈ next.recordIds) →
        Settled patches after (taken ++ gone) (normalize userOpHash) := by
      intro after gone left lost
      constructor
      case held =>
        intro next found_later id member
        obtain ⟨inside, free⟩ := (left next found_later).2 id member
        rw [List.mem_append, not_or]
        exact ⟨held entry found id inside, free⟩
      case landed =>
        intro next found_later status is_landed id member
        obtain ⟨landing, kept⟩ := left next found_later
        exact landed entry found status (landing ▸ is_landed) id (kept id member).1
      case others =>
        intro id free unheld
        rw [List.mem_append, not_or] at free
        apply others id free.1
        intro other same is_landed member
        rw [found] at same
        cases same
        rcases lost is_landed id member with gone | ⟨next, found_later, still⟩
        · exact free.2 gone
        · refine unheld next found_later ?_ still
          rw [(left next found_later).1]
          exact is_landed
    have landed_iff : entry.landing.isSome = true → entry.status.isLanded = true := by
      unfold Entry.landing
      split
      · next is_landed => exact fun _ => is_landed
      · exact nofun
    cases posting : entry.fromPosting with
    | false =>
      apply shrunk
      · intro next found_later
        simp only [Bool.not_false, if_true, lookup_put_self, Option.some.injEq] at found_later
        rw [← found_later]
        exact ⟨landing_of_status rfl, fun id member => ⟨member, by simp⟩⟩
      · intro _ id member
        exact .inr ⟨_, lookup_put_self _ _ _, member⟩
    | true =>
      simp only [Bool.not_true, Bool.true_and, Bool.false_eq_true, if_false]
      split
      · apply shrunk
        · intro next found_later
          have gone : Keyed.get? (normalize userOpHash)
              (Keyed.erase (normalize userOpHash) before.entries) = none :=
            Keyed.get?_erase_self _ _
          rw [Model.lookup] at found_later
          simp [gone] at found_later
        · next none_left =>
            intro is_landed id member
            rw [if_pos (landed_iff is_landed)]
            have gone := List.filter_eq_nil_iff.mp none_left id member
            refine .inl (List.mem_map.mpr ⟨id, List.mem_filter.mpr ⟨member, ?_⟩, rfl⟩)
            simpa using gone
      · apply shrunk
        · intro next found_later
          simp only [lookup_put_self, Option.some.injEq] at found_later
          rw [← found_later]
          refine ⟨landing_of_status rfl, ?_⟩
          intro id member
          obtain ⟨inside, free⟩ := List.mem_filter.mp member
          refine ⟨inside, ?_⟩
          split
          · simp only [List.mem_map, List.mem_filter, Prod.mk.injEq, true_and, exists_eq_right,
              not_and]
            intro _
            simpa using free
          · simp
        · intro is_landed id member
          rw [if_pos (landed_iff is_landed)]
          by_cases taken_now : id ∈ recordIds
          · refine .inl (List.mem_map.mpr ⟨id, List.mem_filter.mpr ⟨member, ?_⟩, rfl⟩)
            simpa using taken_now
          · refine .inr ⟨_, lookup_put_self _ _ _, List.mem_filter.mpr ⟨member, ?_⟩⟩
            simpa using taken_now

end

end Settled

def TrackPendingRecord.InTime (record : TrackPendingRecord Time) (model : Model Time) : Prop :=
  ∀ entry, model.lookup (normalize record.userOpHash) = some entry →
    entry.status.isLanded = true → record.recordId ∈ entry.recordIds

/-- The entry that a reload starts from. -/
def TrackPendingRecord.base (record : TrackPendingRecord Time) (model : Model Time) : Entry Time :=
  (model.lookup (normalize record.userOpHash)).getD
    (.new record.chainId (some record.submittedAtMs))

theorem lookup_load (model : Model Time) (record : TrackPendingRecord Time) :
    ∃ next, (model.load record).lookup (normalize record.userOpHash) = some next ∧
      next.status = (record.base model).status ∧
      ∀ id, id ∈ next.recordIds ↔ id ∈ (record.base model).recordIds ∨ id = record.recordId := by
  refine ⟨_, lookup_put_self _ _ _, ?_, ?_⟩
  · rw [(mergeSender_records _ _).2, (mergeSubmitFacts_records _ _ _).2, status_mergeRecordId]
    rfl
  · intro id
    rw [(mergeSender_records _ _).1, (mergeSubmitFacts_records _ _ _).1, mem_mergeRecordId]
    rfl

theorem lookup_load_other (model : Model Time) (record : TrackPendingRecord Time) {key : String}
    (different : normalize record.userOpHash ≠ key) :
    (model.load record).lookup key = model.lookup key :=
  lookup_put_other model different _

theorem TrackPendingRecord.InTime.load {record other : TrackPendingRecord Time}
    {model : Model Time} (inTime : other.InTime model) : other.InTime (model.load record) := by
  intro entry found landed
  by_cases same : normalize record.userOpHash = normalize other.userOpHash
  · obtain ⟨next, found_later, status, recordIds⟩ := lookup_load model record
    rw [same, found] at found_later
    cases found_later
    rw [status] at landed
    rw [recordIds]
    left
    revert landed
    unfold TrackPendingRecord.base
    cases there : model.lookup (normalize record.userOpHash) with
    | none => exact nofun
    | some before =>
      rw [same] at there
      exact inTime before there
  · rw [lookup_load_other model record same] at found
    exact inTime entry found landed

namespace Settled

variable {patches : List (List String × TrackRecordPatch)} {before : Model Time}
  {taken : List (String × String)} {key : String}

theorem of_load (settled : Settled patches before taken key) (record : TrackPendingRecord Time)
    (free : (normalize record.userOpHash, record.recordId) ∉ taken)
    (inTime : record.InTime before) : Settled patches (before.load record) taken key := by
  by_cases same : normalize record.userOpHash = key
  · subst same
    obtain ⟨held, landed, others⟩ := settled
    obtain ⟨next, found_later, status, recordIds⟩ := lookup_load before record
    have only : ∀ other, (before.load record).lookup (normalize record.userOpHash) = some other →
        other = next := by
      intro other same
      rw [found_later] at same
      exact (Option.some.inj same).symm
    have landing := landing_of_status status
    unfold TrackPendingRecord.base at recordIds landing
    cases found : before.lookup (normalize record.userOpHash) with
    | none =>
      rw [found] at recordIds landing
      constructor
      case held =>
        intro other there id member
        rw [only other there, recordIds] at member
        rcases member with inside | rfl
        · cases inside
        · exact free
      case landed =>
        intro other there status is_landed
        rw [only other there, landing] at is_landed
        cases is_landed
      case others =>
        intro id unheld_free _
        apply others id unheld_free
        intro entry there
        rw [found] at there
        cases there
    | some entry =>
      rw [found] at recordIds landing
      constructor
      case held =>
        intro other there id member
        rw [only other there, recordIds] at member
        rcases member with inside | rfl
        · exact held entry found id inside
        · exact free
      case landed =>
        intro other there status is_landed id member
        rw [only other there] at is_landed member
        rw [landing] at is_landed
        rcases (recordIds id).mp member with inside | rfl
        · exact landed entry found status is_landed id inside
        · refine landed entry found status is_landed _ (inTime entry found ?_)
          by_contra unlanded
          simp [Entry.landing, unlanded] at is_landed
      case others =>
        intro id unheld_free unheld
        apply others id unheld_free
        intro other there is_landed inside
        rw [found] at there
        cases there
        refine unheld next found_later ?_ ((recordIds id).mpr (.inl inside))
        rw [landing]
        exact is_landed
  · exact settled.of_kept (.of_eq (lookup_load_other before record same))

theorem of_loads {records : List (TrackPendingRecord Time)}
    (settled : Settled patches before taken key)
    (free : ∀ record ∈ records, (normalize record.userOpHash, record.recordId) ∉ taken)
    (inTime : ∀ record ∈ records, record.InTime before) :
    Settled patches (records.foldl Model.load before) taken key := by
  induction records generalizing before with
  | nil => exact settled
  | cons record _ ih =>
    rw [List.foldl_cons]
    apply ih
    · exact settled.of_load record (free record List.mem_cons_self)
        (inTime record List.mem_cons_self)
    · exact fun other member => free other (List.mem_cons_of_mem _ member)
    · exact fun other member => (inTime other (List.mem_cons_of_mem _ member)).load

end Settled

section Steps

variable [Clock Time]

omit [Clock Time] in
theorem keptAt_withdrawn (model : Model Time) {userOpHash key : String} (recordIds : List String)
    (different : normalize userOpHash ≠ key) :
    KeptAt key model (withdrawn model userOpHash recordIds) := by
  apply KeptAt.of_eq
  unfold withdrawn
  dsimp only
  split
  · rfl
  · split
    · exact lookup_put_other model different _
    · split
      · exact Keyed.get?_erase_other different model.entries
      · exact lookup_put_other model different _

omit [Clock Time] in
theorem keptAt_abort (model : Model Time) (userOpHash key : String) :
    KeptAt key model (abort model userOpHash) := by
  unfold abort
  dsimp only
  split
  · exact .of_eq rfl
  · next found =>
      split
      · exact .of_eq rfl
      · by_cases same : normalize userOpHash = key
        · subst same
          unfold KeptAt
          rw [found, lookup_put_self]
          apply Option.Rel.some
          constructor <;> first | rfl | exact id | exact fun _ => rfl
        · exact .of_eq (lookup_put_other model same _)

theorem keptAt_update (model : Model Time) (event : Event Time) {key : String}
    (other : event.key ≠ some key)
    (loads_none : ∀ attempt records nowMs,
      event ≠ .shellCompleted attempt (.recordsLoaded records nowMs)) :
    KeptAt key model (update model event).1 := by
  cases event with
  | submitted submission =>
    apply KeptAt.of_eq
    apply (lookup_submitted model submission).2
    exact fun same => other (congrArg some same)
  | withdrawn _ recordIds =>
    exact keptAt_withdrawn model recordIds fun same => other (congrArg some same)
  | abort userOpHash => exact keptAt_abort model userOpHash key
  | tick =>
    simp only [update]
    split <;> exact .of_eq rfl
  | appResumed | homeFocused => exact .of_eq rfl
  | shellCompleted attempt result =>
    simp only [update]
    split
    · cases target : result.target with
      | some =>
        obtain ⟨nowMs, _, handled⟩ := accept_handled model target
        apply handled.others
        exact fun same => other (target.trans (congrArg some same))
      | none =>
        cases result with
        | clock nowMs => exact (KeptAt.stamped key model nowMs).trans (.scheduled _ _ _)
        | recordsLoaded records nowMs => exact absurd rfl (loads_none attempt records nowMs)
        | recordsPatched | notified => exact .of_eq rfl
        | receipt | receiptWithLogs | receiptFailed | receiptPending | receiptUnreachable
        | status | statusUnavailable | opEvent | txReceipt => cases target
    · exact .of_eq rfl

namespace Settled

variable {patches : List (List String × TrackRecordPatch)} {model : Model Time}
  {taken : List (String × String)} {key : String}

section

variable (settled : Settled patches model taken key)
include settled

theorem of_accept {result : TrackShellResult Time}
    (target : result.target = some key) :
    Settled (patches ++ updates (accept model result).2) (accept model result).1 taken key := by
  obtain ⟨nowMs, _, handled⟩ := accept_handled model target
  cases found : model.lookup key with
  | none =>
    obtain ⟨still, nothing⟩ := handled.absent found
    rw [nothing, List.append_nil]
    exact settled.of_kept (.of_eq (still.trans found.symm))
  | some entry =>
    obtain ⟨next, found_later, kept, told⟩ := handled.present entry found
    rw [told]
    have stamped := kept_stamp entry nowMs
    have answered := handle_answered (entry.stamp nowMs) key result
    exact settled.of_answered found found_later
      ((answered.of_same stamped.recordIds stamped.landing).then_kept kept)

theorem of_recordsLoaded
    {records : List (TrackPendingRecord Time)} {nowMs : Time}
    (inTime : ∀ record ∈ records.filter (·.isFollowed nowMs),
      (normalize record.userOpHash, record.recordId) ∉ taken ∧ record.InTime model) :
    Settled patches (accept model (.recordsLoaded records nowMs)).1 taken key := by
  have stamped : ∀ key, KeptAt key model
      { stampUnstamped model nowMs with reconcileInFlight := false } := by
    intro key
    exact KeptAt.stamped key model nowMs
  have loaded := (settled.of_kept (stamped key)).of_loads (fun record member => (inTime record member).1)
    (by
      intro record member entry found landed
      have kept := stamped (normalize record.userOpHash)
      unfold KeptAt at kept
      rw [found] at kept
      generalize there : model.lookup (normalize record.userOpHash) = before at kept
      cases kept with
      | @some before _ kept =>
        rw [kept.recordIds]
        apply (inTime record member).2 before there
        have landing := kept.landing
        by_contra unlanded
        simp [Entry.landing, landed, unlanded] at landing)
  exact loaded.of_kept (.scheduled key _ nowMs)

theorem step {event : Event Time}
    (inTime : bringsRecordsInTime event (model, taken) = true) :
    Settled (patches ++ if event.key = some key then updates (update model event).2 else [])
      (update model event).1 (taken ++ takenBack model event) key := by
  -- an event that is not about the operation
  have apart : event.key ≠ some key →
      (∀ attempt records nowMs, event ≠ .shellCompleted attempt (.recordsLoaded records nowMs)) →
      (∀ id, (key, id) ∉ takenBack model event) →
      Settled (patches ++ if event.key = some key then updates (update model event).2 else [])
        (update model event).1 (taken ++ takenBack model event) key := by
    intro other loads_none untaken
    rw [if_neg other, List.append_nil]
    exact (settled.of_kept (keptAt_update model event other loads_none)).of_taken untaken
  cases event with
  | tick | appResumed | homeFocused => exact apart nofun nofun nofun
  | submitted submission =>
    by_cases same : normalize submission.userOpHash = key
    · have about : (Event.submitted submission : Event Time).key = some key := congrArg some same
      rw [if_pos about]
      have free : ∀ id ∈ submission.recordIds, (key, id) ∉ taken := by
        intro id member
        rw [← same]
        have brings := List.all_eq_true.mp inTime id member
        simpa using brings
      have submitted := settled.of_submitted submission same free
      exact submitted.of_taken nofun
    · exact apart (fun other => same (Option.some.inj other)) nofun nofun
  | withdrawn userOpHash recordIds =>
    by_cases same : normalize userOpHash = key
    · have nothing : updates (update model (.withdrawn userOpHash recordIds)).2 = [] := rfl
      rw [nothing, ite_self, List.append_nil]
      exact settled.of_withdrawn userOpHash recordIds same
    · apply apart (fun other => same (Option.some.inj other)) nofun
      intro id member
      unfold takenBack at member
      dsimp only at member
      split at member
      · cases member
      · split at member
        · obtain ⟨_, _, pair⟩ := List.mem_map.mp member
          exact same (congrArg Prod.fst pair)
        · cases member
  | abort userOpHash =>
    have nothing : updates (update model (.abort userOpHash)).2 = [] := rfl
    rw [nothing, ite_self, List.append_nil]
    exact (settled.of_kept (keptAt_abort model userOpHash key)).of_taken nofun
  | shellCompleted attempt result =>
    by_cases current : attempt = model.attempt
    · have accepted : update model (.shellCompleted attempt result) = accept model result :=
        if_pos current
      by_cases about : result.target = some key
      · have mine : (Event.shellCompleted attempt result).key = some key := about
        rw [accepted, if_pos mine]
        exact (settled.of_accept about).of_taken nofun
      · by_cases loads : ∃ records nowMs, result = .recordsLoaded records nowMs
        · obtain ⟨records, nowMs, rfl⟩ := loads
          have other : (Event.shellCompleted attempt (.recordsLoaded records nowMs)).key ≠ some key :=
            nofun
          rw [accepted, if_neg other, List.append_nil]
          refine (settled.of_recordsLoaded ?_).of_taken nofun
          intro record member
          simp only [bringsRecordsInTime, current, bne_self_eq_false, Bool.false_or,
            List.all_eq_true] at inTime
          have brings := inTime record member
          simp only [Bool.and_eq_true] at brings
          refine ⟨by simpa using brings.1, ?_⟩
          intro entry found landed
          rw [found] at brings
          simpa [landed] using brings.2
        · apply apart about _ nofun
          intro _ records nowMs same
          cases same
          exact loads ⟨records, nowMs, rfl⟩
    · have stale : update model (.shellCompleted attempt result) = (model, []) := if_neg current
      rw [stale]
      have nothing : updates [] = [] := rfl
      rw [nothing, ite_self, List.append_nil]
      exact settled.of_taken nofun

end

end Settled

/-- Every record of every operation that landed has been named in one patch that says how. -/
def RecordsTold (history : List (Event Time × List TrackEffect)) (model : Model Time) : Prop :=
  ∀ key entry, model.lookup key = some entry → ∀ status, entry.landing = some status →
    ∀ id ∈ entry.recordIds, (patchesFor key history).countP (tells status id) = 1

omit [Clock Time] in
theorem patchesFor_append (key : String) (history : List (Event Time × List TrackEffect))
    (event : Event Time) (effects : List TrackEffect) :
    patchesFor key (history ++ [(event, effects)]) =
      patchesFor key history ++ if event.key = some key then updates effects else [] := by
  simp [patchesFor]

theorem settled_of_run {history : List (Event Time × List TrackEffect)}
    {watched : Model Time × List (String × String)}
    (run : Process.Run (watchedTracker Time) bringsRecordsInTime history watched) (key : String) :
    Settled (patchesFor key history) watched.1 watched.2 key := by
  apply run.invariant fun history watched =>
    Settled (patchesFor key history) watched.1 watched.2 key
  case initial =>
    constructor
    case held | landed =>
      intro entry found
      cases found
    case others =>
      intro id _ _ update member
      cases member
  case kept =>
    intro history event watched next effects inTime stepped settled
    obtain ⟨updated, taken⟩ := Process.watching_step.mp stepped
    have same : update watched.1 event = (next.1, effects) := Option.some.inj updated
    have after := settled.step inTime
    rw [same] at after
    rw [patchesFor_append, taken]
    exact after

/-- Records that come in time are told once how their operation landed. -/
theorem records_told {history : List (Event Time × List TrackEffect)}
    {watched : Model Time × List (String × String)}
    (run : Process.Run (watchedTracker Time) bringsRecordsInTime history watched) :
    RecordsTold history watched.1 :=
  fun key => (settled_of_run run key).landed

end Steps

end Tracker

section Sample

@[reducible] def wholeClock : Clock Int where
  decidableLE := Int.decLe
  decidableLT := Int.decLt

/-- A tracker that reads the given JSON texts. -/
@[reducible] def sampleRuntime (texts : String → Option Json.Value) : TrackRuntime where
  fromStr := texts
  toCaseTable := Utf8.asciiCaseTable
  provenMoves _ _ := none
  isLogRangeError _ := false

attribute [local instance] wholeClock

@[reducible] local instance : TrackRuntime := sampleRuntime fun _ => none

def sampleSubmit (recordIds : List String) (admitted : Bool) : Event Int :=
  .submitted ⟨"0xab", recordIds, 56, false, none, admitted, none⟩

/-- The operation is handed over before its POST, and lands. -/
def landsInPost : List (Event Int) :=
  [sampleSubmit [] false, .shellCompleted 0 (.receipt "0xab" "0xcd" 1000)]

/-- A reload of the operation's pending record. -/
def sampleReload : TrackShellResult Int :=
  .recordsLoaded [⟨"record", "0xab", 56, 900, false, none, none⟩] 2000

/-- A record named when the POST has its verdict is told, and a reload of it tells nothing more. -/
theorem late_record_told :
    ∃ history watched, Process.Run (watchedTracker Int) bringsRecordsInTime history watched ∧
      (∃ entry, watched.1.lookup "0xab" = some entry ∧
        entry.landing = some (.confirmed "0xcd") ∧ "record" ∈ entry.recordIds) ∧
      RecordsTold history watched.1 := by
  have played : ((watchedTracker Int).play bringsRecordsInTime
      (landsInPost ++ [sampleSubmit ["record"] true, .shellCompleted 0 sampleReload])).any
        (fun reached => (reached.2.1.lookup "0xab").any fun entry =>
          entry.landing = some (.confirmed "0xcd") && entry.recordIds.contains "record") =
      true := by
    decide
  obtain ⟨history, watched, run, holds⟩ := Process.exists_run_of_play played
  refine ⟨history, watched, run, ?_, records_told run⟩
  obtain ⟨entry, found, holds⟩ := Option.any_eq_true _ _ |>.mp holds
  simp only [Bool.and_eq_true, decide_eq_true_eq] at holds
  exact ⟨entry, found, holds.1, by simpa using holds.2⟩

/-- A record that a reload brings to an operation that landed is never told, not even when the
submit that names it comes. -/
theorem reloaded_record_untold :
    ¬∀ history model, Process.Run (tracker Int) Process.unrestricted history model →
      RecordsTold history model := by
  intro told
  have played : ((tracker Int).play Process.unrestricted
      (landsInPost ++ [.appResumed, .shellCompleted 0 (.clock 1500),
        .shellCompleted 0 sampleReload, sampleSubmit ["record"] true])).any
        (fun reached => (reached.2.lookup "0xab").any fun entry =>
          entry.landing = some (.confirmed "0xcd") && entry.recordIds.contains "record" &&
            (patchesFor "0xab" reached.1).countP (tells (.confirmed "0xcd") "record") = 0) =
      true := by
    decide
  obtain ⟨history, model, run, holds⟩ := Process.exists_run_of_play played
  obtain ⟨entry, found, holds⟩ := Option.any_eq_true _ _ |>.mp holds
  simp only [Bool.and_eq_true, decide_eq_true_eq] at holds
  have once := told history model run "0xab" entry found _ holds.1.1 "record"
    (by simpa using holds.1.2)
  rw [holds.2] at once
  cases once

end Sample

end VelaWallet.TxTracker
