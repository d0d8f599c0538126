import VelaWallet.Track.Tracker

/-!
# What a step does to an entry

Each event works on one operation's entry; the stamps and the scheduler's passes leave the records
and the landings of all of them as they were.
-/

namespace VelaWallet.TxTracker

variable {Time : Type}

def EntryStatus.isLanded : EntryStatus → Bool
  | confirmed _ | failed _ => true
  | _ => false

theorem EntryStatus.isTerminal_of_isLanded {status : EntryStatus} (landed : status.isLanded = true) :
    status.isTerminal = true := by
  cases status <;> first | rfl | cases landed

/-- How an operation landed, once it has. -/
def Entry.landing (entry : Entry Time) : Option EntryStatus :=
  if entry.status.isLanded then some entry.status else none

theorem Entry.landing_eq_none {entry : Entry Time} (live : entry.status.isTerminal = false) :
    entry.landing = none := by
  cases entry_status : entry.status with
  | confirmed | failed | rejected | notSent =>
    rw [entry_status] at live
    cases live
  | pending | feeHeld | unknown => simp [landing, entry_status, EntryStatus.isLanded]

/-- The patches among effects, with the records they name. -/
def updates (effects : List TrackEffect) : List (List String × TrackRecordPatch) :=
  effects.filterMap fun
    | .shell (.updateTxRecords ids patch) => some (ids, patch)
    | _ => none

@[simp] theorem updates_append (effects more : List TrackEffect) :
    updates (effects ++ more) = updates effects ++ updates more :=
  List.filterMap_append

/-- The patches that an answer leads to at once. -/
def Next.updates : Next → List (List String × TrackRecordPatch)
  | reply effects => TxTracker.updates effects
  | schedule => []

/-- A patch that says an operation landed. -/
def TrackRecordPatch.isLanding (patch : TrackRecordPatch) : Bool :=
  patch.status = .confirmed || (patch.settlement.bind (·.failure)) = some .reverted

/-- A patch says how an operation landed. -/
def EntryStatus.carriedBy (status : EntryStatus) (patch : TrackRecordPatch) : Bool :=
  match status with
  | .confirmed txHash => patch.status = .confirmed && patch.txHash = some txHash
  | .failed _ => patch.status = .failed && (patch.settlement.bind (·.failure)) = some .reverted
  | _ => false

theorem EntryStatus.isLanded_of_carriedBy {status : EntryStatus} {patch : TrackRecordPatch}
    (carried : status.carriedBy patch = true) :
    status.isLanded = true ∧ patch.isLanding = true := by
  cases status with
  | confirmed =>
    simp only [carriedBy, Bool.and_eq_true] at carried
    exact ⟨rfl, by simp [TrackRecordPatch.isLanding, of_decide_eq_true carried.1]⟩
  | failed =>
    simp only [carriedBy, Bool.and_eq_true] at carried
    exact ⟨rfl, by simp [TrackRecordPatch.isLanding, of_decide_eq_true carried.2]⟩
  | pending | feeHeld | rejected | notSent | unknown => cases carried

/-- How far a scan has read: its start, width, head, the last block read and its anchor. -/
def FindScan.progress (scan : FindScan Time) :
    Option Nat × Nat × Option Nat × Option Nat × Bool :=
  (scan.start, scan.width, scan.head, scan.scannedThrough, scan.anchored)

/-- All that a verdict rests on is as it was, and no verdict is made or changed. -/
structure Kept (before after : Entry Time) : Prop where
  recordIds : after.recordIds = before.recordIds
  relayTxHash : after.relayTxHash = before.relayTxHash
  maybeSent : after.maybeSent = before.maybeSent
  acknowledged : after.acknowledged = before.acknowledged
  notFoundStreak : after.notFoundStreak = before.notFoundStreak
  submitBlock : after.submitBlock = before.submitBlock
  progress : after.find.progress = before.find.progress
  posting : after.posting = before.posting
  fromPosting : after.fromPosting = before.fromPosting
  relayRejected : after.relayRejected = before.relayRejected
  forgottenSinceMs : after.forgottenSinceMs = before.forgottenSinceMs
  forgottenStreak : after.forgottenStreak = before.forgottenStreak
  resolved : before.status.isTerminal = true → after.status = before.status
  live : before.status.isTerminal = false → after.status.isTerminal = false

namespace Kept

variable {before middle after : Entry Time}

@[refl] theorem refl (entry : Entry Time) : Kept entry entry := by
  constructor <;> first | rfl | exact id | exact fun _ => rfl

theorem trans (first : Kept before middle) (second : Kept middle after) : Kept before after where
  recordIds := second.recordIds.trans first.recordIds
  relayTxHash := second.relayTxHash.trans first.relayTxHash
  maybeSent := second.maybeSent.trans first.maybeSent
  acknowledged := second.acknowledged.trans first.acknowledged
  notFoundStreak := second.notFoundStreak.trans first.notFoundStreak
  submitBlock := second.submitBlock.trans first.submitBlock
  progress := second.progress.trans first.progress
  posting := second.posting.trans first.posting
  fromPosting := second.fromPosting.trans first.fromPosting
  relayRejected := second.relayRejected.trans first.relayRejected
  forgottenSinceMs := second.forgottenSinceMs.trans first.forgottenSinceMs
  forgottenStreak := second.forgottenStreak.trans first.forgottenStreak
  resolved := by
    intro terminal
    have same := first.resolved terminal
    rw [← same] at terminal
    exact (second.resolved terminal).trans same
  live := fun going => second.live (first.live going)

theorem landing (kept : Kept before after) : after.landing = before.landing := by
  cases terminal : before.status.isTerminal with
  | true =>
    unfold Entry.landing
    rw [kept.resolved terminal]
  | false => rw [Entry.landing_eq_none terminal, Entry.landing_eq_none (kept.live terminal)]

end Kept

section Scheduler

variable [Clock Time] (entry : Entry Time) (hash : String) (nowMs : Time)

omit [Clock Time] in
theorem kept_stamp : Kept entry (entry.stamp nowMs) := by
  unfold Entry.stamp
  extract_lets find stamped
  have first : Kept entry stamped := by
    unfold stamped
    split
    · constructor <;> first | rfl | exact id | exact fun _ => rfl
    · rfl
  split
  · apply first.trans
    constructor <;> first | rfl | exact id | exact fun _ => rfl
  · exact first

theorem kept_closeWindow (live : entry.status.isTerminal = false) (ageMs : Time) :
    Kept entry (entry.closeWindow ageMs) := by
  unfold Entry.closeWindow
  split
  · constructor
    case resolved =>
      intro terminal
      rw [live] at terminal
      cases terminal
    case live =>
      intro _
      dsimp only
      split
      · rfl
      · split
        · rfl
        · exact live
    all_goals rfl
  · rfl

theorem kept_pollReceipt (interval : Nat) :
    Kept entry (entry.pollReceipt hash nowMs interval).1 ∧
      updates (entry.pollReceipt hash nowMs interval).2 = [] := by
  unfold Entry.pollReceipt
  split
  · refine ⟨?_, rfl⟩
    constructor <;> first | rfl | exact id | exact fun _ => rfl
  · exact ⟨.refl _, rfl⟩

theorem kept_pollStatus (inWindow : Bool) (interval : Nat) :
    Kept entry (entry.pollStatus hash nowMs inWindow interval).1 ∧
      updates (entry.pollStatus hash nowMs inWindow interval).2 = [] := by
  simp only [Entry.pollStatus]
  generalize isDue entry.lastStatusPollMs nowMs _ = due
  split
  · refine ⟨?_, rfl⟩
    constructor <;> first | rfl | exact id | exact fun _ => rfl
  · exact ⟨.refl _, rfl⟩

theorem kept_pollTxReceipt (interval : Nat) :
    Kept entry (entry.pollTxReceipt hash nowMs interval).1 ∧
      updates (entry.pollTxReceipt hash nowMs interval).2 = [] := by
  unfold Entry.pollTxReceipt
  split
  · exact ⟨.refl _, rfl⟩
  · split
    · refine ⟨?_, rfl⟩
      constructor <;> first | rfl | exact id | exact fun _ => rfl
    · exact ⟨.refl _, rfl⟩

theorem kept_pollFind (inWindow : Bool) (interval : Nat) :
    Kept entry (entry.pollFind hash nowMs inWindow interval).1 ∧
      updates (entry.pollFind hash nowMs inWindow interval).2 = [] := by
  simp only [Entry.pollFind]
  generalize isDue entry.find.lastMs nowMs _ = due
  split
  · refine ⟨?_, rfl⟩
    constructor <;> first | rfl | exact id | exact fun _ => rfl
  · exact ⟨.refl _, rfl⟩

theorem kept_poll (ageMs : Time) :
    Kept entry (entry.poll hash nowMs ageMs).1 ∧
      updates (entry.poll hash nowMs ageMs).2 = [] := by
  simp only [Entry.poll, updates_append]
  constructor
  · apply Kept.trans (kept_pollReceipt entry hash nowMs _).1
    apply Kept.trans (kept_pollStatus _ hash nowMs _ _).1
    apply Kept.trans (kept_pollTxReceipt _ hash nowMs _).1
    exact (kept_pollFind _ hash nowMs _ _).1
  · rw [(kept_pollReceipt _ _ _ _).2, (kept_pollStatus _ _ _ _ _).2,
      (kept_pollTxReceipt _ _ _ _).2, (kept_pollFind _ _ _ _ _).2]
    rfl

theorem kept_schedule :
    Kept entry (entry.schedule hash nowMs).1 ∧ updates (entry.schedule hash nowMs).2 = [] := by
  unfold Entry.schedule
  split
  · exact ⟨.refl _, rfl⟩
  · next live =>
      have going : entry.status.isTerminal = false := by
        simp only [Bool.or_eq_true, not_or] at live
        simpa using live.1
      dsimp only
      split
      · refine ⟨?_, rfl⟩
        constructor <;> first | rfl | exact id | exact fun _ => rfl
      · generalize nowMs - entry.submittedAtMs.getD nowMs = age
        have stalled : ∀ slow : Bool, Kept entry
            (if slow then { entry with stalled := true } else entry) := by
          intro slow
          cases slow with
          | false => rfl
          | true => constructor <;> first | rfl | exact id | exact fun _ => rfl
        have started := stalled
          (inFlightStalled (entry.progressedAtMs.getD (entry.submittedAtMs.getD nowMs)) nowMs)
        have closed := kept_closeWindow _ (started.live going) age
        obtain ⟨polled, nothing⟩ := kept_poll _ hash nowMs age
        exact ⟨(started.trans closed).trans polled, nothing⟩

end Scheduler

section Steps

variable (model : Model Time)

@[simp] theorem lookup_put_self (key : String) (entry : Entry Time) :
    (model.put key entry).lookup key = some entry :=
  Keyed.get?_set_self key entry model.entries

theorem lookup_put_other {key other : String} (different : key ≠ other)
    (entry : Entry Time) : (model.put key entry).lookup other = model.lookup other :=
  Keyed.get?_set_other different entry model.entries

variable [Clock Time]

omit [Clock Time] in
theorem lookup_stampUnstamped (nowMs : Time) (key : String) :
    (stampUnstamped model nowMs).lookup key = (model.lookup key).map (·.stamp nowMs) := by
  have mapped := Keyed.get?_mapValues (fun (_ : String) (entry : Entry Time) => entry.stamp nowMs)
    key model.entries
  exact mapped

theorem entries_reconcile (nowMs : Time) : (reconcile model nowMs).1.entries = model.entries ∧
      updates (reconcile model nowMs).2 = [] := by
  unfold reconcile
  split
  · dsimp only
    split <;> exact ⟨rfl, rfl⟩
  · exact ⟨rfl, rfl⟩

theorem lookup_runScheduler (nowMs : Time) (key : String) :
    (runScheduler model nowMs).1.lookup key =
      (model.lookup key).map fun entry => (entry.schedule key nowMs).1 := by
  have entries := (entries_reconcile model nowMs).1
  simp only [runScheduler, Model.lookup, entries]
  exact Keyed.get?_mapValues _ key model.entries

theorem updates_runScheduler (nowMs : Time) : updates (runScheduler model nowMs).2 = [] := by
  obtain ⟨entries, sweep⟩ := entries_reconcile model nowMs
  have passes : ∀ entries : List (String × Entry Time),
      updates (entries.flatMap fun entry => (entry.2.schedule entry.1 nowMs).2) = [] := by
    intro entries
    induction entries with
    | nil => rfl
    | cons head _ ih =>
      rw [List.flatMap_cons, updates_append, (kept_schedule head.2 head.1 nowMs).2, ih]
      rfl
  simp only [runScheduler, updates_append, sweep, entries, passes]
  rfl

def KeptAt (key : String) (before after : Model Time) : Prop :=
  Option.Rel Kept (before.lookup key) (after.lookup key)

namespace KeptAt

variable {key : String} {before middle after : Model Time}

omit [Clock Time] in
theorem of_eq (same : after.lookup key = before.lookup key) : KeptAt key before after := by
  unfold KeptAt
  rw [same]
  cases before.lookup key with
  | none => exact .none
  | some entry => exact .some (.refl entry)

omit [Clock Time] in
theorem trans (first : KeptAt key before middle) (second : KeptAt key middle after) :
    KeptAt key before after := by
  unfold KeptAt at first second ⊢
  generalize before.lookup key = left at first
  generalize middle.lookup key = center at first second
  generalize after.lookup key = right at second
  cases first with
  | none =>
    cases second with
    | none => exact .none
  | some first =>
    cases second with
    | some second => exact .some (first.trans second)

omit [Clock Time] in
theorem of_map {change : Entry Time → Entry Time}
    (mapped : after.lookup key = (before.lookup key).map change)
    (kept : ∀ entry, Kept entry (change entry)) : KeptAt key before after := by
  unfold KeptAt
  rw [mapped]
  cases before.lookup key with
  | none => exact .none
  | some entry => exact .some (kept entry)

omit [Clock Time] in
theorem stamped (key : String) (model : Model Time) (nowMs : Time) :
    KeptAt key model (stampUnstamped model nowMs) :=
  .of_map (lookup_stampUnstamped model nowMs key) fun entry => kept_stamp entry nowMs

theorem scheduled (key : String) (model : Model Time) (nowMs : Time) :
    KeptAt key model (runScheduler model nowMs).1 :=
  .of_map (lookup_runScheduler model nowMs key) fun entry => (kept_schedule entry key nowMs).1

end KeptAt

variable [TrackRuntime]

/-- The operation an answer is about. -/
def TrackShellResult.target : TrackShellResult Time → Option String
  | .receipt userOpHash _ _ | .receiptWithLogs userOpHash _ _ _ | .receiptFailed userOpHash _ _
  | .receiptPending userOpHash _ | .receiptUnreachable userOpHash _ | .status userOpHash _ _
  | .statusUnavailable userOpHash _ | .opEvent userOpHash _ _ | .txReceipt userOpHash _ _ =>
    some (normalize userOpHash)
  | .clock _ | .recordsLoaded _ _ | .recordsPatched | .notified => none

/-- What an answer does to the entry it is about. -/
def TrackShellResult.handle (result : TrackShellResult Time) (key : String) (entry : Entry Time) :
    Entry Time × Next :=
  match result with
  | .receiptWithLogs userOpHash txHash nowMs logs =>
    if opExecutionFailed logs userOpHash then entry.onReceiptFailed txHash nowMs
    else entry.onReceipt key txHash nowMs (TrackRuntime.provenMoves logs userOpHash)
  | .receipt _ txHash nowMs => entry.onReceipt key txHash nowMs none
  | .receiptFailed _ txHash nowMs => entry.onReceiptFailed txHash nowMs
  | .receiptPending _ nowMs =>
    ({ entry.receiptAnswered nowMs with sawCleanResponse := true }, .schedule)
  | .receiptUnreachable _ nowMs =>
    ({ entry.receiptAnswered nowMs with rpcFailures := entry.rpcFailures + 1 }, .schedule)
  | .status _ answer nowMs => entry.onStatus answer nowMs
  | .statusUnavailable _ _ => ({ entry with statusInFlight := false }, .schedule)
  | .opEvent _ nowMs answer => entry.onOpEvent key nowMs answer
  | .txReceipt _ nowMs receiptJson => entry.onTxReceipt key nowMs receiptJson
  | .clock _ | .recordsLoaded _ _ | .recordsPatched | .notified => (entry, .schedule)

/-- What an answer comes to, for the entry it is about and for the others. -/
structure Handled (result : TrackShellResult Time) (key : String) (nowMs : Time)
    (before after : Model Time) (effects : List TrackEffect) : Prop where
  others : ∀ other, key ≠ other → KeptAt other before after
  absent : before.lookup key = none → after.lookup key = none ∧ updates effects = []
  present : ∀ entry, before.lookup key = some entry → ∃ next, after.lookup key = some next ∧
    Kept (result.handle key (entry.stamp nowMs)).1 next ∧
      updates effects = (result.handle key (entry.stamp nowMs)).2.updates

theorem answer_handled (userOpHash : String) (nowMs : Time) (absent : Next)
    (quiet : absent.updates = []) (result : TrackShellResult Time) :
    Handled result (normalize userOpHash) nowMs model
      ((stampUnstamped model nowMs).answer userOpHash nowMs absent result.handle).1
      ((stampUnstamped model nowMs).answer userOpHash nowMs absent result.handle).2 := by
  have stamped := lookup_stampUnstamped model nowMs (normalize userOpHash)
  have kept := fun other => KeptAt.stamped other model nowMs
  generalize stampUnstamped model nowMs = before at stamped kept
  unfold Model.answer
  dsimp only
  cases found : before.lookup (normalize userOpHash) with
  | none =>
    have none_before : model.lookup (normalize userOpHash) = none := by
      rw [found] at stamped
      exact Option.map_eq_none_iff.mp stamped.symm
    have unknown : ∀ entry, model.lookup (normalize userOpHash) = some entry → False :=
      fun entry present => nomatch none_before.symm.trans present
    cases absent with
    | reply =>
      constructor
      case others => exact fun other _ => kept other
      case absent => exact fun _ => ⟨found, quiet⟩
      case present => exact fun entry present => (unknown entry present).elim
    | schedule =>
      constructor
      case others => exact fun other _ => (kept other).trans (.scheduled other before nowMs)
      case absent =>
        intro _
        refine ⟨?_, updates_runScheduler before nowMs⟩
        dsimp only
        rw [lookup_runScheduler, found]
        rfl
      case present => exact fun entry present => (unknown entry present).elim
  | some entry =>
    have put : ∀ other, normalize userOpHash ≠ other →
        KeptAt other model (before.put (normalize userOpHash)
          (result.handle (normalize userOpHash) entry).1) := by
      intro other different
      exact (kept other).trans (.of_eq (lookup_put_other before different _))
    have only : ∀ first, model.lookup (normalize userOpHash) = some first →
        entry = first.stamp nowMs := by
      intro first present
      rw [found, present] at stamped
      exact Option.some.inj stamped
    have known : model.lookup (normalize userOpHash) ≠ none := by
      intro absent
      rw [found, absent] at stamped
      cases stamped
    dsimp only
    cases next : (result.handle (normalize userOpHash) entry).2 with
    | reply =>
      constructor
      case others => exact put
      case absent => exact fun absent => (known absent).elim
      case present =>
        intro first present
        rw [← only first present, next]
        exact ⟨_, lookup_put_self _ _ _, .refl _, rfl⟩
    | schedule =>
      constructor
      case others => exact fun other different => (put other different).trans (.scheduled _ _ _)
      case absent => exact fun absent => (known absent).elim
      case present =>
        intro first present
        rw [← only first present, next]
        dsimp only
        rw [lookup_runScheduler, lookup_put_self]
        exact ⟨_, rfl, (kept_schedule _ _ _).1, updates_runScheduler _ _⟩

theorem accept_receiptWithLogs (userOpHash txHash : String) (nowMs : Time)
    (logs : List TrustReceiptLog) :
    accept model (.receiptWithLogs userOpHash txHash nowMs logs) =
      (stampUnstamped model nowMs).answer userOpHash nowMs (.reply [])
        (TrackShellResult.receiptWithLogs userOpHash txHash nowMs logs).handle := by
  simp only [accept, TrackShellResult.clockOf, acceptStamped]
  split
  · next failed =>
      congr 1
      funext key entry
      exact (if_pos failed).symm
  · next executed =>
      congr 1
      funext key entry
      exact (if_neg executed).symm

theorem accept_handled {result : TrackShellResult Time} {key : String}
    (target : result.target = some key) : ∃ nowMs, result.clockOf = some nowMs ∧
      Handled result key nowMs model (accept model result).1 (accept model result).2 := by
  cases result with
  | clock | recordsLoaded | recordsPatched | notified => cases target
  | receiptWithLogs userOpHash _ nowMs =>
    cases target
    refine ⟨nowMs, rfl, ?_⟩
    rw [accept_receiptWithLogs]
    exact answer_handled model userOpHash nowMs _ rfl _
  | receipt userOpHash txHash nowMs | receiptFailed userOpHash txHash nowMs
  | receiptPending userOpHash nowMs | receiptUnreachable userOpHash nowMs
  | status userOpHash answer nowMs | statusUnavailable userOpHash nowMs
  | opEvent userOpHash nowMs answer | txReceipt userOpHash nowMs receiptJson =>
    cases target
    exact ⟨nowMs, rfl, answer_handled model userOpHash nowMs _ rfl _⟩

/-- The entry a submit starts from: the one it joins, or a fresh one. -/
def Submission.base (submission : Submission) (model : Model Time) : Entry Time :=
  (submission.joins model).getD (.fresh submission.chainId)

/-- The entry a submit leaves, its first poll apart. -/
def Submission.entry (submission : Submission) (model : Model Time) : Entry Time :=
  (submission.base model).submit submission submission.posting (submission.joins model).isNone

/-- The records a submit brings to the entry it joins. -/
def Submission.named (submission : Submission) (model : Model Time) : List String :=
  submission.recordIds.filter (! (submission.base model).recordIds.contains ·)

omit [Clock Time] in
theorem isDead_of_joins_eq_none {submission : Submission} {model : Model Time}
    (joined : submission.joins model = none) {entry : Entry Time}
    (found : model.lookup (normalize submission.userOpHash) = some entry) :
    entry.isDead = true := by
  unfold Submission.joins at joined
  rw [found] at joined
  simp only [Option.filter_some, ite_eq_right_iff, reduceCtorEq, imp_false] at joined
  have new : submission.isNewLife entry = true := by simpa using joined
  simp only [Submission.isNewLife, Bool.or_eq_true, Bool.and_eq_true] at new
  rcases new with ⟨dead, _⟩ | ⟨_, notSent⟩
  · exact dead
  · simp [Entry.isDead, of_decide_eq_true notSent]

omit [Clock Time] in
theorem lookup_submitted (submission : Submission) :
    (∃ next, (submitted model submission).1.lookup (normalize submission.userOpHash) = some next ∧
      Kept (submission.entry model) next) ∧
    ∀ other, normalize submission.userOpHash ≠ other →
      (submitted model submission).1.lookup other = model.lookup other := by
  have polled : ∀ entry : Entry Time,
      Kept entry (if entry.pollsNow then { entry with receiptInFlight := true } else entry) := by
    intro entry
    split
    · constructor <;> first | rfl | exact id | exact fun _ => rfl
    · rfl
  constructor
  · exact ⟨_, lookup_put_self _ _ _, polled (submission.entry model)⟩
  · exact fun other different => lookup_put_other _ different _

omit [Clock Time] in
theorem updates_submitted (submission : Submission) : updates (submitted model submission).2 =
      ((submission.entry model).latePatch (submission.named model)).toList.map
        fun patch => (submission.named model, patch) := by
  have late : (submitted model submission).2 = .shell .now ::
      (if (submission.entry model).pollsNow then
        [.shell (.pollReceipt (normalize submission.userOpHash) submission.chainId)] else []) ++
      ((submission.entry model).latePatch (submission.named model)).toList.map
        (fun patch => .shell (.updateTxRecords (submission.named model) patch)) ++ [.render] := rfl
  rw [late]
  cases (submission.entry model).latePatch (submission.named model) <;>
    cases (submission.entry model).pollsNow <;> rfl

end Steps

end VelaWallet.TxTracker
