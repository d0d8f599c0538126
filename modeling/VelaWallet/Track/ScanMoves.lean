import Mathlib.Data.String.Basic
import VelaWallet.Track.RecordSoundness

/-!
# Readings of the chain

What each event does to the scan of an operation's entry, and which readings it asks for.
-/

namespace VelaWallet.TxTracker

section Tracker

variable {Time : Type}

/-- A window of blocks that a reading is asked for, or the head alone. -/
abbrev Window := Option Nat × Option Nat

/-- The readings that effects ask for, for one operation. -/
def asks (key : String) (effects : List TrackEffect) : List Window :=
  effects.filterMap fun
    | .shell (.findOpEvent _ _ _ userOpHash fromBlock toBlock) =>
      if userOpHash = key then some (fromBlock, toBlock) else none
    | _ => none

@[simp] theorem asks_append (key : String) (effects more : List TrackEffect) :
    asks key (effects ++ more) = asks key effects ++ asks key more :=
  List.filterMap_append

/-- The readings that an answer leads to at once. -/
def Next.asks (key : String) : Next → List Window
  | reply effects => TxTracker.asks key effects
  | schedule => []

/-- The window that a scan asks for next. -/
def FindScan.window (scan : FindScan Time) : Window :=
  (scan.nextWindow.map (·.1), scan.nextWindow.map (·.2))

/-- A scan stands where it stood, and a reading goes out only where none was out. -/
structure Paced (before after : Entry Time) (asked : List Window) : Prop where
  progress : after.find.progress = before.find.progress
  submitBlock : after.submitBlock = before.submitBlock
  terminal : after.status.isTerminal = before.status.isTerminal
  flight : after.find.inFlight = before.find.inFlight ∧ asked = [] ∨
    before.find.inFlight = none ∧ after.find.inFlight = some before.find.window ∧
      asked = [before.find.window]

namespace Paced

variable {before middle after : Entry Time} {asked : List Window}

theorem of_same (find : after.find = before.find) (submitBlock : after.submitBlock = before.submitBlock)
    (terminal : after.status.isTerminal = before.status.isTerminal) : Paced before after [] :=
  ⟨by rw [find], submitBlock, terminal, .inl ⟨by rw [find], rfl⟩⟩

theorem refl (entry : Entry Time) : Paced entry entry [] := .of_same rfl rfl rfl

theorem window_eq (paced : Paced before after asked) : after.find.window = before.find.window := by
  have progress := paced.progress
  simp only [FindScan.progress, Prod.mk.injEq] at progress
  simp [FindScan.window, FindScan.nextWindow, progress]

theorem trans (first : Paced before middle []) (second : Paced middle after asked) :
    Paced before after asked where
  progress := second.progress.trans first.progress
  submitBlock := second.submitBlock.trans first.submitBlock
  terminal := second.terminal.trans first.terminal
  flight := by
    have same : middle.find.inFlight = before.find.inFlight := by
      rcases first.flight with ⟨same, _⟩ | ⟨_, _, asks_one⟩
      · exact same
      · cases asks_one
    have flight := second.flight
    rw [same, first.window_eq] at flight
    exact flight

end Paced

section Scheduler

variable [Clock Time] (entry : Entry Time) (hash : String) (nowMs : Time)

omit [Clock Time] in
theorem paced_stamp : Paced entry (entry.stamp nowMs) [] := by
  unfold Entry.stamp
  extract_lets find stamped
  have first : Paced entry stamped [] := by
    unfold stamped
    split
    · exact ⟨rfl, rfl, rfl, .inl ⟨rfl, rfl⟩⟩
    · exact .refl entry
  split
  · exact first.trans (.of_same rfl rfl rfl)
  · exact first

theorem paced_closeWindow (live : entry.status.isTerminal = false) (ageMs : Time) :
    Paced entry (entry.closeWindow ageMs) [] := by
  have kept := (kept_closeWindow entry live ageMs).live live
  apply Paced.of_same
  case terminal => rw [kept, live]
  all_goals
    unfold Entry.closeWindow
    split <;> rfl

theorem asks_pollReceipt (key : String) (interval : Nat) :
    Paced entry (entry.pollReceipt hash nowMs interval).1 [] ∧
      asks key (entry.pollReceipt hash nowMs interval).2 = [] := by
  unfold Entry.pollReceipt
  split <;> exact ⟨.of_same rfl rfl rfl, rfl⟩

theorem asks_pollStatus (key : String) (inWindow : Bool) (interval : Nat) :
    Paced entry (entry.pollStatus hash nowMs inWindow interval).1 [] ∧
      asks key (entry.pollStatus hash nowMs inWindow interval).2 = [] := by
  simp only [Entry.pollStatus]
  generalize isDue entry.lastStatusPollMs nowMs _ = due
  split <;> exact ⟨.of_same rfl rfl rfl, rfl⟩

theorem asks_pollTxReceipt (key : String) (interval : Nat) :
    Paced entry (entry.pollTxReceipt hash nowMs interval).1 [] ∧
      asks key (entry.pollTxReceipt hash nowMs interval).2 = [] := by
  unfold Entry.pollTxReceipt
  split
  · exact ⟨.refl entry, rfl⟩
  · split <;> exact ⟨.of_same rfl rfl rfl, rfl⟩

theorem paced_pollFind (inWindow : Bool) (interval : Nat) :
    Paced entry (entry.pollFind hash nowMs inWindow interval).1
        (asks hash (entry.pollFind hash nowMs inWindow interval).2) ∧
      ∀ key, hash ≠ key → asks key (entry.pollFind hash nowMs inWindow interval).2 = [] := by
  simp only [Entry.pollFind]
  generalize isDue entry.find.lastMs nowMs _ = due
  split
  · next asking =>
      simp only [Bool.and_eq_true, Option.isNone_iff_eq_none] at asking
      constructor
      · refine ⟨rfl, rfl, rfl, .inr ⟨asking.1.2, rfl, ?_⟩⟩
        simp [findOp, asks, FindScan.window, FindScan.nextWindow]
      · intro key different
        simp [findOp, asks, different]
  · exact ⟨.refl entry, fun _ _ => rfl⟩

theorem paced_poll (ageMs : Time) :
    Paced entry (entry.poll hash nowMs ageMs).1 (asks hash (entry.poll hash nowMs ageMs).2) ∧
      ∀ key, hash ≠ key → asks key (entry.poll hash nowMs ageMs).2 = [] := by
  simp only [Entry.poll, asks_append]
  constructor
  · rw [(asks_pollReceipt _ hash nowMs hash _).2, (asks_pollStatus _ hash nowMs hash _ _).2,
      (asks_pollTxReceipt _ hash nowMs hash _).2]
    apply Paced.trans (asks_pollReceipt entry hash nowMs hash _).1
    apply Paced.trans (asks_pollStatus _ hash nowMs hash _ _).1
    apply Paced.trans (asks_pollTxReceipt _ hash nowMs hash _).1
    exact (paced_pollFind _ hash nowMs _ _).1
  · intro key different
    rw [(asks_pollReceipt _ hash nowMs key _).2, (asks_pollStatus _ hash nowMs key _ _).2,
      (asks_pollTxReceipt _ hash nowMs key _).2, (paced_pollFind _ hash nowMs _ _).2 key different]
    rfl

theorem paced_schedule :
    Paced entry (entry.schedule hash nowMs).1 (asks hash (entry.schedule hash nowMs).2) ∧
      ∀ key, hash ≠ key → asks key (entry.schedule hash nowMs).2 = [] := by
  unfold Entry.schedule
  split
  · exact ⟨.refl entry, fun _ _ => rfl⟩
  · next live =>
      have going : entry.status.isTerminal = false := by
        simp only [Bool.or_eq_true, not_or] at live
        simpa using live.1
      dsimp only
      split
      · exact ⟨.of_same rfl rfl rfl, fun _ _ => rfl⟩
      · generalize nowMs - entry.submittedAtMs.getD nowMs = age
        have stalled : ∀ slow : Bool,
            Paced entry (if slow then { entry with stalled := true } else entry) [] := by
          intro slow
          cases slow <;> exact .of_same rfl rfl rfl
        have started := stalled
          (inFlightStalled (entry.progressedAtMs.getD (entry.submittedAtMs.getD nowMs)) nowMs)
        have closed := paced_closeWindow _ (started.terminal.trans going) age
        obtain ⟨polled, others⟩ := paced_poll _ hash nowMs age
        exact ⟨(started.trans closed).trans polled, others⟩

end Scheduler

section Steps

variable [TrackRuntime]

/-- Every entry stands under its key once. -/
def Model.Sorted (model : Model Time) : Prop := Keyed.Sorted model.entries

omit [TrackRuntime] in
theorem Model.Sorted.put {model : Model Time} (sorted : model.Sorted) (key : String)
    (entry : Entry Time) : (model.put key entry).Sorted :=
  Keyed.Sorted.set sorted key entry

/-- A step asks for no more readings of an operation than a pass does. -/
structure PacedAt (key : String) (before after : Model Time) (asked : List Window) : Prop where
  absent : before.lookup key = none → after.lookup key = none ∧ asked = []
  present : ∀ entry, before.lookup key = some entry →
    ∃ next, after.lookup key = some next ∧ Paced entry next asked

namespace PacedAt

variable {key : String} {before middle after : Model Time} {asked : List Window}

omit [TrackRuntime] in
theorem of_eq (same : after.lookup key = before.lookup key) : PacedAt key before after [] := by
  constructor
  case absent => exact fun absent => ⟨same.trans absent, rfl⟩
  case present => exact fun entry found => ⟨entry, same.trans found, .refl entry⟩

omit [TrackRuntime] in
theorem trans (first : PacedAt key before middle []) (second : PacedAt key middle after asked) :
    PacedAt key before after asked := by
  constructor
  case absent => exact fun absent => second.absent (first.absent absent).1
  case present =>
    intro entry found
    obtain ⟨between, found_between, paced⟩ := first.present entry found
    obtain ⟨next, found_next, more⟩ := second.present between found_between
    exact ⟨next, found_next, paced.trans more⟩

variable [Clock Time]

omit [TrackRuntime] [Clock Time] in
theorem stamped (key : String) (model : Model Time) (nowMs : Time) :
    PacedAt key model (stampUnstamped model nowMs) [] := by
  constructor
  case absent =>
    intro absent
    rw [lookup_stampUnstamped, absent]
    exact ⟨rfl, rfl⟩
  case present =>
    intro entry found
    rw [lookup_stampUnstamped, found]
    exact ⟨_, rfl, paced_stamp entry nowMs⟩

omit [TrackRuntime] in
theorem asks_runScheduler {model : Model Time} (sorted : model.Sorted) (key : String)
    (nowMs : Time) : asks key (runScheduler model nowMs).2 =
      ((model.lookup key).map fun entry => asks key (entry.schedule key nowMs).2).getD [] := by
  have sweep : asks key (reconcile model nowMs).2 = [] ∧
      (reconcile model nowMs).1.entries = model.entries := by
    unfold reconcile
    split
    · dsimp only
      split <;> exact ⟨rfl, rfl⟩
    · exact ⟨rfl, rfl⟩
  have passes : asks key (model.entries.flatMap fun entry => (entry.2.schedule entry.1 nowMs).2) =
      model.entries.flatMap fun entry => asks key (entry.2.schedule entry.1 nowMs).2 := by
    unfold asks
    rw [List.filterMap_flatMap]
  simp only [runScheduler, asks_append, sweep, passes, List.nil_append]
  have rendered : asks key [.render] = [] := rfl
  rw [rendered, List.append_nil]
  exact sorted.flatMap key fun entry different => (paced_schedule _ _ _).2 key different

omit [TrackRuntime] in
theorem scheduled {model : Model Time} (sorted : model.Sorted) (key : String) (nowMs : Time) :
    PacedAt key model (runScheduler model nowMs).1 (asks key (runScheduler model nowMs).2) := by
  rw [asks_runScheduler sorted]
  constructor
  case absent =>
    intro absent
    rw [lookup_runScheduler, absent]
    exact ⟨rfl, rfl⟩
  case present =>
    intro entry found
    rw [lookup_runScheduler, found]
    exact ⟨_, rfl, (paced_schedule entry key nowMs).1⟩

end PacedAt

section Answers

variable [Clock Time] (key : String) (entry : Entry Time) (nowMs : Time)

omit [TrackRuntime] [Clock Time] in
theorem asks_failRecords (ids : List String) (landed : Option Nat) (failure : TrackFailure) :
    asks key (failRecords ids landed failure) = [] := by
  cases landed <;> rfl

omit [TrackRuntime] [Clock Time] in
theorem noteStatus_still (answer : StatusAnswer) :
    (entry.noteStatus answer nowMs).find = entry.find ∧
      (entry.noteStatus answer nowMs).submitBlock = entry.submitBlock := by
  have heard : ∀ (entry : Entry Time) status stage,
      (entry.heard status stage nowMs).find = entry.find ∧
        (entry.heard status stage nowMs).submitBlock = entry.submitBlock := by
    intro entry status stage
    unfold Entry.heard
    split <;> exact ⟨rfl, rfl⟩
  simp only [Entry.noteStatus]
  constructor
  · rw [(heard _ _ _).1]
    split <;> split <;> split <;> rfl
  · rw [(heard _ _ _).2]
    split <;> split <;> split <;> rfl

theorem handle_still {result : TrackShellResult Time}
    (other : ∀ userOpHash nowMs answer, result ≠ .opEvent userOpHash nowMs answer) :
    (result.handle key entry).1.find = entry.find ∧
      (result.handle key entry).1.submitBlock = entry.submitBlock ∧
      ∀ asked, (result.handle key entry).2.asks asked = [] := by
  have receipt : ∀ txHash nowMs moved,
      (entry.onReceipt key txHash nowMs moved).1.find = entry.find ∧
        (entry.onReceipt key txHash nowMs moved).1.submitBlock = entry.submitBlock ∧
        ∀ asked, (entry.onReceipt key txHash nowMs moved).2.asks asked = [] := by
    intro txHash nowMs moved
    simp only [Entry.onReceipt]
    split <;> exact ⟨rfl, rfl, fun _ => rfl⟩
  have failed : ∀ txHash nowMs,
      (entry.onReceiptFailed txHash nowMs).1.find = entry.find ∧
        (entry.onReceiptFailed txHash nowMs).1.submitBlock = entry.submitBlock ∧
        ∀ asked, (entry.onReceiptFailed txHash nowMs).2.asks asked = [] := by
    intro txHash nowMs
    simp only [Entry.onReceiptFailed]
    split
    · exact ⟨rfl, rfl, fun _ => rfl⟩
    · exact ⟨rfl, rfl, fun asked => asks_failRecords asked _ _ _⟩
  cases result with
  | clock | recordsLoaded | recordsPatched | notified | receiptPending | receiptUnreachable
  | statusUnavailable => exact ⟨rfl, rfl, fun _ => rfl⟩
  | receipt _ txHash nowMs => exact receipt txHash nowMs none
  | receiptFailed _ txHash nowMs => exact failed txHash nowMs
  | receiptWithLogs _ txHash nowMs =>
    simp only [TrackShellResult.handle]
    split
    · exact failed txHash nowMs
    · exact receipt txHash nowMs _
  | opEvent userOpHash nowMs answer => exact absurd rfl (other userOpHash nowMs answer)
  | status _ answer nowMs =>
    obtain ⟨find, submitBlock⟩ :=
      noteStatus_still { entry with statusInFlight := false } nowMs answer
    simp only [TrackShellResult.handle, Entry.onStatus]
    generalize Entry.noteStatus { entry with statusInFlight := false } answer nowMs = noted
      at find submitBlock
    split
    · exact ⟨rfl, rfl, fun _ => rfl⟩
    · split
      · split <;> exact ⟨find, submitBlock, fun _ => rfl⟩
      · split
        · have counted : ((noted.countMissed nowMs).countForgotten nowMs).find = noted.find ∧
              ((noted.countMissed nowMs).countForgotten nowMs).submitBlock = noted.submitBlock := by
            unfold Entry.countForgotten Entry.countMissed
            split <;> split <;> exact ⟨rfl, rfl⟩
          unfold Entry.onNotFound
          dsimp only
          split <;> exact ⟨counted.1.trans find, counted.2.trans submitBlock, fun _ => rfl⟩
        · exact ⟨find, submitBlock, fun _ => rfl⟩
  | txReceipt =>
    simp only [TrackShellResult.handle, Entry.onTxReceipt]
    split
    · exact ⟨rfl, rfl, fun _ => rfl⟩
    · split
      · exact ⟨rfl, rfl, fun _ => rfl⟩
      · split
        · split <;> exact ⟨rfl, rfl, fun _ => rfl⟩
        · split <;> exact ⟨rfl, rfl, fun _ => rfl⟩

omit [TrackRuntime] [Clock Time] in
theorem paced_continueScan (idle : entry.find.inFlight = none) :
    Paced entry (continueScan key entry nowMs).1 (asks key (continueScan key entry nowMs).2) ∧
      ∀ other, key ≠ other → asks other (continueScan key entry nowMs).2 = [] := by
  unfold continueScan
  split
  · exact ⟨.refl entry, fun _ _ => rfl⟩
  · constructor
    · refine ⟨rfl, rfl, rfl, .inr ⟨idle, rfl, ?_⟩⟩
      simp [findOp, asks, FindScan.window, FindScan.nextWindow]
    · intro other different
      simp [findOp, asks, different]

def Entry.taken (entry : Entry Time) (answer : OpEventAnswer) : Entry Time :=
  { entry with find.inFlight := none }.noteHead answer.headBlock

/-- What the answer to a reading does to a scan. -/
inductive ScanMove (key : String) (nowMs : Time) (answer : OpEventAnswer) (before : Entry Time) :
    Entry Time → List Window → Prop where
  | unasked (idle : before.find.inFlight = none) : ScanMove key nowMs answer before before []
  | still {asked : Window} {after : Entry Time} (flying : before.find.inFlight = some asked)
      (find : after.find = (before.taken answer).find)
      (submitBlock : after.submitBlock = before.submitBlock) :
      ScanMove key nowMs answer before after []
  | read {first last : Nat} {logsJson : String} {after : Entry Time} {more : List Window}
      (flying : before.find.inFlight = some (some first, some last))
      (live : before.status.isTerminal = false) (given : answer.logsJson = some logsJson)
      (nothing : findInLogs logsJson key = .nothing)
      (paced : Paced ((before.taken answer).readThrough first last) after more) :
      ScanMove key nowMs answer before after more
  | narrowed {asked : Window} {width : Nat} {after : Entry Time} {more : List Window}
      (flying : before.find.inFlight = some asked)
      (paced : Paced { before.taken answer with find.width := width } after more) :
      ScanMove key nowMs answer before after more
  | anchored {asked : Window} {after : Entry Time} {more : List Window}
      (flying : before.find.inFlight = some asked)
      (paced : Paced ((before.taken answer).anchorScan nowMs) after more) :
      ScanMove key nowMs answer before after more

omit [TrackRuntime] [Clock Time] in
theorem taken_facts (answer : OpEventAnswer) : (entry.taken answer).find.inFlight = none ∧
    (entry.taken answer).submitBlock = entry.submitBlock ∧
    (entry.taken answer).status = entry.status := by
  unfold Entry.taken Entry.noteHead
  split <;> exact ⟨rfl, rfl, rfl⟩

theorem onOpEvent_moves (answer : OpEventAnswer) :
    ScanMove key nowMs answer entry (entry.onOpEvent key nowMs answer).1
        ((entry.onOpEvent key nowMs answer).2.asks key) ∧
      ∀ other, key ≠ other → (entry.onOpEvent key nowMs answer).2.asks other = [] := by
  obtain ⟨idle, submitBlock, status⟩ := taken_facts entry answer
  have scans : ∀ next : Entry Time, next.find.inFlight = none →
      Paced next (continueScan key next nowMs).1
          ((Next.reply (continueScan key next nowMs).2).asks key) ∧
        ∀ other, key ≠ other → (Next.reply (continueScan key next nowMs).2).asks other = [] :=
    fun next idle => paced_continueScan key next nowMs idle
  unfold Entry.onOpEvent
  split
  · next unasked => exact ⟨.unasked unasked, fun _ _ => rfl⟩
  · next flying =>
      have is_taken : Entry.noteHead { entry with find.inFlight := none } answer.headBlock =
          entry.taken answer := rfl
      simp only [is_taken]
      have stays : ∀ effects : List TrackEffect, asks key effects = [] →
          ScanMove key nowMs answer entry (entry.taken answer) ((Next.reply effects).asks key) := by
        intro effects quiet
        rw [Next.asks, quiet]
        exact .still flying rfl submitBlock
      split
      · exact ⟨stays [] rfl, fun _ _ => rfl⟩
      · next going =>
          split
          · next first last =>
              unfold Entry.onWindow
              split
              · next given =>
                  split
                  · next success _ =>
                      cases success with
                      | true =>
                        exact ⟨.still flying rfl submitBlock, fun _ _ => rfl⟩
                      | false =>
                        refine ⟨?_, fun other _ => asks_failRecords other _ _ _⟩
                        simp only [Entry.onLanded, Bool.false_eq_true, if_false, Next.asks,
                          asks_failRecords]
                        exact .still flying rfl submitBlock
                  · next nothing =>
                      obtain ⟨paced, others⟩ :=
                        scans ((entry.taken answer).readThrough first last) idle
                      rw [status] at going
                      exact ⟨.read flying (by simpa using going) given nothing paced, others⟩
                  · exact ⟨stays [.render] rfl, fun _ _ => rfl⟩
              · split
                · next width _ =>
                    obtain ⟨paced, others⟩ :=
                      scans { entry.taken answer with find.width := width } idle
                    exact ⟨.narrowed flying paced, others⟩
                · exact ⟨stays [.render] rfl, fun _ _ => rfl⟩
          · have unanchored : ((entry.taken answer).anchorScan nowMs).find.inFlight = none := by
              unfold Entry.anchorScan
              split <;> exact idle
            obtain ⟨paced, others⟩ := scans _ unanchored
            exact ⟨.anchored flying paced, others⟩

theorem handle_asks_other (result : TrackShellResult Time) {other : String}
    (different : key ≠ other) : (result.handle key entry).2.asks other = [] := by
  by_cases reading : ∃ userOpHash nowMs answer, result = .opEvent userOpHash nowMs answer
  · obtain ⟨userOpHash, nowMs, answer, rfl⟩ := reading
    exact (onOpEvent_moves key entry nowMs answer).2 other different
  · refine (handle_still key entry ?_).2.2 other
    intro userOpHash nowMs answer same
    exact reading ⟨userOpHash, nowMs, answer, same⟩

end Answers

section Answered

variable [Clock Time]

/-- What an answer asks for, of the operation it is about and of the others. -/
structure Asked (result : TrackShellResult Time) (key : String) (nowMs : Time)
    (before after : Model Time) (effects : List TrackEffect) : Prop where
  others : ∀ other, key ≠ other → PacedAt other before after (asks other effects)
  absent : before.lookup key = none → after.lookup key = none ∧ asks key effects = []
  present : ∀ entry, before.lookup key = some entry → ∃ next more, after.lookup key = some next ∧
    Paced (result.handle key (entry.stamp nowMs)).1 next more ∧
      asks key effects = (result.handle key (entry.stamp nowMs)).2.asks key ++ more

omit [TrackRuntime] [Clock Time] in
theorem sorted_stampUnstamped {model : Model Time} (sorted : model.Sorted) (nowMs : Time) :
    (stampUnstamped model nowMs).Sorted :=
  Keyed.Sorted.mapValues sorted fun _ entry => entry.stamp nowMs

theorem answer_asked {model : Model Time} (sorted : model.Sorted) (userOpHash : String)
    (nowMs : Time) (absent : Next) (quiet : ∀ key, absent.asks key = [])
    (result : TrackShellResult Time) :
    Asked result (normalize userOpHash) nowMs model
      ((stampUnstamped model nowMs).answer userOpHash nowMs absent result.handle).1
      ((stampUnstamped model nowMs).answer userOpHash nowMs absent result.handle).2 := by
  have stamped := lookup_stampUnstamped model nowMs (normalize userOpHash)
  have paced := fun other => PacedAt.stamped other model nowMs
  have sorted_stamped := sorted_stampUnstamped sorted nowMs
  generalize stampUnstamped model nowMs = before at stamped paced sorted_stamped
  unfold Model.answer
  dsimp only
  cases found : before.lookup (normalize userOpHash) with
  | none =>
    have none_before : model.lookup (normalize userOpHash) = none := by
      rw [found] at stamped
      exact Option.map_eq_none_iff.mp stamped.symm
    have unknown : ∀ entry, model.lookup (normalize userOpHash) = some entry → False :=
      fun entry present => nomatch none_before.symm.trans present
    cases absent with
    | reply effects =>
      have nothing : ∀ key, asks key effects = [] := quiet
      constructor
      case others =>
        intro other _
        dsimp only
        rw [nothing]
        exact paced other
      case absent => exact fun _ => ⟨found, nothing _⟩
      case present => exact fun entry present => (unknown entry present).elim
    | schedule =>
      constructor
      case others => exact fun other _ => (paced other).trans (.scheduled sorted_stamped _ _)
      case absent => exact fun _ => (PacedAt.scheduled sorted_stamped _ nowMs).absent found
      case present => exact fun entry present => (unknown entry present).elim
  | some entry =>
    have put : ∀ other, normalize userOpHash ≠ other →
        PacedAt other model (before.put (normalize userOpHash)
          (result.handle (normalize userOpHash) entry).1) [] := by
      intro other different
      exact (paced other).trans (.of_eq (lookup_put_other before different _))
    have only : ∀ first, model.lookup (normalize userOpHash) = some first →
        entry = first.stamp nowMs := by
      intro first present
      rw [found, present] at stamped
      exact Option.some.inj stamped
    have known : model.lookup (normalize userOpHash) ≠ none := by
      intro absent
      rw [found, absent] at stamped
      cases stamped
    have sorted_put := sorted_stamped.put (normalize userOpHash)
      (result.handle (normalize userOpHash) entry).1
    have own := fun other => @handle_asks_other Time _ _ (normalize userOpHash) entry result other
    dsimp only
    cases next : (result.handle (normalize userOpHash) entry).2 with
    | reply effects =>
      rw [next] at own
      constructor
      case others =>
        intro other different
        have nothing : asks other effects = [] := own other different
        dsimp only
        rw [nothing]
        exact put other different
      case absent => exact fun absent => (known absent).elim
      case present =>
        intro first present
        rw [← only first present, next]
        refine ⟨_, [], lookup_put_self _ _ _, .refl _, ?_⟩
        rw [List.append_nil]
        rfl
    | schedule =>
      constructor
      case others =>
        exact fun other different => (put other different).trans (.scheduled sorted_put _ _)
      case absent => exact fun absent => (known absent).elim
      case present =>
        intro first present
        rw [← only first present, next]
        obtain ⟨settled, there, more⟩ :=
          (PacedAt.scheduled sorted_put (normalize userOpHash) nowMs).present _
            (lookup_put_self _ _ _)
        exact ⟨settled, _, there, more, rfl⟩

/-- An answer about an operation asks for readings of it alone, but for the passes it leads to. -/
theorem accept_asked {model : Model Time} (sorted : model.Sorted) {result : TrackShellResult Time}
    {key : String} (target : result.target = some key) : ∃ nowMs, result.clockOf = some nowMs ∧
      Asked result key nowMs model (accept model result).1 (accept model result).2 := by
  cases result with
  | clock | recordsLoaded | recordsPatched | notified => cases target
  | receiptWithLogs userOpHash _ nowMs =>
    cases target
    refine ⟨nowMs, rfl, ?_⟩
    rw [accept_receiptWithLogs]
    exact answer_asked sorted userOpHash nowMs _ (fun _ => rfl) _
  | receipt userOpHash txHash nowMs | receiptFailed userOpHash txHash nowMs
  | receiptPending userOpHash nowMs | receiptUnreachable userOpHash nowMs
  | status userOpHash answer nowMs | statusUnavailable userOpHash nowMs
  | opEvent userOpHash nowMs answer | txReceipt userOpHash nowMs receiptJson =>
    cases target
    exact ⟨nowMs, rfl, answer_asked sorted userOpHash nowMs _ (fun _ => rfl) _⟩

end Answered

end Steps

end Tracker

end VelaWallet.TxTracker
