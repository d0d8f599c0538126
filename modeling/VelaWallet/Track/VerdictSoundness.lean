import VelaWallet.Track.RecordSoundness

/-!
# Verdicts are earned

An operation is declared failed, refused or never sent only on what was said of it: silence
decides nothing, and no answer takes a verdict back.
-/

namespace VelaWallet.TxTracker

open Json (Value fromStr)

variable {key : String} {userOpHash : String}

section Tracker

variable {Time : Type} [TrackRuntime]

structure Said (Time : Type) where
  acknowledged : Bool
  posting : Bool
  named : Option String
  rejected : Bool
  missed : Nat
  forgottenSince : Option Time
  forgotten : Nat

namespace Said

def nothing : Said Time := ⟨false, false, none, false, 0, none, 0⟩

/-- The relay shows that it has the operation. -/
def shown (said : Said Time) : Said Time :=
  { said with acknowledged := true, missed := 0, forgottenSince := none, forgotten := 0 }

/-- A POST leaves, or has its verdict. -/
def handed (said : Said Time) (submission : Submission) : Said Time :=
  let said :=
    if submission.posting then { said with posting := true, missed := 0 }
    else if said.posting then { said with posting := false, missed := 0 }
    else said
  if submission.admitted then said.shown else said

/-- The relay's word on the operation. -/
def heard (said : Said Time) (answer : StatusAnswer) (pastGrace : Bool) (nowMs : Time) :
    Said Time :=
  let said := { said with named := answer.txHash.filter (· ≠ "") <|> said.named }
  if answer.status ≠ .notFound then
    { said.shown with rejected := said.rejected || answer.status = .rejected }
  else if !pastGrace then said
  else if !said.acknowledged then { said with missed := said.missed + 1 }
  else if said.named.isNone && !said.posting then
    { said with
      forgottenSince := some (said.forgottenSince.getD nowMs), forgotten := said.forgotten + 1 }
  else said

end Said

/-- The receipt that a JSON-RPC answer holds. -/
def receiptOf (receiptJson : Option String) : Option Value :=
  (receiptJson.bind fromStr).map fun value => (value.get? "result").getD value

def receiptLogs (receiptJson : Option String) : Option (List Value) :=
  ((receiptOf receiptJson).bind (·.get? "logs")).bind Value.asArray?

def minedTx (receiptJson : Option String) : Option String :=
  ((receiptOf receiptJson).bind (·.get? "transactionHash")).bind Value.asStr?

omit [TrackRuntime] in
theorem findFrom_eq_some {index : Nat} {logs : List Value}
    {event : OpEventLog} (found : findFrom userOpHash index logs = some event) :
    ∃ log ∈ logs, isOwnEvent userOpHash log = true ∧
      readEvent log = some (event.txHash, event.success) := by
  induction logs generalizing index with
  | nil => cases found
  | cons log _ ih =>
    unfold findFrom at found
    split at found
    · next read =>
        cases found
        split at read
        · next own => exact ⟨log, List.mem_cons_self, own, read⟩
        · cases read
    · obtain ⟨other, member, own, read⟩ := ih found
      exact ⟨other, List.mem_cons_of_mem _ member, own, read⟩

omit [TrackRuntime] in
theorem findFrom_eq_none {index : Nat} {logs : List Value} :
    findFrom userOpHash index logs = none ↔
      ∀ log ∈ logs, isOwnEvent userOpHash log = true → readEvent log = none := by
  induction logs generalizing index with
  | nil => simp [findFrom]
  | cons log _ ih =>
    rw [findFrom, List.forall_mem_cons, ← @ih (index + 1)]
    by_cases own : isOwnEvent userOpHash log = true
    · cases read : readEvent log with
      | none => simp [own]
      | some => simp [own]
    · simp [own]

theorem findInLogs_eq_landed {logsJson txHash : String} {success : Bool}
    (found : findInLogs logsJson userOpHash = .landed txHash success) :
    ∃ logs log, logArray logsJson = some logs ∧ log ∈ logs ∧ isOwnEvent userOpHash log = true := by
  unfold findInLogs at found
  cases read : logArray logsJson with
  | none =>
    rw [read] at found
    cases found
  | some logs =>
    simp only [read] at found
    cases event : findInLogArray logs userOpHash with
    | none =>
      rw [event] at found
      cases found
    | some =>
      obtain ⟨log, member, own, _⟩ := findFrom_eq_some event
      exact ⟨logs, log, rfl, member, own⟩

inductive TrackShellResult.ShowsFailure (key : String) : TrackShellResult Time → Prop where
  | receiptFailed {userOpHash txHash : String} {nowMs : Time} (same : normalize userOpHash = key) :
      ShowsFailure key (.receiptFailed userOpHash txHash nowMs)
  | receiptWithLogs {userOpHash txHash : String} {nowMs : Time} {logs : List TrustReceiptLog}
      (same : normalize userOpHash = key) (failed : opExecutionFailed logs userOpHash = true) :
      ShowsFailure key (.receiptWithLogs userOpHash txHash nowMs logs)
  | opEvent {userOpHash logsJson : String} {nowMs : Time} {answer : OpEventAnswer}
      {logs : List Value} {log : Value} (same : normalize userOpHash = key)
      (given : answer.logsJson = some logsJson) (read : logArray logsJson = some logs)
      (member : log ∈ logs) (own : isOwnEvent key log = true) :
      ShowsFailure key (.opEvent userOpHash nowMs answer)
  | txReceipt {userOpHash : String} {nowMs : Time} {receiptJson : Option String}
      {logs : List Value} {log : Value} (same : normalize userOpHash = key)
      (read : receiptLogs receiptJson = some logs) (member : log ∈ logs)
      (own : isOwnEvent key log = true) :
      ShowsFailure key (.txReceipt userOpHash nowMs receiptJson)

section Handlers

variable [Clock Time]

/-- What an entry is when the relay's word on it is taken. -/
structure Noted (answer : StatusAnswer) (before after : Entry Time) : Prop where
  relayTxHash : after.relayTxHash = (answer.txHash.filter (· ≠ "") <|> before.relayTxHash)
  acknowledged : after.acknowledged = before.acknowledged
  posting : after.posting = before.posting
  relayRejected : after.relayRejected = before.relayRejected
  notFoundStreak : after.notFoundStreak = before.notFoundStreak
  status : after.status = before.status
  find : after.find = before.find
  pastGrace : ∀ nowMs, after.pastGrace nowMs = before.pastGrace nowMs
  forgottenSinceMs : after.forgottenSinceMs =
    if answer.status = .notFound then before.forgottenSinceMs else none
  forgottenStreak : after.forgottenStreak =
    if answer.status = .notFound then before.forgottenStreak else 0

omit [TrackRuntime] in
theorem noteStatus_noted (entry : Entry Time) (answer : StatusAnswer) (nowMs : Time) :
    Noted answer entry (entry.noteStatus answer nowMs) := by
  have heard : ∀ (before entry : Entry Time) status stage last, Noted answer before entry →
      Noted answer before { entry.heard status stage nowMs with lastStatus := last } := by
    intro before entry status stage last noted
    unfold Entry.heard
    split
    · exact { noted with }
    · exact { noted with }
  unfold Entry.noteStatus
  dsimp only
  apply heard
  by_cases unknown : answer.status = .notFound
  · simp only [unknown, if_true, reduceCtorEq, or_self, if_false]
    split <;> constructor <;> first | rfl | exact fun _ => rfl | simp [unknown]
  · simp only [unknown, if_false]
    split <;> split <;> constructor <;> first | rfl | exact fun _ => rfl | simp [unknown]

/-- The relay's word, taken by the entry of an operation. -/
def Entry.taking (entry : Entry Time) (answer : StatusAnswer) (nowMs : Time) : Entry Time :=
  { entry with statusInFlight := false }.noteStatus answer nowMs

omit [TrackRuntime] in
theorem taking_noted (entry : Entry Time) (answer : StatusAnswer) (nowMs : Time) :
    Noted answer entry (entry.taking answer nowMs) :=
  { noteStatus_noted { entry with statusInFlight := false } answer nowMs with }

/-- What an answer ends an operation as, and why. -/
inductive Verdict (key : String) (entry : Entry Time) : TrackShellResult Time → EntryStatus → Prop where
  | confirmed {result : TrackShellResult Time} {txHash : String} :
      Verdict key entry result (.confirmed txHash)
  | failed {result : TrackShellResult Time} {txHash : String} (shows : result.ShowsFailure key) :
      Verdict key entry result (.failed txHash)
  | refused {userOpHash : String} {answer : StatusAnswer} {nowMs : Time}
      (rejected : answer.status = .rejected)
      (unnamed : (entry.taking answer nowMs).relayTxHash = none) :
      Verdict key entry (.status userOpHash answer nowMs) .rejected
  | unlanded {userOpHash mined named : String} {nowMs : Time} {receiptJson : Option String}
      {logs : List Value} (rejected : entry.relayRejected = true)
      (relayTxHash : entry.relayTxHash = some named) (of_tx : minedTx receiptJson = some mined)
      (same : eqIgnoreAsciiCase mined named = true) (read : receiptLogs receiptJson = some logs)
      (without : findInLogArray logs key = none) :
      Verdict key entry (.txReceipt userOpHash nowMs receiptJson) .rejected
  | neverSent {userOpHash : String} {answer : StatusAnswer} {nowMs : Time}
      (notFound : answer.status = .notFound)
      (silent : (((entry.taking answer nowMs).countMissed nowMs).countForgotten nowMs).neverSent
        nowMs = true) :
      Verdict key entry (.status userOpHash answer nowMs) .notSent

omit [TrackRuntime] in
theorem counted_status (entry : Entry Time) (nowMs : Time) :
    ((entry.countMissed nowMs).countForgotten nowMs).status = entry.status := by
  unfold Entry.countForgotten Entry.countMissed
  split <;> split <;> rfl

variable {entry : Entry Time}

variable {nowMs : Time}

theorem onStatus_verdict
    {answer : StatusAnswer} (live : entry.status.isTerminal = false)
    (ended : (entry.onStatus answer nowMs).1.status.isTerminal = true) :
    Verdict key entry (.status userOpHash answer nowMs) (entry.onStatus answer nowMs).1.status := by
  have going : ({ entry with statusInFlight := false } : Entry Time).status.isTerminal ≠ true := by
    simp [live]
  have still : (entry.taking answer nowMs).status.isTerminal = false := by
    rw [(taking_noted entry answer nowMs).status]
    exact live
  unfold Entry.onStatus at ended ⊢
  simp only [if_neg going] at ended ⊢
  split
  · next rejected =>
      rw [if_pos rejected] at ended
      split
      · next named =>
          rw [if_pos named] at ended
          exact absurd ended (Bool.eq_false_iff.mp still)
      · next unnamed => exact .refused rejected (Option.not_isSome_iff_eq_none.mp unnamed)
  · next other =>
      rw [if_neg other] at ended
      split
      · next notFound =>
          rw [if_pos notFound] at ended
          unfold Entry.onNotFound at ended ⊢
          dsimp only at ended ⊢
          split
          · next silent => exact .neverSent notFound silent
          · next quiet =>
              rw [if_neg quiet] at ended
              have same := counted_status (entry.taking answer nowMs) nowMs
              have ended_taking : (entry.taking answer nowMs).status.isTerminal = true := by
                rw [← same]
                exact ended
              rw [still] at ended_taking
              cases ended_taking
      · next known =>
          rw [if_neg known] at ended
          exact absurd ended (Bool.eq_false_iff.mp still)

/-- The receipt of the bundle's transaction is read. -/
def Entry.txReceiptRead (entry : Entry Time) (nowMs : Time) : Entry Time :=
  { entry with
    txReceiptInFlight := false, lastTxReceiptMs := some (entry.lastTxReceiptMs.getD nowMs) }

omit [Clock Time] in
theorem onTxReceipt_eq (entry : Entry Time) (key : String) (nowMs : Time)
    (receiptJson : Option String) :
    entry.onTxReceipt key nowMs receiptJson =
      let read := entry.txReceiptRead nowMs
      if entry.status.isTerminal then (read, .reply [])
      else
        match receiptLogs receiptJson with
        | none => (read, .reply [.render])
        | some logs =>
          match findInLogArray logs key with
          | none =>
            if entry.relayRejected && (minedTx receiptJson).any fun mined =>
                entry.relayTxHash.any (eqIgnoreAsciiCase mined) then
              ({ read with status := .rejected },
                .reply (failRecords entry.recordIds none .refused))
            else (read, .reply [.render])
          | some event =>
            let own := ownLogs logs event.index
            if event.success && !safeExecutionFailed own then
              let moved := TrackRuntime.provenMoves own key
              { read with moved := moved }.onLanded key event.txHash true moved
            else read.onLanded key event.txHash false none :=
  rfl

theorem onTxReceipt_verdict {receiptJson : Option String} (same : normalize userOpHash = key)
    (live : entry.status.isTerminal = false)
    (ended : (entry.onTxReceipt key nowMs receiptJson).1.status.isTerminal = true) :
    Verdict key entry (.txReceipt userOpHash nowMs receiptJson)
      (entry.onTxReceipt key nowMs receiptJson).1.status := by
  have still : (entry.txReceiptRead nowMs).status.isTerminal ≠ true := Bool.eq_false_iff.mp live
  rw [onTxReceipt_eq] at ended ⊢
  simp only [if_neg (Bool.eq_false_iff.mp live)] at ended ⊢
  cases read : receiptLogs receiptJson with
  | none =>
    rw [read] at ended
    exact absurd ended still
  | some logs =>
    simp only [read] at ended ⊢
    cases found : findInLogArray logs key with
    | none =>
      simp only [found] at ended ⊢
      split
      · next unlanded =>
          simp only [Bool.and_eq_true, Option.any_eq_true] at unlanded
          obtain ⟨rejected, mined, of_tx, named, relayTxHash, named_tx⟩ := unlanded
          exact .unlanded rejected relayTxHash of_tx named_tx read found
      · next unproven =>
          rw [if_neg unproven] at ended
          exact absurd ended still
    | some =>
      dsimp only
      obtain ⟨log, member, own, _⟩ := findFrom_eq_some found
      split
      · exact .confirmed
      · exact .failed (.txReceipt same read member own)

theorem onOpEvent_verdict {answer : OpEventAnswer} (same : normalize userOpHash = key)
    (live : entry.status.isTerminal = false)
    (ended : (entry.onOpEvent key nowMs answer).1.status.isTerminal = true) :
    Verdict key entry (.opEvent userOpHash nowMs answer)
      (entry.onOpEvent key nowMs answer).1.status := by
  -- a scan that goes on makes no verdict
  have scans : ∀ next : Entry Time, next.status = entry.status →
      ¬(continueScan key next nowMs).1.status.isTerminal = true := by
    intro next status
    have kept := (kept_continueScan next key nowMs).1
    rw [kept.live (by rw [status]; exact live)]
    exact Bool.false_ne_true
  have noted : ∀ (entry : Entry Time) head, (entry.noteHead head).status = entry.status := by
    intro entry head
    cases head <;> rfl
  unfold Entry.onOpEvent at ended ⊢
  split
  · next idle =>
      simp only [idle] at ended
      exact absurd ended (Bool.eq_false_iff.mp live)
  · next window =>
      simp only [window] at ended ⊢
      have status := noted { entry with find.inFlight := none } answer.headBlock
      generalize Entry.noteHead { entry with find.inFlight := none } answer.headBlock = head
        at status ended ⊢
      have still : ¬head.status.isTerminal = true := by
        rw [status]
        exact Bool.eq_false_iff.mp live
      simp only [if_neg still] at ended ⊢
      split
      · next =>
          simp only at ended
          unfold Entry.onWindow at ended ⊢
          cases given : answer.logsJson with
          | some logsJson =>
            simp only [given] at ended ⊢
            cases found : findInLogs logsJson key with
            | landed _ success =>
              cases success with
              | true => exact .confirmed
              | false =>
                obtain ⟨logs, log, read, member, own⟩ := findInLogs_eq_landed found
                exact .failed (.opEvent same given read member own)
            | nothing =>
              simp only [found] at ended
              exact absurd ended (scans _ status)
            | unreadable =>
              simp only [found] at ended
              exact absurd ended still
          | none =>
            simp only [given] at ended
            split at ended
            · exact absurd ended (scans _ status)
            · exact absurd ended still
      · next other =>
          split at ended
          · next first last => exact absurd rfl (other first last)
          · refine absurd ended (scans _ ?_)
            unfold Entry.anchorScan
            split <;> exact status

theorem handle_verdict {result : TrackShellResult Time}
    (target : result.target = some key) (live : entry.status.isTerminal = false)
    (ended : (result.handle key entry).1.status.isTerminal = true) :
    Verdict key entry result (result.handle key entry).1.status := by
  have going : ∀ nowMs, ¬(entry.receiptRead nowMs).status.isTerminal = true :=
    fun _ => Bool.eq_false_iff.mp live
  cases result with
  | clock | recordsLoaded | recordsPatched | notified => cases target
  | receiptPending | receiptUnreachable | statusUnavailable =>
    exact absurd ended (Bool.eq_false_iff.mp live)
  | receipt _ _ nowMs =>
    simp only [TrackShellResult.handle, Entry.onReceipt, if_neg (going nowMs)]
    exact .confirmed
  | receiptFailed _ _ nowMs =>
    simp only [TrackShellResult.handle, Entry.onReceiptFailed, if_neg (going nowMs)]
    exact .failed (.receiptFailed (Option.some.inj target))
  | receiptWithLogs _ _ nowMs =>
    simp only [TrackShellResult.handle]
    split
    · next failed =>
        simp only [Entry.onReceiptFailed, if_neg (going nowMs)]
        exact .failed (.receiptWithLogs (Option.some.inj target) failed)
    · simp only [Entry.onReceipt, if_neg (going nowMs)]
      exact .confirmed
  | status => exact onStatus_verdict live ended
  | opEvent => exact onOpEvent_verdict (Option.some.inj target) live ended
  | txReceipt =>
    exact onTxReceipt_verdict (Option.some.inj target) live ended

theorem handle_final {key : String} {result : TrackShellResult Time}
    (terminal : entry.status.isTerminal = true) :
    (result.handle key entry).1.status = entry.status ∧
      (result.handle key entry).2.updates = [] := by
  have read : ∀ nowMs, (entry.receiptRead nowMs).status.isTerminal = true := fun _ => terminal
  cases result with
  | clock | recordsLoaded | recordsPatched | notified | receiptPending | receiptUnreachable
  | statusUnavailable => exact ⟨rfl, rfl⟩
  | receipt _ _ nowMs =>
    simp only [TrackShellResult.handle, Entry.onReceipt, if_pos (read nowMs)]
    exact ⟨rfl, rfl⟩
  | receiptFailed _ _ nowMs =>
    simp only [TrackShellResult.handle, Entry.onReceiptFailed, if_pos (read nowMs)]
    exact ⟨rfl, rfl⟩
  | receiptWithLogs _ _ nowMs =>
    simp only [TrackShellResult.handle]
    split
    · simp only [Entry.onReceiptFailed, if_pos (read nowMs)]
      exact ⟨rfl, rfl⟩
    · simp only [Entry.onReceipt, if_pos (read nowMs)]
      exact ⟨rfl, rfl⟩
  | status =>
    simp only [TrackShellResult.handle, Entry.onStatus, if_pos terminal]
    exact ⟨trivial, rfl⟩
  | txReceipt =>
    simp only [TrackShellResult.handle, onTxReceipt_eq, if_pos terminal]
    exact ⟨rfl, rfl⟩
  | opEvent =>
    have noted : ∀ (entry : Entry Time) head, (entry.noteHead head).status = entry.status := by
      intro entry head
      cases head <;> rfl
    simp only [TrackShellResult.handle, Entry.onOpEvent]
    split
    · exact ⟨rfl, rfl⟩
    · rw [if_pos (by rw [noted]; exact terminal)]
      exact ⟨noted _ _, rfl⟩

/-- An entry's fields say what was said of its operation. -/
structure Follows (entry : Entry Time) (said : Said Time) : Prop where
  acknowledged : entry.acknowledged = said.acknowledged
  posting : entry.posting = said.posting
  named : entry.relayTxHash = said.named
  rejected : entry.relayRejected = true → said.rejected = true
  missed : entry.notFoundStreak ≤ said.missed
  forgottenSince : entry.forgottenSinceMs = said.forgottenSince
  forgotten : entry.forgottenStreak = said.forgotten
  remembered : entry.forgottenSinceMs = none → entry.forgottenStreak = 0

/-- Nothing was said of the operation, and it has no verdict that it had not. -/
structure Unsaid (before after : Entry Time) : Prop where
  acknowledged : after.acknowledged = before.acknowledged
  posting : after.posting = before.posting
  relayTxHash : after.relayTxHash = before.relayTxHash
  relayRejected : after.relayRejected = before.relayRejected
  notFoundStreak : after.notFoundStreak = before.notFoundStreak
  forgottenSinceMs : after.forgottenSinceMs = before.forgottenSinceMs
  forgottenStreak : after.forgottenStreak = before.forgottenStreak

namespace Unsaid

variable {before middle after : Entry Time} {said : Said Time}

omit [TrackRuntime] [Clock Time] in
theorem of_kept (kept : Kept before after) : Unsaid before after :=
  { kept with }

omit [TrackRuntime] [Clock Time] in
theorem follows (unsaid : Unsaid before after) (follows : Follows before said) :
    Follows after said where
  acknowledged := unsaid.acknowledged.trans follows.acknowledged
  posting := unsaid.posting.trans follows.posting
  named := unsaid.relayTxHash.trans follows.named
  rejected := by
    rw [unsaid.relayRejected]
    exact follows.rejected
  missed := by
    rw [unsaid.notFoundStreak]
    exact follows.missed
  forgottenSince := unsaid.forgottenSinceMs.trans follows.forgottenSince
  forgotten := unsaid.forgottenStreak.trans follows.forgotten
  remembered := by
    rw [unsaid.forgottenSinceMs, unsaid.forgottenStreak]
    exact follows.remembered

omit [TrackRuntime] [Clock Time] in
theorem trans (first : Unsaid before middle) (second : Unsaid middle after) :
    Unsaid before after where
  acknowledged := second.acknowledged.trans first.acknowledged
  posting := second.posting.trans first.posting
  relayTxHash := second.relayTxHash.trans first.relayTxHash
  relayRejected := second.relayRejected.trans first.relayRejected
  notFoundStreak := second.notFoundStreak.trans first.notFoundStreak
  forgottenSinceMs := second.forgottenSinceMs.trans first.forgottenSinceMs
  forgottenStreak := second.forgottenStreak.trans first.forgottenStreak

end Unsaid

omit [TrackRuntime] [Clock Time] in
theorem mergeRecordId_unsaid (entry : Entry Time) (id : String) :
    Unsaid entry (entry.mergeRecordId id) := by
  unfold Entry.mergeRecordId
  split <;> constructor <;> rfl

omit [TrackRuntime] [Clock Time] in
theorem mergeSubmitFacts_unsaid (entry : Entry Time) (maybeSent : Bool)
    (submitBlock : Option Nat) : Unsaid entry (entry.mergeSubmitFacts maybeSent submitBlock) := by
  unfold Entry.mergeSubmitFacts
  dsimp only
  split
  · split <;> constructor <;> rfl
  · constructor <;> rfl

omit [Clock Time] in
theorem mergeSender_unsaid (entry : Entry Time) (sender : Option String) :
    Unsaid entry (entry.mergeSender sender) := by
  unfold Entry.mergeSender
  split <;> constructor <;> rfl

/-- What an answer says of its operation, to the entry it is about. -/
def Said.hears (said : Said Time) (entry : Entry Time) : TrackShellResult Time → Said Time
  | .status _ answer nowMs => said.heard answer (entry.pastGrace nowMs) nowMs
  | _ => said

omit [TrackRuntime] in
theorem counted_follows {entry taking : Entry Time} {said : Said Time} {answer : StatusAnswer} (follows : Follows entry said) (noted : Noted answer entry taking)
    (notFound : answer.status = .notFound) :
    Follows ((taking.countMissed nowMs).countForgotten nowMs)
      (said.heard answer (entry.pastGrace nowMs) nowMs) := by
  have named : taking.relayTxHash = (answer.txHash.filter (· ≠ "") <|> said.named) := by
    rw [noted.relayTxHash, follows.named]
  have acknowledged := noted.acknowledged.trans follows.acknowledged
  have posting := noted.posting.trans follows.posting
  have missed : taking.notFoundStreak ≤ said.missed := by
    rw [noted.notFoundStreak]
    exact follows.missed
  have since : taking.forgottenSinceMs = said.forgottenSince := by
    rw [noted.forgottenSinceMs, if_pos notFound, follows.forgottenSince]
  have forgotten : taking.forgottenStreak = said.forgotten := by
    rw [noted.forgottenStreak, if_pos notFound, follows.forgotten]
  have rejected : taking.relayRejected = true → said.rejected = true := by
    rw [noted.relayRejected]
    exact follows.rejected
  have remembered : taking.forgottenSinceMs = none → taking.forgottenStreak = 0 := by
    rw [noted.forgottenSinceMs, noted.forgottenStreak, if_pos notFound, if_pos notFound]
    exact follows.remembered
  have grace := noted.pastGrace nowMs
  unfold Said.heard
  simp only [notFound, ne_eq, not_true_eq_false, if_false]
  generalize entry.pastGrace nowMs = past at grace ⊢
  generalize (answer.txHash.filter (· ≠ "") <|> said.named) = naming at named ⊢
  have same : Follows taking { said with named := naming } :=
    ⟨acknowledged, posting, named, rejected, missed, since, forgotten, remembered⟩
  have counted_same : taking.inDoubt = false ∨ past = false →
      taking.countMissed nowMs = taking := by
    intro quiet
    unfold Entry.countMissed
    rw [grace]
    rcases quiet with quiet | quiet <;> simp [quiet]
  cases past with
  | false =>
    rw [counted_same (.inr rfl)]
    have known : taking.isForgotten nowMs = false := by simp [Entry.isForgotten, grace]
    simp only [Entry.countForgotten, known, Bool.not_false, if_true, Bool.false_eq_true, if_false]
    exact same
  | true =>
    simp only [Bool.not_true, Bool.false_eq_true, if_false]
    cases shown : said.acknowledged with
    | false =>
      have silent : taking.acknowledged = false := acknowledged.trans shown
      simp only [Bool.not_false, if_true]
      have kept : ∀ counted : Entry Time, counted.acknowledged = false →
          counted.countForgotten nowMs = counted := by
        intro counted silent
        simp [Entry.countForgotten, Entry.isForgotten, silent]
      rw [kept _ (by unfold Entry.countMissed; split <;> exact silent)]
      unfold Entry.countMissed
      split
      · exact { same with acknowledged := silent, missed := Nat.succ_le_succ missed }
      · exact { same with acknowledged := silent, missed := Nat.le_succ_of_le missed }
    | true =>
      have taken : taking.acknowledged = true := acknowledged.trans shown
      rw [counted_same (.inl (by simp [Entry.inDoubt, taken]))]
      have unknown : taking.isForgotten nowMs = (naming.isNone && !said.posting) := by
        simp [Entry.isForgotten, Entry.inDoubt, taken, named, posting, grace]
      unfold Entry.countForgotten
      rw [unknown]
      simp only [Bool.not_true, Bool.false_eq_true, if_false]
      split
      · refine { same with
          acknowledged := taken, forgottenSince := ?_, forgotten := ?_, remembered := nofun }
        · exact congrArg (fun since => some (Option.getD since nowMs)) since
        · exact congrArg Nat.succ forgotten
      · exact { same with acknowledged := taken }

omit [TrackRuntime] in
theorem onStatus_follows {said : Said Time} {answer : StatusAnswer} (going : entry.status.isTerminal = false) (follows : Follows entry said)
    (live : (entry.onStatus answer nowMs).1.status.isTerminal = false) :
    Follows (entry.onStatus answer nowMs).1
      (said.heard answer (entry.pastGrace nowMs) nowMs) := by
  have noted := taking_noted entry answer nowMs
  have unended : ¬({ entry with statusInFlight := false } : Entry Time).status.isTerminal = true := by
    simp [going]
  -- any other word shows that the relay has the operation
  have shown : answer.status ≠ .notFound → ∀ rejected : Bool,
      (rejected = true → said.rejected = true ∨ answer.status = .rejected) →
      Follows
        { entry.taking answer nowMs with
          acknowledged := true, notFoundStreak := 0, relayRejected := rejected }
        (said.heard answer (entry.pastGrace nowMs) nowMs) := by
    intro known rejected refused
    unfold Said.heard
    rw [if_pos known]
    constructor
    case acknowledged => rfl
    case posting => exact noted.posting.trans follows.posting
    case named =>
      rw [← follows.named]
      exact noted.relayTxHash
    case rejected =>
      intro is_rejected
      simpa using refused is_rejected
    case missed => exact Nat.le_refl 0
    case forgottenSince => simp [noted.forgottenSinceMs, known, Said.shown]
    case forgotten => simp [noted.forgottenStreak, known, Said.shown]
    case remembered => simp [noted.forgottenStreak, known]
  unfold Entry.onStatus at live ⊢
  simp only [if_neg unended] at live ⊢
  split
  · next rejected =>
      rw [if_pos rejected] at live
      split
      · exact shown (by rw [rejected]; decide) true fun _ => .inr rejected
      · next unnamed =>
          rw [if_neg unnamed] at live
          cases live
  · next other =>
      rw [if_neg other] at live
      split
      · next notFound =>
          rw [if_pos notFound] at live
          unfold Entry.onNotFound at live ⊢
          dsimp only at live ⊢
          split
          · next silent =>
              rw [if_pos silent] at live
              cases live
          · exact counted_follows follows noted notFound
      · next known =>
          apply shown known
          intro rejected
          change (entry.taking answer nowMs).relayRejected = true at rejected
          rw [noted.relayRejected] at rejected
          exact .inl (follows.rejected rejected)

omit [Clock Time] in
theorem onTxReceipt_unsaid {receiptJson : Option String} (going : entry.status.isTerminal = false)
    (live : (entry.onTxReceipt key nowMs receiptJson).1.status.isTerminal = false) :
    Unsaid entry (entry.onTxReceipt key nowMs receiptJson).1 := by
  rw [onTxReceipt_eq] at live ⊢
  simp only [if_neg (Bool.eq_false_iff.mp going)] at live ⊢
  cases read : receiptLogs receiptJson with
  | none => constructor <;> rfl
  | some logs =>
    simp only [read] at live ⊢
    cases found : findInLogArray logs key with
    | none =>
      simp only [found] at live ⊢
      split
      · next unlanded =>
          rw [if_pos unlanded] at live
          cases live
      · constructor <;> rfl
    | some =>
      simp only [found] at live
      split at live <;> cases live

omit [TrackRuntime] in
theorem onOpEvent_unsaid [TrackRuntime] {answer : OpEventAnswer}
    (live : (entry.onOpEvent key nowMs answer).1.status.isTerminal = false) :
    Unsaid entry (entry.onOpEvent key nowMs answer).1 := by
  have noted : ∀ (entry : Entry Time) head, Unsaid entry (entry.noteHead head) := by
    intro entry head
    cases head <;> constructor <;> rfl
  have scans : ∀ next : Entry Time, Unsaid next (continueScan key next nowMs).1 :=
    fun next => .of_kept (kept_continueScan next key nowMs).1
  unfold Entry.onOpEvent at live ⊢
  split
  · exact .of_kept (.refl _)
  · next window =>
      simp only [window] at live ⊢
      have head : Unsaid entry
          (Entry.noteHead { entry with find.inFlight := none } answer.headBlock) :=
        { noted { entry with find.inFlight := none } answer.headBlock with }
      generalize Entry.noteHead { entry with find.inFlight := none } answer.headBlock = head_entry
        at head live ⊢
      split
      · exact head
      · next going =>
          rw [if_neg going] at live
          apply head.trans
          split
          · next =>
              simp only at live
              unfold Entry.onWindow at live ⊢
              cases given : answer.logsJson with
              | some logsJson =>
                simp only [given] at live ⊢
                cases found : findInLogs logsJson key with
                | landed _ success =>
                  simp only [found] at live
                  cases success <;> cases live
                | nothing =>
                  apply Unsaid.trans _ (scans _)
                  constructor <;> rfl
                | unreadable => exact .of_kept (.refl _)
              | none =>
                dsimp only
                split
                · apply Unsaid.trans _ (scans _)
                  constructor <;> rfl
                · exact .of_kept (.refl _)
          · apply Unsaid.trans _ (scans _)
            unfold Entry.anchorScan
            split <;> constructor <;> rfl

theorem handle_follows {result : TrackShellResult Time}
    {said : Said Time} (target : result.target = some key)
    (follows : entry.status.isTerminal = false → Follows entry said)
    (live : (result.handle key entry).1.status.isTerminal = false) :
    Follows (result.handle key entry).1 (said.hears entry result) := by
  have going : entry.status.isTerminal = false := by
    by_contra terminal
    rw [(handle_final (by simpa using terminal)).1] at live
    exact terminal live
  have unended : ∀ nowMs, ¬(entry.receiptRead nowMs).status.isTerminal = true :=
    fun _ => Bool.eq_false_iff.mp going
  cases result with
  | clock | recordsLoaded | recordsPatched | notified => cases target
  | receiptPending | receiptUnreachable | statusUnavailable =>
    refine Unsaid.follows ?_ (follows going)
    constructor <;> rfl
  | receipt _ _ nowMs =>
    simp only [TrackShellResult.handle, Entry.onReceipt, if_neg (unended nowMs)] at live
    cases live
  | receiptFailed _ _ nowMs =>
    simp only [TrackShellResult.handle, Entry.onReceiptFailed, if_neg (unended nowMs)] at live
    cases live
  | receiptWithLogs _ _ nowMs =>
    simp only [TrackShellResult.handle] at live
    split at live
    · simp only [Entry.onReceiptFailed, if_neg (unended nowMs)] at live
      cases live
    · simp only [Entry.onReceipt, if_neg (unended nowMs)] at live
      cases live
  | status => exact onStatus_follows going (follows going) live
  | opEvent => exact (onOpEvent_unsaid live).follows (follows going)
  | txReceipt =>
    exact (onTxReceipt_unsaid going live).follows (follows going)

end Handlers

section Steps

variable [Clock Time]

/-- The entry of an operation, as an answer's clock stamps it. -/
def TrackShellResult.stamps (result : TrackShellResult Time) (entry : Entry Time) : Entry Time :=
  match result.clockOf with
  | some nowMs => entry.stamp nowMs
  | none => entry

namespace Said

/-- A life of an operation begins: it had no entry that goes on, and now has one. -/
def begins (key : String) (before after : Model Time) : Bool :=
  (before.lookup key).all (·.status.isTerminal) && (after.lookup key).any (! ·.status.isTerminal)

/-- What was said of an operation, after one more event. -/
def observe (key : String) (said : Said Time) (before : Model Time) (event : Event Time)
    (after : Model Time) : Said Time :=
  let said := if begins key before after then nothing else said
  if event.key ≠ some key then said
  else
    match event with
    | .submitted submission => said.handed submission
    | .withdrawn _ _ => { said with posting := false }
    | .shellCompleted attempt result =>
      if attempt = before.attempt then
        ((before.lookup key).map fun entry => said.hears (result.stamps entry) result).getD said
      else said
    | .tick | .appResumed | .homeFocused | .abort _ => said

end Said

/-- The tracker, watched for what is said of one operation. -/
def heardTracker (Time : Type) [Clock Time] (key : String) :
    Process (Model Time × Said Time) (Event Time) (List TrackEffect) :=
  (tracker Time).watching .nothing fun said before event after _ =>
    said.observe key before event after

/-- A live entry says what was said of its operation. -/
def FollowsAt (key : String) (model : Model Time) (said : Said Time) : Prop :=
  ∀ entry, model.lookup key = some entry → entry.status.isTerminal = false → Follows entry said

/-- Nothing was said of an operation, but it may have been found among the pending records. -/
structure Unheard (key : String) (before after : Model Time) : Prop where
  resolved : ∀ later, after.lookup key = some later → later.status.isTerminal = true →
    ∃ earlier, before.lookup key = some earlier ∧ earlier.status = later.status
  lasting : ∀ earlier, before.lookup key = some earlier → earlier.status.isTerminal = true →
    ∃ later, after.lookup key = some later ∧ later.status = earlier.status
  gone : after.lookup key = none → before.lookup key = none
  live : ∀ later, after.lookup key = some later → later.status.isTerminal = false →
    (before.lookup key = none ∧ Follows later .nothing) ∨
      ∃ earlier, before.lookup key = some earlier ∧ earlier.status.isTerminal = false ∧
        Unsaid earlier later

namespace Unheard

variable {key : String} {before middle after : Model Time} {said : Said Time}

omit [TrackRuntime] [Clock Time] in
theorem of_kept (kept : KeptAt key before after) : Unheard key before after := by
  unfold KeptAt at kept
  constructor
  case resolved =>
    intro later found terminal
    rw [found] at kept
    generalize there : before.lookup key = left at kept
    cases kept with
    | @some earlier _ kept =>
      refine ⟨earlier, rfl, (kept.resolved ?_).symm⟩
      by_contra going
      rw [kept.live (by simpa using going)] at terminal
      cases terminal
  case lasting =>
    intro earlier found terminal
    rw [found] at kept
    generalize there : after.lookup key = right at kept
    cases kept with
    | some kept => exact ⟨_, rfl, kept.resolved terminal⟩
  case gone =>
    intro gone
    rw [gone] at kept
    generalize before.lookup key = left at kept
    cases kept
    rfl
  case live =>
    intro later found live
    rw [found] at kept
    generalize there : before.lookup key = left at kept
    cases kept with
    | @some earlier _ kept =>
      refine .inr ⟨earlier, rfl, ?_, .of_kept kept⟩
      by_contra terminal
      rw [kept.resolved (by simpa using terminal)] at live
      exact terminal live

omit [TrackRuntime] [Clock Time] in
theorem trans (first : Unheard key before middle) (second : Unheard key middle after) :
    Unheard key before after := by
  constructor
  case resolved =>
    intro later found terminal
    obtain ⟨between, found_between, same⟩ := second.resolved later found terminal
    obtain ⟨earlier, there, status⟩ :=
      first.resolved between found_between (by rw [same]; exact terminal)
    exact ⟨earlier, there, status.trans same⟩
  case lasting =>
    intro earlier found terminal
    obtain ⟨between, found_between, same⟩ := first.lasting earlier found terminal
    obtain ⟨later, there, status⟩ :=
      second.lasting between found_between (by rw [same]; exact terminal)
    exact ⟨later, there, status.trans same⟩
  case gone => exact fun gone => first.gone (second.gone gone)
  case live =>
    intro later found live
    rcases second.live later found live with ⟨absent, follows⟩ | ⟨between, found_between, going, same⟩
    · exact .inl ⟨first.gone absent, follows⟩
    · rcases first.live between found_between going with ⟨absent, follows⟩ | ⟨earlier, there, on, unsaid⟩
      · exact .inl ⟨absent, same.follows follows⟩
      · exact .inr ⟨earlier, there, on, unsaid.trans same⟩

omit [TrackRuntime] [Clock Time] in
theorem begins_eq_false {entry : Entry Time} (found : before.lookup key = some entry)
    (live : entry.status.isTerminal = false) : Said.begins key before after = false := by
  simp [Said.begins, found, live]

omit [TrackRuntime] [Clock Time] in
theorem followsAt (unheard : Unheard key before after) (follows : FollowsAt key before said) :
    FollowsAt key after (if Said.begins key before after then .nothing else said) := by
  intro later found live
  rcases unheard.live later found live with ⟨absent, new⟩ | ⟨earlier, there, going, unsaid⟩
  · rw [if_pos (by simp [Said.begins, absent, found, live])]
    exact new
  · rw [begins_eq_false there going]
    exact unsaid.follows (follows earlier there going)

variable {event : Event Time}

omit [Clock Time] in
theorem of_load (record : TrackPendingRecord Time) (key : String) (model : Model Time) :
    Unheard key model (model.load record) := by
  by_cases same : normalize record.userOpHash = key
  · subst same
    obtain ⟨next, found, status, _⟩ := lookup_load model record
    have is_next : (model.load record).lookup (normalize record.userOpHash) =
        some (((record.base model).mergeRecordId record.recordId).mergeSubmitFacts record.maybeSent
          record.submitBlock |>.mergeSender record.sender) := lookup_put_self _ _ _
    rw [is_next] at found
    cases found
    have unsaid : Unsaid (record.base model)
        (((record.base model).mergeRecordId record.recordId).mergeSubmitFacts record.maybeSent
          record.submitBlock |>.mergeSender record.sender) :=
      (mergeRecordId_unsaid _ _).trans
        ((mergeSubmitFacts_unsaid _ _ _).trans (mergeSender_unsaid _ _))
    constructor
    case resolved =>
      intro later found terminal
      rw [is_next] at found
      cases found
      rw [status] at terminal ⊢
      unfold TrackPendingRecord.base at terminal ⊢
      cases there : model.lookup (normalize record.userOpHash) with
      | none =>
        rw [there] at terminal
        cases terminal
      | some earlier => exact ⟨earlier, rfl, rfl⟩
    case lasting =>
      intro earlier there _
      refine ⟨_, is_next, status.trans ?_⟩
      rw [TrackPendingRecord.base, there]
      rfl
    case gone =>
      intro gone
      rw [is_next] at gone
      cases gone
    case live =>
      intro later found live
      rw [is_next] at found
      cases found
      rw [status] at live
      unfold TrackPendingRecord.base at unsaid live ⊢
      cases there : model.lookup (normalize record.userOpHash) with
      | none =>
        rw [there] at unsaid
        refine .inl ⟨rfl, unsaid.follows ?_⟩
        constructor
        case rejected => exact fun rejected => absurd rejected Bool.false_ne_true
        case remembered => exact fun _ => rfl
        all_goals rfl
      | some earlier =>
        rw [there] at unsaid live
        exact .inr ⟨earlier, rfl, live, unsaid⟩
  · exact of_kept (.of_eq (lookup_load_other model record same))

theorem of_recordsLoaded (key : String) (model : Model Time)
    (records : List (TrackPendingRecord Time)) (nowMs : Time) :
    Unheard key model (accept model (.recordsLoaded records nowMs)).1 := by
  have loads : ∀ (records : List (TrackPendingRecord Time)) (model : Model Time),
      Unheard key model (records.foldl Model.load model) := by
    intro records
    induction records with
    | nil => exact fun model => .of_kept (.of_eq rfl)
    | cons record _ ih => exact fun model => (of_load record key model).trans (ih _)
  have stamped : KeptAt key model
      { stampUnstamped model nowMs with reconcileInFlight := false } :=
    KeptAt.stamped key model nowMs
  exact ((of_kept stamped).trans (loads _ _)).trans (of_kept (.scheduled key _ nowMs))

end Unheard

def leavesNothingForgotten (submission : Submission) (model : Model Time) : Bool :=
  !submission.admitted || (submission.joins model).all fun entry =>
    entry.status.isTerminal || entry.forgottenSinceMs.isNone

variable {said : Said Time}

omit [Clock Time] in
theorem submit_follows {entry : Entry Time} (follows : Follows entry said)
    (live : entry.status.isTerminal = false) (submission : Submission) (fresh : Bool)
    (unforgotten : submission.admitted = true → entry.forgottenSinceMs = none) :
    Follows (entry.submit submission submission.posting fresh) (said.handed submission) := by
  have out : Follows (entry.posted submission.posting fresh)
      (if submission.posting then { said with posting := true, missed := 0 }
        else if said.posting then { said with posting := false, missed := 0 }
        else said) := by
    unfold Entry.posted
    cases submission.posting with
    | true =>
      simp only [if_true, live, Bool.false_eq_true, if_false]
      exact { follows with posting := rfl, missed := Nat.le_refl 0 }
    | false =>
      simp only [Bool.false_eq_true, if_false]
      rw [← follows.posting]
      cases posting : entry.posting with
      | true =>
        simp only [Bool.true_or, if_true]
        exact { follows with posting := rfl, missed := Nat.le_refl 0 }
      | false =>
        have quiet : said.posting = false := follows.posting.symm.trans posting
        simp only [Bool.false_or, Bool.false_eq_true, if_false]
        split
        · exact { follows with posting := quiet.symm, missed := Nat.zero_le _ }
        · exact follows
  have since : (entry.posted submission.posting fresh).forgottenSinceMs = entry.forgottenSinceMs := by
    unfold Entry.posted
    split
    · dsimp only
      split <;> rfl
    · split <;> rfl
  have merged : ∀ entry : Entry Time, Unsaid entry
      (((submission.recordIds.foldl Entry.mergeRecordId entry).mergeSubmitFacts submission.maybeSent
        submission.submitBlock).mergeSender submission.sender) := by
    intro entry
    have named : ∀ (ids : List String) (entry : Entry Time),
        Unsaid entry (ids.foldl Entry.mergeRecordId entry) := by
      intro ids
      induction ids with
      | nil => exact fun entry => .of_kept (.refl entry)
      | cons id _ ih =>
        intro entry
        exact (mergeRecordId_unsaid entry id).trans (ih _)
    exact (named submission.recordIds entry).trans ((mergeSubmitFacts_unsaid _ _ _).trans
      (mergeSender_unsaid _ _))
  unfold Said.handed Entry.submit
  dsimp only
  generalize (if submission.posting then { said with posting := true, missed := 0 }
    else if said.posting then { said with posting := false, missed := 0 }
    else said) = handed at out ⊢
  generalize entry.posted submission.posting fresh = posted at out since ⊢
  have same := (merged posted).follows out
  have still := (merged posted).forgottenSinceMs
  generalize ((submission.recordIds.foldl Entry.mergeRecordId posted).mergeSubmitFacts
    submission.maybeSent submission.submitBlock).mergeSender submission.sender = later at same still ⊢
  unfold Entry.acknowledge
  cases admitted : submission.admitted with
  | false => exact same
  | true =>
    have none_since : later.forgottenSinceMs = none := by
      rw [still, since]
      exact unforgotten admitted
    exact { same with
      acknowledged := rfl, missed := Nat.le_refl 0, forgottenSince := none_since
      forgotten := same.remembered none_since }

variable {model : Model Time}

theorem followsAt_submitted (follows : FollowsAt key model said) {submission : Submission}
    (same : normalize submission.userOpHash = key)
    (unforgotten : leavesNothingForgotten submission model = true) :
    FollowsAt key (submitted model submission).1
      (said.observe key model (.submitted submission) (submitted model submission).1) := by
  subst same
  obtain ⟨⟨next, found, kept⟩, _⟩ := lookup_submitted model submission
  have about : (Event.submitted submission : Event Time).key =
      some (normalize submission.userOpHash) := rfl
  intro later found_later live
  rw [found] at found_later
  cases found_later
  have going : (submission.base model).status.isTerminal = false := by
    by_contra terminal
    have ended : (submission.entry model).status.isTerminal = true := by
      rw [Submission.entry, status_submit]
      simpa using terminal
    rw [kept.resolved ended, ended] at live
    cases live
  simp only [Said.observe, about, ne_eq, not_true_eq_false, if_false]
  apply (Unsaid.of_kept kept).follows
  unfold Submission.entry
  unfold Submission.base at going ⊢
  unfold leavesNothingForgotten at unforgotten
  cases joined : submission.joins model with
  | some entry =>
    rw [joined] at going unforgotten
    have there := (Option.filter_eq_some_iff.mp joined).1
    rw [Unheard.begins_eq_false there going]
    apply submit_follows (follows entry there going) going
    intro admitted
    simp only [Option.getD_some] at going
    simpa [admitted, going] using unforgotten
  | none =>
    have ended : (model.lookup (normalize submission.userOpHash)).all (·.status.isTerminal) =
        true := by
      cases there : model.lookup (normalize submission.userOpHash) with
      | none => rfl
      | some =>
        have dead := isDead_of_joins_eq_none joined there
        simp only [Entry.isDead, Bool.or_eq_true, decide_eq_true_eq] at dead
        rcases dead with status | status <;> simp [status, EntryStatus.isTerminal]
    rw [if_pos (by simp [Said.begins, ended, found, live])]
    refine submit_follows ?_ rfl submission true fun _ => rfl
    constructor
    case rejected => exact fun rejected => absurd rejected Bool.false_ne_true
    case remembered => exact fun _ => rfl
    all_goals rfl

variable {event : Event Time}

theorem unheard_update (model : Model Time)
    (other : event.key ≠ some key) : Unheard key model (update model event).1 := by
  by_cases loads : ∃ attempt records nowMs, event = .shellCompleted attempt (.recordsLoaded records nowMs)
  · obtain ⟨attempt, records, nowMs, rfl⟩ := loads
    simp only [update]
    split
    · exact .of_recordsLoaded key model records nowMs
    · exact .of_kept (.of_eq rfl)
  · apply Unheard.of_kept
    apply keptAt_update model event other
    intro attempt records nowMs same
    exact loads ⟨attempt, records, nowMs, same⟩

omit [TrackRuntime] [Clock Time] in
theorem stamp_caughtUp (entry : Entry Time) (nowMs : Time) :
    (entry.stamp nowMs).find.caughtUp = entry.find.caughtUp := by
  have progress := (kept_stamp entry nowMs).progress
  simp only [FindScan.progress, Prod.mk.injEq] at progress
  simp [FindScan.caughtUp, progress]

omit [Clock Time] in
theorem lookup_withdrawn {recordIds : List String} {later : Entry Time}
    (found : (withdrawn model userOpHash recordIds).lookup (normalize userOpHash) = some later) :
    ∃ earlier, model.lookup (normalize userOpHash) = some earlier ∧
      later = { earlier with posting := false, recordIds := later.recordIds } := by
  unfold withdrawn at found
  dsimp only at found
  cases there : model.lookup (normalize userOpHash) with
  | none =>
    rw [there] at found
    rw [found] at there
    cases there
  | some earlier =>
    refine ⟨earlier, rfl, ?_⟩
    rw [there] at found
    dsimp only at found
    split at found
    · rw [lookup_put_self] at found
      cases found
      rfl
    · split at found
      · have gone : Keyed.get? (normalize userOpHash)
            (Keyed.erase (normalize userOpHash) model.entries) = none := Keyed.get?_erase_self _ _
        rw [Model.lookup] at found
        simp [gone] at found
      · rw [lookup_put_self] at found
        cases found
        rfl

theorem followsAt_step (follows : FollowsAt key model said)
    (unforgotten : ∀ submission, event = .submitted submission →
      normalize submission.userOpHash = key → leavesNothingForgotten submission model = true) :
    FollowsAt key (update model event).1 (said.observe key model event (update model event).1) := by
  by_cases about : event.key = some key
  · cases event with
    | tick | appResumed | homeFocused => cases about
    | submitted submission =>
      have same : normalize submission.userOpHash = key := Option.some.inj about
      exact followsAt_submitted follows same (unforgotten submission rfl same)
    | withdrawn userOpHash =>
      have same : normalize userOpHash = key := Option.some.inj about
      subst same
      intro later found live
      obtain ⟨earlier, there, shape⟩ := lookup_withdrawn found
      have going : earlier.status.isTerminal = false := by
        rw [shape] at live
        exact live
      simp only [Said.observe, about, ne_eq, not_true_eq_false, if_false,
        Unheard.begins_eq_false there going, Bool.false_eq_true]
      rw [shape]
      exact { follows earlier there going with posting := rfl }
    | abort userOpHash =>
      simp only [Said.observe, about, ne_eq, not_true_eq_false, if_false]
      exact (Unheard.of_kept (keptAt_abort model userOpHash key)).followsAt follows
    | shellCompleted _ result =>
      simp only [Said.observe, about, ne_eq, not_true_eq_false, if_false, update]
      split
      · obtain ⟨nowMs, clock, handled⟩ := accept_handled model about
        intro later found live
        cases there : model.lookup key with
        | none =>
          rw [(handled.absent there).1] at found
          cases found
        | some entry =>
          obtain ⟨next, found_next, kept, _⟩ := handled.present entry there
          rw [found_next] at found
          cases found
          have stamped := kept_stamp entry nowMs
          have going : (result.handle key (entry.stamp nowMs)).1.status.isTerminal = false := by
            by_contra terminal
            rw [kept.resolved (by simpa using terminal)] at live
            exact terminal live
          have alive : entry.status.isTerminal = false := by
            by_contra terminal
            have ended : (entry.stamp nowMs).status.isTerminal = true := by
              rw [stamped.resolved (by simpa using terminal)]
              simpa using terminal
            rw [(handle_final ended).1, ended] at going
            cases going
          rw [Unheard.begins_eq_false there alive]
          have stamps : result.stamps entry = entry.stamp nowMs := by
            simp [TrackShellResult.stamps, clock]
          simp only [Option.map_some, Option.getD_some, stamps, Bool.false_eq_true, if_false]
          apply (Unsaid.of_kept kept).follows
          apply handle_follows about _ going
          intro _
          exact (Unsaid.of_kept stamped).follows (follows entry there alive)
      · exact (Unheard.of_kept (.of_eq rfl)).followsAt follows
  · simp only [Said.observe, about, ne_eq, not_false_eq_true, if_true]
    exact (unheard_update model about).followsAt follows

/-- An operation comes to a status that it had not. -/
def Enters (key : String) (before after : Model Time) (status : EntryStatus) : Prop :=
  (∃ later, after.lookup key = some later ∧ later.status = status) ∧
    ∀ earlier, before.lookup key = some earlier → earlier.status ≠ status

omit [TrackRuntime] [Clock Time] in
theorem enters_of_pending {before after : Model Time} {earlier later : Entry Time}
    {status : EntryStatus} (there : before.lookup key = some earlier)
    (pending : earlier.status = .pending) (found : after.lookup key = some later)
    (is_status : later.status = status) (ended : status ≠ .pending) :
    Enters key before after status := by
  refine ⟨⟨later, found, is_status⟩, ?_⟩
  intro other same
  rw [there] at same
  cases same
  rw [pending]
  exact ended.symm

/-- A live operation comes to a verdict by an answer about it, and the answer has a reason. -/
theorem verdict_of_enters {status : EntryStatus} (terminal : status.isTerminal = true)
    (enters : Enters key model (update model event).1 status) :
    ∃ result nowMs entry, event = .shellCompleted model.attempt result ∧
      result.target = some key ∧ result.clockOf = some nowMs ∧ model.lookup key = some entry ∧
      entry.status.isTerminal = false ∧ Verdict key (entry.stamp nowMs) result status := by
  obtain ⟨⟨later, found, rfl⟩, new⟩ := enters
  -- a verdict that was there before is none that the operation comes to
  have old : (∃ earlier, model.lookup key = some earlier ∧ earlier.status = later.status) → False :=
    fun ⟨earlier, there, same⟩ => new earlier there same
  have unheard : Unheard key model (update model event).1 → False :=
    fun unheard => old (unheard.resolved later found terminal)
  by_cases about : event.key = some key
  · cases event with
    | tick | appResumed | homeFocused => cases about
    | submitted submission =>
      have same : normalize submission.userOpHash = key := Option.some.inj about
      subst same
      obtain ⟨⟨next, found_next, kept⟩, _⟩ := lookup_submitted model submission
      simp only [update] at found
      rw [found_next] at found
      cases found
      refine (old ?_).elim
      have ended : (submission.entry model).status.isTerminal = true := by
        by_contra going
        rw [kept.live (by simpa using going)] at terminal
        cases terminal
      have status := kept.resolved ended
      rw [Submission.entry, status_submit] at ended status
      unfold Submission.base at ended status
      cases joined : submission.joins model with
      | none =>
        rw [joined] at ended
        cases ended
      | some entry =>
        rw [joined] at status
        exact ⟨entry, (Option.filter_eq_some_iff.mp joined).1, status.symm⟩
    | withdrawn userOpHash =>
      have same : normalize userOpHash = key := Option.some.inj about
      subst same
      obtain ⟨earlier, there, shape⟩ := lookup_withdrawn found
      refine (old ⟨earlier, there, ?_⟩).elim
      rw [shape]
    | abort userOpHash => exact (unheard (.of_kept (keptAt_abort model userOpHash key))).elim
    | shellCompleted attempt result =>
      by_cases current : attempt = model.attempt
      · subst current
        have accepted : update model (.shellCompleted model.attempt result) =
            accept model result := if_pos rfl
        rw [accepted] at found
        obtain ⟨nowMs, clock, handled⟩ := accept_handled model about
        cases there : model.lookup key with
        | none =>
          rw [(handled.absent there).1] at found
          cases found
        | some entry =>
          obtain ⟨next, found_next, kept, _⟩ := handled.present entry there
          rw [found_next] at found
          cases found
          have stamped := kept_stamp entry nowMs
          have ended : (result.handle key (entry.stamp nowMs)).1.status.isTerminal = true := by
            by_contra going
            rw [kept.live (by simpa using going)] at terminal
            cases terminal
          rw [kept.resolved ended] at old ⊢
          have alive : entry.status.isTerminal = false := by
            by_contra resolved
            have is_terminal : entry.status.isTerminal = true := by simpa using resolved
            have same := stamped.resolved is_terminal
            have final := (@handle_final Time _ _ (entry.stamp nowMs) key result
              (by rw [same]; exact is_terminal)).1
            exact old ⟨entry, there, (final.trans same).symm⟩
          exact ⟨result, nowMs, entry, rfl, about, clock, rfl, alive,
            handle_verdict about (stamped.live alive) ended⟩
      · have stale : update model (.shellCompleted attempt result) = (model, []) := if_neg current
        refine (unheard ?_).elim
        rw [stale]
        exact .of_kept (.of_eq rfl)
  · exact (unheard (unheard_update model about)).elim

/-- The relay refused an operation, and what it named is not on chain. -/
inductive Refused (key : String) (said : Said Time) : TrackShellResult Time → Prop where
  | outright {userOpHash : String} {answer : StatusAnswer} {nowMs : Time}
      (rejected : answer.status = .rejected)
      (unnamed : (answer.txHash.filter (· ≠ "") <|> said.named) = none) :
      Refused key said (.status userOpHash answer nowMs)
  | unlanded {userOpHash mined named : String} {nowMs : Time} {receiptJson : Option String}
      {logs : List Value} (rejected : said.rejected = true) (bundle : said.named = some named)
      (of_tx : minedTx receiptJson = some mined) (same : eqIgnoreAsciiCase mined named = true)
      (read : receiptLogs receiptJson = some logs)
      (without : ∀ log ∈ logs, isOwnEvent key log = false) :
      Refused key said (.txReceipt userOpHash nowMs receiptJson)

/-- The relay was silent for long enough on an operation that it never showed it had, or on one
that it forgot. -/
structure NeverSent (said : Said Time) (pastGrace : Bool) (nowMs : Time) : Prop where
  posting : said.posting = false
  silent : (said.acknowledged = false ∧ notFoundConfirmations ≤ said.missed) ∨
    (said.acknowledged = true ∧ said.named = none ∧ pastGrace = true ∧
      notFoundConfirmations ≤ said.forgotten ∧
      ∃ since, said.forgottenSince = some since ∧ ms forgottenNotSentMs ≤ nowMs - since)

/-- A step declares nothing of an operation but with a reason, and takes no verdict back. -/
structure Earned (key : String) (said : Said Time) (before : Model Time) (event : Event Time)
    (after : Model Time) (effects : List TrackEffect) : Prop where
  failed : ∀ txHash, Enters key before after (.failed txHash) →
    ∃ attempt result, event = .shellCompleted attempt result ∧ result.ShowsFailure key
  rejected : Enters key before after .rejected →
    ∃ attempt result, event = .shellCompleted attempt result ∧ result.target = some key ∧
      Refused key said result
  notSent : Enters key before after .notSent →
    ∃ attempt userOpHash answer nowMs entry,
      event = .shellCompleted attempt (.status userOpHash answer nowMs) ∧
      normalize userOpHash = key ∧ answer.status = .notFound ∧
      before.lookup key = some entry ∧ entry.find.caughtUp = true ∧
      NeverSent (said.heard answer ((entry.stamp nowMs).pastGrace nowMs) nowMs)
        ((entry.stamp nowMs).pastGrace nowMs) nowMs
  answered : ∀ entry attempt result, before.lookup key = some entry →
    entry.status.isTerminal = true → event = .shellCompleted attempt result →
    (∃ later, after.lookup key = some later ∧ later.status = entry.status) ∧
      (event.key = some key → updates effects = [])
  replaced : ∀ entry later, before.lookup key = some entry → entry.status.isTerminal = true →
    after.lookup key = some later → later.status ≠ entry.status →
    (entry.status = .notSent ∨ entry.status = .rejected) ∧
      ∃ submission, event = .submitted submission ∧ normalize submission.userOpHash = key
  gone : ∀ entry, before.lookup key = some entry → after.lookup key = none →
    ∃ userOpHash recordIds, event = .withdrawn userOpHash recordIds ∧ normalize userOpHash = key

/-- A receipt of the bundle that the relay named for an operation it refused holds no event of the
operation that cannot be read, unless it holds one that can. -/
def Entry.readsEvents (entry : Entry Time) (key : String) (receiptJson : Option String) : Bool :=
  !(entry.relayRejected && (minedTx receiptJson).any fun mined =>
      entry.relayTxHash.any (eqIgnoreAsciiCase mined)) ||
    (receiptLogs receiptJson).all fun logs =>
      (findInLogArray logs key).isSome || !logs.any (isOwnEvent key)

/-- An event of an operation leaves no doubt on what was said of it. -/
def leavesNoDoubt (key : String) (event : Event Time) (watched : Model Time × Said Time) : Bool :=
  decide (event.key ≠ some key) ||
    match event with
    | .submitted submission => leavesNothingForgotten submission watched.1
    | .shellCompleted attempt (.txReceipt _ _ receiptJson) =>
      attempt != watched.1.attempt || (watched.1.lookup key).all fun entry =>
        entry.status.isTerminal || entry.readsEvents key receiptJson
    | _ => true

omit [TrackRuntime] in
theorem neverSent_of_follows {entry : Entry Time} {nowMs : Time}
    (follows : Follows entry said) (silent : entry.neverSent nowMs = true) :
    NeverSent said (entry.pastGrace nowMs) nowMs ∧ entry.find.caughtUp = true := by
  simp only [Entry.neverSent, Bool.or_eq_true, Bool.and_eq_true, Bool.not_eq_true',
    decide_eq_true_eq] at silent
  rcases silent with ⟨⟨⟨doubt, idle⟩, streak⟩, caughtUp⟩ | ⟨long, caughtUp⟩
  · refine ⟨⟨follows.posting.symm.trans idle, .inl ⟨?_, streak.trans follows.missed⟩⟩, caughtUp⟩
    rw [← follows.acknowledged]
    simp only [Entry.inDoubt, Bool.and_eq_true, Bool.not_eq_true'] at doubt
    exact doubt.1.1.2
  · simp only [Entry.forgottenLongEnough, Entry.isForgotten, Bool.and_eq_true, Bool.not_eq_true',
      Option.isNone_iff_eq_none, decide_eq_true_eq, Option.any_eq_true] at long
    obtain ⟨⟨⟨⟨⟨⟨_, acknowledged⟩, unnamed⟩, idle⟩, grace⟩, streak⟩, since, forgotten, window⟩ := long
    refine ⟨⟨follows.posting.symm.trans idle, .inr ⟨?_, ?_, grace, ?_, since, ?_, window⟩⟩, caughtUp⟩
    · rw [← follows.acknowledged]
      exact acknowledged
    · rw [← follows.named]
      exact unnamed
    · rw [← follows.forgotten]
      exact streak
    · rw [← follows.forgottenSince]
      exact forgotten

omit [TrackRuntime] in
theorem counted_find (entry : Entry Time) (nowMs : Time) :
    ((entry.countMissed nowMs).countForgotten nowMs).find = entry.find ∧
      ((entry.countMissed nowMs).countForgotten nowMs).pastGrace nowMs = entry.pastGrace nowMs := by
  unfold Entry.countForgotten Entry.countMissed
  split <;> split <;> exact ⟨rfl, rfl⟩

/-- A step from an entry that says what was said of its operation declares nothing without a
reason. -/
theorem earned_step
    (follows : FollowsAt key model said) (plain : leavesNoDoubt key event (model, said) = true) :
    Earned key said model event (update model event).1 (update model event).2 := by
  have answered : ∀ entry attempt result, model.lookup key = some entry →
      entry.status.isTerminal = true → event = .shellCompleted attempt result →
      (∃ later, (update model event).1.lookup key = some later ∧ later.status = entry.status) ∧
        (event.key = some key → updates (update model event).2 = []) := by
    intro entry attempt result found terminal is_event
    by_cases about : event.key = some key
    · subst is_event
      by_cases current : attempt = model.attempt
      · have accepted : update model (.shellCompleted attempt result) = accept model result :=
          if_pos current
        obtain ⟨nowMs, _, handled⟩ := accept_handled model about
        obtain ⟨next, found_next, kept, told⟩ := handled.present entry found
        have same := (kept_stamp entry nowMs).resolved terminal
        have ended : (entry.stamp nowMs).status.isTerminal = true := by
          rw [same]
          exact terminal
        obtain ⟨status, quiet⟩ := @handle_final Time _ _ (entry.stamp nowMs) key result ended
        rw [accepted]
        refine ⟨⟨next, found_next, ?_⟩, fun _ => told.trans quiet⟩
        rw [kept.resolved (by rw [status]; exact ended), status, same]
      · have stale : update model (.shellCompleted attempt result) = (model, []) := if_neg current
        rw [stale]
        exact ⟨⟨entry, found, rfl⟩, fun _ => rfl⟩
    · exact ⟨(unheard_update model about).lasting entry found terminal, fun same => absurd same about⟩
  constructor
  case failed =>
    intro txHash enters
    obtain ⟨result, _, _, is_event, _, _, _, _, verdict⟩ := verdict_of_enters rfl enters
    cases verdict with
    | failed shows => exact ⟨_, result, is_event, shows⟩
  case rejected =>
    intro enters
    obtain ⟨result, nowMs, entry, is_event, target, clock, found, live, verdict⟩ :=
      verdict_of_enters rfl enters
    have stamped := (Unsaid.of_kept (kept_stamp entry nowMs)).follows (follows entry found live)
    refine ⟨_, result, is_event, target, ?_⟩
    cases verdict with
    | refused rejected unnamed =>
      refine .outright rejected ?_
      rw [← stamped.named, ← unnamed]
      exact (taking_noted _ _ _).relayTxHash.symm
    | @unlanded userOpHash mined named time receiptJson logs rejected bundle of_tx same read without =>
      refine .unlanded (stamped.rejected rejected) ?_ of_tx same read ?_
      · rw [← stamped.named]
        exact bundle
      · have unstamped := kept_stamp entry nowMs
        rw [unstamped.relayRejected] at rejected
        rw [unstamped.relayTxHash] at bundle
        subst is_event
        have about : (Event.shellCompleted model.attempt
            (.txReceipt userOpHash time receiptJson)).key = some key := target
        simp only [leavesNoDoubt, about, ne_eq, not_true_eq_false, decide_false, Bool.false_or,
          bne_self_eq_false, found, Option.all_some, live, Entry.readsEvents, rejected, of_tx,
          bundle, same, read, Option.any_some, Bool.and_self, Bool.not_true, without,
          Option.isSome_none, Bool.not_eq_true', List.any_eq_false] at plain
        intro log member
        simpa using plain log member
  case notSent =>
    intro enters
    obtain ⟨result, nowMs, entry, is_event, target, clock, found, live, verdict⟩ :=
      verdict_of_enters rfl enters
    cases verdict with
    | @neverSent userOpHash answer time notFound silent =>
      cases clock
      have stamped := (Unsaid.of_kept (kept_stamp entry nowMs)).follows (follows entry found live)
      have noted := taking_noted (entry.stamp nowMs) answer nowMs
      obtain ⟨find, grace⟩ := counted_find ((entry.stamp nowMs).taking answer nowMs) nowMs
      obtain ⟨never, caughtUp⟩ :=
        neverSent_of_follows (counted_follows stamped noted notFound) silent
      rw [grace, noted.pastGrace] at never
      rw [find, noted.find, stamp_caughtUp] at caughtUp
      exact ⟨_, userOpHash, answer, nowMs, entry, is_event, Option.some.inj target, notFound,
        found, caughtUp, never⟩
  case answered => exact answered
  case replaced =>
    intro entry later found terminal found_later different
    -- a verdict that lasts is not replaced
    have lasts : (∃ later, (update model event).1.lookup key = some later ∧
        later.status = entry.status) → False := by
      rintro ⟨other, found_other, same⟩
      rw [found_later] at found_other
      cases found_other
      exact different same
    by_cases about : event.key = some key
    · cases event with
      | tick | appResumed | homeFocused => cases about
      | submitted submission =>
        have same : normalize submission.userOpHash = key := Option.some.inj about
        subst same
        obtain ⟨⟨next, found_next, kept⟩, _⟩ := lookup_submitted model submission
        cases joined : submission.joins model with
        | none =>
          have dead := isDead_of_joins_eq_none joined found
          simp only [Entry.isDead, Bool.or_eq_true, decide_eq_true_eq] at dead
          exact ⟨dead, submission, rfl, rfl⟩
        | some base =>
          have there := (Option.filter_eq_some_iff.mp joined).1
          rw [found] at there
          cases there
          have status : (submission.entry model).status = entry.status := by
            rw [Submission.entry, status_submit, Submission.base, joined]
            rfl
          refine (lasts ⟨next, found_next, ?_⟩).elim
          rw [kept.resolved (by rw [status]; exact terminal), status]
      | withdrawn userOpHash =>
        have same : normalize userOpHash = key := Option.some.inj about
        subst same
        obtain ⟨earlier, there, shape⟩ := lookup_withdrawn found_later
        rw [found] at there
        cases there
        refine (lasts ⟨later, found_later, ?_⟩).elim
        rw [shape]
      | abort userOpHash =>
        exact (lasts ((Unheard.of_kept (keptAt_abort model userOpHash key)).lasting entry found
          terminal)).elim
      | shellCompleted attempt result =>
        exact (lasts (answered entry attempt result found terminal rfl).1).elim
    · exact (lasts ((unheard_update model about).lasting entry found terminal)).elim
  case gone =>
    intro entry found gone
    have unheard : Unheard key model (update model event).1 → False := by
      intro unheard
      rw [unheard.gone gone] at found
      cases found
    by_cases about : event.key = some key
    · cases event with
      | tick | appResumed | homeFocused => cases about
      | submitted submission =>
        have same : normalize submission.userOpHash = key := Option.some.inj about
        subst same
        obtain ⟨⟨next, found_next, _⟩, _⟩ := lookup_submitted model submission
        simp only [update] at gone
        rw [gone] at found_next
        cases found_next
      | withdrawn userOpHash recordIds => exact ⟨userOpHash, recordIds, rfl, Option.some.inj about⟩
      | abort userOpHash => exact (unheard (.of_kept (keptAt_abort model userOpHash key))).elim
      | shellCompleted attempt result =>
        by_cases current : attempt = model.attempt
        · have accepted : update model (.shellCompleted attempt result) = accept model result :=
            if_pos current
          obtain ⟨nowMs, _, handled⟩ := accept_handled model about
          obtain ⟨next, found_next, _⟩ := handled.present entry found
          rw [accepted, found_next] at gone
          cases gone
        · have stale : update model (.shellCompleted attempt result) = (model, []) :=
            if_neg current
          rw [stale] at gone
          rw [gone] at found
          cases found
    · exact (unheard (unheard_update model about)).elim

theorem followsAt_of_run {history : List (Event Time × List TrackEffect)}
    {watched : Model Time × Said Time}
    (run : Process.Run (heardTracker Time key) (leavesNoDoubt key) history watched) :
    FollowsAt key watched.1 watched.2 := by
  apply run.state_invariant fun watched => FollowsAt key watched.1 watched.2
  case initial =>
    intro entry found
    cases found
  case kept =>
    intro event watched next effects plain stepped follows
    obtain ⟨updated, said⟩ := Process.watching_step.mp stepped
    have same : update watched.1 event = (next.1, effects) := Option.some.inj updated
    rw [said]
    have after : FollowsAt key (update watched.1 event).1
        (watched.2.observe key watched.1 event (update watched.1 event).1) := by
      apply followsAt_step follows
      intro submission is_event about
      subst is_event
      have mine : (Event.submitted submission : Event Time).key = some key := congrArg some about
      simpa [leavesNoDoubt, mine] using plain
    rw [same] at after
    exact after

/-- Whatever is said of an operation, it is declared failed, refused or never sent for a reason,
and once. -/
theorem declared_for_a_reason {key : String} {history : List (Event Time × List TrackEffect)}
    {watched next : Model Time × Said Time} {effects : List TrackEffect}
    (run : Process.Run (heardTracker Time key) (leavesNoDoubt key) history watched)
    (plain : leavesNoDoubt key event watched = true)
    (stepped : (heardTracker Time key).step event watched = some (next, effects)) :
    Earned key watched.2 watched.1 event next.1 effects := by
  obtain ⟨updated, _⟩ := Process.watching_step.mp stepped
  have same : update watched.1 event = (next.1, effects) := Option.some.inj updated
  have earned := earned_step (followsAt_of_run run) plain
  rw [same] at earned
  exact earned

end Steps

end Tracker

section Sample

/-- An event of the operation that holds no word of success. -/
def cutEvent : Value :=
  .object [("address", .string Safe.entryPoint),
    ("topics", .array [.string userOperationEventTopic, .string "0xab"]),
    ("transactionHash", .string "0xcd"), ("data", .string "0x")]

/-- The receipt of the bundle that holds the event. -/
def cutReceipt : Value :=
  .object [("transactionHash", .string "0xcd"), ("logs", .array [cutEvent])]

attribute [local instance] wholeClock

/-- A tracker that reads an empty log array and the bundle's receipt. -/
@[reducible] local instance : TrackRuntime := sampleRuntime fun text =>
  if text = "[]" then some (.array []) else if text = "receipt" then some cutReceipt else none

/-- A submit of the operation with its record, at a known block. -/
def knownSubmit (maybeSent admitted : Bool) : Event Int :=
  .submitted ⟨"0xab", ["record"], 56, maybeSent, some 1, admitted, none⟩

/-- The relay does not know the operation. -/
def unknownAt (nowMs : Int) : Event Int :=
  .shellCompleted 0 (.status "0xab" ⟨.notFound, none, none, none⟩ nowMs)

/-- The chain is read to its head, with no event of the operation. -/
def chainRead (nowMs : Int) : List (Event Int) :=
  [.shellCompleted 0 (.opEvent "0xab" nowMs ⟨none, none, some 1⟩),
    .shellCompleted 0 (.opEvent "0xab" nowMs ⟨some "[]", none, some 1⟩)]

/-- An operation that may have been sent, unknown to the relay, with the chain read. -/
def inDoubt : List (Event Int) :=
  [knownSubmit true false, .shellCompleted 0 (.clock 0), unknownAt 60000] ++ chainRead 61000

theorem inDoubt_neverSent :
    ∃ history watched next effects,
      Process.Run (heardTracker Int "0xab") (leavesNoDoubt "0xab") history watched ∧
        (heardTracker Int "0xab").step (unknownAt 72000) watched = some (next, effects) ∧
        Enters "0xab" watched.1 next.1 .notSent ∧
        Earned "0xab" watched.2 watched.1 (unknownAt 72000) next.1 effects := by
  have played : ((heardTracker Int "0xab").play (leavesNoDoubt "0xab") inDoubt).any
      (fun reached => (reached.2.1.lookup "0xab").any (·.status = .pending) &&
        ((heardTracker Int "0xab").step (unknownAt 72000) reached.2).any fun stepped =>
          (stepped.1.1.lookup "0xab").any (·.status = .notSent)) = true := by
    decide
  obtain ⟨history, watched, run, holds⟩ := Process.exists_run_of_play played
  simp only [Bool.and_eq_true, Option.any_eq_true, decide_eq_true_eq] at holds
  obtain ⟨⟨earlier, there, pending⟩, ⟨next, effects⟩, stepped, later, found, notSent⟩ := holds
  exact ⟨history, watched, next, effects, run, stepped,
    enters_of_pending there pending found notSent (by rintro ⟨⟩),
    declared_for_a_reason run (Bool.or_true _) stepped⟩

/-- The relay takes an operation again that it had forgotten. -/
def takenAgain : List (Event Int) :=
  [knownSubmit false true, .shellCompleted 0 (.clock 0), unknownAt 60000] ++ chainRead 61000 ++
    [.submitted ⟨"0xab", [], 56, false, none, false, none⟩, knownSubmit false true,
      .shellCompleted 0 (.clock 660000)]

/-- The relay refuses an operation, and names a bundle. -/
def refusedWithBundle : List (Event Int) :=
  [knownSubmit false true,
    .shellCompleted 0 (.status "0xab" ⟨.rejected, none, some "0xcd", none⟩ 1000)]

/-- An operation that the relay took a minute ago is never sent, and one whose event is in the
bundle's receipt is refused. -/
theorem silence_believed : (∃ history watched next effects,
      Process.Run (heardTracker Int "0xab") Process.unrestricted history watched ∧
        (heardTracker Int "0xab").step (unknownAt 720000) watched = some (next, effects) ∧
        ¬Earned "0xab" watched.2 watched.1 (unknownAt 720000) next.1 effects) ∧
    ∃ history watched next effects,
      Process.Run (heardTracker Int "0xab") Process.unrestricted history watched ∧
        (heardTracker Int "0xab").step
          (.shellCompleted 0 (.txReceipt "0xab" 2000 (some "receipt"))) watched =
            some (next, effects) ∧
        ¬Earned "0xab" watched.2 watched.1
          (.shellCompleted 0 (.txReceipt "0xab" 2000 (some "receipt"))) next.1 effects := by
  constructor
  · have played : ((heardTracker Int "0xab").play Process.unrestricted takenAgain).any
        (fun reached =>
          (reached.2.1.lookup "0xab").any (fun entry => entry.status = .pending &&
            (reached.2.2.heard ⟨.notFound, none, none, none⟩
              ((entry.stamp 720000).pastGrace 720000) 720000).forgotten < 2 &&
            (reached.2.2.heard ⟨.notFound, none, none, none⟩
              ((entry.stamp 720000).pastGrace 720000) 720000).acknowledged) &&
          ((heardTracker Int "0xab").step (unknownAt 720000) reached.2).any fun stepped =>
            (stepped.1.1.lookup "0xab").any (·.status = .notSent)) = true := by
      decide +kernel
    obtain ⟨history, watched, run, holds⟩ := Process.exists_run_of_play played
    simp only [Bool.and_eq_true, Option.any_eq_true, decide_eq_true_eq] at holds
    obtain ⟨⟨earlier, there, ⟨pending, few⟩, taken⟩, ⟨next, effects⟩, stepped, later, found,
      notSent⟩ := holds
    refine ⟨history, watched, next, effects, run, stepped, ?_⟩
    intro earned
    have enters : Enters "0xab" watched.1 next.1 .notSent :=
      enters_of_pending there pending found notSent (by rintro ⟨⟩)
    obtain ⟨_, _, _, _, entry, is_event, _, _, is_entry, _, never⟩ := earned.notSent enters
    cases is_event
    rw [there] at is_entry
    cases is_entry
    rcases never.silent with ⟨untaken, _⟩ | ⟨_, _, _, enough, _⟩
    · rw [taken] at untaken
      cases untaken
    · exact absurd few (Nat.not_lt.mpr enough)
  · have played : ((heardTracker Int "0xab").play Process.unrestricted refusedWithBundle).any
        (fun reached =>
          (reached.2.1.lookup "0xab").any (·.status = .pending) &&
          ((heardTracker Int "0xab").step
              (.shellCompleted 0 (.txReceipt "0xab" 2000 (some "receipt"))) reached.2).any
            fun stepped => (stepped.1.1.lookup "0xab").any (·.status = .rejected)) = true := by
      decide +kernel
    obtain ⟨history, watched, run, holds⟩ := Process.exists_run_of_play played
    simp only [Bool.and_eq_true, Option.any_eq_true, decide_eq_true_eq] at holds
    obtain ⟨⟨earlier, there, pending⟩, ⟨next, effects⟩, stepped, later, found, rejected⟩ := holds
    refine ⟨history, watched, next, effects, run, stepped, ?_⟩
    intro earned
    have enters : Enters "0xab" watched.1 next.1 .rejected :=
      enters_of_pending there pending found rejected (by rintro ⟨⟩)
    obtain ⟨_, result, is_event, _, refused⟩ := earned.rejected enters
    cases is_event
    cases refused with
    | unlanded _ _ _ _ read without =>
      have logs : receiptLogs (some "receipt") = some [cutEvent] := rfl
      rw [logs] at read
      cases read
      have own : isOwnEvent "0xab" cutEvent = true := by decide +kernel
      rw [without cutEvent List.mem_cons_self] at own
      cases own

end Sample

end VelaWallet.TxTracker
