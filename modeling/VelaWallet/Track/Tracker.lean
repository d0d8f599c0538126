import VelaWallet.Base.Keyed
import VelaWallet.Base.Process
import VelaWallet.Track.Entry

/-!
# The transaction tracker

The machine that follows submitted operations to their end: its events, the answers of its shell
and its scheduler (`tx_tracker.rs`).
-/

namespace VelaWallet.TxTracker

open Json (Value Reader fromStr)
open Utf8 (CaseTable toLowercase)

/-- The JSON library, the case table, and what other parts of the core read out of logs: the net
moves of an operation, and whether an error is about the range asked. -/
class TrackRuntime extends Reader, CaseTable where
  provenMoves : List TrustReceiptLog → String → Option (List TrackMove)
  isLogRangeError : RpcErrorInfo → Bool

structure TrackPendingRecord (Time : Type) where
  recordId : String
  userOpHash : String
  chainId : Nat
  submittedAtMs : Time
  maybeSent : Bool
  submitBlock : Option Nat
  sender : Option String

/-- The answer to a reading of the chain's logs. -/
structure OpEventAnswer where
  logsJson : Option String
  errorJson : Option String
  headBlock : Option Nat

/-- The relay's word on an operation. -/
structure StatusAnswer where
  status : TrackLifecycle
  stage : Option String
  txHash : Option String
  rejectionReason : Option String

inductive TrackShellResult (Time : Type) where
  | clock (nowMs : Time)
  | receipt (userOpHash txHash : String) (nowMs : Time)
  | receiptWithLogs (userOpHash txHash : String) (nowMs : Time) (logs : List TrustReceiptLog)
  | receiptFailed (userOpHash txHash : String) (nowMs : Time)
  | receiptPending (userOpHash : String) (nowMs : Time)
  | receiptUnreachable (userOpHash : String) (nowMs : Time)
  | status (userOpHash : String) (answer : StatusAnswer) (nowMs : Time)
  | statusUnavailable (userOpHash : String) (nowMs : Time)
  | recordsLoaded (records : List (TrackPendingRecord Time)) (nowMs : Time)
  | opEvent (userOpHash : String) (nowMs : Time) (answer : OpEventAnswer)
  | recordsPatched
  | notified
  | txReceipt (userOpHash : String) (nowMs : Time) (receiptJson : Option String)

/-- What a submit hands over. -/
structure Submission where
  userOpHash : String
  recordIds : List String
  chainId : Nat
  maybeSent : Bool
  submitBlock : Option Nat
  admitted : Bool
  sender : Option String

inductive Event (Time : Type) where
  | submitted (submission : Submission)
  | withdrawn (userOpHash : String) (recordIds : List String)
  | tick
  | appResumed
  | homeFocused
  | abort (userOpHash : String)
  | shellCompleted (attempt : Nat) (result : TrackShellResult Time)

structure Model (Time : Type) where
  entries : List (String × Entry Time)
  lastReconcileMs : Option Time
  reconcileInFlight : Bool
  reconcileRequested : Bool
  attempt : Nat

/-- `Model::default` -/
def Model.empty (Time : Type) : Model Time := ⟨[], none, false, false, 0⟩

section Machine

variable {Time : Type} [TrackRuntime]

def normalize (userOpHash : String) : String := toLowercase userOpHash

def Model.lookup (model : Model Time) (key : String) : Option (Entry Time) :=
  Keyed.get? key model.entries

/-- An operation's entry replaced. -/
def Model.put (model : Model Time) (key : String) (entry : Entry Time) : Model Time :=
  { model with entries := Keyed.set key entry model.entries }

def failRecords (ids : List String) (landed : Option Nat) (failure : TrackFailure) :
    List TrackEffect :=
  .shell (.updateTxRecords ids (.failed failure)) ::
    (landed.toList.map fun chainId => .shell (.holdingsMoved chainId)) ++ [.render]

def confirmRecords (userOpHash : String) (chainId : Nat) (ids : List String) (txHash : String)
    (moved : Option (List TrackMove)) : List TrackEffect :=
  [.shell (.updateTxRecords ids (.confirmed txHash moved)),
    .shell (.notifyConfirmed userOpHash chainId txHash), .shell (.holdingsMoved chainId), .render]

namespace Entry

/-- An operation that was refused, or never sent. -/
def isDead (entry : Entry Time) : Bool :=
  entry.status = .notSent || entry.status = .rejected

/-- What a submit makes of a POST that is out: one leaves, or one has its verdict. -/
def posted (entry : Entry Time) (posting fresh : Bool) : Entry Time :=
  if posting then
    let entry :=
      if entry.status.isTerminal then entry else { entry with posting := true, notFoundStreak := 0 }
    { entry with fromPosting := entry.fromPosting || fresh }
  else if entry.posting || entry.fromPosting then
    { entry with
      posting := false, fromPosting := false, notFoundStreak := 0, graceFromMs := some none }
  else entry

/-- The relay took the operation. -/
def acknowledge (entry : Entry Time) (admitted : Bool) : Entry Time :=
  if admitted then { entry with acknowledged := true, notFoundStreak := 0 } else entry

/-- The patch of records that are named after the operation landed. -/
def latePatch (entry : Entry Time) (named : List String) : Option TrackRecordPatch :=
  if named = [] then none
  else
    match entry.status with
    | .confirmed txHash => some (.confirmed txHash entry.moved)
    | .failed _ => some (.failed .reverted)
    | _ => none

/-- An operation whose first receipt poll goes out at once. -/
def pollsNow (entry : Entry Time) : Bool :=
  !entry.status.isTerminal && !entry.receiptInFlight && entry.lastReceiptPollMs.isNone

/-- The entry of an operation first seen submitted. -/
def fresh (chainId : Nat) : Entry Time :=
  { Entry.new chainId none with progressMark := some (.queued, none, false) }

/-- The entry a submit leaves, its first poll apart. -/
def submit (entry : Entry Time) (submission : Submission) (posting fresh : Bool) : Entry Time :=
  let entry := entry.posted posting fresh
  let entry := submission.recordIds.foldl mergeRecordId entry
  let entry := entry.mergeSubmitFacts submission.maybeSent submission.submitBlock
  let entry := entry.mergeSender submission.sender
  entry.acknowledge submission.admitted

end Entry

/-- The write-ahead's hand-off: a POST of the operation is about to leave. -/
def Submission.posting (submission : Submission) : Bool :=
  submission.recordIds.isEmpty && !submission.admitted

/-- A submit that starts the operation anew. -/
def Submission.isNewLife (submission : Submission) (entry : Entry Time) : Bool :=
  (entry.isDead &&
      (submission.posting || submission.recordIds.any (! entry.recordIds.contains ·))) ||
    (submission.admitted && entry.status = .notSent)

/-- The entry that a submit adds to, if there is one. -/
def Submission.joins (submission : Submission) (model : Model Time) : Option (Entry Time) :=
  (model.lookup (normalize submission.userOpHash)).filter (! submission.isNewLife ·)

def submitted (model : Model Time) (submission : Submission) : Model Time × List TrackEffect :=
  let key := normalize submission.userOpHash
  let joined := submission.joins model
  let entry := joined.getD (.fresh submission.chainId)
  let named := submission.recordIds.filter (! entry.recordIds.contains ·)
  let entry := entry.submit submission submission.posting joined.isNone
  let pollNow := entry.pollsNow
  let polled := if pollNow then { entry with receiptInFlight := true } else entry
  let poll := if pollNow then [.shell (.pollReceipt key submission.chainId)] else []
  let patch := (entry.latePatch named).toList.map fun patch => .shell (.updateTxRecords named patch)
  (model.put key polled, .shell .now :: poll ++ patch ++ [.render])

def withdrawn (model : Model Time) (userOpHash : String) (recordIds : List String) : Model Time :=
  let key := normalize userOpHash
  match model.lookup key with
  | none => model
  | some entry =>
    let entry := { entry with posting := false }
    if !entry.fromPosting then model.put key entry
    else
      let kept := entry.recordIds.filter (! recordIds.contains ·)
      if kept = [] then { model with entries := Keyed.erase key model.entries }
      else model.put key { entry with recordIds := kept }

def abort (model : Model Time) (userOpHash : String) : Model Time :=
  let key := normalize userOpHash
  match model.lookup key with
  | none => model
  | some entry =>
    if entry.status.isTerminal then model else model.put key { entry with aborted := true }

def findOp (hash : String) (entry : Entry Time) : Entry Time × TrackEffect :=
  let window := entry.find.nextWindow
  let fromBlock := window.map (·.1)
  let toBlock := window.map (·.2)
  ({ entry with find.inFlight := some (fromBlock, toBlock) },
    .shell (.findOpEvent entry.chainId Safe.entryPoint userOperationEventTopic hash fromBlock
      toBlock))

def continueScan (key : String) (entry : Entry Time) (nowMs : Time) :
    Entry Time × List TrackEffect :=
  if !entry.scanning || entry.find.nextWindow.isNone then (entry, [.render])
  else
    let (entry, ask) := findOp key { entry with find.lastMs := some nowMs }
    (entry, [ask, .render])

section Timed

variable [Clock Time]

namespace Entry

/-- `stamp_unstamped`, of one entry. -/
def stamp (entry : Entry Time) (nowMs : Time) : Entry Time :=
  let entry :=
    if entry.submittedAtMs.isNone then
      { entry with
        submittedAtMs := some nowMs
        lastStatusPollMs := some nowMs
        find.lastMs := some nowMs
        lastReceiptPollMs :=
          if entry.receiptInFlight then some (entry.lastReceiptPollMs.getD nowMs)
          else entry.lastReceiptPollMs }
    else entry
  match entry.graceFromMs with
  | some none => { entry with graceFromMs := some (some nowMs) }
  | _ => entry

/-- The wait window's end, classified. -/
def closeWindow (entry : Entry Time) (ageMs : Time) : Entry Time :=
  if !entry.windowClosed && !entry.aborted && decide (ms waitWindowMs ≤ ageMs) then
    { entry with
      windowClosed := true
      status :=
        if entry.feeHeld then .feeHeld
        else if !entry.sawCleanResponse && 0 < entry.rpcFailures then .unknown
        else entry.status }
  else entry

def pollReceipt (entry : Entry Time) (hash : String) (nowMs : Time) (interval : Nat) :
    Entry Time × List TrackEffect :=
  if !entry.receiptInFlight && receiptDue entry.lastReceiptPollMs nowMs interval then
    ({ entry with receiptInFlight := true, lastReceiptPollMs := some nowMs },
      [.shell (.pollReceipt hash entry.chainId)])
  else (entry, [])

def pollStatus (entry : Entry Time) (hash : String) (nowMs : Time) (inWindow : Bool)
    (receiptInterval : Nat) : Entry Time × List TrackEffect :=
  let interval :=
    if inWindow && !entry.statusAsked then firstStatusPollMs
    else if inWindow then statusPollIntervalMs
    else receiptInterval
  if !entry.statusInFlight && isDue entry.lastStatusPollMs nowMs interval then
    ({ entry with statusInFlight := true, statusAsked := true, lastStatusPollMs := some nowMs },
      [.shell (.pollStatus hash entry.chainId)])
  else (entry, [])

/-- The reading of the bundle's receipt in a pass. -/
def pollTxReceipt (entry : Entry Time) (hash : String) (nowMs : Time) (interval : Nat) :
    Entry Time × List TrackEffect :=
  match entry.relayTxHash with
  | none => (entry, [])
  | some txHash =>
    if !entry.txReceiptInFlight && receiptDue entry.lastTxReceiptMs nowMs interval then
      ({ entry with txReceiptInFlight := true, lastTxReceiptMs := some nowMs },
        [.shell (.txReceipt entry.chainId txHash hash)])
    else (entry, [])

/-- The landing check of a pass. -/
def pollFind (entry : Entry Time) (hash : String) (nowMs : Time) (inWindow : Bool)
    (receiptInterval : Nat) : Entry Time × List TrackEffect :=
  let interval := if inWindow then statusPollIntervalMs else receiptInterval
  if entry.scanning && entry.find.inFlight.isNone && isDue entry.find.lastMs nowMs interval then
    let (entry, ask) := findOp hash { entry with find.lastMs := some nowMs }
    (entry, [ask])
  else (entry, [])

/-- The polls of a pass, in their order. -/
def poll (entry : Entry Time) (hash : String) (nowMs ageMs : Time) :
    Entry Time × List TrackEffect :=
  let inWindow := !entry.windowClosed && !entry.aborted
  let interval := receiptIntervalMs inWindow ageMs
  let (entry, receipt) := entry.pollReceipt hash nowMs interval
  let (entry, status) := entry.pollStatus hash nowMs inWindow interval
  let (entry, txReceipt) := entry.pollTxReceipt hash nowMs interval
  let (entry, find) := entry.pollFind hash nowMs inWindow interval
  (entry, receipt ++ status ++ txReceipt ++ find)

/-- One pass of `run_scheduler` over one entry. -/
def schedule (hash : String) (entry : Entry Time) (nowMs : Time) :
    Entry Time × List TrackEffect :=
  if entry.status.isTerminal || entry.abandoned then (entry, [])
  else
    let submittedAt := entry.submittedAtMs.getD nowMs
    let age := nowMs - submittedAt
    if ms abandonAgeMs ≤ age then ({ entry with abandoned := true }, [])
    else
      let stalled := inFlightStalled (entry.progressedAtMs.getD submittedAt) nowMs
      let entry := if stalled then { entry with stalled := true } else entry
      (entry.closeWindow age).poll hash nowMs age

end Entry

def reconcile (model : Model Time) (nowMs : Time) : Model Time × List TrackEffect :=
  if model.reconcileRequested then
    let model := { model with reconcileRequested := false }
    if !model.reconcileInFlight && isDue model.lastReconcileMs nowMs reconcileMinIntervalMs then
      ({ model with lastReconcileMs := some nowMs, reconcileInFlight := true },
        [.shell .loadPendingTxs])
    else (model, [])
  else (model, [])

def runScheduler (model : Model Time) (nowMs : Time) : Model Time × List TrackEffect :=
  let (model, sweep) := reconcile model nowMs
  ({ model with
      entries := Keyed.mapValues (fun hash entry => (entry.schedule hash nowMs).1) model.entries },
    sweep ++ model.entries.flatMap (fun entry => (entry.2.schedule entry.1 nowMs).2) ++ [.render])

/-- What an answer leads to: effects, or a pass of the scheduler. -/
inductive Next where
  | reply (effects : List TrackEffect)
  | schedule

namespace Entry

def receiptAnswered (entry : Entry Time) (nowMs : Time) : Entry Time :=
  { entry with
    receiptInFlight := false, lastReceiptPollMs := some (entry.lastReceiptPollMs.getD nowMs) }

/-- A receipt that reads: the bundler answered, and holds the operation. -/
def receiptRead (entry : Entry Time) (nowMs : Time) : Entry Time :=
  { entry.receiptAnswered nowMs with sawCleanResponse := true, acknowledged := true }

def onReceipt (entry : Entry Time) (key txHash : String) (nowMs : Time)
    (moved : Option (List TrackMove)) : Entry Time × Next :=
  let entry := entry.receiptRead nowMs
  if entry.status.isTerminal then (entry, .reply [])
  else
    ({ entry with
        relaySentAtMs := some (entry.relaySentAtMs.getD nowMs)
        status := .confirmed txHash
        moved := moved },
      .reply (confirmRecords key entry.chainId entry.recordIds txHash moved))

/-- `ReceiptFailed` -/
def onReceiptFailed (entry : Entry Time) (txHash : String) (nowMs : Time) : Entry Time × Next :=
  let entry := entry.receiptRead nowMs
  if entry.status.isTerminal then (entry, .reply [])
  else
    ({ entry with status := .failed txHash },
      .reply (failRecords entry.recordIds (if txHash = "" then none else some entry.chainId)
        .reverted))

/-- What every answer of the relay leaves on a live entry. -/
def noteStatus (entry : Entry Time) (answer : StatusAnswer) (nowMs : Time) : Entry Time :=
  let named := answer.txHash.filter (· ≠ "")
  let entry := { entry with relayTxHash := named <|> entry.relayTxHash }
  let sent := entry.relayTxHash.isSome || answer.status = .submitted || answer.status = .included
  let entry :=
    if sent then { entry with relaySentAtMs := some (entry.relaySentAtMs.getD nowMs) } else entry
  let entry :=
    if answer.status = .notFound then entry
    else { entry with forgottenSinceMs := none, forgottenStreak := 0 }
  let entry :=
    if answer.status = .rejected ∨ answer.status = .failed then
      { entry with
        refusal := RefusalReason.of answer.rejectionReason answer.stage <|> entry.refusal }
    else entry
  { entry.heard answer.status answer.stage nowMs with
    lastStatus := some (answer.status, answer.stage) }

/-- A `not_found` counted against an operation in doubt. -/
def countMissed (entry : Entry Time) (nowMs : Time) : Entry Time :=
  if entry.inDoubt && entry.pastGrace nowMs then
    { entry with notFoundStreak := entry.notFoundStreak + 1 }
  else entry

/-- An acknowledged operation that the relay does not know any more. -/
def isForgotten (entry : Entry Time) (nowMs : Time) : Bool :=
  !entry.inDoubt && entry.acknowledged && entry.relayTxHash.isNone && !entry.posting &&
    entry.pastGrace nowMs

/-- A `not_found` counted against an acknowledged operation. -/
def countForgotten (entry : Entry Time) (nowMs : Time) : Entry Time :=
  if entry.isForgotten nowMs then
    { entry with
      forgottenSinceMs := some (entry.forgottenSinceMs.getD nowMs)
      forgottenStreak := entry.forgottenStreak + 1 }
  else entry

def forgottenLongEnough (entry : Entry Time) (nowMs : Time) : Bool :=
  entry.isForgotten nowMs && notFoundConfirmations ≤ entry.forgottenStreak &&
    entry.forgottenSinceMs.any fun since => decide (ms forgottenNotSentMs ≤ nowMs - since)

/-- Nothing will land. -/
def neverSent (entry : Entry Time) (nowMs : Time) : Bool :=
  (entry.inDoubt && !entry.posting && notFoundConfirmations ≤ entry.notFoundStreak &&
      entry.find.caughtUp) ||
    (entry.forgottenLongEnough nowMs && entry.find.caughtUp)

/-- `not_found` -/
def onNotFound (entry : Entry Time) (nowMs : Time) : Entry Time × Next :=
  let entry := (entry.countMissed nowMs).countForgotten nowMs
  if entry.neverSent nowMs then
    ({ entry with status := .notSent }, .reply (failRecords entry.recordIds none .notSent))
  else (entry, .schedule)

/-- `Status` -/
def onStatus (entry : Entry Time) (answer : StatusAnswer) (nowMs : Time) : Entry Time × Next :=
  let entry := { entry with statusInFlight := false }
  if entry.status.isTerminal then (entry, .reply [])
  else
    let entry := entry.noteStatus answer nowMs
    if answer.status = .rejected then
      if entry.relayTxHash.isSome then
        ({ entry with acknowledged := true, notFoundStreak := 0, relayRejected := true }, .schedule)
      else
        ({ entry with acknowledged := true, status := .rejected },
          .reply (failRecords entry.recordIds none .refused))
    else if answer.status = .notFound then entry.onNotFound nowMs
    else ({ entry with acknowledged := true, notFoundStreak := 0 }, .schedule)

/-- An operation that its own event shows landed. -/
def onLanded (entry : Entry Time) (key txHash : String) (success : Bool)
    (moved : Option (List TrackMove)) : Entry Time × Next :=
  if success then
    ({ entry with acknowledged := true, status := .confirmed txHash },
      .reply (confirmRecords key entry.chainId entry.recordIds txHash moved))
  else
    ({ entry with acknowledged := true, status := .failed txHash },
      .reply (failRecords entry.recordIds (some entry.chainId) .reverted))

def onTxReceipt (entry : Entry Time) (key : String) (nowMs : Time) (receiptJson : Option String) :
    Entry Time × Next :=
  let entry :=
    { entry with
      txReceiptInFlight := false, lastTxReceiptMs := some (entry.lastTxReceiptMs.getD nowMs) }
  if entry.status.isTerminal then (entry, .reply [])
  else
    let receipt := (receiptJson.bind fromStr).map fun value => (value.get? "result").getD value
    match (receipt.bind (·.get? "logs")).bind Value.asArray? with
    | none => (entry, .reply [.render])
    | some logs =>
      match findInLogArray logs key with
      | none =>
        let mined := (receipt.bind (·.get? "transactionHash")).bind Value.asStr?
        let theNamedTx := mined.any fun mined =>
          entry.relayTxHash.any (eqIgnoreAsciiCase mined)
        if entry.relayRejected && theNamedTx then
          ({ entry with status := .rejected },
            .reply (failRecords entry.recordIds none .refused))
        else (entry, .reply [.render])
      | some event =>
        let own := ownLogs logs event.index
        if event.success && !safeExecutionFailed own then
          let moved := TrackRuntime.provenMoves own key
          { entry with moved := moved }.onLanded key event.txHash true moved
        else entry.onLanded key event.txHash false none

/-- The head known after an answer. -/
def noteHead (entry : Entry Time) (head : Option Nat) : Entry Time :=
  match head with
  | none => entry
  | some head =>
    { entry with
      find.head := some (match entry.find.head with
        | some known => max known head
        | none => head) }

/-- A scan without a start gets one, some way below the head. -/
def anchorScan (entry : Entry Time) (nowMs : Time) : Entry Time :=
  match entry.find.start, entry.find.head with
  | none, some head =>
    { entry with
      find.start := some (head - findOpLookbackBlocks)
      find.anchored := decide (head ≤ findOpLookbackBlocks) ||
        (entry.submittedAtMs.map (nowMs - ·)).any fun age =>
          decide (age ≤ ms findOpLookbackCoversMs) }
  | _, _ => entry

/-- A window read, with no event of the operation. -/
def readThrough (entry : Entry Time) (first last : Nat) : Entry Time :=
  { entry with
    find.width := entry.find.grown (last - first + 1)
    find.scannedThrough := some last
    find.start := some (min (last + 1) maxBlock) }

/-- The width to ask for after a range error, if it can shrink. -/
def shrunk (answer : OpEventAnswer) (first last : Nat) : Option Nat :=
  match answer.errorJson.bind errorInfo with
  | none => none
  | some info =>
    if TrackRuntime.isLogRangeError info then
      let asked := last - first + 1
      let halved := max (asked / 2) 1
      if halved < asked then some halved else none
    else none

def onWindow (entry : Entry Time) (key : String) (nowMs : Time) (answer : OpEventAnswer)
    (first last : Nat) : Entry Time × Next :=
  match answer.logsJson with
  | some logsJson =>
    match findInLogs logsJson key with
    | .landed txHash success => entry.onLanded key txHash success none
    | .nothing =>
      let (entry, effects) := continueScan key (entry.readThrough first last) nowMs
      (entry, .reply effects)
    | .unreadable => (entry, .reply [.render])
  | none =>
    match shrunk answer first last with
    | some width =>
      let (entry, effects) := continueScan key { entry with find.width := width } nowMs
      (entry, .reply effects)
    | none => (entry, .reply [.render])

def onOpEvent (entry : Entry Time) (key : String) (nowMs : Time) (answer : OpEventAnswer) :
    Entry Time × Next :=
  match entry.find.inFlight with
  | none => (entry, .reply [])
  | some asked =>
    let entry := { entry with find.inFlight := none }.noteHead answer.headBlock
    if entry.status.isTerminal then (entry, .reply [])
    else
      match asked with
      | (some first, some last) => entry.onWindow key nowMs answer first last
      | _ =>
        let (entry, effects) := continueScan key (entry.anchorScan nowMs) nowMs
        (entry, .reply effects)

end Entry

def TrackShellResult.clockOf : TrackShellResult Time → Option Time
  | .clock nowMs | .receipt _ _ nowMs | .receiptWithLogs _ _ nowMs _ | .receiptFailed _ _ nowMs
  | .receiptPending _ nowMs | .receiptUnreachable _ nowMs | .status _ _ nowMs
  | .statusUnavailable _ nowMs | .recordsLoaded _ nowMs | .opEvent _ nowMs _
  | .txReceipt _ nowMs _ => some nowMs
  | .recordsPatched | .notified => none

def stampUnstamped (model : Model Time) (nowMs : Time) : Model Time :=
  { model with entries := Keyed.mapValues (fun _ entry => entry.stamp nowMs) model.entries }

/-- An answer to an operation's entry, or to none. -/
def Model.answer (model : Model Time) (userOpHash : String) (nowMs : Time) (absent : Next)
    (handle : String → Entry Time → Entry Time × Next) : Model Time × List TrackEffect :=
  let key := normalize userOpHash
  let (model, next) := match model.lookup key with
    | none => (model, absent)
    | some entry => (model.put key (handle key entry).1, (handle key entry).2)
  match next with
  | .reply effects => (model, effects)
  | .schedule => runScheduler model nowMs

/-- A pending record that is followed: it names an operation, of the last day. -/
def TrackPendingRecord.isFollowed (record : TrackPendingRecord Time) (nowMs : Time) : Bool :=
  record.userOpHash != "" && !decide (ms abandonAgeMs ≤ nowMs - record.submittedAtMs)

def Model.load (model : Model Time) (record : TrackPendingRecord Time) : Model Time :=
  let key := normalize record.userOpHash
  let entry := (model.lookup key).getD (.new record.chainId (some record.submittedAtMs))
  let entry := entry.mergeRecordId record.recordId
  let entry := entry.mergeSubmitFacts record.maybeSent record.submitBlock
  model.put key (entry.mergeSender record.sender)

def recordsLoaded (model : Model Time) (records : List (TrackPendingRecord Time)) (nowMs : Time) :
    Model Time :=
  (records.filter (·.isFollowed nowMs)).foldl Model.load { model with reconcileInFlight := false }

/-- `accept`, once the entries are stamped. -/
def acceptStamped (model : Model Time) (result : TrackShellResult Time) :
    Model Time × List TrackEffect :=
  match result with
  | .clock nowMs => runScheduler model nowMs
  | .receiptWithLogs userOpHash txHash nowMs logs =>
    if opExecutionFailed logs userOpHash then
      model.answer userOpHash nowMs (.reply []) fun _ entry => entry.onReceiptFailed txHash nowMs
    else
      model.answer userOpHash nowMs (.reply []) fun key entry =>
        entry.onReceipt key txHash nowMs (TrackRuntime.provenMoves logs userOpHash)
  | .receipt userOpHash txHash nowMs =>
    model.answer userOpHash nowMs (.reply []) fun key entry =>
      entry.onReceipt key txHash nowMs none
  | .receiptFailed userOpHash txHash nowMs =>
    model.answer userOpHash nowMs (.reply []) fun _ entry => entry.onReceiptFailed txHash nowMs
  | .receiptPending userOpHash nowMs =>
    model.answer userOpHash nowMs .schedule fun _ entry =>
      ({ entry.receiptAnswered nowMs with sawCleanResponse := true }, .schedule)
  | .receiptUnreachable userOpHash nowMs =>
    model.answer userOpHash nowMs .schedule fun _ entry =>
      ({ entry.receiptAnswered nowMs with rpcFailures := entry.rpcFailures + 1 }, .schedule)
  | .status userOpHash answer nowMs =>
    model.answer userOpHash nowMs (.reply []) fun _ entry => entry.onStatus answer nowMs
  | .statusUnavailable userOpHash nowMs =>
    model.answer userOpHash nowMs .schedule fun _ entry =>
      ({ entry with statusInFlight := false }, .schedule)
  | .recordsLoaded records nowMs => runScheduler (recordsLoaded model records nowMs) nowMs
  | .opEvent userOpHash nowMs answer =>
    model.answer userOpHash nowMs (.reply []) fun key entry => entry.onOpEvent key nowMs answer
  | .txReceipt userOpHash nowMs receiptJson =>
    model.answer userOpHash nowMs (.reply []) fun key entry =>
      entry.onTxReceipt key nowMs receiptJson
  | .recordsPatched | .notified => (model, [])

def accept (model : Model Time) (result : TrackShellResult Time) :
    Model Time × List TrackEffect :=
  match result.clockOf with
  | some nowMs => acceptStamped (stampUnstamped model nowMs) result
  | none => acceptStamped model result

def Entry.isLive (entry : Entry Time) : Bool := !entry.status.isTerminal && !entry.abandoned

def update (model : Model Time) (event : Event Time) : Model Time × List TrackEffect :=
  match event with
  | .submitted submission => submitted model submission
  | .withdrawn userOpHash recordIds => (withdrawn model userOpHash recordIds, [.render])
  | .tick =>
    if model.entries.any (·.2.isLive) then (model, [.shell .now]) else (model, [])
  | .appResumed | .homeFocused => ({ model with reconcileRequested := true }, [.shell .now])
  | .abort userOpHash => (abort model userOpHash, [.render])
  | .shellCompleted attempt result =>
    if attempt = model.attempt then accept model result else (model, [])

def tracker (Time : Type) [Clock Time] : Process (Model Time) (Event Time) (List TrackEffect) where
  init := .empty Time
  step event model := some (update model event)

end Timed

end Machine

end VelaWallet.TxTracker
