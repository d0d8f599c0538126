import VelaWallet.Track.Logs

/-!
# Tracked operations

What the tracker keeps of one submitted operation, and where its reading of the chain stands
(`tx_tracker.rs`).
-/

namespace VelaWallet.TxTracker

open Json (Reader)
open Utf8 (CaseTable toLowercase trim)

/-! ## Clocks -/

/-- The numbers a shell's clock gives, with what the machine does with them. Nothing is assumed of
them: a reading may be no number, and time may step back. -/
class Clock (Time : Type) extends Sub Time, LE Time, LT Time, NatCast Time where
  decidableLE : DecidableLE Time
  decidableLT : DecidableLT Time

attribute [reducible, instance] Clock.decidableLE Clock.decidableLT

def receiptPollIntervalMs : Nat := 3000

def receiptTickSlackMs : Nat := 250

def statusPollIntervalMs : Nat := 12000

def firstStatusPollMs : Nat := 3000

def forgottenNotSentMs : Nat := 600000

def reconcileMinIntervalMs : Nat := 12000

def waitWindowMs : Nat := 120000

def abandonAgeMs : Nat := 86400000

def slowPollAfterMs : Nat := 600000

def slowestPollAfterMs : Nat := 3600000

def slowReceiptIntervalMs : Nat := 60000

def slowestReceiptIntervalMs : Nat := 300000

def notFoundGraceMs : Nat := 60000

def notFoundConfirmations : Nat := 2

def findOpMaxRange : Nat := 2000

def findOpLookbackBlocks : Nat := 5000

def findOpLookbackCoversMs : Nat := 1200000

def inFlightStallMs : Nat := 600000

def maxBlock : Nat := 2 ^ 64 - 1

section Time

variable {Time : Type} [Clock Time]

/-- A time of so many milliseconds. -/
def ms (count : Nat) : Time := (count : Time)

def receiptIntervalMs (inWindow : Bool) (ageMs : Time) : Nat :=
  if inWindow then receiptPollIntervalMs
  else if ageMs < ms slowPollAfterMs then reconcileMinIntervalMs
  else if ageMs < ms slowestPollAfterMs then slowReceiptIntervalMs
  else slowestReceiptIntervalMs

def inFlightStalled (progressedAtMs nowMs : Time) : Bool :=
  decide (ms inFlightStallMs ≤ nowMs - progressedAtMs)

def receiptDue (last : Option Time) (nowMs : Time) (interval : Nat) : Bool :=
  match last with
  | none => true
  | some last => decide (ms (interval - receiptTickSlackMs) ≤ nowMs - last)

/-- The last of something is long enough ago, or there was none. -/
def isDue (last : Option Time) (nowMs : Time) (interval : Nat) : Bool :=
  match last with
  | none => true
  | some last => decide (ms interval ≤ nowMs - last)

end Time

inductive TrackLifecycle where
  | notFound
  | queued
  | notSubmitted
  | submitted
  | rejected
  | included
  | failed
  deriving DecidableEq

inductive RefusalReason where
  | feeBelowMarket
  | feeBelowMinimum
  | feePaymentInvalid
  | nonceUsed
  | simulationFailed
  | invalidOperation
  | unsupportedFeeToken
  | relayGaveUp
  | revertedOnchain
  | bundleFailed
  | unknown

def RefusalReason.names : List (String × RefusalReason) :=
  [("fee_below_market", .feeBelowMarket), ("fee_below_minimum", .feeBelowMinimum),
    ("fee_payment_invalid", .feePaymentInvalid), ("nonce_used", .nonceUsed),
    ("simulation_failed", .simulationFailed), ("invalid_operation", .invalidOperation),
    ("unsupported_fee_token", .unsupportedFeeToken), ("relay_gave_up", .relayGaveUp),
    ("reverted_onchain", .revertedOnchain), ("bundle_failed", .bundleFailed)]

def feeHoldStage : String := "in_band_settlement_hold"

def RefusalReason.stages : List (String × RefusalReason) :=
  [("nonce", .nonceUsed), ("simulation", .simulationFailed), ("dead_letter", .relayGaveUp),
    ("queue", .invalidOperation), ("tempo_fee_token", .unsupportedFeeToken),
    ("in_band_settlement", .feeBelowMarket), (feeHoldStage, .feeBelowMarket)]

def RefusalReason.of (rejectionReason stage : Option String) : Option RefusalReason :=
  match rejectionReason.filter (· ≠ "") with
  | some reason => some ((List.lookup reason RefusalReason.names).getD .unknown)
  | none => stage.bind fun stage => List.lookup stage RefusalReason.stages

structure TrackMove where
  token : Option String
  delta : String
  deriving DecidableEq

inductive TrackFailure where
  | reverted
  | refused
  | notSent
  deriving DecidableEq

structure TrackSettlement where
  moved : Option (List TrackMove)
  failure : Option TrackFailure

inductive TrackRecordStatus where
  | confirmed
  | failed
  deriving DecidableEq

structure TrackRecordPatch where
  status : TrackRecordStatus
  txHash : Option String
  settlement : Option TrackSettlement

/-- The patch of a landing that succeeded. -/
def TrackRecordPatch.confirmed (txHash : String) (moved : Option (List TrackMove)) :
    TrackRecordPatch :=
  ⟨.confirmed, some txHash, moved.map fun moved => ⟨some moved, none⟩⟩

def TrackRecordPatch.failed (failure : TrackFailure) : TrackRecordPatch :=
  ⟨.failed, none, some ⟨none, some failure⟩⟩

inductive TrackOperation where
  | pollReceipt (userOpHash : String) (chainId : Nat)
  | pollStatus (userOpHash : String) (chainId : Nat)
  | loadPendingTxs
  | updateTxRecords (ids : List String) (patch : TrackRecordPatch)
  | notifyConfirmed (userOpHash : String) (chainId : Nat) (txHash : String)
  | holdingsMoved (chainId : Nat)
  | findOpEvent (chainId : Nat) (entryPoint topic0 userOpHash : String)
      (fromBlock toBlock : Option Nat)
  | now
  | txReceipt (chainId : Nat) (txHash userOpHash : String)

inductive TrackEffect where
  | render
  | shell (operation : TrackOperation)

inductive EntryStatus where
  | pending
  | feeHeld
  | confirmed (txHash : String)
  | failed (txHash : String)
  | rejected
  | notSent
  | unknown
  deriving DecidableEq

def EntryStatus.isTerminal : EntryStatus → Bool
  | confirmed _ | failed _ | rejected | notSent => true
  | _ => false

structure FindScan (Time : Type) where
  start : Option Nat
  width : Nat
  head : Option Nat
  inFlight : Option (Option Nat × Option Nat)
  lastMs : Option Time
  scannedThrough : Option Nat
  anchored : Bool

namespace FindScan

variable {Time : Type}

def new (submitBlock : Option Nat) (submittedAtMs : Option Time) : FindScan Time where
  start := submitBlock
  width := findOpMaxRange
  head := none
  inFlight := none
  lastMs := submittedAtMs
  scannedThrough := none
  anchored := submitBlock.isSome

def caughtUp (scan : FindScan Time) : Bool :=
  scan.anchored &&
    match scan.scannedThrough, scan.head with
    | some through, some head => decide (head ≤ through)
    | _, _ => false

def nextWindow (scan : FindScan Time) : Option (Nat × Nat) := do
  let head ← scan.head
  let start ← scan.start
  if head < start then none
  else some (start, min (min (start + (max scan.width 1 - 1)) maxBlock) head)

/-- The width after a clean read of so many blocks. -/
def grown (scan : FindScan Time) (asked : Nat) : Nat :=
  if scan.width ≤ asked then min (scan.width * 2) findOpMaxRange else scan.width

end FindScan

structure Entry (Time : Type) where
  chainId : Nat
  sender : Option String
  refusal : Option RefusalReason
  recordIds : List String
  status : EntryStatus
  submittedAtMs : Option Time
  lastReceiptPollMs : Option Time
  lastStatusPollMs : Option Time
  receiptInFlight : Bool
  statusInFlight : Bool
  sawCleanResponse : Bool
  rpcFailures : Nat
  lastStatus : Option (TrackLifecycle × Option String)
  windowClosed : Bool
  aborted : Bool
  abandoned : Bool
  relayTxHash : Option String
  maybeSent : Bool
  acknowledged : Bool
  notFoundStreak : Nat
  submitBlock : Option Nat
  find : FindScan Time
  txReceiptInFlight : Bool
  lastTxReceiptMs : Option Time
  posting : Bool
  fromPosting : Bool
  graceFromMs : Option (Option Time)
  relayRejected : Bool
  moved : Option (List TrackMove)
  statusAsked : Bool
  relaySentAtMs : Option Time
  forgottenSinceMs : Option Time
  forgottenStreak : Nat
  progressMark : Option (TrackLifecycle × Option String × Bool)
  progressedAtMs : Option Time
  stalled : Bool

namespace Entry

variable {Time : Type}

def new (chainId : Nat) (submittedAtMs : Option Time) : Entry Time where
  chainId := chainId
  sender := none
  refusal := none
  recordIds := []
  status := .pending
  submittedAtMs := submittedAtMs
  lastReceiptPollMs := none
  lastStatusPollMs := submittedAtMs
  receiptInFlight := false
  statusInFlight := false
  sawCleanResponse := false
  rpcFailures := 0
  lastStatus := none
  windowClosed := false
  aborted := false
  abandoned := false
  relayTxHash := none
  maybeSent := false
  acknowledged := false
  notFoundStreak := 0
  submitBlock := none
  find := .new none submittedAtMs
  txReceiptInFlight := false
  lastTxReceiptMs := none
  posting := false
  fromPosting := false
  graceFromMs := none
  relayRejected := false
  moved := none
  statusAsked := false
  relaySentAtMs := none
  forgottenSinceMs := none
  forgottenStreak := 0
  progressMark := none
  progressedAtMs := none
  stalled := false

def heard (entry : Entry Time) (status : TrackLifecycle) (stage : Option String) (nowMs : Time) :
    Entry Time :=
  if status = .notFound then entry
  else
    let mark := (status, stage, entry.relayTxHash.isSome)
    let moved := entry.progressMark.any (· ≠ mark)
    { entry with
      progressedAtMs := if moved then some nowMs else entry.progressedAtMs
      stalled := if moved then false else entry.stalled
      progressMark := some mark }

def mergeSender [CaseTable] (entry : Entry Time) (sender : Option String) : Entry Time :=
  if entry.sender = none then
    { entry with sender := (sender.map fun sender => toLowercase (trim sender)).filter (· ≠ "") }
  else entry

def forgotten (entry : Entry Time) : Bool :=
  entry.forgottenSinceMs.isSome && !entry.status.isTerminal && !entry.abandoned

def inDoubt (entry : Entry Time) : Bool :=
  entry.maybeSent && !entry.acknowledged && !entry.status.isTerminal && !entry.abandoned

def scanning (entry : Entry Time) : Bool := entry.inDoubt || entry.forgotten

def graceAge [Clock Time] (entry : Entry Time) (nowMs : Time) : Option Time :=
  if entry.posting then none
  else
    match entry.graceFromMs with
    | some stamped => stamped.map (nowMs - ·)
    | none => some (nowMs - entry.submittedAtMs.getD nowMs)

/-- Past the grace of a relay's `not_found`. -/
def pastGrace [Clock Time] (entry : Entry Time) (nowMs : Time) : Bool :=
  (entry.graceAge nowMs).any fun age => decide (ms notFoundGraceMs ≤ age)

def mergeSubmitFacts (entry : Entry Time) (maybeSent : Bool) (submitBlock : Option Nat) :
    Entry Time :=
  let entry := { entry with maybeSent := entry.maybeSent || maybeSent }
  if entry.submitBlock = none then
    let entry := { entry with submitBlock := submitBlock }
    if entry.find.start = none ∧ entry.find.scannedThrough = none then
      { entry with find.start := submitBlock, find.anchored := submitBlock.isSome }
    else entry
  else entry

def mergeRecordId (entry : Entry Time) (id : String) : Entry Time :=
  if id ∈ entry.recordIds then entry else { entry with recordIds := entry.recordIds ++ [id] }

def feeHeld (entry : Entry Time) : Bool :=
  entry.lastStatus = some (.queued, some feeHoldStage)

end Entry

end VelaWallet.TxTracker
