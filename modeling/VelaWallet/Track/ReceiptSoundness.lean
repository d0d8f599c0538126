import Mathlib.Data.List.DropRight
import Mathlib.Data.List.Induction
import VelaWallet.Track.VerdictSoundness

/-!
# Two readers of a receipt

What the tracker concludes from a bundle's receipt that it reads itself, beside what is told of the
same logs where they come with an answer of the relay.
-/

namespace VelaWallet.TxTracker

open Json (Value)
open Utf8 (bytes stripPrefix)

variable {index : Nat} {left right : String} {log : TrustReceiptLog}

def since {Log : Type} (isBoundary : Log → Bool) (logs : List Log) : List Log :=
  logs.rtakeWhile fun log => !isBoundary log

section Windows

variable {Log : Type} {isBoundary other : Log → Bool}

@[simp] theorem since_nil : since isBoundary [] = [] := rfl

theorem since_concat (logs : List Log) (log : Log) :
    since isBoundary (logs ++ [log]) =
      if isBoundary log then [] else since isBoundary logs ++ [log] := by
  rw [since, List.rtakeWhile_concat]
  cases isBoundary log <;> rfl

theorem mem_since_of_stronger (stronger : ∀ log, other log = true → isBoundary log = true)
    {logs : List Log} {log : Log} (member : log ∈ since isBoundary logs) :
    log ∈ since other logs := by
  induction logs using List.reverseRecOn with
  | nil => exact member
  | append_singleton _ last ih =>
    rw [since_concat] at member ⊢
    cases bounded : isBoundary last with
    | true =>
      rw [bounded] at member
      cases member
    | false =>
      have free : other last = false := by
        cases outer : other last with
        | true => exact absurd ((stronger last outer).symm.trans bounded) nofun
        | false => rfl
      rw [bounded] at member
      rw [free]
      rcases List.mem_append.mp member with early | same
      · exact List.mem_append_left _ (ih early)
      · exact List.mem_append_right _ same

theorem since_eq_drop (logs : List Log) :
    since isBoundary logs = logs.drop (match logs.reverse.findIdx? isBoundary with
      | some back => logs.length - back
      | none => 0) := by
  induction logs using List.reverseRecOn with
  | nil => rfl
  | append_singleton logs last ih =>
    rw [since_concat, List.reverse_append, List.reverse_singleton, List.singleton_append,
      List.findIdx?_cons]
    cases bounded : isBoundary last with
    | true => simp
    | false =>
      rw [ih]
      cases found : logs.reverse.findIdx? isBoundary with
      | none => simp
      | some =>
        have inside := List.findIdx?_eq_some_iff_findIdx_eq.mp found
        rw [List.length_reverse] at inside
        simp only [Bool.false_eq_true, if_false, Option.map_some, List.length_append,
          List.length_singleton]
        rw [List.drop_append_of_le_length (by omega)]
        congr 2
        omega

end Windows

def TrustReceiptLog.fromEntryPoint (log : TrustReceiptLog) : Bool :=
  eqIgnoreAsciiCase log.address Safe.entryPoint

/-- The entry point begins to execute, or closes an operation. -/
def TrustReceiptLog.isBoundary (log : TrustReceiptLog) : Bool :=
  log.fromEntryPoint &&
    (log.names 0 (topicOf "BeforeExecution()") || log.names 0 (topicOf userOperationEvent))

/-- The entry point closes the operation. -/
def TrustReceiptLog.closes (log : TrustReceiptLog) (userOpHash : String) : Bool :=
  log.fromEntryPoint && log.names 0 (topicOf userOperationEvent) && log.names 1 userOpHash

/-- A Safe says that its execution failed. -/
def TrustReceiptLog.isFailure (log : TrustReceiptLog) : Bool :=
  log.names 0 safeExecutionFailureTopic

/-- The topic of `BeforeExecution()`. -/
def beforeExecutionTopic : String :=
  "0xbb47ee3e183a558b1a2ff0874b079f3fc5478b7454eacf2bfc5af2ff5878f972"

theorem topicOf_userOperationEvent : topicOf userOperationEvent = userOperationEventTopic := by
  decide +kernel

theorem topicOf_beforeExecution : topicOf "BeforeExecution()" = beforeExecutionTopic := by
  decide +kernel

theorem topics_apart :
    eqIgnoreAsciiCase userOperationEventTopic beforeExecutionTopic = false ∧
      eqIgnoreAsciiCase userOperationEventTopic safeExecutionFailureTopic = false ∧
      eqIgnoreAsciiCase beforeExecutionTopic safeExecutionFailureTopic = false := by
  decide +kernel

theorem event_ne_beforeExecution :
    eqIgnoreAsciiCase userOperationEventTopic beforeExecutionTopic = false :=
  topics_apart.1

theorem event_ne_failure :
    eqIgnoreAsciiCase userOperationEventTopic safeExecutionFailureTopic = false :=
  topics_apart.2.1

theorem eqIgnoreAsciiCase_congr {text : String} (same : eqIgnoreAsciiCase left right = true) :
    eqIgnoreAsciiCase text left = eqIgnoreAsciiCase text right := by
  have lower := (Utf8.eqIgnoreAsciiCase_iff _ _).mp same
  rw [Bool.eq_iff_iff]
  unfold eqIgnoreAsciiCase
  rw [Utf8.eqIgnoreAsciiCase_iff, Utf8.eqIgnoreAsciiCase_iff, lower]

theorem eqIgnoreAsciiCase_comm (left right : String) :
    eqIgnoreAsciiCase left right = eqIgnoreAsciiCase right left := by
  rw [Bool.eq_iff_iff]
  unfold eqIgnoreAsciiCase
  rw [Utf8.eqIgnoreAsciiCase_iff, Utf8.eqIgnoreAsciiCase_iff, eq_comm]

theorem names_congr (same : eqIgnoreAsciiCase left right = true) :
    log.names index left = log.names index right := by
  unfold TrustReceiptLog.names
  cases log.topics[index]? with
  | none => rfl
  | some => exact eqIgnoreAsciiCase_congr same

theorem names_exclusive
    (named : log.names index left = true) (distinct : eqIgnoreAsciiCase left right = false) :
    log.names index right = false := by
  unfold TrustReceiptLog.names at named ⊢
  cases found : log.topics[index]? with
  | none => rfl
  | some topic =>
    rw [found] at named
    have lower := (Utf8.eqIgnoreAsciiCase_iff _ _).mp named
    cases other : eqIgnoreAsciiCase topic right with
    | false => rw [← other]; rfl
    | true =>
      have same := (Utf8.eqIgnoreAsciiCase_iff _ _).mp other
      have equal : eqIgnoreAsciiCase left right = true :=
        (Utf8.eqIgnoreAsciiCase_iff _ _).mpr (lower.symm.trans same)
      rw [distinct] at equal
      contradiction

theorem beforeExecution_ne_failure :
    eqIgnoreAsciiCase beforeExecutionTopic safeExecutionFailureTopic = false :=
  topics_apart.2.2

section Readers

variable {userOpHash key : String} {before after : List Value} {event : Value}

theorem isOpEvent_facts {log : Value} (opEvent : isOpEvent log = true) :
    (TrustReceiptLog.of log).fromEntryPoint = true ∧
      (TrustReceiptLog.of log).names 0 (topicOf userOperationEvent) = true := by
  simp only [isOpEvent, Bool.and_eq_true] at opEvent
  refine ⟨opEvent.1.2, ?_⟩
  rw [topicOf_userOperationEvent, TrustReceiptLog.names, ← List.head?_eq_getElem?]
  exact opEvent.2

theorem isOpEvent_isBoundary {log : Value} (opEvent : isOpEvent log = true) :
    (TrustReceiptLog.of log).isBoundary = true := by
  simp [TrustReceiptLog.isBoundary, isOpEvent_facts opEvent]

theorem isOwnEvent_eq (log : Value) : isOwnEvent key log =
    (isOpEvent log && (TrustReceiptLog.of log).closes key) := by
  unfold isOwnEvent
  cases opEvent : isOpEvent log with
  | false => rfl
  | true =>
    have second : ((logTopics log)[1]?.any (eqIgnoreAsciiCase · key)) =
        (TrustReceiptLog.of log).names 1 key := rfl
    obtain ⟨address, named⟩ := isOpEvent_facts opEvent
    rw [second, TrustReceiptLog.closes, address, named]
    rfl

theorem outcomeFrom_append {failed : Bool} {logs rest : List TrustReceiptLog}
    (others : ∀ log ∈ logs, log.closes userOpHash = false) :
    outcomeFrom userOpHash failed (logs ++ rest) =
      outcomeFrom userOpHash (logs.foldl (fun failed log =>
        if log.isBoundary then false else failed || log.isFailure) failed) rest := by
  induction logs generalizing failed with
  | nil => rfl
  | cons log logs ih =>
    have other := others log List.mem_cons_self
    have step : outcomeFrom userOpHash failed (log :: (logs ++ rest)) =
        outcomeFrom userOpHash
          (if log.isBoundary then false else failed || log.isFailure) (logs ++ rest) := by
      rw [outcomeFrom]
      simp only [TrustReceiptLog.closes, TrustReceiptLog.fromEntryPoint] at other
      simp only [TrustReceiptLog.isBoundary, TrustReceiptLog.fromEntryPoint,
        TrustReceiptLog.isFailure]
      by_cases address : eqIgnoreAsciiCase log.address Safe.entryPoint = true <;>
        by_cases begins : log.names 0 (topicOf "BeforeExecution()") = true <;>
        by_cases ends : log.names 0 (topicOf userOperationEvent) = true <;>
        by_cases fails : log.names 0 safeExecutionFailureTopic = true <;>
        simp_all
    rw [List.cons_append, step, List.foldl_cons]
    exact ih fun log member => others log (List.mem_cons_of_mem _ member)

theorem foldl_failed (logs : List TrustReceiptLog) :
    logs.foldl (fun failed log => if log.isBoundary then false else failed || log.isFailure) false =
      safeExecutionFailed (since TrustReceiptLog.isBoundary logs) := by
  induction logs using List.reverseRecOn with
  | nil => rfl
  | append_singleton _ log ih =>
    rw [List.foldl_append, List.foldl_cons, List.foldl_nil, ih, since_concat]
    cases log.isBoundary with
    | true => rfl
    | false =>
      simp only [Bool.false_eq_true, if_false]
      rw [safeExecutionFailed, safeExecutionFailed, List.any_append]
      simp [TrustReceiptLog.isFailure]

theorem outcomeFrom_closes {failed : Bool} {logs : List TrustReceiptLog}
    (closes : log.closes userOpHash = true) :
    outcomeFrom userOpHash failed (log :: logs) =
      (successWord log.data).map fun success => success && !failed := by
  simp only [TrustReceiptLog.closes, TrustReceiptLog.fromEntryPoint, Bool.and_eq_true] at closes
  obtain ⟨⟨address, topic⟩, own⟩ := closes
  have begins : log.names 0 (topicOf "BeforeExecution()") = false := by
    apply names_exclusive topic
    rw [topicOf_userOperationEvent, topicOf_beforeExecution]
    exact event_ne_beforeExecution
  simp [outcomeFrom, address, begins, topic, own]

theorem outcomeInLogs_eq (own : (TrustReceiptLog.of event).closes userOpHash = true)
    (others : ∀ log ∈ before, (TrustReceiptLog.of log).closes userOpHash = false) :
    userOpOutcomeInLogs ((before ++ event :: after).map TrustReceiptLog.of) userOpHash =
      (successWord (logText event "data")).map fun success =>
        success && !safeExecutionFailed
          (since TrustReceiptLog.isBoundary (before.map TrustReceiptLog.of)) := by
  have others_of : ∀ log ∈ before.map TrustReceiptLog.of, log.closes userOpHash = false := by
    intro log member
    obtain ⟨value, there, rfl⟩ := List.mem_map.mp member
    exact others value there
  rw [userOpOutcomeInLogs, List.map_append, List.map_cons, outcomeFrom_append others_of,
    foldl_failed, outcomeFrom_closes own]
  rfl

/-- What the receipt itself says of the operation. -/
def directOutcome (logs : List Value) (key : String) : Option Bool :=
  (findInLogArray logs key).map fun event =>
    event.success && !safeExecutionFailed (ownLogs logs event.index)

theorem findFrom_append {rest : List Value} (others : ∀ log ∈ before, isOwnEvent key log = false) :
    findFrom key index (before ++ rest) = findFrom key (index + before.length) rest := by
  induction before generalizing index with
  | nil => rfl
  | cons log _ ih =>
    rw [List.cons_append, findFrom, others log List.mem_cons_self]
    simp only [Bool.false_eq_true, if_false]
    rw [ih fun log member => others log (List.mem_cons_of_mem _ member), List.length_cons]
    congr 1
    omega

theorem findInLogArray_eq (own : (TrustReceiptLog.of event).closes key = true)
    (once : ∀ log ∈ before ++ after, (TrustReceiptLog.of log).closes key = false) :
    findInLogArray (before ++ event :: after) key =
      (if isOpEvent event then readEvent event else none).map fun read =>
        ⟨before.length, read.1, read.2⟩ := by
  have others : ∀ log ∈ before ++ after, isOwnEvent key log = false := by
    intro log member
    rw [isOwnEvent_eq, once log member, Bool.and_false]
  have none_after : findFrom key (0 + before.length + 1) after = none := by
    apply findFrom_eq_none.mpr
    intro log member owned
    rw [others log (List.mem_append_right _ member)] at owned
    contradiction
  rw [findInLogArray, findFrom_append fun log member =>
    others log (List.mem_append_left _ member), findFrom, isOwnEvent_eq, own, Bool.and_true,
    none_after]
  cases (if isOpEvent event then readEvent event else none) with
  | none => rfl
  | some =>
    simp

theorem ownLogs_eq : ownLogs (before ++ event :: after) before.length =
    (since isOpEvent before ++ [event]).map TrustReceiptLog.of := by
  have taken : (before ++ event :: after).take (before.length + 1) = before ++ [event] := by
    rw [List.take_length_add_append]
    rfl
  have prior : (before ++ event :: after).take before.length = before := List.take_left
  rw [ownLogs, prior, taken, since_eq_drop]
  have inside : (match before.reverse.findIdx? isOpEvent with
      | some back => before.length - back
      | none => 0) ≤ before.length := by
    split
    · exact Nat.sub_le _ _
    · exact Nat.zero_le _
  exact congrArg (List.map TrustReceiptLog.of) (List.drop_append_of_le_length inside)

theorem safeExecutionFailed_ownLogs (own : (TrustReceiptLog.of event).closes key = true) :
    safeExecutionFailed (ownLogs (before ++ event :: after) before.length) =
      safeExecutionFailed ((since isOpEvent before).map TrustReceiptLog.of) := by
  simp only [TrustReceiptLog.closes, Bool.and_eq_true] at own
  have other : (TrustReceiptLog.of event).names 0 safeExecutionFailureTopic = false := by
    apply names_exclusive own.1.2
    rw [topicOf_userOperationEvent]
    exact event_ne_failure
  rw [ownLogs_eq, List.map_append, safeExecutionFailed, safeExecutionFailed, List.any_append]
  simp [other]

/-- The text opens with the mark of hex digits. -/
def opensWithMark (text : String) : Bool := (bytes text).take 2 = bytes "0x"

/-- The event of an operation reads alike for both readers, behind the logs before it: both read
its word of success, or neither; and an execution that failed since the last operation's event
failed since the last boundary. -/
def ReadsAlike (before : List Value) (event : Value) : Prop :=
  match if isOpEvent event then readEvent event else none with
  | some (_, success) =>
    opensWithMark (logText event "data") = true ∧
      (success = true →
        safeExecutionFailed ((since isOpEvent before).map TrustReceiptLog.of) = true →
          safeExecutionFailed
            (since TrustReceiptLog.isBoundary (before.map TrustReceiptLog.of)) = true)
  | none => successWord (logText event "data") = none

theorem stripPrefix_append (mark text : List UInt8) : stripPrefix mark (mark ++ text) = text := by
  have marked : mark.isPrefixOf (mark ++ text) = true :=
    List.isPrefixOf_iff_prefix.mpr (List.prefix_append mark text)
  simp [stripPrefix, marked]

theorem readEvent_successWord {txHash : String} {success : Bool}
    (read : readEvent event = some (txHash, success)) :
    successWord (logText event "data") =
      if opensWithMark (logText event "data") then some success else none := by
  unfold readEvent at read
  unfold successWord opensWithMark
  dsimp only at read ⊢
  by_cases opens : (bytes (logText event "data")).take 2 = bytes "0x"
  · have stripped : stripPrefix (bytes "0x") (bytes (logText event "data")) =
        (bytes (logText event "data")).drop 2 := by
      conv_lhs => rw [← List.take_append_drop 2 (bytes (logText event "data")), opens]
      exact stripPrefix_append _ _
    rw [stripped] at read
    simp only [opens, if_true, decide_true]
    split at read
    case _ => contradiction
    case _ =>
      split at read
      case isTrue => contradiction
      case isFalse =>
        cases read
        rfl
  · simp [opens]

theorem failed_of_since_boundary (failed : safeExecutionFailed
      (since TrustReceiptLog.isBoundary (before.map TrustReceiptLog.of)) = true) :
    safeExecutionFailed ((since isOpEvent before).map TrustReceiptLog.of) = true := by
  have windows : since TrustReceiptLog.isBoundary (before.map TrustReceiptLog.of) =
      (since (fun log => (TrustReceiptLog.of log).isBoundary) before).map TrustReceiptLog.of := by
    clear failed
    induction before using List.reverseRecOn with
    | nil => rfl
    | append_singleton _ log ih =>
      rw [List.map_append, List.map_singleton, since_concat, since_concat, ih]
      cases (TrustReceiptLog.of log).isBoundary <;> simp
  rw [windows, safeExecutionFailed, List.any_eq_true] at failed
  obtain ⟨log, member, fails⟩ := failed
  obtain ⟨value, there, rfl⟩ := List.mem_map.mp member
  rw [safeExecutionFailed, List.any_eq_true]
  exact ⟨_, List.mem_map_of_mem
    (mem_since_of_stronger (fun _ => isOpEvent_isBoundary) there), fails⟩

theorem directOutcome_eq_iff (same : eqIgnoreAsciiCase userOpHash key = true)
    (own : (TrustReceiptLog.of event).closes key = true)
    (once : ∀ log ∈ before ++ after, (TrustReceiptLog.of log).closes key = false) :
    directOutcome (before ++ event :: after) key =
        userOpOutcomeInLogs ((before ++ event :: after).map TrustReceiptLog.of) userOpHash ↔
      ReadsAlike before event := by
  have closes (log : TrustReceiptLog) : log.closes userOpHash = log.closes key := by
    rw [TrustReceiptLog.closes, TrustReceiptLog.closes, names_congr same]
  have forward := @outcomeInLogs_eq userOpHash before after event (by rw [closes]; exact own)
    fun log member => by
      rw [closes]
      exact once log (List.mem_append_left _ member)
  rw [forward, directOutcome, findInLogArray_eq own once, ReadsAlike]
  have contained := @failed_of_since_boundary before
  cases read : (if isOpEvent event then readEvent event else none) with
  | none => simp [eq_comm]
  | some found =>
    obtain ⟨txHash, success⟩ := found
    have readable : readEvent event = some (txHash, success) := by
      split at read
      · exact read
      · contradiction
    simp only [Option.map_some, safeExecutionFailed_ownLogs own, readEvent_successWord readable]
    generalize safeExecutionFailed ((since isOpEvent before).map TrustReceiptLog.of) = back
      at contained ⊢
    generalize safeExecutionFailed
      (since TrustReceiptLog.isBoundary (before.map TrustReceiptLog.of)) = forth at contained ⊢
    cases opensWithMark (logText event "data") <;> cases success <;> cases back <;>
      cases forth <;> simp_all

end Readers

section Entries

variable {Time : Type} [TrackRuntime]

/-- How an operation executed, by its entry's status. -/
def EntryStatus.executed : EntryStatus → Option Bool
  | .confirmed _ => some true
  | .failed _ => some false
  | _ => none

theorem onTxReceipt_executed {entry : Entry Time} {key : String} {nowMs : Time}
    {receiptJson : Option String} {logs : List Value} (live : entry.status.isTerminal = false)
    (read : receiptLogs receiptJson = some logs) :
    (entry.onTxReceipt key nowMs receiptJson).1.status.executed = directOutcome logs key := by
  have undecided : entry.status.executed = none := by
    cases status : entry.status <;> rw [status] at live <;> first | rfl | contradiction
  rw [onTxReceipt_eq]
  simp only [live, Bool.false_eq_true, if_false, read, directOutcome]
  cases found : findInLogArray logs key with
  | none =>
    dsimp only
    split
    · rfl
    · exact undecided
  | some =>
    dsimp only
    split
    case isTrue executed =>
      rw [Option.map_some, executed]
      rfl
    case isFalse failed =>
      rw [Option.map_some, Bool.eq_false_iff.mpr failed]
      rfl

/-- A receipt that holds one event of an operation is concluded from as its logs are read, exactly
if the event reads alike for both readers. -/
theorem readers_agree_iff {entry : Entry Time} {userOpHash key : String} {nowMs : Time}
    {receiptJson : Option String} {before after : List Value} {event : Value}
    (live : entry.status.isTerminal = false)
    (read : receiptLogs receiptJson = some (before ++ event :: after))
    (same : eqIgnoreAsciiCase userOpHash key = true)
    (own : (TrustReceiptLog.of event).closes key = true)
    (once : ∀ log ∈ before ++ after, (TrustReceiptLog.of log).closes key = false) :
    (entry.onTxReceipt key nowMs receiptJson).1.status.executed =
        userOpOutcomeInLogs ((before ++ event :: after).map TrustReceiptLog.of) userOpHash ↔
      ReadsAlike before event := by
  rw [onTxReceipt_executed live read]
  exact directOutcome_eq_iff same own once

end Entries

/-! ## Receipts -/

def receiptLog (address : String) (topics : List String) (data : String) : Value :=
  .object [("address", .string address), ("data", .string data),
    ("topics", .array (topics.map .string)), ("transactionHash", .string "0xcd")]

section Logs

variable {address topic data userOpHash key : String} {topics : List String}

theorem logTopics_receiptLog : logTopics (receiptLog address topics data) = topics := by
  have texts : (topics.map Value.string).filterMap Value.asStr? = topics := by
    rw [List.filterMap_map]
    exact List.filterMap_some
  simp [receiptLog, logTopics, Value.get?, Value.lookup, texts]

theorem of_receiptLog :
    TrustReceiptLog.of (receiptLog address topics data) = ⟨address, topics, data⟩ := by
  rw [TrustReceiptLog.of, logTopics_receiptLog]
  simp [receiptLog, logText, Value.get?, Value.lookup]

theorem isOpEvent_receiptLog :
    isOpEvent (receiptLog address (topic :: topics) data) =
      (eqIgnoreAsciiCase address Safe.entryPoint &&
        eqIgnoreAsciiCase topic userOperationEventTopic) := by
  have standing : ((receiptLog address (topic :: topics) data).get? "removed").bind asBool =
      none := by
    simp [receiptLog, Value.get?, Value.lookup]
  have emitter : logText (receiptLog address (topic :: topics) data) "address" = address := by
    simp [receiptLog, logText, Value.get?, Value.lookup]
  rw [isOpEvent, logTopics_receiptLog, standing, emitter]
  rfl

theorem receiptLog_open (other : eqIgnoreAsciiCase userOperationEventTopic topic = false) :
    isOpEvent (receiptLog address (topic :: topics) data) = false ∧
      (TrustReceiptLog.of (receiptLog address (topic :: topics) data)).closes userOpHash =
        false := by
  rw [eqIgnoreAsciiCase_comm] at other
  constructor
  · rw [isOpEvent_receiptLog, other, Bool.and_false]
  · simp [of_receiptLog, TrustReceiptLog.closes, topicOf_userOperationEvent,
      TrustReceiptLog.names, other]

theorem receiptLog_closes (emitter : eqIgnoreAsciiCase address Safe.entryPoint = true)
    (event : eqIgnoreAsciiCase topic userOperationEventTopic = true)
    (own : eqIgnoreAsciiCase userOpHash key = true) :
    isOpEvent (receiptLog address (topic :: userOpHash :: topics) data) = true ∧
      (TrustReceiptLog.of (receiptLog address (topic :: userOpHash :: topics) data)).closes key =
        true := by
  constructor
  · rw [isOpEvent_receiptLog, emitter, event]
    rfl
  · simp [of_receiptLog, TrustReceiptLog.closes, TrustReceiptLog.fromEntryPoint, emitter,
      topicOf_userOperationEvent, TrustReceiptLog.names, event, own]

theorem receiptLog_isBoundary (emitter : eqIgnoreAsciiCase address Safe.entryPoint = true)
    (begins : eqIgnoreAsciiCase topic beforeExecutionTopic = true) :
    (TrustReceiptLog.of (receiptLog address (topic :: topics) data)).isBoundary = true := by
  simp [of_receiptLog, TrustReceiptLog.isBoundary, TrustReceiptLog.fromEntryPoint, emitter,
    topicOf_beforeExecution, TrustReceiptLog.names, begins]

theorem receiptLog_isFailure :
    (TrustReceiptLog.of (receiptLog address (topic :: topics) data)).isFailure =
      eqIgnoreAsciiCase topic safeExecutionFailureTopic := by
  rw [of_receiptLog]
  rfl

theorem receiptLogs_read [TrackRuntime] {text : String} {logs : List Value}
    (read : Json.fromStr text = some (.object [("logs", .array logs)])) :
    receiptLogs (some text) = some logs := by
  simp [receiptLogs, receiptOf, read, Value.get?, Value.lookup, Value.asArray?]

end Logs

def successEvent : Value :=
  receiptLog Safe.entryPoint [userOperationEventTopic, "0xab"]
    ("0x" ++ String.ofList (List.replicate 127 '0') ++ "1")

/-- A failed execution, and the entry point's word that it begins to execute. -/
def failureLog : Value := receiptLog "0x11" [safeExecutionFailureTopic] "0x"

def beginsLog : Value := receiptLog Safe.entryPoint [beforeExecutionTopic] "0x"

theorem successEvent_closes : isOpEvent successEvent = true ∧
    (TrustReceiptLog.of successEvent).closes "0xab" = true :=
  receiptLog_closes (Utf8.eqIgnoreAsciiCase_refl _) (Utf8.eqIgnoreAsciiCase_refl _)
    (Utf8.eqIgnoreAsciiCase_refl _)

theorem successEvent_data : readEvent successEvent = some ("0xcd", true) ∧
    opensWithMark (logText successEvent "data") = true := by
  decide +kernel

theorem successEvent_read : (if isOpEvent successEvent then readEvent successEvent else none) =
    some ("0xcd", true) := by
  rw [if_pos successEvent_closes.1]
  exact successEvent_data.1

theorem successEvent_opens : opensWithMark (logText successEvent "data") = true :=
  successEvent_data.2

theorem beginsLog_open (userOpHash : String) : isOpEvent beginsLog = false ∧
    (TrustReceiptLog.of beginsLog).closes userOpHash = false :=
  receiptLog_open event_ne_beforeExecution

theorem beginsLog_isBoundary : (TrustReceiptLog.of beginsLog).isBoundary = true :=
  receiptLog_isBoundary (Utf8.eqIgnoreAsciiCase_refl _) (Utf8.eqIgnoreAsciiCase_refl _)

theorem failureLog_open (userOpHash : String) : isOpEvent failureLog = false ∧
    (TrustReceiptLog.of failureLog).closes userOpHash = false :=
  receiptLog_open event_ne_failure

@[reducible] local instance receiptTexts : TrackRuntime := sampleRuntime fun text =>
  if text = "plain" then some (.object [("logs", .array [beginsLog, successEvent])])
  else if text = "shared" then
    some (.object [("logs", .array [failureLog, beginsLog, successEvent])])
  else none

/-- An operation that executed alone. -/
theorem plain_agrees :
    ((Entry.fresh 56 : Entry Int).onTxReceipt "0xab" 0 (some "plain")).1.status.executed =
      userOpOutcomeInLogs ([beginsLog, successEvent].map TrustReceiptLog.of) "0xAB" := by
  have window : since isOpEvent ([] ++ [beginsLog]) = [beginsLog] := by
    rw [since_concat, (beginsLog_open "").1]
    rfl
  have intact : (TrustReceiptLog.of beginsLog).isFailure = false :=
    receiptLog_isFailure.trans beforeExecution_ne_failure
  have once : ∀ log ∈ [beginsLog] ++ [], (TrustReceiptLog.of log).closes "0xab" = false := by
    simp [beginsLog_open]
  have read : receiptLogs (some "plain") = some ([beginsLog] ++ successEvent :: []) :=
    receiptLogs_read (if_pos rfl)
  have same : eqIgnoreAsciiCase "0xAB" "0xab" = true := by decide
  apply (readers_agree_iff rfl read same successEvent_closes.2 once).mpr
  rw [ReadsAlike, successEvent_read]
  refine ⟨successEvent_opens, ?_⟩
  intro _ failed
  rw [List.nil_append] at window
  rw [window, safeExecutionFailed, List.map_singleton, List.any_cons, List.any_nil,
    Bool.or_false] at failed
  exact absurd (intact.symm.trans failed) Bool.false_ne_true

/-- An execution that failed before the bundle's execution began fails the operation for one reader
only. -/
theorem shared_disagrees :
    ((Entry.fresh 56 : Entry Int).onTxReceipt "0xab" 0 (some "shared")).1.status.executed =
        some false ∧
      userOpOutcomeInLogs ([failureLog, beginsLog, successEvent].map TrustReceiptLog.of) "0xab" =
        some true := by
  have others : ∀ log ∈ [failureLog, beginsLog] ++ [],
      (TrustReceiptLog.of log).closes "0xab" = false := by
    simp [beginsLog_open, failureLog_open]
  have read : receiptLogs (some "shared") = some ([failureLog, beginsLog] ++ successEvent :: []) :=
    receiptLogs_read rfl
  constructor
  · have window : since isOpEvent (([] ++ [failureLog]) ++ [beginsLog]) =
        [failureLog, beginsLog] := by
      rw [since_concat, since_concat, (beginsLog_open "").1, (failureLog_open "").1]
      rfl
    have failed : safeExecutionFailed ((since isOpEvent [failureLog, beginsLog]).map
        TrustReceiptLog.of) = true := by
      rw [List.nil_append, List.singleton_append] at window
      rw [window, safeExecutionFailed, List.map_cons, List.any_cons]
      exact Bool.or_eq_true_iff.mpr (.inl
        (receiptLog_isFailure.trans (Utf8.eqIgnoreAsciiCase_refl _)))
    rw [onTxReceipt_executed rfl read, directOutcome,
      findInLogArray_eq successEvent_closes.2 others, successEvent_read, Option.map_some,
      Option.map_some, safeExecutionFailed_ownLogs successEvent_closes.2, failed]
    rfl
  · have window : since TrustReceiptLog.isBoundary
        (([] ++ [TrustReceiptLog.of failureLog]) ++ [TrustReceiptLog.of beginsLog]) = [] := by
      rw [since_concat, beginsLog_isBoundary]
      rfl
    have word : successWord (logText successEvent "data") = some true := by
      have readable := successEvent_read
      rw [if_pos successEvent_closes.1] at readable
      rw [readEvent_successWord readable, if_pos successEvent_opens]
    have earlier : ∀ log ∈ [failureLog, beginsLog],
        (TrustReceiptLog.of log).closes "0xab" = false := fun log member =>
      others log (List.mem_append_left [] member)
    have reading := @outcomeInLogs_eq "0xab" _ [] _ successEvent_closes.2 earlier
    rw [List.nil_append, List.singleton_append] at window
    rw [word, List.map_cons, List.map_singleton, window] at reading
    exact reading

end VelaWallet.TxTracker
