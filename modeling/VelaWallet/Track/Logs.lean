import VelaWallet.Base.Json
import VelaWallet.Codec.Primitives

/-!
# Reading the chain's logs

What the logs of a transaction say of one operation: its own event, and whether it executed
(`tx_tracker.rs`).
-/

namespace VelaWallet.TxTracker

open Json (Value Reader fromStr)
open Utf8 (bytes stripPrefix CaseTable)

def eqIgnoreAsciiCase (left right : String) : Bool :=
  Utf8.eqIgnoreAsciiCase (bytes left) (bytes right)

def userOperationEventTopic : String :=
  "0x49628fd1471006c1482da88028e9ce4dbb080b815c9b0344d39e5a8e6ec1419f"

def userOperationEvent : String :=
  "UserOperationEvent(bytes32,address,address,uint256,bool,uint256,uint256)"

def safeExecutionFailureTopic : String :=
  "0x23428b18acfb3ea64b08dc0c1d296ea9c09702c09083ca5272e64d115b687d23"

def logText (log : Value) (key : String) : String :=
  ((log.get? key).bind Value.asStr?).getD ""

def logTopics (log : Value) : List String :=
  (((log.get? "topics").bind Value.asArray?).getD []).filterMap Value.asStr?

def asBool : Value → Option Bool
  | .bool value => some value
  | _ => none

/-- `is_op_event`: a live event of the entry point, any operation's. -/
def isOpEvent (log : Value) : Bool :=
  ((log.get? "removed").bind asBool != some true) &&
    eqIgnoreAsciiCase (logText log "address") Safe.entryPoint &&
    (logTopics log).head?.any (eqIgnoreAsciiCase · userOperationEventTopic)

def isOwnEvent (userOpHash : String) (log : Value) : Bool :=
  isOpEvent log && (logTopics log)[1]?.any (eqIgnoreAsciiCase · userOpHash)

structure OpEventLog where
  index : Nat
  txHash : String
  success : Bool

/-- The transaction and the word of success that an event holds, where they can be read. -/
def readEvent (log : Value) : Option (String × Bool) :=
  let txHash := logText log "transactionHash"
  let data := stripPrefix (bytes "0x") (bytes (logText log "data"))
  match Utf8.slice data 64 128 with
  | .error _ => none
  | .ok word =>
    if txHash = "" ∨ ¬ ∀ byte ∈ word, Hex.IsDigit byte then none
    else some (txHash, word.any (· != 48))

/-- `find_in_log_array`, from the `index`-th log on. -/
def findFrom (userOpHash : String) : Nat → List Value → Option OpEventLog
  | _, [] => none
  | index, log :: logs =>
    match (if isOwnEvent userOpHash log then readEvent log else none) with
    | some (txHash, success) => some ⟨index, txHash, success⟩
    | none => findFrom userOpHash (index + 1) logs

def findInLogArray (logs : List Value) (userOpHash : String) : Option OpEventLog :=
  findFrom userOpHash 0 logs

inductive Found where
  | landed (txHash : String) (success : Bool)
  | nothing
  | unreadable

/-- The log array that an `eth_getLogs` result holds. -/
def logArray [Reader] (logsJson : String) : Option (List Value) := do
  let value ← fromStr logsJson
  ((value.get? "result").getD value).asArray?

def findInLogs [Reader] (logsJson userOpHash : String) : Found :=
  match logArray logsJson with
  | none => .unreadable
  | some logs =>
    match findInLogArray logs userOpHash with
    | some event => .landed event.txHash event.success
    | none => .nothing

structure TrustReceiptLog where
  address : String
  topics : List String
  data : String

/-- The log that a receipt's JSON holds. -/
def TrustReceiptLog.of (log : Value) : TrustReceiptLog :=
  ⟨logText log "address", logTopics log, logText log "data"⟩

def TrustReceiptLog.names (log : TrustReceiptLog) (index : Nat) (want : String) : Bool :=
  log.topics[index]?.any (eqIgnoreAsciiCase · want)

def safeExecutionFailed (logs : List TrustReceiptLog) : Bool :=
  logs.any (·.names 0 safeExecutionFailureTopic)

def topicOf (signature : String) : String := toHex (Keccak.keccak256 (bytes signature)) true

/-- The word of success in an event's data. -/
def successWord (data : String) : Option Bool :=
  let text := bytes data
  if text.take 2 = bytes "0x" then
    match Utf8.slice (text.drop 2) 64 128 with
    | .error _ => none
    | .ok word => some (word.any (· != 48))
  else none

/-- `user_op_outcome_in_logs`, from a log on. -/
def outcomeFrom (userOpHash : String) : (executionFailed : Bool) → List TrustReceiptLog → Option Bool
  | _, [] => none
  | executionFailed, log :: logs =>
    let fromEntryPoint := eqIgnoreAsciiCase log.address Safe.entryPoint
    if fromEntryPoint && log.names 0 (topicOf "BeforeExecution()") then
      outcomeFrom userOpHash false logs
    else if fromEntryPoint && log.names 0 (topicOf userOperationEvent) then
      if log.names 1 userOpHash then
        (successWord log.data).map fun success => success && !executionFailed
      else outcomeFrom userOpHash false logs
    else if log.names 0 safeExecutionFailureTopic then outcomeFrom userOpHash true logs
    else outcomeFrom userOpHash executionFailed logs

def userOpOutcomeInLogs (logs : List TrustReceiptLog) (userOpHash : String) : Option Bool :=
  outcomeFrom userOpHash false logs

def opExecutionFailed (logs : List TrustReceiptLog) (userOpHash : String) : Bool :=
  match userOpOutcomeInLogs logs userOpHash with
  | some executed => !executed
  | none => safeExecutionFailed logs

/-- The logs of an operation's own execution, in its bundle's. -/
def ownLogs (logs : List Value) (index : Nat) : List TrustReceiptLog :=
  let before := logs.take index
  let neighbour := before.reverse.findIdx? isOpEvent
  let start := match neighbour with
    | some back => index - back
    | none => 0
  ((logs.take (index + 1)).drop start).map TrustReceiptLog.of

structure RpcErrorInfo where
  code : Option Int
  message : Option String

/-- `Value::as_i64`, where it is an `i32`. -/
def asI32 : Value → Option Int
  | .number (.posInt value) => if value.toNat < 2 ^ 31 then some value.toNat else none
  | .number (.negInt value) => if -2 ^ 31 ≤ value.toInt then some value.toInt else none
  | _ => none

def errorInfo [Reader] (errorJson : String) : Option RpcErrorInfo := do
  let value ← fromStr errorJson
  let error := (value.get? "error").getD value
  return ⟨(error.get? "code").bind asI32, (error.get? "message").bind Value.asStr?⟩

end VelaWallet.TxTracker
