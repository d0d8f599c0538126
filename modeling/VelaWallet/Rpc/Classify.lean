import Mathlib.Data.List.Infix
import VelaWallet.Base.Floating

/-!
# What an endpoint's answer means

The reading of one answer of `rpc_pool.rs`: whether the request may have been acted on, whether
the endpoint was reached at all, and where the call goes next.
-/

namespace VelaWallet.RpcPool

open Utf8 (CaseTable toLowercase)

inductive RpcKind where
  | rpc
  | bundler
  deriving DecidableEq

structure RpcErrorInfo where
  code : Option Int
  message : Option String

inductive RpcTransportOutcome where
  | response (error : Option RpcErrorInfo)
  | httpError (status : Nat)
  | nonJson
  | timeout
  | network
  | notConnected

def mayHaveDelivered : RpcTransportOutcome → Bool
  | .timeout | .network | .nonJson => true
  | .httpError status => decide (500 ≤ status ∧ status ≤ 599)
  | .notConnected | .response _ => false

def isTransportFailure : RpcTransportOutcome → Bool
  | .timeout | .network | .notConnected | .nonJson => true
  | .httpError status => decide (500 ≤ status ∧ status ≤ 599)
  | .response _ => false

/-- `str::contains` -/
def has (text needle : String) : Bool := decide (needle.toList <:+: text.toList)

def hasAny (text : String) (needles : List String) : Bool := needles.any (has text)

section Words

variable [CaseTable]

def RpcErrorInfo.words (error : RpcErrorInfo) : String := toLowercase (error.message.getD "")

def isPermanentRpcError (error : RpcErrorInfo) : Bool :=
  error.message.any (· != "") && hasAny error.words
    ["unauthorized", "api key", "authenticate", "forbidden", "payment required", "exceeded",
      "subscription", "specify an address", "dedicated full node"]

def isTransientServerError (error : RpcErrorInfo) : Bool :=
  -- Execution errors are answers, whatever code rides along.
  if hasAny error.words ["revert", "gas", "execution"] then false
  else error.code.any (fun code => code == -32603 || decide (-32099 ≤ code ∧ code ≤ -32000)) ||
    hasAny error.words
      ["internal error", "server error", "service unavailable", "temporarily unavailable",
        "too many request"]

def isRateLimitSignal (error : RpcErrorInfo) : Bool :=
  hasAny error.words
      ["rate limit", "rate-limit", "too many request", "usage limit", "quota", "exceeded"] ||
    error.code.any fun code => code == -32005 || code == -32001 || code == -32029

def hasRateLimitWording (error : RpcErrorInfo) : Bool :=
  hasAny error.words ["rate limit", "rate-limit", "too many request", "usage limit", "quota"]

end Words

/-- A letter of a written number: its digits run on over commas and underscores. -/
def isNumeral (letter : Char) : Bool := letter.isDigit || letter == ',' || letter == '_'

/-- `str::parse::<f64>` of the digits of a numeral. -/
def parseNumeral (numeral : List Char) : Option Float :=
  let digits := numeral.filter Char.isDigit
  if digits.isEmpty then none else some (Floating.ofDecimal false digits 0 0)

def firstNumberToken (message : List Char) : Option (List Char × Option Char) :=
  let numeral := message.dropWhile (!·.isDigit)
  if numeral.isEmpty then none
  else
    let behind := (numeral.dropWhile isNumeral).dropWhile Utf8.isWhitespace
    some (numeral.takeWhile isNumeral, behind.head?.filter fun mark => mark == 'k' || mark == 'm')

/-- `range_upper_bound`, in a message that is at most `fuel` long. -/
def rangeUpperBoundWithin : Nat → List Char → Option Float
  | 0, _ => none
  | _ + 1, [] => none
  | fuel + 1, letter :: message =>
    if !letter.isDigit then rangeUpperBoundWithin fuel message
    else
      match ((letter :: message).dropWhile isNumeral).dropWhile Utf8.isWhitespace with
      | [] => none
      | mark :: rest =>
        if mark == '-' || mark == '–' then
          (parseNumeral ((rest.dropWhile Utf8.isWhitespace).takeWhile isNumeral)).filter
            fun bound => bound.isFinite && decide (0 < bound)
        else rangeUpperBoundWithin fuel (mark :: rest)

def rangeUpperBound (message : List Char) : Option Float :=
  rangeUpperBoundWithin message.length message

def firstSpan (message : List Char) : Option Float :=
  ((firstNumberToken message).bind fun (numeral, suffix) =>
    (parseNumeral numeral).map fun number =>
      if suffix = some 'k' then number * 1000
      else if suffix = some 'm' then number * 1000000
      else number).filter fun span => span.isFinite && decide (0 < span)

variable [CaseTable]

/-- `get_logs_range_cap`: no range error, or the span the endpoint allows, zero where it names
none. -/
def getLogsRangeCap (error : RpcErrorInfo) : Option Float :=
  if !error.message.any (· != "") then none
  else
    let words := error.words
    if has words "result" && hasAny words ["more than", "exceed", "limit", "too many"] then some 0
    else if hasAny words ["block range", "block height", "too many blocks", "range is too",
          "range too", "range limit", "limited to"] ||
        (has words "range" && hasAny words ["exceed", "large", "wide", "maximum", "blocks"]) then
      some (((firstSpan words.toList).or (rangeUpperBound words.toList)).getD 0)
    else none

inductive Route where
  | success
  | rangeCap (maxSpan : Float)
  | ban (rateLimitSignal : Bool)
  | transient (rateLimitSignal : Bool)
  | rateLimited429
  | plainFailure
  | notServed

def isOptionalMethod (method : String) : Bool := ["eth_simulateV1"].contains method

def classifyResponseError (error : RpcErrorInfo) : Route :=
  if isPermanentRpcError error then .ban (isRateLimitSignal error)
  else if isTransientServerError error then .transient (isRateLimitSignal error)
  else .success

def routeOf (kind : RpcKind) (method : String) : RpcTransportOutcome → Route
  | .response none => .success
  | .response (some error) =>
    if kind = .rpc ∧ method = "eth_getLogs" then
      -- A throttled node is not a range limit, and a range limit is no fault.
      if hasRateLimitWording error then .transient true
      else
        match getLogsRangeCap error with
        | some cap => .rangeCap cap
        | none => if isRateLimitSignal error then .transient true else classifyResponseError error
    else if kind = .rpc ∧ isOptionalMethod method then
      if isRateLimitSignal error then .transient true else .notServed
    else classifyResponseError error
  | .httpError status =>
    if [401, 403, 404].contains status then .ban false
    else if status = 429 then .rateLimited429
    else .plainFailure
  | .nonJson | .timeout | .network | .notConnected => .plainFailure

end VelaWallet.RpcPool
