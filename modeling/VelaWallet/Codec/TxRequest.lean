import VelaWallet.Base.Json
import VelaWallet.Base.Lists
import VelaWallet.Codec.UserOp

/-!
# The calls of a transaction request

One reading of `eth_sendTransaction` and `wallet_sendCalls` params
(`tx_request.rs`): every call with its target, exact decimal value and data
text, or nothing when any of them cannot be read.
-/

namespace VelaWallet

open Json (Value Reader Writer fromStr toStr)
open Utf8 (bytes stripPrefix)

variable {raw : Value}

/-- `2^256 − 1` has 64 hex digits. -/
def u256HexDigits : Nat := 64

def isTransactionMethod (method : String) : Bool :=
  method == "eth_sendTransaction" || method == "wallet_sendCalls"

/-- `value_wei_text`: a call's `value` text as decimal wei. -/
def valueWeiText (value : Option String) : Option String :=
  match value with
  | none => some "0"
  | some text =>
    if text = "" ∨ text = "0x" ∨ ∀ byte ∈ bytes text, byte = 48 then some "0"
    else if hexMark.isPrefixOf (bytes text) then
      let body := (bytes text).drop 2
      if ¬ ∀ byte ∈ body, Hex.IsDigit byte then none
      else
        let significant := body.dropWhile (· == 48)
        if significant.length > u256HexDigits then none
        else if significant.isEmpty then some "0"
        else (Hex.natOf? significant).map fun wei => toString wei
    else none

/-- `value_wei`: a call's `value` field as decimal wei; a JSON number is refused
unless it is the unsigned zero. -/
def valueWei (value : Option Value) : Option String :=
  match value with
  | none => some "0"
  | some .null => some "0"
  | some (.string text) => valueWeiText (some text)
  | some (.number (.posInt number)) => if number = 0 then some "0" else none
  | some _ => none

/-- `canonical_value`: a readable value as `0x` and lower-case digits. -/
def canonicalValue (value : Value) : Option String :=
  (valueWei (some value)).map fun _ =>
    let text := bytes (value.asStr?.getD "")
    let body := if hexMark.isPrefixOf text then (text.drop 2).dropWhile (· == 48) else []
    if body.isEmpty then "0x0" else Utf8.ofAscii (hexMark ++ Utf8.toAsciiLowercase body)

/-- Why a transaction request is refused at arrival. -/
inductive TxRequestError where
  | badValue (leg : Option Nat)

/-- The dApp's message for a refused transaction request. -/
def TxRequestError.message : TxRequestError → String
  | .badValue none => "Invalid transaction value: expected a 0x-prefixed hex quantity"
  | .badValue (some leg) =>
    "Invalid value in call " ++ toString leg ++ ": expected a 0x-prefixed hex quantity"

/-- `canonicalize`: one call's value made canonical, and whether that changed it. -/
def canonicalize (leg : Option Nat) (call : Value) : Except TxRequestError (Value × Bool) :=
  match call with
  | .object members =>
    match Value.lookup "value" members with
    | none | some .null => .ok (call, false)
    | some value =>
      match canonicalValue value with
      | none => .error (.badValue leg)
      | some canonical =>
        if value.asStr? = some canonical then .ok (call, false)
        else .ok (.object (Value.insertMember "value" (.string canonical) members), true)
  | _ => .ok (call, false)

/-- The first param of a request with every value of it made canonical. -/
def canonicalizeFirst (method : String) (first : Value) : Except TxRequestError (Value × Bool) :=
  if method = "wallet_sendCalls" then
    match first with
    | .object members =>
      match (Value.lookup "calls" members).bind Value.asArray? with
      | none => .ok (first, false)
      | some calls => do
          let read ← calls.zipIdx.mapM fun call => canonicalize (some call.2) call.1
          .ok (.object (Value.insertMember "calls" (.array (read.map (·.1))) members),
            read.any (·.2))
    | _ => .ok (first, false)
  else canonicalize none first

/-- `canonical_params_json`: nothing when the params are canonical already, or
carry no calls to read. -/
def canonicalParamsJson [Reader] [Writer] (method paramsJson : String) :
    Except TxRequestError (Option String) :=
  if !isTransactionMethod method then .ok none
  else
    match fromStr paramsJson with
    | some (.array (first :: rest)) => do
        let read ← canonicalizeFirst method first
        .ok (if read.2 then some (toStr (.array (read.1 :: rest))) else none)
    | _ => .ok none

/-- One call a submit sends. -/
structure RequestCall where
  target : String
  value : String
  data : String
  deriving DecidableEq

/-- The data text `call_of` reads: absent, `null` and empty are `0x`, any other
text is itself, anything else refuses the call. -/
def callData (data : Option Value) : Option String :=
  match data with
  | none => some "0x"
  | some .null => some "0x"
  | some (.string text) => if text = "" then some "0x" else some text
  | some _ => none

def callOf (raw : Value) : Option RequestCall := do
  let target ← (← raw.get? "to").asStr?
  if target = "" then none
  else
    let data ← callData (raw.get? "data")
    let value ← valueWei (raw.get? "value")
    some ⟨target, value, data⟩

/-- The call objects of a request: `params[0].calls` of a `wallet_sendCalls`,
else `params[0]` itself. -/
def rawCalls (method : String) (params : Value) : Option (List Value) := do
  let first ← params.at? 0
  if method = "wallet_sendCalls" then (← first.get? "calls").asArray?
  else some [first]

/-- `calls_of`, on the params its text parses to. -/
def callsOf (method : String) (params : Value) : Option (List RequestCall) := do
  let raw ← rawCalls method params
  let calls ← raw.mapM callOf
  if calls.isEmpty then none else some calls

/-- A call with the MultiSend call `to_multi_send_call` makes of it. -/
def signedLeg (call : RequestCall) : Option (RequestCall × MultiSendCall) :=
  match toMultiSendCall call.target call.value call.data with
  | .ok signed => some (call, signed)
  | .error _ => none

/-- The calls a submit signs: what `calls_of` reads, each as it is signed. -/
def signedLegs (method : String) (params : Value) : Option (List (RequestCall × MultiSendCall)) :=
  (callsOf method params).bind fun calls => calls.mapM signedLeg

theorem callData_some {data : Option Value} {text : String} (read : callData data = some text) :
    data = some (.string text) ∨ text = "0x" := by
  unfold callData at read
  split at read
  case h_1 | h_2 => exact Or.inr (Option.some.inj read).symm
  case h_3 =>
    split at read
    · exact Or.inr (Option.some.inj read).symm
    · cases read
      exact Or.inl rfl
  case h_4 => cases read

/-- The texts of a call read from an object: its target is the `to` member, and
its data is read of the `data` member. -/
theorem callOf_some {call : RequestCall} (read : callOf raw = some call) :
    raw.get? "to" = some (.string call.target) ∧ call.target ≠ "" ∧
      callData (raw.get? "data") = some call.data := by
  unfold callOf at read
  simp only [Option.bind_eq_bind, Option.bind_eq_some_iff] at read
  obtain ⟨member, found, target, isText, read⟩ := read
  have memberText := Json.Value.asStr?_eq_some.mp isText
  subst memberText
  split at read
  case isTrue => cases read
  case isFalse nonempty =>
    simp only [Option.bind_eq_some_iff] at read
    obtain ⟨data, dataRead, value, _, equality⟩ := read
    cases equality
    exact ⟨found, nonempty, dataRead⟩

theorem signedLeg_some {call : RequestCall} {leg : RequestCall × MultiSendCall}
    (signed : signedLeg call = some leg) :
    leg.1 = call ∧ toMultiSendCall leg.1.target leg.1.value leg.1.data = .ok leg.2 := by
  unfold signedLeg at signed
  split at signed
  case h_1 accepted =>
    cases signed
    exact ⟨rfl, accepted⟩
  case h_2 => cases signed

/-- A call object signed as a leg: `call_of` reads it and the codec takes it. -/
structure SignedAs (raw : Value) (leg : RequestCall × MultiSendCall) : Prop where
  read : callOf raw = some leg.1
  accepted : toMultiSendCall leg.1.target leg.1.value leg.1.data = .ok leg.2

theorem SignedAs.unique {leg other : RequestCall × MultiSendCall}
    (first : SignedAs raw leg) (second : SignedAs raw other) : leg = other := by
  have calls : leg.1 = other.1 := Option.some.inj (first.read.symm.trans second.read)
  have accepted := second.accepted
  rw [← calls, first.accepted] at accepted
  exact Prod.ext calls (Except.ok.inj accepted)

theorem signedLegs_raws {method : String} {params : Value}
    {legs : List (RequestCall × MultiSendCall)} (signed : signedLegs method params = some legs) :
    ∃ raws, rawCalls method params = some raws ∧
      (∀ leg ∈ legs, ∃ raw ∈ raws, SignedAs raw leg) ∧
      (∀ raw ∈ raws, ∃ leg ∈ legs, SignedAs raw leg) := by
  unfold signedLegs callsOf at signed
  simp only [Option.bind_eq_bind, Option.bind_eq_some_iff] at signed
  obtain ⟨calls, ⟨raws, rawsRead, read, readAll, kept⟩, converted⟩ := signed
  split at kept
  case isTrue => cases kept
  case isFalse =>
    cases kept
    refine ⟨raws, rawsRead, ?_, ?_⟩
    · intro leg member
      obtain ⟨call, callMember, one⟩ := PartialMap.exists_source converted member
      obtain ⟨rfl, accepted⟩ := signedLeg_some one
      obtain ⟨raw, rawMember, rawRead⟩ := PartialMap.exists_source readAll callMember
      exact ⟨raw, rawMember, rawRead, accepted⟩
    · intro raw member
      obtain ⟨call, callMember, rawRead⟩ := PartialMap.exists_image readAll member
      obtain ⟨leg, legMember, one⟩ := PartialMap.exists_image converted callMember
      obtain ⟨rfl, accepted⟩ := signedLeg_some one
      exact ⟨leg, legMember, rawRead, accepted⟩

theorem dataText_of_decoded {call : RequestCall} {signed : MultiSendCall}
    (read : callOf raw = some call)
    (accepted : toMultiSendCall call.target call.value call.data = .ok signed)
    (filled : signed.data ≠ []) : raw.get? "data" = some (.string call.data) := by
  rcases callData_some (callOf_some read).2.2 with present | blank
  · exact present
  · have decoded := (toMultiSendCall_ok accepted).2
    rw [blank] at decoded
    exact (filled (Except.ok.inj decoded).symm).elim

def loneRequest (target data : String) : Value :=
  .array [.object [("data", .string data), ("to", .string target)]]

def loneLeg (target data : String) (bytes : List UInt8) : RequestCall × MultiSendCall :=
  (⟨target, "0", data⟩, ⟨target, "0x0", bytes⟩)

theorem signedLegs_loneRequest {target text : String} {data : List UInt8} (named : target ≠ "")
    (read : fromHex text = .ok data) (filled : data ≠ []) :
    signedLegs "eth_sendTransaction" (loneRequest target text) = some [loneLeg target text data] := by
  have present : ¬ (text = "" ∨ text = "0x") := by
    rintro (rfl | rfl) <;> exact filled (Except.ok.inj read).symm
  have call : callOf (.object [("data", .string text), ("to", .string target)]) =
      some ⟨target, "0", text⟩ := by
    have written : text ≠ "" := fun empty => present (Or.inl empty)
    simp [callOf, Value.get?, Value.lookup, named, callData, written, valueWei]
  have accepted : toMultiSendCall target "0" text = .ok ⟨target, "0x0", data⟩ := by
    have zero : Decimal.parseU128 (bytes (Utf8.trim "0")) = some 0 := by decide
    have shown : lowerHex 0 = "0x0" := by decide
    simp [toMultiSendCall, zero, present, read, shown, Except.map]
  simp [signedLegs, callsOf, rawCalls, loneRequest, call, signedLeg, accepted, loneLeg]

end VelaWallet
