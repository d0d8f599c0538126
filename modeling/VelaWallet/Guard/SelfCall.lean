import VelaWallet.Codec.TxRequest

/-!
# The self-call guard

A dApp may never ask the wallet to rewrite who controls it: the inspection of a
request's calldata for Safe ownership and configuration calls, through nested
`multiSend` and `execTransaction` payloads (`self_call_guard.rs`).  A text slice
that cuts a character faults, as the source's does.
-/

namespace VelaWallet.SelfCallGuard

open Json (Value Reader fromStr)
open Utf8 (bytes ofAscii SlicePanic)

/-- How deep nested payloads are followed. -/
def maxDepth : Nat := 4

/-- The Safe function a blocked request would have called. -/
inductive SelfCallFunction where
  | addOwner
  | removeOwner
  | swapOwner
  | changeThreshold
  | enableModule
  | disableModule
  | setGuard
  | setModuleGuard
  | setFallbackHandler
  | setup
  | execTransaction
  | execTransactionFromModule
  | safeTxTypedData
  | delegateCall
  deriving DecidableEq

/-- `as_str`: the stable wire name. -/
def SelfCallFunction.asStr : SelfCallFunction → String
  | addOwner => "addOwnerWithThreshold"
  | removeOwner => "removeOwner"
  | swapOwner => "swapOwner"
  | changeThreshold => "changeThreshold"
  | enableModule => "enableModule"
  | disableModule => "disableModule"
  | setGuard => "setGuard"
  | setModuleGuard => "setModuleGuard"
  | setFallbackHandler => "setFallbackHandler"
  | setup => "setup"
  | execTransaction => "execTransaction"
  | execTransactionFromModule => "execTransactionFromModule"
  | safeTxTypedData => "SafeTx"
  | delegateCall => "delegatecall"

/-- Why a request was refused, and where the offending call sat. -/
structure SelfCallBlock where
  function : SelfCallFunction
  selector : String
  legIndex : Option Nat
  nested : Bool
  deriving DecidableEq

/-- `BLOCKED`: ownership and configuration selectors. -/
def blocked : List (String × SelfCallFunction) :=
  [("0x0d582f13", .addOwner),
    ("0xf8dc5dd9", .removeOwner),
    ("0xe318b52b", .swapOwner),
    ("0x694e80c3", .changeThreshold),
    ("0x610b5925", .enableModule),
    ("0xe009cfde", .disableModule),
    ("0xe19a9dd9", .setGuard),
    ("0xe068df37", .setModuleGuard),
    ("0xf08a0323", .setFallbackHandler),
    ("0xb63e800d", .setup),
    ("0x6a761202", .execTransaction),
    ("0x468721a7", .execTransactionFromModule),
    ("0x5229073f", .execTransactionFromModule)]

def multiSend : String := "0x8d80ff0a"

def execTransaction : String := "0x6a761202"

def eqIgnoreAsciiCase (left right : String) : Bool :=
  Utf8.eqIgnoreAsciiCase (bytes left) (bytes right)

def blockedFunction (selector : String) : Option SelfCallFunction :=
  (blocked.find? fun entry => eqIgnoreAsciiCase entry.1 selector).map (·.2)

/-- `text.trim().trim_start_matches("0x")`. -/
def trimmedBody (text : String) : List UInt8 :=
  Utf8.trimStartMatches hexMark (bytes (Utf8.trim text))

def sameAddress (left right : String) : Bool :=
  Utf8.eqIgnoreAsciiCase (trimmedBody left) (trimmedBody right)

/-- The loop of `hex_bytes`: `count` pairs from `index` on, up to the first that
is not hex. -/
def hexBytesFrom (body : List UInt8) : (count index : Nat) → Except SlicePanic (List UInt8)
  | 0, _ => .ok []
  | count + 1, index =>
    match Utf8.slice body index (index + 2) with
    | .error panic => .error panic
    | .ok pair =>
      match Hex.fromStrRadix16 pair with
      | none => .ok []
      | some byte => (hexBytesFrom body count (index + 2)).map (byte :: ·)

def hexBytes (data : String) : Except SlicePanic (List UInt8) :=
  let body := trimmedBody data
  hexBytesFrom body (body.length / 2) 0

/-- The selector text of four or more bytes. -/
def selectorIn (data : List UInt8) : Option String :=
  if 4 ≤ data.length then some (toHex (data.take 4) true) else none

def selectorOf (data : String) : Except SlicePanic (Option String) :=
  (hexBytes data).map selectorIn

/-- One leg of a `multiSend` payload. -/
structure InnerCall where
  operation : UInt8
  target : String
  data : String

/-- `u32_at`: four bytes big-endian, zero where the input has ended. -/
def u32At (data : List UInt8) (start : Nat) : Nat :=
  if start + 4 > data.length then 0 else Bytes.beNat ((data.drop start).take 4)

/-- The loop of `decode_multi_send` over the rest of the payload; every round
takes at least 85 bytes, so `rounds` bounds them. -/
def decodePacked : (rounds : Nat) → List UInt8 → List InnerCall
  | 0, _ => []
  | rounds + 1, payload =>
    if payload.length < 85 then []
    else
      let dataLen := u32At payload (53 + 28)
      if 85 + dataLen > payload.length then []
      else
        { operation := payload.headD 0
          target := toHex ((payload.drop 1).take 20) true
          data := toHex ((payload.drop 85).take dataLen) true } ::
          decodePacked rounds (payload.drop (85 + dataLen))

/-- `decode_multi_send`, on the decoded bytes. -/
def decodeMultiSendBytes (data : List UInt8) : List InnerCall :=
  if data.length < 4 + 64 then []
  else
    let len := u32At data (4 + 32 + 28)
    let payload := (data.drop (4 + 64)).take len
    decodePacked payload.length payload

/-- `decode_exec_transaction`, on the decoded bytes. -/
def decodeExecTransactionBytes (data : List UInt8) : Option InnerCall :=
  if data.length < 4 + 32 * 4 then none
  else
    let dataOffset := u32At data (4 + 2 * 32 + 28)
    let inner :=
      if 4 + dataOffset + 32 ≤ data.length then
        let len := u32At data (4 + dataOffset + 28)
        let start := 4 + dataOffset + 32
        if start + len ≤ data.length then toHex ((data.drop start).take len) true else ""
      else ""
    some
      { operation := (data[4 + 3 * 32 + 31]?).getD 0
        target := toHex ((data.drop (4 + 12)).take 20) true
        data := inner }

/-- The refusal of a `delegatecall` leg. -/
def delegateBlock (inner : InnerCall) (legIndex : Option Nat) :
    Except SlicePanic (Option SelfCallBlock) :=
  (selectorOf inner.data).map fun selector =>
    some ⟨.delegateCall, selector.getD "", legIndex, true⟩

/-- The first refusal among a list of calls. -/
def firstBlock {α : Type} (inspect : α → Except SlicePanic (Option SelfCallBlock)) :
    List α → Except SlicePanic (Option SelfCallBlock)
  | [] => .ok none
  | call :: calls =>
    match inspect call with
    | .error panic => .error panic
    | .ok (some block) => .ok (some block)
    | .ok none => firstBlock inspect calls

/-- The calls a payload carries, by its selector; every one is inspected. -/
def innerCalls (selector : String) (data : List UInt8) : List InnerCall :=
  (if eqIgnoreAsciiCase selector multiSend then decodeMultiSendBytes data else []) ++
    (if eqIgnoreAsciiCase selector execTransaction then
      (decodeExecTransactionBytes data).toList
    else [])

def ownBlock (safe : String) (legIndex : Option Nat) (nested : Bool) (target selector : String) :
    Option SelfCallBlock :=
  if sameAddress target safe then
    (blockedFunction selector).map fun function => ⟨function, selector, legIndex, nested⟩
  else none

/-- `inspect_call` up to the descent into the call's payload. -/
def inspectWith (safe : String) (legIndex : Option Nat) (nested : Bool) (target data : String)
    (payload : String → List UInt8 → Except SlicePanic (Option SelfCallBlock)) :
    Except SlicePanic (Option SelfCallBlock) :=
  match hexBytes data with
  | .error panic => .error panic
  | .ok decoded =>
    match selectorIn decoded with
    | none => .ok none
    | some selector =>
      match ownBlock safe legIndex nested target selector with
      | some block => .ok (some block)
      | none => payload selector decoded

/-- `inspect_call`; the number is `MAX_DEPTH - depth`, the levels still
followed. -/
def inspectCall (safe : String) (legIndex : Option Nat) :
    Nat → (nested : Bool) → (target data : String) → Except SlicePanic (Option SelfCallBlock)
  | 0, nested, target, data =>
    inspectWith safe legIndex nested target data fun _ _ => .ok none
  | levels + 1, nested, target, data =>
    inspectWith safe legIndex nested target data fun selector decoded =>
      firstBlock
        (fun inner =>
          if inner.operation = 1 then delegateBlock inner legIndex
          else inspectCall safe legIndex levels true inner.target inner.data)
        (innerCalls selector decoded)

/-- One leg of a batch: a leg without a target text is skipped. -/
def inspectLeg (safe : String) (leg : Nat × Value) : Except SlicePanic (Option SelfCallBlock) :=
  match (leg.2.get? "to").bind Value.asStr? with
  | none => .ok none
  | some target =>
    inspectCall safe (some (leg.1 + 1)) maxDepth false target
      (((leg.2.get? "data").bind Value.asStr?).getD "")

/-- `detect_safe_tx_typed_data`: a `SafeTx` document anywhere in the params. -/
def detectSafeTxTypedData [Reader] (params : Value) : Option SelfCallBlock :=
  match params.asArray? with
  | none => none
  | some entries =>
    let isSafeTx := fun entry =>
      let parsed := match entry with
        | .string raw => fromStr raw
        | .object members => some (.object members)
        | _ => none
      ((parsed.bind (·.get? "primaryType")).bind Value.asStr?) == some "SafeTx"
    if entries.any isSafeTx then some ⟨.safeTxTypedData, "", none, false⟩ else none

/-- `method.contains("signTypedData")`. -/
def namesTypedData (method : String) : Bool :=
  method.toList.tails.any fun suffix => "signTypedData".toList.isPrefixOf suffix

def detectSelfCall [Reader] (method : String) (params : Option Value) (safe : String) :
    Except SlicePanic (Option SelfCallBlock) :=
  match params with
  | none => .ok none
  | some params =>
    if Utf8.trim safe = "" then .ok none
    else if namesTypedData method then .ok (detectSafeTxTypedData params)
    else if method = "eth_sendTransaction" then
      match params.at? 0 with
      | none => .ok none
      | some first =>
        match (first.get? "to").bind Value.asStr? with
        | none => .ok none
        | some target =>
          inspectCall safe none maxDepth false target
            (((first.get? "data").bind Value.asStr?).getD "")
    else if method = "wallet_sendCalls" then
      match ((params.at? 0).bind (·.get? "calls")).bind Value.asArray? with
      | none => .ok none
      | some calls => firstBlock (inspectLeg safe) (calls.zipIdx.map fun leg => (leg.2, leg.1))
    else .ok none

def enforceNoSelfCall [Reader] (method : String) (params : Option Value) (safe : String) :
    Except SlicePanic (Except SelfCallBlock Unit) :=
  (detectSelfCall method params safe).map fun
    | some block => .error block
    | none => .ok ()

end VelaWallet.SelfCallGuard
