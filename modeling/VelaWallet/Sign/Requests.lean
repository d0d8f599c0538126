import VelaWallet.Guard.ApprovalDetection
import VelaWallet.Guard.SelfCall
import VelaWallet.Sign.Types

/-!
# What a request says

The readings of a request's method and params the signing machine decides by: its
kind, the chain it names, the capabilities it requires, and the texts a page is
answered with (`sign_request.rs`, `dapp_rpc.rs`).
-/

namespace VelaWallet.SignRequest

open FeePolicy
open Json (Value Reader Writer fromStr toStr)
open Send (RefusalReason)
open Utf8 (bytes trim)

/-- What the machine is given besides its events: the JSON library, the lowercase
table and the EIP-712 digest. -/
class SignRuntime extends Reader, Writer, Utf8.CaseTable, DocumentHash

def extensionRequestTtlMs : Float := 5 * 60 * 1000

def codeUserRejected : Int := 4001
def codeUnauthorized : Int := 4100
def codeUnsupportedChain : Int := 4902
def codeUnsupportedCapability : Int := 5700
def codeInvalidParams : Int := -32602
def codeInternal : Int := -32603

def chainMismatchMessage : String := "chainId does not match the connected chain"

def revertedMessage : String := "The transaction was included but reverted"

def revertedDetail (txHash : String) : String := revertedMessage ++ " (" ++ txHash ++ ")"

def notConfirmedMessage : String :=
  "The transaction was submitted but is not confirmed yet; it may still complete, so check the " ++
    "wallet before sending it again"

def notConfirmedDetail (userOpHash : String) : String :=
  notConfirmedMessage ++ " (user operation " ++ userOpHash ++ ")"

def refusedDappDetail : String := "the network refused this transaction; nothing was sent"

def notSentDappDetail : String := "relay unreachable; nothing was sent"

def previousPendingDetail : String :=
  "Another transaction from this account was still pending, so this one was not sent. Try again " ++
    "once it has confirmed."

def notSentBodyKey : String := "componentsUi.signing.notSentBody"

def refusedKey : String := "componentsUi.signing.refused"

def refusalKey : Option RefusalReason → String
  | some .feeBelowMarket => "send.txRejectedFees"
  | some .nonceUsed => "componentsUi.signing.wentFirst"
  | _ => refusedKey

def maxSettledRids : Nat := 256

def simVerdictWaitMs : Nat := 4000

def isSigningMethod (method : String) : Bool :=
  method == "eth_sign" || method == "eth_sendTransaction" || method == "wallet_sendCalls" ||
    method == "personal_sign" || looksLikeTypedData method

inductive SignMethodKind where
  | transaction
  | batch
  | personalSign
  | ethSign
  | typedData
  | generic
  deriving DecidableEq

def methodKind (method : String) : SignMethodKind :=
  if method = "eth_sendTransaction" then .transaction
  else if method = "wallet_sendCalls" then .batch
  else if method = "personal_sign" then .personalSign
  else if method = "eth_sign" then .ethSign
  else if (TypedDataMethod.of method).isSome then .typedData
  else .generic

/-- A transaction or a batch: what takes a nonce. -/
def takesNonce (method : String) : Bool :=
  methodKind method == .transaction || methodKind method == .batch

/-- `sign_account_index`: the granted account's place, else the active one. -/
def signAccountIndex (accounts : List SignAccountRef) (activeIndex : UInt32)
    (granted : Option String) : UInt32 :=
  match granted with
  | none => activeIndex
  | some granted =>
    match accounts.findIdx? (sameText ·.address granted) with
    | some index => if index < 2 ^ 32 then UInt32.ofNat index else activeIndex
    | none => activeIndex

/-- The value of a row of hex digits, with the sign `u32::from_str_radix` takes. -/
def parseHexU32 (text : List UInt8) : Option Nat :=
  let digits := Utf8.stripPrefix [Hex.plus] text
  if digits.isEmpty then none else Hex.natOf? digits

def parseChainStr (text : String) : Option UInt32 :=
  let trimmed := bytes (trim text)
  let value :=
    if hexMark.isPrefixOf trimmed ∨ [48, 88].isPrefixOf trimmed then parseHexU32 (trimmed.drop 2)
    else Decimal.parseU128 trimmed
  value.bind fun value => if value < 2 ^ 32 then some (UInt32.ofNat value) else none

def chainFromValue : Value → Option UInt32
  | .number (.posInt value) =>
    if 0 < value ∧ value.toNat < 2 ^ 32 then some (UInt32.ofNat value.toNat) else none
  | .number (.float bits) =>
    let value := Float.ofBits bits
    if 0 < value ∧ value.floor == value ∧ value ≤ 4294967295 then some value.toUInt32 else none
  | .string text => (parseChainStr text).filter (0 < ·)
  | _ => none

section Readings

variable [SignRuntime]

/-- `embedded_chain_value`: the `chainId` a request writes. -/
def embeddedChainValue (method : String) (params : Value) : Option Value := do
  let list ← params.asArray?
  let value ←
    if looksLikeTypedData method then
      match canonical method params with
      | .ok read => (read.document.get? "domain").bind (·.get? "chainId")
      | .error _ => none
    else if method = "eth_sendTransaction" ∨ method = "wallet_sendCalls" then
      list.head?.bind (·.get? "chainId")
    else none
  match value with
  | .null => none
  | value => some value

def extractRequestChainId (method : String) (params : Value) : Option UInt32 :=
  (embeddedChainValue method params).bind chainFromValue

def requestNamesOtherChain (method : String) (params : Value) (chain : UInt32) : Bool :=
  (embeddedChainValue method params).any fun value => chainFromValue value != some chain

end Readings

/-- The name in its place among names in order, once. -/
def insertName (name : String) : List String → List String
  | [] => [name]
  | other :: rest =>
    if name = other then other :: rest
    else if name < other then name :: other :: rest
    else other :: insertName name rest

/-- The capabilities of one `capabilities` object that are not marked optional. -/
def requiredIn (capabilities : Option Value) : List String :=
  ((capabilities.bind Value.asObject?).getD []).filterMap fun (name, value) =>
    match value.get? "optional" with
    | some (.bool true) => none
    | _ => some name

/-- `required_capabilities`: sorted, each once. -/
def requiredCapabilities (payload : Value) : List String :=
  let calls := ((payload.get? "calls").bind Value.asArray?).getD []
  let scanned := payload.get? "capabilities" :: calls.map (·.get? "capabilities")
  (scanned.flatMap requiredIn).foldl (fun names name => insertName name names) []

/-- A batch with no calls, or no list of them. -/
def hasNoCalls (payload : Value) : Bool :=
  (((payload.get? "calls").bind Value.asArray?).getD []).isEmpty

/-- `send_calls_answers_object`: the declared version's major is 2 or more, however
long it is. -/
def sendCallsAnswersObject (params : Value) : Bool :=
  match ((params.at? 0).bind (·.get? "version")).bind Value.asStr? with
  | none => false
  | some version =>
    let major := (bytes (trim version)).takeWhile (· != 46)
    !major.isEmpty && (major.all fun byte => decide (Decimal.IsDigit byte)) &&
      (Decimal.natOf? major).any (2 ≤ ·)

def sendCallsResult (id : String) (asObject : Bool) : Value :=
  if asObject then .object [("id", .string id)] else .string id

def recordShape (method : String) : SignRecordKind × String :=
  if method = "eth_sendTransaction" ∨ method = "wallet_sendCalls" then (.dappTx, "tx")
  else if looksLikeTypedData method then (.signTypedData, "typed")
  else (.signMessage, "msg")

def recordIdFor (method : String) (nowMs : Float) : String :=
  "dapp-" ++ toString (max nowMs 0).toUInt64 ++ "-" ++ (recordShape method).2

def plainSendIntent (method : String) (params : Value) : Option String :=
  if method = "eth_sendTransaction" then
    (params.at? 0).bind fun first =>
      let data := ((first.get? "data").bind Value.asStr?).getD ""
      if data = "" ∨ data = "0x" then some "Send" else none
  else none

/-- `TEMPO_MIN_FEE_USD_CENTS` in units of a fee token: `tempo_reimbursement` of no
gas. -/
def tempoMinimumFeeTokenUnits (decimals : Nat) : Nat := min ((10 ^ decimals + 99) / 100) maxU128

def tempoQuoteIsStale (quotedAmount : Nat) (quotedRecipient feeCollector : String)
    (decimals : Nat) : Bool :=
  !sameText quotedRecipient feeCollector || quotedAmount < tempoMinimumFeeTokenUnits decimals

/-- The displayed fee of an approve is stale: its collector moved, it is under the
floor, or it does not read. -/
def displayedFeeIsStale (opts : SignApproveOpts) : Bool :=
  opts.quotedFee.any fun fee =>
    match Decimal.parseU128 (bytes (trim fee.amount)) with
    | some amount =>
      tempoQuoteIsStale amount fee.recipient (opts.feeCollector.getD fee.recipient)
        tempoFeeTokenDecimals
    | none => true

end VelaWallet.SignRequest
