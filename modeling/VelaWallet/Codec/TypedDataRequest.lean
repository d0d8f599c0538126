import VelaWallet.Base.Json
import VelaWallet.Base.Hex

/-!
# Typed-data requests

The one reading of an `eth_signTypedData*` request
(`typed_data_request.rs`): exactly two params, a well-formed account in its
slot, and one document that is an EIP-712 object.
-/

namespace VelaWallet

open Json (Value Reader Writer fromStr toStr)
open Utf8 (bytes)

/-- The typed-data methods a wallet signs. -/
inductive TypedDataMethod where
  | legacy
  | v3
  | v4

namespace TypedDataMethod

/-- `TypedDataMethod::of`: the method, by its exact name. -/
def of (method : String) : Option TypedDataMethod :=
  if method = "eth_signTypedData" ∨ method = "eth_signTypedData_v1" then some .legacy
  else if method = "eth_signTypedData_v3" then some .v3
  else if method = "eth_signTypedData_v4" then some .v4
  else none

def documentIndex : TypedDataMethod → Nat
  | .legacy => 0
  | .v3 | .v4 => 1

def accountIndex (method : TypedDataMethod) : Nat := 1 - method.documentIndex

end TypedDataMethod

/-- `method.contains("signTypedData")`. -/
def looksLikeTypedData (method : String) : Bool :=
  method.toList.tails.any fun suffix => "signTypedData".toList.isPrefixOf suffix

/-- Why a typed-data request is refused. -/
inductive TypedDataRequestError where
  | unsupportedMethod
  | notTwoParams
  | badAccount
  | badDocument (why : String)

/-- The request, read once. -/
structure CanonicalTypedData where
  method : TypedDataMethod
  account : String
  document : Value
  documentJson : String

/-- `is_address`: `0x` and forty hex digits. -/
def isAddress (value : String) : Bool :=
  (bytes value).length == 42 && [48, 120].isPrefixOf (bytes value) &&
    ((bytes value).drop 2).all fun byte => decide (Hex.IsDigit byte)

/-- The document slot: a JSON text, or the object itself. -/
def documentOf [Reader] : Value → Except TypedDataRequestError Value
  | .string text =>
    match fromStr text with
    | some document => .ok document
    | none => .error (.badDocument "not JSON")
  | .object members => .ok (.object members)
  | _ => .error (.badDocument "not a typed-data document")

def canonical [Reader] [Writer] (method : String) (params : Value) :
    Except TypedDataRequestError CanonicalTypedData := do
  let method ← match TypedDataMethod.of method with
    | some method => .ok method
    | none => .error .unsupportedMethod
  let list ← match params with
    | .array [first, second] => .ok [first, second]
    | _ => .error .notTwoParams
  let account ← match list[method.accountIndex]? with
    | some (.string account) => if isAddress account then .ok account else .error .badAccount
    | _ => .error .badAccount
  let document ← documentOf (list[method.documentIndex]?.getD .null)
  if ¬ document.isObject then .error (.badDocument "not an object")
  else
    let isObjectAt := fun key => ((document.get? key).map Value.isObject).getD false
    let primaryType := match document.get? "primaryType" with
      | some (.string name) => name != ""
      | _ => false
    if isObjectAt "types" && primaryType && isObjectAt "domain" && isObjectAt "message" then
      .ok ⟨method, account, document, toStr document⟩
    else .error (.badDocument "missing types, primaryType, domain or message")

/-- The dApp's message for a refused typed-data request. -/
def TypedDataRequestError.message : TypedDataRequestError → String
  | .unsupportedMethod => "Unsupported typed-data method"
  | .notTwoParams =>
    "Typed-data params must be exactly [address, typedData] (v3/v4) or " ++
      "[typedData, address] (legacy)"
  | .badAccount => "Typed-data params name no valid account"
  | .badDocument why => "Invalid typed data: " ++ why

namespace CanonicalTypedData

/-- The two params, in the method's own order, around the one document. -/
def params (read : CanonicalTypedData) : Value :=
  match read.method with
  | .legacy => .array [.string read.documentJson, .string read.account]
  | .v3 | .v4 => .array [.string read.account, .string read.documentJson]

def paramsJson [Writer] (read : CanonicalTypedData) : String := toStr read.params

end CanonicalTypedData

/-- The EIP-712 digest of a document, or why it has none. -/
class DocumentHash where
  hashTypedData : String → Except String (List UInt8)

export DocumentHash (hashTypedData)

/-- `signable`: a canonical request whose document hashes. -/
def signable [Reader] [Writer] [DocumentHash] (method : String) (params : Value) :
    Except TypedDataRequestError CanonicalTypedData := do
  let read ← canonical method params
  match hashTypedData read.documentJson with
  | .ok _ => .ok read
  | .error why => .error (.badDocument why)

def signableJson [Reader] [Writer] [DocumentHash] (method paramsJson : String) :
    Except TypedDataRequestError CanonicalTypedData :=
  match fromStr paramsJson with
  | none => .error .notTwoParams
  | some params => signable method params

end VelaWallet
