import VelaWallet.Codec.TypedDataRequest
import VelaWallet.Dapp.Origins
import VelaWallet.Wallet.SetupLayout

/-!
# The request window

The verdict on one request of a connected page: what the page may see of the wallet, and whether
its request is answered, asked about, refused or handed on to be signed (`dapp_permissions.rs`,
`dapp_rpc.rs`).
-/

namespace VelaWallet.DappPermissions

open Json (Value Reader fromStr)
open Utf8 (bytes eqIgnoreAsciiCase toAsciiLowercase)

variable {text : String}

def connectMethods : List String := ["eth_requestAccounts", "wallet_requestPermissions"]

def signingMethods : List String :=
  ["eth_sendTransaction", "personal_sign", "eth_sign", "eth_signTypedData", "eth_signTypedData_v1",
    "eth_signTypedData_v3", "eth_signTypedData_v4", "wallet_sendCalls"]

def isConnectMethod (method : String) : Bool := connectMethods.contains method

/-- `dapp_rpc::is_signing_method` -/
def needsPasskey (method : String) : Bool :=
  method == "eth_sendTransaction" || method == "wallet_sendCalls" || method == "personal_sign" ||
    looksLikeTypedData method

def isSigningMethod (method : String) : Bool :=
  signingMethods.contains method || needsPasskey method

/-- The text in the account's place of a request, by its method. -/
def accountText (method : String) (params : Value) : Option String := do
  let list ← params.asArray?
  if method = "eth_sendTransaction" ∨ method = "wallet_sendCalls" then
    let transaction ← list[0]?
    let sender ← transaction.get? "from"
    sender.asStr?
  else if method = "personal_sign" then
    let account ← list[1]?
    account.asStr?
  else
    let typed ← TypedDataMethod.of method
    let account ← list[typed.accountIndex]?
    account.asStr?

/-- `requested_address`: only a well-formed address counts. -/
def requestedAddress (method : String) (params : Value) : Option String := do
  let candidate ← accountText method params
  if isAddress candidate then some candidate else none

/-- `DpermGrant`: the address an origin was given. -/
structure DpermGrant where
  address : String

def checksumAddress (address : String) : Except CoreError String :=
  (parseAddress address).map toChecksum

/-- `dapp_spelling`: an address in the one spelling pages see, any other text unchanged. -/
def dappSpelling (address : String) : String :=
  match checksumAddress address with
  | .ok spelled => spelled
  | .error _ => address

/-- `granted_to_signed_in`: a grant counts while its account is the one signed in. -/
def grantedToSignedIn (grant : Option DpermGrant) (signedIn : Option String) : List String :=
  match grant, signedIn with
  | some grant, some active =>
    if ¬ active.isEmpty ∧ eqIgnoreAsciiCase (bytes grant.address) (bytes active) then
      [grant.address]
    else []
  | _, _ => []

def codeUnauthorized : Nat := 4100

def codeUnknownPending : Nat := 4900

inductive DpermRejectReason where
  | notConnected
  | staleAuthorizedAddress
  | browserClosed
  | insecureOrigin
  deriving DecidableEq

def DpermRejectReason.code : DpermRejectReason → Nat
  | .notConnected | .staleAuthorizedAddress | .insecureOrigin => codeUnauthorized
  | .browserClosed => codeUnknownPending

inductive DpermRespondPayload where
  | accounts (addresses : List String)
  | permissions (granted : Bool)
  deriving DecidableEq

inductive DpermPopupDecision where
  | respond (payload : DpermRespondPayload)
  | consent
  | reject (reason : DpermRejectReason)
  | forwardToSigning

/-- `DpermPopupOutcome`: the decision as the window is told it. -/
inductive DpermPopupOutcome where
  | respond (payload : DpermRespondPayload)
  | consent
  | reject (code : Nat) (reason : DpermRejectReason)
  | forwardToSigning (grantedAddress : String)
  deriving DecidableEq

structure DpermPopupView where
  outcome : DpermPopupOutcome
  granted : List String
  consentAddress : Option String

def connectPayload (method : String) (granted : List String) : DpermRespondPayload :=
  if method = "wallet_requestPermissions" then .permissions true else .accounts granted

def decidePopupRequest (method : String) (granted : List String) (pinnedAddress : Option String) :
    DpermPopupDecision :=
  if isConnectMethod method then
    if granted.isEmpty then .consent else .respond (connectPayload method granted)
  else
    match granted with
    | [] => .reject .notConnected
    | first :: _ =>
      match pinnedAddress with
      | some pinned =>
        if eqIgnoreAsciiCase (bytes pinned) (bytes first) then .forwardToSigning
        else .reject .staleAuthorizedAddress
      | none => .forwardToSigning

def popupOutcome (method : String) (granted : List String) (pinned : Option String) :
    DpermPopupOutcome :=
  match decidePopupRequest method granted pinned with
  | .respond payload => .respond payload
  | .consent => .consent
  | .reject reason => .reject reason.code reason
  | .forwardToSigning =>
    match granted with
    | address :: _ => .forwardToSigning address
    -- Unreachable: a forward has a granted address.
    | [] => .reject DpermRejectReason.notConnected.code .notConnected

/-- `PopupFacts`: what the window states about a request beyond the grant. -/
structure PopupFacts where
  pinnedAddress : Option String
  origin : Option String
  paramsJson : Option String

/-- `PopupFacts::pinned`: the account the params name when there are params, else the window's
own pin. -/
def PopupFacts.pinned [Reader] (facts : PopupFacts) (method : String) : Option String :=
  match facts.paramsJson with
  | some raw => (fromStr raw).bind (requestedAddress method)
  | none => facts.pinnedAddress

def popupOriginRefusal (method : String) (origin : Option String) : Option DpermRejectReason :=
  match origin with
  | none => none
  | some origin =>
    if isSigningMethod method && isInsecurePublicOrigin origin.toList then some .insecureOrigin
    else none

/-- `popup_request`: the verdict the window is shown. -/
def popupRequest [Reader] (method : String) (grant : Option DpermGrant) (signedIn : Option String)
    (facts : PopupFacts) : DpermPopupView :=
  let granted := (grantedToSignedIn grant signedIn).map dappSpelling
  let outcome := match popupOriginRefusal method facts.origin with
    | some reason => .reject reason.code reason
    | none => popupOutcome method granted (facts.pinned method)
  let consentAddress :=
    if outcome = .consent then (signedIn.filter fun address => !address.isEmpty).map dappSpelling
    else none
  ⟨outcome, granted, consentAddress⟩

/-- A well-formed address that differs from a checksummed one in its case alone names the same
account. -/
theorem parseAddress_of_checksum {address : Address} (wellFormed : isAddress text)
    (same : eqIgnoreAsciiCase (bytes text) (bytes (toChecksum address)) = true) :
    parseAddress text = .ok address := by
  have marked : hexMark <+: bytes text := by
    simp only [isAddress, Bool.and_eq_true] at wellFormed
    exact List.isPrefixOf_iff_prefix.mp wellFormed.1.2
  obtain ⟨digits, written⟩ := marked
  rw [Utf8.eqIgnoreAsciiCase_iff, bytes_toChecksum, ← written] at same
  have lowered : toAsciiLowercase digits = Hex.spell address.bytes := by
    rw [← checksumDigits_lower]
    simp only [toAsciiLowercase, List.map_append] at same ⊢
    exact List.append_cancel_left same
  rw [parseAddress_ok, fromHex, fromHexBytes_iff, ← written, stripPrefix_mark_append]
  apply Spelled.of_lower
  rw [lowered]
  exact spelled_spell address.bytes

theorem dappSpelling_of_ok {address : Address}
    (read : parseAddress text = .ok address) : dappSpelling text = toChecksum address := by
  simp [dappSpelling, checksumAddress, read, Except.map]

theorem dappSpelling_of_error {error : CoreError}
    (unread : parseAddress text = .error error) : dappSpelling text = text := by
  simp [dappSpelling, checksumAddress, unread, Except.map]

end VelaWallet.DappPermissions
