import VelaWallet.Dapp.Popup

/-!
# The request window's gate

A request is handed on to be signed only for the account the page was given, which is the one
signed in, never from an insecure public page, and never for an account the params name elsewhere.
-/

namespace VelaWallet.DappPermissions

open Json (Value Reader fromStr)
open Utf8 (bytes eqIgnoreAsciiCase)

variable {account method : String} {address : String} {signedIn : Option String} {params : Value}

/-- A request's params name an account: a transaction's or a batch's sender, the second param of
a personal message, or the account slot of a typed-data request. -/
inductive Names : String → Value → String → Prop
  | sender {method : String} {list : List Value} {transaction : Value} {account : String}
      (sends : method = "eth_sendTransaction" ∨ method = "wallet_sendCalls")
      (first : list[0]? = some transaction)
      (member : transaction.get? "from" = some (.string account)) :
      Names method (.array list) account
  | signer {list : List Value} {account : String} (second : list[1]? = some (.string account)) :
      Names "personal_sign" (.array list) account
  | typed {method : String} {kind : TypedDataMethod} {list : List Value} {account : String}
      (known : TypedDataMethod.of method = some kind)
      (slot : list[kind.accountIndex]? = some (.string account)) :
      Names method (.array list) account

theorem typed_apart {kind : TypedDataMethod} (known : TypedDataMethod.of method = some kind) :
    method ≠ "eth_sendTransaction" ∧ method ≠ "wallet_sendCalls" ∧ method ≠ "personal_sign" ∧
      isConnectMethod method = false := by
  have unknown : ∀ {other : String}, TypedDataMethod.of other = none → method ≠ other := by
    intro other none same
    rw [same, none] at known
    cases known
  refine ⟨unknown (by decide), unknown (by decide), unknown (by decide), ?_⟩
  have connects : method ∉ connectMethods := by
    simp only [connectMethods, List.mem_cons, List.not_mem_nil, or_false, not_or]
    exact ⟨unknown (by decide), unknown (by decide)⟩
  rw [isConnectMethod, List.contains_eq_mem]
  exact decide_eq_false connects

theorem accountText_of_names
    (named : Names method params account) : accountText method params = some account := by
  cases named with
  | sender sends first member =>
    simp [accountText, Value.asArray?, sends, first, member, Value.asStr?]
  | signer second =>
    simp [accountText, Value.asArray?, second, Value.asStr?]
  | typed known slot =>
    have apart := typed_apart known
    simp [accountText, Value.asArray?, apart, known, slot, Value.asStr?]

theorem connects_of_names
    (named : Names method params account) : isConnectMethod method = false := by
  cases named with
  | sender sends =>
    rcases sends with rfl | rfl <;> decide
  | signer => decide
  | typed known => exact (typed_apart known).2.2.2

theorem requestedAddress_of_names
    (named : Names method params account) (wellFormed : isAddress account = true) :
    requestedAddress method params = some account := by
  simp [requestedAddress, accountText_of_names named, wellFormed]

def IsElsewhere (account : String) (grant : DpermGrant) : Prop :=
  match parseAddress grant.address with
  | .ok granted => parseAddress account ≠ .ok granted
  | .error _ => eqIgnoreAsciiCase (bytes account) (bytes grant.address) = false

theorem spelling_apart {grant : DpermGrant} (wellFormed : isAddress account = true)
    (elsewhere : IsElsewhere account grant) :
    eqIgnoreAsciiCase (bytes account) (bytes (dappSpelling grant.address)) = false := by
  unfold IsElsewhere at elsewhere
  cases read : parseAddress grant.address with
  | ok =>
    rw [read] at elsewhere
    rw [dappSpelling_of_ok read, ← Bool.not_eq_true]
    intro same
    exact elsewhere (parseAddress_of_checksum wellFormed same)
  | error =>
    rw [read] at elsewhere
    rw [dappSpelling_of_error read]
    exact elsewhere

/-- A page sees at most the grant's own address, while the grant is for the signed-in account. -/
theorem mem_grantedToSignedIn {grant : Option DpermGrant}
    (member : address ∈ grantedToSignedIn grant signedIn) :
    ∃ held active, grant = some held ∧ signedIn = some active ∧ active ≠ "" ∧
      eqIgnoreAsciiCase (bytes held.address) (bytes active) = true ∧ address = held.address := by
  unfold grantedToSignedIn at member
  split at member
  case h_1 held active =>
    split at member
    case isTrue signed =>
      refine ⟨held, active, rfl, rfl, ?_, signed.2, List.mem_singleton.mp member⟩
      rintro rfl
      exact signed.1 rfl
    case isFalse => cases member
  case h_2 => cases member

theorem popupOriginRefusal_eq_none {origin : Option String} :
    popupOriginRefusal method origin = none ↔
      ∀ page, origin = some page → isSigningMethod method = true →
        isInsecurePublicOrigin page.toList = false := by
  cases origin with
  | none | some page => simp [popupOriginRefusal]

theorem popupOriginRefusal_code {origin : Option String}
    {reason : DpermRejectReason} (refused : popupOriginRefusal method origin = some reason) :
    reason.code = codeUnauthorized := by
  cases origin with
  | none => cases refused
  | some =>
    simp only [popupOriginRefusal, Option.ite_none_right_eq_some, Option.some.injEq] at refused
    rw [← refused.2]
    rfl

theorem popupOutcome_forward {granted : List String}
    {pinned : Option String} (forwarded : popupOutcome method granted pinned = .forwardToSigning address) :
    address ∈ granted := by
  unfold popupOutcome at forwarded
  cases granted with
  | nil =>
    split at forwarded <;> cases forwarded
  | cons =>
    split at forwarded
    case h_4 =>
      injection forwarded with same
      rw [← same]
      exact List.mem_cons_self
    all_goals cases forwarded

theorem popupOutcome_pinned {pinned : String} {granted : List String}
    (asks : isConnectMethod method = false)
    (apart : ∀ address ∈ granted, eqIgnoreAsciiCase (bytes pinned) (bytes address) = false) :
    ∃ reason, popupOutcome method granted (some pinned) = .reject codeUnauthorized reason := by
  cases granted with
  | nil =>
    refine ⟨.notConnected, ?_⟩
    simp [popupOutcome, decidePopupRequest, asks, DpermRejectReason.code]
  | cons first =>
    refine ⟨.staleAuthorizedAddress, ?_⟩
    simp [popupOutcome, decidePopupRequest, asks, apart first List.mem_cons_self,
      DpermRejectReason.code]

theorem popupRequest_forward [Reader] {grant : Option DpermGrant} {facts : PopupFacts}
    (forwarded : (popupRequest method grant signedIn facts).outcome = .forwardToSigning address) :
    popupOriginRefusal method facts.origin = none ∧
      address ∈ (grantedToSignedIn grant signedIn).map dappSpelling := by
  simp only [popupRequest] at forwarded
  split at forwarded
  case h_1 => cases forwarded
  case h_2 secure => exact ⟨secure, popupOutcome_forward forwarded⟩

theorem popupRequest_unpinned [Reader] {method : String} {grant : Option DpermGrant}
    {facts : PopupFacts}
    (secure : popupOriginRefusal method facts.origin = none)
    (asks : isConnectMethod method = false) (own : grantedToSignedIn grant signedIn = [address])
    (unpinned : facts.pinned method = none) :
    (popupRequest method grant signedIn facts).outcome = .forwardToSigning (dappSpelling address) := by
  simp only [popupRequest, secure, own, unpinned, List.map_cons, List.map_nil]
  simp [popupOutcome, decidePopupRequest, asks]

/-- A forward is to the granted address, for the signed-in account, from no insecure public page;
and a request that names a well-formed account the grant is not for is refused as unauthorized. -/
theorem popup_gate [Reader] (method : String) (grant : Option DpermGrant) (signedIn : Option String)
    (facts : PopupFacts) :
    (∀ address, (popupRequest method grant signedIn facts).outcome = .forwardToSigning address →
      (∃ held active, grant = some held ∧ signedIn = some active ∧ active ≠ "" ∧
        eqIgnoreAsciiCase (bytes held.address) (bytes active) = true ∧
        address = dappSpelling held.address) ∧
      ∀ page, facts.origin = some page → isSigningMethod method = true →
        isInsecurePublicOrigin page.toList = false) ∧
      ∀ raw params account, facts.paramsJson = some raw → fromStr raw = some params →
        Names method params account → isAddress account = true →
        (∀ held, grant = some held → IsElsewhere account held) →
          ∃ reason, (popupRequest method grant signedIn facts).outcome = .reject 4100 reason := by
  constructor
  · intro address forwarded
    have ⟨secure, member⟩ := popupRequest_forward forwarded
    have ⟨source, granted, spelled⟩ := List.mem_map.mp member
    have ⟨held, active, isHeld, isActive, signed, same, isSource⟩ := mem_grantedToSignedIn granted
    refine ⟨⟨held, active, isHeld, isActive, signed, same, ?_⟩, popupOriginRefusal_eq_none.mp secure⟩
    rw [← spelled, isSource]
  · intro raw params account stated read named wellFormed elsewhere
    cases refused : popupOriginRefusal method facts.origin with
    | some reason =>
      refine ⟨reason, ?_⟩
      simp only [popupRequest, refused, popupOriginRefusal_code refused]
      rfl
    | none =>
      have pinned : facts.pinned method = some account := by
        simp only [PopupFacts.pinned, stated, read, Option.bind_some]
        exact requestedAddress_of_names named wellFormed
      have apart : ∀ address ∈ (grantedToSignedIn grant signedIn).map dappSpelling,
          eqIgnoreAsciiCase (bytes account) (bytes address) = false := by
        intro address member
        have ⟨source, granted, spelled⟩ := List.mem_map.mp member
        have ⟨held, _, isHeld, _, _, _, isSource⟩ := mem_grantedToSignedIn granted
        rw [← spelled, isSource]
        exact spelling_apart wellFormed (elsewhere held isHeld)
      have ⟨reason, outcome⟩ := popupOutcome_pinned (connects_of_names named) apart
      refine ⟨reason, ?_⟩
      simp only [popupRequest, refused, pinned]
      exact outcome

/-- The granted account of the requests below. -/
def grantedText : String := "0x1111111111111111111111111111111111111111"

/-- A transaction's params whose sender has no `0x` mark. -/
def unmarkedParams : Value :=
  .array [.object [("from", .string "2222222222222222222222222222222222222222")]]

/-- Typed-data params that name an account in the place of the later methods. -/
def typedParams : Value :=
  .array [.string "0x2222222222222222222222222222222222222222", .object []]

@[reducible] def requestReader : Reader where
  fromStr text :=
    if text = "[\x7b\"from\":\"2222222222222222222222222222222222222222\"\x7d]" then
      some unmarkedParams
    else if text = "[\"0x2222222222222222222222222222222222222222\",\x7b\x7d]" then some typedParams
    else none

/-- The account the requests name, and the granted one. -/
def namedAccount : Address := ⟨List.replicate 20 0x22, by decide⟩

def grantedAccount : Address := ⟨List.replicate 20 0x11, by decide⟩

/-- A typed-data request for another account is refused. -/
theorem popup_refuses :
    ∃ reason, (@popupRequest requestReader "eth_signTypedData_v4" (some ⟨grantedText⟩)
      (some grantedText)
      ⟨none, none, some "[\"0x2222222222222222222222222222222222222222\",\x7b\x7d]"⟩).outcome =
        .reject 4100 reason := by
  refine (@popup_gate requestReader "eth_signTypedData_v4" _ _ _).2 _ typedParams _ rfl
    ((if_neg (by decide)).trans (if_pos rfl)) (.typed rfl rfl) (by decide) ?_
  rintro held ⟨rfl⟩
  have read : parseAddress grantedText = .ok grantedAccount := by decide
  simp only [IsElsewhere, read]
  decide

/-- A sender the address parser reads without its mark, and the account of a method that only
looks like typed data, name nobody: both requests are handed on for the granted account. -/
theorem popup_forwards_unread :
    (parseAddress "2222222222222222222222222222222222222222" = .ok namedAccount ∧
      parseAddress "0x2222222222222222222222222222222222222222" = .ok namedAccount ∧
      parseAddress grantedText = .ok grantedAccount ∧ namedAccount ≠ grantedAccount) ∧
    isSigningMethod "eth_sendTransaction" = true ∧
    (@popupRequest requestReader "eth_sendTransaction" (some ⟨grantedText⟩) (some grantedText)
      ⟨none, none, some "[\x7b\"from\":\"2222222222222222222222222222222222222222\"\x7d]"⟩).outcome =
        .forwardToSigning (dappSpelling grantedText) ∧
    isSigningMethod "eth_signTypedData_v2" = true ∧
    (@popupRequest requestReader "eth_signTypedData_v2" (some ⟨grantedText⟩) (some grantedText)
      ⟨none, none, some "[\"0x2222222222222222222222222222222222222222\",\x7b\x7d]"⟩).outcome =
        .forwardToSigning (dappSpelling grantedText) := by
  refine ⟨⟨by decide, by decide, by decide, by decide⟩, by decide, ?_, by decide, ?_⟩
  · exact @popupRequest_unpinned _ _ requestReader _ _ _ rfl (by decide) (by decide) (by decide)
  · exact @popupRequest_unpinned _ _ requestReader _ _ _ rfl (by decide) (by decide) (by decide)

end VelaWallet.DappPermissions
