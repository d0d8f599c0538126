import VelaWallet.Signer.Address
import VelaWallet.Signer.Connection

/-!
# Stored wallets

The records the wallet keeps on a device: an account with its founding keys, where it
reviews and signs, and the outbox of uploads that are not confirmed (`app/mod.rs`,
`signing_venue.rs`).
-/

namespace VelaWallet

open TrustedSigner (signerUrl authorityOf originOf)

def appDomain : List Char := "getvela.app".toList

inductive SigningVenue where
  | inVela
  | page (url : String)
  deriving DecidableEq

/-- Why a venue cannot be used for an account. -/
inductive VenueBlock where
  | appCannotReach (domain : String)
  | pageOnOtherDomain (pageDomain domain : String)

def hostOf (authority : List Char) : List Char :=
  match Chars.lower authority with
  | '[' :: bracketed => '[' :: bracketed.takeWhile (· != ']') ++ [']']
  | authority => authority.takeWhile (· != ':')

/-- `registry_rp_id`: the relying party of a key made on a page. -/
def registryRpId (signerOrigin : Option String) : Option String := do
  let origin := Chars.trim (← signerOrigin).toList
  if origin.isEmpty then none
  else
    let rest := ((Chars.splitOnce "://".toList origin).map Prod.snd).getD origin
    let host := hostOf (authorityOf rest)
    if host.isEmpty then none
    else if host == appDomain || ('.' :: appDomain).isSuffixOf host then
      some (String.ofList appDomain)
    else some (String.ofList host)

def domainOfPage (url : String) : String := (registryRpId (some url)).getD ""

def isAppDomain (domain : String) : Bool :=
  Chars.lower (Chars.trim domain.toList) == Chars.lower appDomain

def samePage (left right : String) : Bool :=
  (signerUrl left).toOption.getD left == (signerUrl right).toOption.getD right

namespace SigningVenue

/-- `SigningVenue::page`: the page's address is normalised. -/
def page? (url : String) : Option SigningVenue := (signerUrl url).toOption.map .page

def pageUrl : SigningVenue → Option String
  | inVela => none
  | page url => some url

def sameAs : SigningVenue → SigningVenue → Bool
  | inVela, inVela => true
  | page left, page right => samePage left right
  | _, _ => false

/-- A page's address normalised, where it is an address. -/
def normalised : SigningVenue → SigningVenue
  | inVela => inVela
  | page url => (page? url).getD (page url)

def reachability (domain : String) (venue : SigningVenue) : Except VenueBlock Unit :=
  let domain := String.ofList (Chars.lower (Chars.trim domain.toList))
  match venue with
  | inVela => if isAppDomain domain then .ok () else .error (.appCannotReach domain)
  | page url =>
    let pageDomain := ((signerUrl url).toOption.map domainOfPage).getD ""
    if pageDomain ≠ "" ∧ pageDomain = domain then .ok ()
    else .error (.pageOnOtherDomain pageDomain domain)

end SigningVenue

/-- `KeyMethod`: where a key lives. -/
inductive KeyMethod where
  | platform
  | hybrid
  | securityKey
  deriving DecidableEq

structure AccountKey where
  credentialId : String
  publicKeyHex : String
  name : String
  transports : String := ""
  signerOrigin : Option String := none
  deriving DecidableEq

structure SignInKey where
  credentialId : String
  method : KeyMethod
  transports : String := ""
  deriving DecidableEq

structure Account where
  id : String
  name : String
  address : String
  publicKeyHex : String
  createdAtIso : String
  keys : List AccountKey
  signInKey : Option SignInKey
  signingDomain : String
  signingVenue : SigningVenue
  deriving DecidableEq

namespace Account

/-- `Account::key_hexes`: a record without keys has the one of its scalar field. -/
def keyHexes (account : Account) : List String :=
  if account.keys.isEmpty then [account.publicKeyHex] else account.keys.map (·.publicKeyHex)

def matchesCredential (account : Account) (credentialId : String) : Bool :=
  account.id == credentialId || account.keys.any (·.credentialId == credentialId)

/-- What makes two records one wallet: the address, whatever its case. -/
def wallet (account : Account) : List Char := Chars.lower account.address.toList

/-- `str::eq_ignore_ascii_case`, of two addresses. -/
def sameWallet (left right : Account) : Bool := left.wallet == right.wallet

def chooseVenue (account : Account) (venue : SigningVenue) : Except VenueBlock Account :=
  match venue.normalised.reachability account.signingDomain with
  | .ok _ => .ok { account with signingVenue := venue.normalised }
  | .error block => .error block

def stampPageOrigin (account : Account) : Account :=
  if isAppDomain account.signingDomain then account
  else
    match account.signingVenue.pageUrl with
    | none => account
    | some url =>
      let origin := originOf url.toList
      if origin.isEmpty then account
      else
        { account with
          keys := account.keys.map fun key =>
            if key.signerOrigin.all (·.isEmpty) then
              { key with signerOrigin := some (String.ofList origin) }
            else key }

theorem chooseVenue_address {account chosen : Account} {venue : SigningVenue}
    (accepted : account.chooseVenue venue = .ok chosen) : chosen.address = account.address := by
  unfold chooseVenue at accepted
  generalize venue.normalised.reachability account.signingDomain = reached at accepted
  cases reached with
  | ok =>
    cases accepted
    rfl
  | error => cases accepted

@[simp] theorem stampPageOrigin_address (account : Account) :
    account.stampPageOrigin.address = account.address := by
  unfold stampPageOrigin
  split
  · rfl
  · split
    · rfl
    · dsimp only
      split <;> rfl

end Account

structure PendingUploadMember where
  credentialId : String
  name : String
  publicKeyHex : String
  attestationObjectHex : String
  authenticatorAttachment : String := ""
  transports : String := ""
  signerOrigin : Option String := none
  deriving DecidableEq

structure PendingUpload where
  id : String
  name : String
  publicKeyHex : String
  attestationObjectHex : String
  createdAtIso : String
  authenticatorAttachment : String := ""
  transports : String := ""
  members : List PendingUploadMember
  taskId : Option String
  deriving DecidableEq

/-- `PendingUpload::awaits_landing`: only a one-key record's task is waited for. -/
def PendingUpload.awaitsLanding (record : PendingUpload) : Option String :=
  if 1 < record.members.length then none else record.taskId.filter (! ·.isEmpty)

/-- `CompletionMode`: how onboarding hands over a wallet. -/
inductive CompletionMode where
  | setWallet (accounts : List Account) (activeIndex : Nat)
  | addAccount (account : Account)

end VelaWallet
