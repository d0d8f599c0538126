import VelaWallet.Base.FirstSeen
import VelaWallet.Wallet.Account

/-!
# The wallet session

The accounts this device is signed into, which of them is active, signing out, and the
watch for landings (`app/session.rs`).
-/

namespace VelaWallet.Session

/-- The Safe address of a founding key set (`address_from_public_key_hexes`). -/
class AddressRuntime where
  addressOf : List String → Option String

export AddressRuntime (addressOf)

/-- What the machine asks the platform to do. -/
inductive SessionOperation where
  | loadAccounts
  | loadActiveIndex
  | saveAccount (account : Account)
  | saveActiveIndex (index : Nat)
  | checkPendingUploads
  | clearSignedInWallet
  | removeAccount (address : String)
  | clearExtensionCache
  | loadPendingUploads
  | awaitRegistryLanding (taskId : String)
  | removePendingUpload (credentialId : String)
  deriving DecidableEq

inductive SessionShellResult where
  | accountsLoaded (accounts : List Account)
  | accountsUnavailable
  | activeIndexLoaded (index : Nat)
  | accountSaved
  | accountRemoved
  | activeIndexSaved
  | pendingUploads (hasPending : Bool)
  | pendingUploadsUnavailable
  | signedInWalletCleared
  | extensionCacheCleared
  | pendingUploadsLoaded (records : List (Option PendingUpload))
  | registryLanded
  | registryLandingUnconfirmed (message : String)
  | pendingUploadRemoved
  deriving DecidableEq

/-- What tells an answer apart from a superseded one: the attempt, or the watch, that asked. -/
inductive Asker where
  | attempt (attempt : Nat)
  | watch (watch : Nat)
  deriving DecidableEq

/-- An operation and who asked for it. -/
structure Request where
  asker : Asker
  operation : SessionOperation
  deriving DecidableEq

inductive Event where
  | boot
  | switchAccount (index : Nat)
  | accountEstablished (mode : CompletionMode)
  | removeAccount (index : Nat)
  | signingVenueChosen (address : String) (venue : SigningVenue)
  | signOut
  | signOutConfirmed
  | signOutDismissed
  | shellCompleted (attempt : Nat) (result : SessionShellResult)
  | watchCompleted (watch : Nat) (result : SessionShellResult)

inductive Phase where
  | restoring
  | empty
  | active
  | signedOut
  deriving DecidableEq

structure Model where
  accounts : List Account := []
  activeIndex : Nat := 0
  phase : Phase := .restoring
  bootStarted : Bool := false
  loadedAccounts : Option (List Account) := none
  loadedIndex : Option Nat := none
  checkingUploads : Bool := false
  signOutWarning : Option Bool := none
  attempt : Nat := 0
  watch : Nat := 0
  watchQueue : List (String × String) := []
  watching : Option String := none

/-- `requests`: operations whose answers must match the current attempt. -/
def requests (model : Model) (operations : List SessionOperation) : List Request :=
  operations.map fun operation => ⟨.attempt model.attempt, operation⟩

def watchRequest (model : Model) (operation : SessionOperation) : List Request :=
  [⟨.watch model.watch, operation⟩]

/-- `start_watch`: a newer watch supersedes an older one. -/
def startWatch (model : Model) : Model × List Request :=
  let model := { model with watch := model.watch + 1, watchQueue := [], watching := none }
  (model, watchRequest model .loadPendingUploads)

/-- `next_landing`: one record's task at a time. -/
def nextLanding (model : Model) : Model × List Request :=
  match model.watchQueue with
  | [] => ({ model with watching := none }, [])
  | (credentialId, taskId) :: queue =>
    let model := { model with watchQueue := queue, watching := some credentialId }
    (model, watchRequest model (.awaitRegistryLanding taskId))

/-- The records a read can settle, with the tasks they wait for. -/
def landings (records : List (Option PendingUpload)) : List (String × String) :=
  records.filterMap fun record => do
    let record ← record
    let taskId ← record.awaitsLanding
    return (record.id, taskId)

def acceptWatch (result : SessionShellResult) (model : Model) : Model × List Request :=
  match result with
  | .pendingUploadsLoaded records => nextLanding { model with watchQueue := landings records }
  | .registryLanded =>
    match model.watching with
    | some credentialId =>
      let model := { model with watching := none }
      (model, watchRequest model (.removePendingUpload credentialId))
    | none => (model, [])
  | .registryLandingUnconfirmed _ => nextLanding { model with watching := none }
  | .pendingUploadRemoved => nextLanding model
  | _ => ({ model with watchQueue := [], watching := none }, [])

/-- An account with the address its whole key set computes to; as stored where that cannot be
computed. -/
def corrected [AddressRuntime] (account : Account) : Account :=
  if account.publicKeyHex = "" then account
  else
    match addressOf account.keyHexes with
    | some correct =>
      if account.address ≠ correct then { account with address := correct } else account
    | none => account

/-- The write-backs of the accounts whose address is corrected. -/
def corrections [AddressRuntime] (accounts : List Account) : List SessionOperation :=
  (accounts.filter fun account => corrected account != account).map fun account =>
    .saveAccount (corrected account)

def tryFinishRestore [AddressRuntime] (model : Model) : Model × List Request :=
  match model.loadedAccounts, model.loadedIndex with
  | some accounts, some savedIndex =>
    let model := { model with loadedAccounts := none, loadedIndex := none }
    if accounts.isEmpty then ({ model with phase := .empty }, [])
    else
      let (kept, movedIndex) :=
        FirstSeen.follow Account.wallet (accounts.map corrected) savedIndex
      let activeIndex := if movedIndex < kept.length then movedIndex else 0
      let model := { model with accounts := kept, activeIndex, phase := .active }
      let written := requests model (corrections accounts ++ [.saveActiveIndex activeIndex])
      let (model, watched) := startWatch model
      (model, written ++ watched)
  | _, _ => (model, [])

def switchAccount (index : Nat) (model : Model) : Model × List Request :=
  if model.accounts.length ≤ index then (model, [])
  else if index = model.activeIndex then (model, [])
  else
    let model := { model with activeIndex := index }
    (model, requests model [.saveActiveIndex index])

def chooseVenue (address : String) (venue : SigningVenue) (model : Model) : Model × List Request :=
  if model.phase ≠ .active then (model, [])
  else
    match model.accounts.findIdx? fun account =>
        account.wallet == Chars.lower address.toList with
    | none => (model, [])
    | some at_ =>
      match model.accounts[at_]? with
      | none => (model, [])
      | some account =>
        if account.signingVenue.sameAs venue then (model, [])
        else
          match account.chooseVenue venue with
          | .error _ => (model, [])
          | .ok chosen =>
            let account := chosen.stampPageOrigin
            let model := { model with accounts := model.accounts.set at_ account }
            (model, requests model [.saveAccount account])

/-- What signing out asks of the shell. -/
def clearing : List SessionOperation := [.clearSignedInWallet, .clearExtensionCache]

/-- The session once nobody is signed in. -/
def signedOut (model : Model) : Model :=
  { model with
    attempt := model.attempt + 1, signOutWarning := none, checkingUploads := false,
    accounts := [], activeIndex := 0, phase := .signedOut }

/-- `remove_account`: removing the last account is being signed out. -/
def removeAccount (index : Nat) (model : Model) : Model × List Request :=
  match model.accounts[index]? with
  | none => (model, [])
  | some removed =>
    let accounts := model.accounts.eraseIdx index
    let wasActive := index = model.activeIndex
    let activeIndex := if index < model.activeIndex then model.activeIndex - 1 else model.activeIndex
    if accounts.isEmpty then
      let model := signedOut model
      (model, requests model clearing)
    else
      let activeIndex := min activeIndex (accounts.length - 1)
      let model := { model with accounts, activeIndex }
      (model, requests model ([.removeAccount removed.address, .saveActiveIndex activeIndex] ++
        if wasActive then [.clearExtensionCache] else []))

def establish (mode : CompletionMode) (model : Model) : Model × List Request :=
  let model := { model with
    attempt := model.attempt + 1, loadedAccounts := none, loadedIndex := none }
  match mode with
  | .addAccount account =>
    let (accounts, activeIndex) := match model.accounts.findIdx? (·.sameWallet account) with
      | some index => (model.accounts, index)
      | none => (model.accounts ++ [account], model.accounts.length)
    let model := { model with accounts, activeIndex, phase := .active }
    let saved := requests model [.saveActiveIndex activeIndex]
    let (model, watched) := startWatch model
    (model, saved ++ watched)
  | .setWallet accounts activeIndex =>
    let activeIndex := if activeIndex < accounts.length then activeIndex else 0
    let phase := if accounts.isEmpty then Phase.empty else .active
    let model := { model with accounts, activeIndex, phase }
    if accounts.isEmpty then (model, [])
    else
      let saved := requests model [.saveActiveIndex activeIndex]
      let (model, watched) := startWatch model
      (model, saved ++ watched)

def signOutConfirmed (model : Model) : Model × List Request :=
  match model.signOutWarning with
  | none => (model, [])
  | some _ =>
    let model := signedOut model
    (model, requests model clearing)

def accept [AddressRuntime] (result : SessionShellResult) (model : Model) : Model × List Request :=
  match model.phase, result with
  | .restoring, .accountsLoaded accounts =>
    tryFinishRestore { model with loadedAccounts := some accounts }
  | .restoring, .activeIndexLoaded index =>
    tryFinishRestore { model with loadedIndex := some index }
  | .restoring, .accountsUnavailable =>
    ({ model with loadedAccounts := none, loadedIndex := none, phase := .empty }, [])
  | .active, .pendingUploads hasPending =>
    if model.checkingUploads then
      ({ model with checkingUploads := false, signOutWarning := some hasPending }, [])
    else (model, [])
  | .active, .pendingUploadsUnavailable =>
    if model.checkingUploads then ({ model with checkingUploads := false }, [])
    else (model, [])
  | _, _ => (model, [])

def update [AddressRuntime] (event : Event) (model : Model) : Model × List Request :=
  match event with
  | .boot =>
    if model.bootStarted ∨ model.phase ≠ .restoring then (model, [])
    else
      let model := { model with bootStarted := true, attempt := model.attempt + 1 }
      (model, requests model [.loadAccounts, .loadActiveIndex])
  | .switchAccount index => switchAccount index model
  | .accountEstablished mode => establish mode model
  | .removeAccount index => removeAccount index model
  | .signingVenueChosen address venue => chooseVenue address venue model
  | .signOut =>
    if model.phase ≠ .active ∨ model.checkingUploads ∨ model.signOutWarning.isSome then (model, [])
    else
      let model := { model with checkingUploads := true, attempt := model.attempt + 1 }
      (model, requests model [.checkPendingUploads])
  | .signOutConfirmed => signOutConfirmed model
  | .signOutDismissed => ({ model with signOutWarning := none }, [])
  | .shellCompleted attempt result =>
    if attempt ≠ model.attempt then (model, []) else accept result model
  | .watchCompleted watch result =>
    if watch ≠ model.watch then (model, []) else acceptWatch result model

end VelaWallet.Session
