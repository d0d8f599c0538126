import VelaWallet.Base.Shell
import VelaWallet.Wallet.SessionTurns

/-!
# Runs of the session

The session with its shell, and what is written down beside a run: the wallets held when a
request was made, what the upload checks answered, the outbox as last read, and when the
accounts were last handed over or signed out.
-/

namespace VelaWallet.Session

def SessionOperation.answeredBy : SessionOperation → SessionShellResult → Bool
  | .loadAccounts, .accountsLoaded _ | .loadAccounts, .accountsUnavailable => true
  | .loadActiveIndex, .activeIndexLoaded _ => true
  | .saveAccount _, .accountSaved => true
  | .saveActiveIndex _, .activeIndexSaved => true
  | .checkPendingUploads, .pendingUploads _ => true
  | .checkPendingUploads, .pendingUploadsUnavailable => true
  | .clearSignedInWallet, .signedInWalletCleared => true
  | .removeAccount _, .accountRemoved => true
  | .clearExtensionCache, .extensionCacheCleared => true
  | _, _ => false

/-- The answers to what a landing watch asks. -/
def SessionOperation.reportedBy : SessionOperation → SessionShellResult → Bool
  | .loadPendingUploads, .pendingUploadsLoaded _ => true
  | .loadPendingUploads, .pendingUploadsUnavailable => true
  | .awaitRegistryLanding _, .registryLanded => true
  | .awaitRegistryLanding _, .registryLandingUnconfirmed _ => true
  | .removePendingUpload _, .pendingUploadRemoved => true
  | _, _ => false

/-- The shell answers each request under the attempt, or the watch, that made it. -/
@[reducible] def sessionShell : Shell Event Request where
  external
    | .shellCompleted .. | .watchCompleted .. => false
    | _ => true
  answers request event :=
    match request.asker, event with
    | .attempt attempt, .shellCompleted attempt_ result =>
      attempt == attempt_ && request.operation.answeredBy result
    | .watch watch, .watchCompleted watch_ result =>
      watch == watch_ && request.operation.reportedBy result
    | _, _ => false

theorem answers_internal {request : Request} {event : Event}
    (answers : sessionShell.answers request event = true) :
    sessionShell.external event = false := by
  obtain ⟨asker, operation⟩ := request
  cases event <;> first | rfl | (cases asker <;> cases answers)

@[reducible] def machine [AddressRuntime] : Process Model Event (List Request) where
  init := {}
  step event model := some (update event model)

/-- An event that hands accounts over, or signs out. -/
def Model.seals (model : Model) : Event → Bool
  | .accountEstablished _ => true
  | .signOutConfirmed => model.signOutWarning.isSome
  | .removeAccount index => index < model.accounts.length && model.accounts.length == 1
  | _ => false

/-- What is written down beside a run. -/
structure Books where
  /-- The wallets held when the request of a number was made. -/
  held : Nat → List (List Char) := fun _ => []
  /-- What the upload checks answered, each with the wallets held when it was asked for. -/
  answers : List (Bool × List (List Char)) := []
  /-- The outbox as the current watch read it. -/
  records : List (Option PendingUpload) := []
  /-- How many requests had been made when accounts were last handed over or signed out. -/
  sealedAt : Nat := 0

def Books.write (books : Books) (before : Served Model Request) (move : Move Event)
    (after : Served Model Request) : Books where
  held number := if number < before.issued then books.held number else before.state.wallets
  answers :=
    match move with
    | .answers number (.shellCompleted _ (.pendingUploads hasPending)) =>
      (hasPending, books.held number) :: books.answers
    | _ => books.answers
  records :=
    if after.state.watch ≠ before.state.watch then []
    else
      match move.event with
      | .watchCompleted watch (.pendingUploadsLoaded records) =>
        if watch = before.state.watch then records else books.records
      | _ => books.records
  sealedAt := if before.state.seals move.event then before.issued else books.sealedAt

/-- The session with its shell and the books of the run. -/
@[reducible] def session [AddressRuntime] :
    Process (Served Model Request × Books) (Move Event) (List (Request × Nat)) :=
  (machine.served sessionShell).watching {} fun books before move after _ => books.write before move after

def SameWallets (left right : List (List Char)) : Prop := ∀ wallet, wallet ∈ left ↔ wallet ∈ right

instance (left right : List (List Char)) : Decidable (SameWallets left right) :=
  decidable_of_iff (left.all (right.contains ·) && right.all (left.contains ·)) (by
    simp only [SameWallets, Bool.and_eq_true, List.all_eq_true, List.contains_iff_mem]
    constructor
    · exact fun both wallet => ⟨both.1 wallet, both.2 wallet⟩
    · exact fun same => ⟨fun wallet => (same wallet).mp, fun wallet => (same wallet).mpr⟩)

theorem SameWallets.refl (wallets : List (List Char)) : SameWallets wallets wallets :=
  fun _ => Iff.rfl

theorem SameWallets.trans {left middle right : List (List Char)}
    (first : SameWallets left middle) (second : SameWallets middle right) :
    SameWallets left right := fun wallet => (first wallet).trans (second wallet)

theorem SameWallets.symm {left right : List (List Char)} (same : SameWallets left right) :
    SameWallets right left := fun wallet => (same wallet).symm

/-- The events that leave alone what signing out was asked about: the last account is not
removed, none is removed and none handed over while an upload check is in flight or its dialog
open (but wallets that are held), and no wallet is handed over twice. -/
def Model.keeps (model : Model) : Event → Bool
  | .removeAccount index =>
    model.accounts.length ≤ index ||
      1 < model.accounts.length && !model.checkingUploads && model.signOutWarning.isNone
  | .accountEstablished mode =>
    !model.checkingUploads && decide (handedOver mode model.wallets).Nodup &&
      (model.signOutWarning.isNone ||
        decide (SameWallets (handedOver mode model.wallets) model.wallets))
  | _ => true

/-- The moves whose event leaves it alone. -/
def keeping : Move Event → Served Model Request × Books → Bool :=
  fun move reached => reached.1.state.keeps move.event

variable [AddressRuntime]

theorem session_step {move : Move Event} {before after : Served Model Request × Books}
    {output : List (Request × Nat)} (stepped : session.step move before = some (after, output)) :
    ∃ rest, machine.Serves sessionShell move before.1 after.1 rest
        (update move.event before.1.state).2 ∧
      after.1.state = (update move.event before.1.state).1 ∧
      output = (update move.event before.1.state).2.zipIdx before.1.issued ∧
      after.2 = before.2.write before.1 move after.1 := by
  obtain ⟨served, books⟩ := Process.watching_step.mp stepped
  obtain ⟨rest, requests, serves, rfl⟩ := Process.served_step served
  have both := Option.some.inj serves.stepped
  have made : requests = (update move.event before.1.state).2 := (congrArg Prod.snd both).symm
  subst made
  exact ⟨rest, serves, (congrArg Prod.fst both).symm, rfl, books⟩

theorem outstanding_cases {move : Move Event} {before after : Served Model Request}
    {rest : List (Request × Nat)} {requests : List Request}
    (serves : machine.Serves sessionShell move before after rest requests) {entry : Request × Nat}
    (member : entry ∈ after.outstanding) :
    entry ∈ rest ∨ entry.1 ∈ requests ∧ before.issued ≤ entry.2 ∧ entry.2 < after.issued := by
  rw [serves.outstanding] at member
  rcases List.mem_append.mp member with old | new
  · exact .inl old
  · refine .inr ⟨List.fst_mem_of_mem_zipIdx new, List.le_snd_of_mem_zipIdx new, ?_⟩
    rw [serves.issued]
    exact List.snd_lt_add_of_mem_zipIdx new

end VelaWallet.Session
