import VelaWallet.Wallet.Session

/-!
# What an event does to the session

Each event as one of a few turns: what it does to the accounts, to signing out and to the
attempt, and what is asked for.
-/

namespace VelaWallet.Session

variable {model : Model}

def Model.wallets (model : Model) : List (List Char) := model.accounts.map Account.wallet

/-- The upload check that is asked for now. -/
def Model.check (model : Model) : Request := ⟨.attempt model.attempt, .checkPendingUploads⟩

local instance lawful : LawfulBEq (List Char) := inferInstance

/-- The wallets once onboarding handed over its own. -/
def handedOver (mode : CompletionMode) (wallets : List (List Char)) : List (List Char) :=
  match mode with
  | .addAccount account =>
    if account.wallet ∈ wallets then wallets else wallets ++ [account.wallet]
  | .setWallet accounts _ => accounts.map Account.wallet

/-- An answer that settles the upload check in flight. -/
def Model.settledBy (model : Model) : Event → Bool
  | .shellCompleted attempt (.pendingUploads _) | .shellCompleted attempt .pendingUploadsUnavailable =>
    attempt == model.attempt && model.checkingUploads && model.phase == .active
  | _ => false

/-- What signing out is about stays as it is. -/
structure Calm (before after : Model) : Prop where
  phase : after.phase = before.phase
  checkingUploads : after.checkingUploads = before.checkingUploads
  signOutWarning : after.signOutWarning = before.signOutWarning
  attempt : after.attempt = before.attempt

/-- No upload check is among the requests, and the attempt asked for them. -/
def Plain (model : Model) (requests : List Request) : Prop :=
  ∀ request ∈ requests, request.operation ≠ .checkPendingUploads ∧
    ∀ attempt, request.asker = .attempt attempt → attempt = model.attempt

/-- What an event does to the session. -/
inductive Turn (before after : Model) (requests : List Request) : Event → Prop
  | quiet {event : Event} (calm : Calm before after) (accounts : after.accounts = before.accounts)
      (activeIndex : after.activeIndex = before.activeIndex)
      (unsettled : before.settledBy event = false) (plain : Plain after requests) :
      Turn before after requests event
  | booted (restoring : before.phase = .restoring) (phase : after.phase = .restoring)
      (accounts : after.accounts = before.accounts)
      (checking : after.checkingUploads = before.checkingUploads)
      (warning : after.signOutWarning = before.signOutWarning)
      (attempt : after.attempt = before.attempt + 1) (plain : Plain after requests) :
      Turn before after requests .boot
  | moved {event : Event} (calm : Calm before after) (wallets : after.wallets = before.wallets)
      (inside : after.activeIndex < after.accounts.length)
      (unsettled : before.settledBy event = false)
      (arrives : ∀ attempt result, event ≠ .shellCompleted attempt result)
      (plain : Plain after requests) :
      Turn before after requests event
  | restored {event : Event} (restoring : before.phase = .restoring) (phase : after.phase = .active)
      (checking : after.checkingUploads = before.checkingUploads)
      (warning : after.signOutWarning = before.signOutWarning)
      (attempt : after.attempt = before.attempt)
      (inside : after.activeIndex < after.accounts.length) (nodup : after.wallets.Nodup)
      (asked : ∃ result, event = .shellCompleted before.attempt result)
      (unsettled : before.settledBy event = false) (plain : Plain after requests) :
      Turn before after requests event
  | emptied {event : Event} (restoring : before.phase = .restoring) (phase : after.phase = .empty)
      (accounts : after.accounts = before.accounts)
      (checking : after.checkingUploads = before.checkingUploads)
      (warning : after.signOutWarning = before.signOutWarning)
      (attempt : after.attempt = before.attempt)
      (asked : ∃ result, event = .shellCompleted before.attempt result)
      (unsettled : before.settledBy event = false) (plain : Plain after requests) :
      Turn before after requests event
  | established {mode : CompletionMode}
      (wallets : after.wallets = handedOver mode before.wallets)
      (phase : after.phase = if after.accounts = [] then .empty else .active)
      (inside : after.accounts ≠ [] → after.activeIndex < after.accounts.length)
      (checking : after.checkingUploads = before.checkingUploads)
      (warning : after.signOutWarning = before.signOutWarning)
      (attempt : after.attempt = before.attempt + 1) (plain : Plain after requests) :
      Turn before after requests (.accountEstablished mode)
  | removed {index : Nat} (small : index < before.accounts.length)
      (more : 1 < before.accounts.length) (calm : Calm before after)
      (accounts : after.accounts = before.accounts.eraseIdx index)
      (inside : after.activeIndex < after.accounts.length) (plain : Plain after requests) :
      Turn before after requests (.removeAccount index)
  | removedLast {index : Nat} (small : index < before.accounts.length)
      (last : before.accounts.length = 1) (out : after = signedOut before)
      (plain : Plain after requests) :
      Turn before after requests (.removeAccount index)
  | asked (active : before.phase = .active) (idle : before.checkingUploads = false)
      (closed : before.signOutWarning = none)
      (next : after = { before with checkingUploads := true, attempt := before.attempt + 1 })
      (asks : requests = [after.check]) :
      Turn before after requests .signOut
  | answered {hasPending : Bool} (active : before.phase = .active)
      (checking : before.checkingUploads = true)
      (next : after = { before with checkingUploads := false, signOutWarning := some hasPending })
      (none_asked : requests = []) :
      Turn before after requests (.shellCompleted before.attempt (.pendingUploads hasPending))
  | unanswered (active : before.phase = .active) (checking : before.checkingUploads = true)
      (next : after = { before with checkingUploads := false }) (none_asked : requests = []) :
      Turn before after requests (.shellCompleted before.attempt .pendingUploadsUnavailable)
  | confirmed {warning : Bool} (opened : before.signOutWarning = some warning)
      (out : after = signedOut before) (plain : Plain after requests) :
      Turn before after requests .signOutConfirmed
  | dismissed (next : after = { before with signOutWarning := none }) (none_asked : requests = []) :
      Turn before after requests .signOutDismissed

theorem Plain.nil (model : Model) : Plain model [] := fun _ member => absurd member List.not_mem_nil

theorem Plain.append {left right : List Request} (first : Plain model left)
    (second : Plain model right) : Plain model (left ++ right) := by
  intro request member
  rcases List.mem_append.mp member with inLeft | inRight
  · exact first request inLeft
  · exact second request inRight

theorem plain_requests {operations : List SessionOperation}
    (others : ∀ operation ∈ operations, operation ≠ .checkPendingUploads) :
    Plain model (requests model operations) := by
  intro request member
  obtain ⟨operation, among, rfl⟩ := List.mem_map.mp member
  refine ⟨others operation among, ?_⟩
  intro attempt same
  exact (Asker.attempt.inj same).symm

theorem plain_watch {watcher : Model} {operation : SessionOperation}
    (other : operation ≠ .checkPendingUploads) :
    Plain model (watchRequest watcher operation) := by
  intro request member
  rw [List.mem_singleton.mp member]
  exact ⟨other, nofun⟩

theorem Calm.refl (model : Model) : Calm model model := ⟨rfl, rfl, rfl, rfl⟩

theorem Turn.still {model : Model} {event : Event} (unsettled : model.settledBy event = false) :
    Turn model model [] event :=
  .quiet (Calm.refl model) rfl rfl unsettled (Plain.nil model)

theorem nextLanding_calm (model : Model) :
    Calm model (nextLanding model).1 ∧ (nextLanding model).1.accounts = model.accounts ∧
      (nextLanding model).1.activeIndex = model.activeIndex ∧
      ∀ other : Model, Plain other (nextLanding model).2 := by
  unfold nextLanding
  split
  · exact ⟨⟨rfl, rfl, rfl, rfl⟩, rfl, rfl, fun other => Plain.nil other⟩
  · exact ⟨⟨rfl, rfl, rfl, rfl⟩, rfl, rfl, fun other => plain_watch nofun⟩

theorem acceptWatch_calm (result : SessionShellResult) (model : Model) :
    Calm model (acceptWatch result model).1 ∧
      (acceptWatch result model).1.accounts = model.accounts ∧
      (acceptWatch result model).1.activeIndex = model.activeIndex ∧
      ∀ other : Model, Plain other (acceptWatch result model).2 := by
  unfold acceptWatch
  split
  case h_1 records =>
    obtain ⟨calm, rest⟩ := nextLanding_calm { model with watchQueue := landings records }
    exact ⟨⟨calm.phase, calm.checkingUploads, calm.signOutWarning, calm.attempt⟩, rest⟩
  case h_2 =>
    split
    · exact ⟨⟨rfl, rfl, rfl, rfl⟩, rfl, rfl, fun other => plain_watch nofun⟩
    · exact ⟨⟨rfl, rfl, rfl, rfl⟩, rfl, rfl, fun other => Plain.nil other⟩
  case h_3 =>
    obtain ⟨calm, rest⟩ := nextLanding_calm { model with watching := none }
    exact ⟨⟨calm.phase, calm.checkingUploads, calm.signOutWarning, calm.attempt⟩, rest⟩
  case h_4 => exact nextLanding_calm model
  case h_5 => exact ⟨⟨rfl, rfl, rfl, rfl⟩, rfl, rfl, fun other => Plain.nil other⟩

section Turns

variable {model : Model}

theorem turn_switch (index : Nat) :
    Turn model (switchAccount index model).1 (switchAccount index model).2 (.switchAccount index) := by
  unfold switchAccount
  split
  · exact .still rfl
  · next outside =>
      split
      · exact .still rfl
      · refine .moved ⟨rfl, rfl, rfl, rfl⟩ rfl (Nat.lt_of_not_le outside) rfl nofun ?_
        exact plain_requests (by simp)

theorem turn_venue (address : String) (venue : SigningVenue)
    (active : model.phase = .active → model.activeIndex < model.accounts.length) :
    Turn model (chooseVenue address venue model).1 (chooseVenue address venue model).2
      (.signingVenueChosen address venue) := by
  unfold chooseVenue
  split
  · exact .still rfl
  · next phase =>
      split
      · exact .still rfl
      · next =>
          split
          · exact .still rfl
          · next account here =>
              split
              · exact .still rfl
              · split
                · exact .still rfl
                · next chosen accepted =>
                    have same : chosen.stampPageOrigin.wallet = account.wallet := by
                      rw [Account.wallet, Account.stampPageOrigin_address,
                        Account.chooseVenue_address accepted]
                      rfl
                    refine .moved ⟨rfl, rfl, rfl, rfl⟩ ?_ ?_ rfl nofun ?_
                    · simp only [Model.wallets, List.map_set, same]
                      obtain ⟨small, at_account⟩ := List.getElem?_eq_some_iff.mp here
                      apply List.ext_getElem (by simp)
                      intro slot _ _
                      rw [List.getElem_set]
                      split
                      · next here =>
                          subst here
                          rw [List.getElem_map, at_account]
                      · rfl
                    · simpa using active (by simpa using phase)
                    · exact plain_requests (by simp)

theorem turn_remove (index : Nat) (active : model.accounts ≠ [] →
      model.activeIndex < model.accounts.length) :
    Turn model (removeAccount index model).1 (removeAccount index model).2 (.removeAccount index) := by
  unfold removeAccount
  split
  · exact .still rfl
  · next removed here =>
      have small := (List.getElem?_eq_some_iff.mp here).1
      have length := List.length_eraseIdx_of_lt small
      have inside := active (List.ne_nil_of_length_pos (Nat.zero_lt_of_lt small))
      dsimp only
      split
      · next last =>
          have none_left : (model.accounts.eraseIdx index).length = 0 := by simpa using last
          apply Turn.removedLast small (by omega) rfl
          exact plain_requests (by simp [clearing])
      · next some_left =>
          have positive : 0 < (model.accounts.eraseIdx index).length := by
            rw [List.length_pos_iff]
            simpa using some_left
          refine .removed small (by omega) ⟨rfl, rfl, rfl, rfl⟩ rfl ?_ ?_
          · simp only
            omega
          · apply plain_requests
            intro operation member
            simp only [List.mem_append, List.mem_cons, List.not_mem_nil, or_false] at member
            rcases member with (rfl | rfl) | last
            · exact nofun
            · exact nofun
            · split at last
              · rw [List.mem_singleton.mp last]
                exact nofun
              · cases last

theorem turn_establish (mode : CompletionMode) :
    Turn model (establish mode model).1 (establish mode model).2 (.accountEstablished mode) := by
  cases mode with
  | addAccount account =>
    simp only [establish]
    cases found : model.accounts.findIdx? (·.sameWallet account) with
    | some =>
      obtain ⟨small, same, _⟩ := List.findIdx?_eq_some_iff_getElem.mp found
      have held : account.wallet ∈ model.wallets := by
        rw [Model.wallets, List.mem_map]
        exact ⟨_, List.getElem_mem small, by simpa [Account.sameWallet] using same⟩
      have some_held : model.accounts ≠ [] := List.ne_nil_of_length_pos (Nat.zero_lt_of_lt small)
      refine .established ?_ ?_ (fun _ => small) rfl rfl rfl ?_
      · rw [handedOver, if_pos held]
        rfl
      · show Phase.active = if model.accounts = [] then Phase.empty else .active
        rw [if_neg some_held]
      · exact (plain_requests (by simp)).append (plain_watch (by rintro ⟨⟩))
    | none =>
      have fresh : account.wallet ∉ model.wallets := by
        rw [Model.wallets, List.mem_map]
        rintro ⟨held, member, same⟩
        have differs := List.findIdx?_eq_none_iff.mp found held member
        simp [Account.sameWallet, same] at differs
      refine .established ?_ ?_ (fun _ => ?_) rfl rfl rfl ?_
      · rw [handedOver, if_neg fresh]
        show (model.accounts ++ [account]).map Account.wallet = _
        rw [List.map_append]
        rfl
      · show Phase.active = if model.accounts ++ [account] = [] then Phase.empty else .active
        rw [if_neg (by simp)]
      · show model.accounts.length < (model.accounts ++ [account]).length
        simp
      · exact (plain_requests (by simp)).append (plain_watch (by rintro ⟨⟩))
  | setWallet accounts activeIndex =>
    simp only [establish]
    cases accounts with
    | nil =>
      refine .established rfl rfl ?_ rfl rfl rfl (Plain.nil _)
      exact fun some_held => absurd rfl some_held
    | cons head rest =>
      refine .established rfl rfl (fun _ => ?_) rfl rfl rfl ?_
      · show (if activeIndex < (head :: rest).length then activeIndex else 0) <
          (head :: rest).length
        split
        · assumption
        · exact Nat.succ_pos _
      · exact (plain_requests (by simp)).append (plain_watch (by rintro ⟨⟩))

theorem turn_confirmed :
    Turn model (signOutConfirmed model).1 (signOutConfirmed model).2 .signOutConfirmed := by
  unfold signOutConfirmed
  split
  · exact .still rfl
  · next opened =>
      exact .confirmed opened rfl (plain_requests (by simp [clearing]))

end Turns

section Restore

variable [AddressRuntime] {model : Model}

theorem tryFinishRestore_cases (model : Model) :
    (Calm model (tryFinishRestore model).1 ∧ (tryFinishRestore model).1.accounts = model.accounts ∧
      (tryFinishRestore model).1.activeIndex = model.activeIndex ∧
      (tryFinishRestore model).2 = []) ∨
    ((tryFinishRestore model).1.phase = .empty ∧
      (tryFinishRestore model).1.accounts = model.accounts ∧ (tryFinishRestore model).2 = []) ∧
      (tryFinishRestore model).1.checkingUploads = model.checkingUploads ∧
      (tryFinishRestore model).1.signOutWarning = model.signOutWarning ∧
      (tryFinishRestore model).1.attempt = model.attempt ∨
    ((tryFinishRestore model).1.phase = .active ∧
      (tryFinishRestore model).1.activeIndex < (tryFinishRestore model).1.accounts.length ∧
      (tryFinishRestore model).1.wallets.Nodup ∧
      Plain (tryFinishRestore model).1 (tryFinishRestore model).2) ∧
      (tryFinishRestore model).1.checkingUploads = model.checkingUploads ∧
      (tryFinishRestore model).1.signOutWarning = model.signOutWarning ∧
      (tryFinishRestore model).1.attempt = model.attempt := by
  unfold tryFinishRestore
  split
  · next accounts savedIndex _ _ =>
      dsimp only
      split
      · exact .inr (.inl ⟨⟨rfl, rfl, rfl⟩, rfl, rfl, rfl⟩)
      · next some_rows =>
          have positive : 0 < (accounts.map corrected).length := by
            rw [List.length_map, List.length_pos_iff]
            simpa using some_rows
          have some_kept := @FirstSeen.firsts_pos _ _ _ Account.wallet _ positive
          have kept := FirstSeen.follow_fst Account.wallet (accounts.map corrected) savedIndex
          refine .inr (.inr ⟨⟨rfl, ?_, ?_, ?_⟩, rfl, rfl, rfl⟩)
          · show (if _ < _ then _ else 0) < _
            split
            · assumption
            · show 0 < (FirstSeen.follow Account.wallet (accounts.map corrected) savedIndex).1.length
              rw [kept]
              exact some_kept
          · show ((FirstSeen.follow Account.wallet (accounts.map corrected) savedIndex).1.map
              Account.wallet).Nodup
            rw [kept]
            exact FirstSeen.firsts_nodup _
          · apply Plain.append
            · apply plain_requests
              intro operation member
              rcases List.mem_append.mp member with written | last
              · obtain ⟨account, _, rfl⟩ := List.mem_map.mp written
                rintro ⟨⟩
              · rw [List.mem_singleton.mp last]
                rintro ⟨⟩
            · exact plain_watch (by rintro ⟨⟩)
  · exact .inl ⟨Calm.refl _, rfl, rfl, rfl⟩

theorem turn_load (loaded : Model) (restoring : model.phase = .restoring)
    (idle : model.checkingUploads = false) (calm : Calm model loaded)
    (accounts : loaded.accounts = model.accounts)
    (activeIndex : loaded.activeIndex = model.activeIndex) (result : SessionShellResult) :
    Turn model (tryFinishRestore loaded).1 (tryFinishRestore loaded).2
      (.shellCompleted model.attempt result) := by
  have unsettled : model.settledBy (.shellCompleted model.attempt result) = false := by
    cases result <;> simp [Model.settledBy, idle]
  rcases tryFinishRestore_cases loaded with waits | ⟨⟨phase, held, none_asked⟩, rest⟩ |
    ⟨⟨phase, inside, nodup, plain⟩, rest⟩
  · obtain ⟨still, held, position, none_asked⟩ := waits
    rw [none_asked]
    refine .quiet ⟨?_, ?_, ?_, ?_⟩ (held.trans accounts) (position.trans activeIndex) unsettled
      (Plain.nil _)
    · exact still.phase.trans calm.phase
    · exact still.checkingUploads.trans calm.checkingUploads
    · exact still.signOutWarning.trans calm.signOutWarning
    · exact still.attempt.trans calm.attempt
  · rw [none_asked]
    exact .emptied restoring phase (held.trans accounts) (rest.1.trans calm.checkingUploads)
      (rest.2.1.trans calm.signOutWarning) (rest.2.2.trans calm.attempt) ⟨result, rfl⟩ unsettled
      (Plain.nil _)
  · exact .restored restoring phase (rest.1.trans calm.checkingUploads)
      (rest.2.1.trans calm.signOutWarning) (rest.2.2.trans calm.attempt) inside nodup
      ⟨result, rfl⟩ unsettled plain

theorem turn_accept (busy : model.checkingUploads = true → model.phase = .active)
    (reply : SessionShellResult) :
    Turn model (accept reply model).1 (accept reply model).2
      (.shellCompleted model.attempt reply) := by
  have idle : model.phase ≠ .active → model.checkingUploads = false := by
    intro other
    by_contra checking
    exact other (busy (by simpa using checking))
  unfold accept
  split
  case h_1 accounts restoring =>
    exact turn_load { model with loadedAccounts := some accounts } restoring (idle (by simp [restoring])) ⟨rfl, rfl, rfl, rfl⟩ rfl rfl _
  case h_2 index restoring =>
    exact turn_load { model with loadedIndex := some index } restoring (idle (by simp [restoring])) ⟨rfl, rfl, rfl, rfl⟩ rfl rfl _
  case h_3 restoring =>
    refine .emptied restoring rfl rfl rfl rfl rfl ⟨_, rfl⟩ rfl (Plain.nil _)
  case h_4 active =>
    split
    · next checking => exact .answered active checking rfl rfl
    · next waits => exact .still (by simp [Model.settledBy, waits])
  case h_5 active =>
    split
    · next checking => exact .unanswered active checking rfl rfl
    · next waits => exact .still (by simp [Model.settledBy, waits])
  case h_6 =>
    rename_i reply _ _ _ _ _ unasked unheard
    apply Turn.still
    cases reply with
    | pendingUploads hasPending =>
      have other : model.phase ≠ .active := fun active => unasked hasPending active rfl
      simp [Model.settledBy, other]
    | pendingUploadsUnavailable =>
      have other : model.phase ≠ .active := fun active => unheard active rfl
      simp [Model.settledBy, other]
    | _ => rfl

theorem turn_of_update (busy : model.checkingUploads = true → model.phase = .active)
    (active : model.accounts ≠ [] → model.activeIndex < model.accounts.length)
    (held : model.phase = .active → model.accounts ≠ []) (event : Event) :
    Turn model (update event model).1 (update event model).2 event := by
  cases event with
  | boot =>
    simp only [update]
    split
    · exact .still rfl
    · next ready =>
        have restoring : model.phase = .restoring := by
          by_contra other
          exact ready (.inr other)
        refine .booted restoring restoring rfl rfl rfl rfl ?_
        exact plain_requests (by simp)
  | switchAccount index => exact turn_switch index
  | accountEstablished mode => exact turn_establish mode
  | removeAccount index => exact turn_remove index active
  | signingVenueChosen address venue =>
    exact turn_venue address venue fun phase => active (held phase)
  | signOut =>
    simp only [update]
    split
    · exact .still rfl
    · next ready =>
        simp only [not_or, Decidable.not_not, Bool.not_eq_true, Option.isSome_eq_false_iff,
          Option.isNone_iff_eq_none] at ready
        exact .asked ready.1 ready.2.1 ready.2.2 rfl rfl
  | signOutConfirmed => exact turn_confirmed
  | signOutDismissed => exact .dismissed rfl rfl
  | shellCompleted attempt result =>
    simp only [update]
    split
    · next stale =>
        apply Turn.still
        cases result <;> simp [Model.settledBy, stale]
    · next current =>
        obtain rfl : attempt = model.attempt := Decidable.not_not.mp current
        exact turn_accept busy result
  | watchCompleted _ result =>
    simp only [update]
    split
    · exact .still rfl
    · obtain ⟨calm, accounts, activeIndex, plain⟩ := acceptWatch_calm result model
      exact .quiet calm accounts activeIndex rfl (plain _)

end Restore

end VelaWallet.Session
