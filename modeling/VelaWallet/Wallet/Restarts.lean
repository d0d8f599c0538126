import VelaWallet.Wallet.Session

/-!
# Restarts

A device keeps the stored accounts and the saved index; a launch restores the session from
them.  A restart opens the wallet the last session left exactly when the stored rows up to its
position are rows of different wallets.
-/

namespace VelaWallet.Session

open FirstSeen (follow firsts select wanted isTwin Finds)

variable [AddressRuntime]

structure Store where
  rows : List Account
  index : Nat

/-- A write by the shell: a record is written over the one of its id, and a wallet is dropped
by its address. -/
def Store.perform (store : Store) : SessionOperation → Store
  | .saveAccount account =>
    match store.rows.findIdx? fun row => row.id == account.id with
    | some at_ => { store with rows := store.rows.set at_ account }
    | none => { store with rows := store.rows ++ [account] }
  | .saveActiveIndex index => { store with index }
  | .removeAccount address =>
    { store with rows := store.rows.filter fun row => row.wallet ≠ Chars.lower address.toList }
  | .clearSignedInWallet => ⟨[], 0⟩
  | _ => store

/-- The writes of some requests, one after another. -/
def Store.performAll (store : Store) (requests : List Request) : Store :=
  requests.foldl (fun store request => store.perform request.operation) store

def Model.activeWallet (model : Model) : Option (List Char) :=
  model.accounts[model.activeIndex]?.map Account.wallet

/-- A launch: the boot, and the two loads answered in either order. -/
def launch (indexFirst : Bool) (store : Store) : Model × List Request :=
  let booted := (update .boot {}).1
  let accounts := SessionShellResult.accountsLoaded store.rows
  let index := SessionShellResult.activeIndexLoaded store.index
  let (first, second) := if indexFirst then (index, accounts) else (accounts, index)
  update (.shellCompleted 1 second) (update (.shellCompleted 1 first) booted).1

structure Device where
  store : Store
  session : Model

/-- A device as a launch's writes leave it: the rows corrected in place, the index as saved. -/
def Store.launched (store : Store) (indexFirst : Bool) : Device where
  store := ⟨store.rows.map corrected, (launch indexFirst store).1.activeIndex⟩
  session := (launch indexFirst store).1

/-- The session takes an event, and the shell makes its writes. -/
def Device.takes (device : Device) (event : Event) : Device where
  store := device.store.performAll (update event device.session).2
  session := (update event device.session).1

/-- The record of a wallet onboarding made: a wallet the store has is not stored again. -/
def Store.keep (store : Store) (account : Account) : Store :=
  if account.wallet ∈ store.rows.map Account.wallet then store
  else { store with rows := store.rows ++ [account] }

/-- What may happen between two launches. -/
inductive Between where
  | switch (index : Nat)
  | remove (index : Nat)
  /-- Onboarding hands over a wallet it made. -/
  | establish (account : Account)
  /-- Onboarding signs in to a wallet among those stored. -/
  | enter (index : Nat)

def Device.after (device : Device) : Between → Device
  | .switch index => device.takes (.switchAccount index)
  | .remove index => device.takes (.removeAccount index)
  | .establish account =>
    { device with store := device.store.keep account }.takes
      (.accountEstablished (.addAccount account))
  | .enter index => device.takes (.accountEstablished (.setWallet device.store.rows index))

/-- A wallet handed over has the address of its keys, and the stored list is entered when it
holds no wallet twice. -/
def Device.Meets (device : Device) : Between → Prop
  | .switch _ | .remove _ => True
  | .establish account => corrected account = account
  | .enter _ => (device.store.rows.map Account.wallet).Nodup

/-- The devices that some steps lead to. -/
inductive Reaches (start : Device) : Device → Prop
  | refl : Reaches start start
  | after {device : Device} (reaches : Reaches start device) (step : Between)
      (meets : device.Meets step) : Reaches start (device.after step)

@[simp] theorem corrected_corrected (account : Account) :
    corrected (corrected account) = corrected account := by
  by_cases empty : account.publicKeyHex = ""
  · simp [corrected, empty]
  · cases correct : addressOf account.keyHexes with
    | none => simp [corrected, empty, correct]
    | some address =>
      by_cases same : account.address = address
      · simp [corrected, empty, correct, same]
      · have keys : ({ account with address := address } : Account).keyHexes =
            account.keyHexes := rfl
        simp [corrected, empty, correct, same, keys]

def restored (store : Store) : Model :=
  let gathered := follow Account.wallet (store.rows.map corrected) store.index
  { accounts := gathered.1
    activeIndex := if gathered.2 < gathered.1.length then gathered.2 else 0
    phase := .active
    bootStarted := true
    attempt := 1
    watch := 1 }

theorem launch_eq {store : Store} (nonempty : store.rows ≠ []) (indexFirst : Bool) :
    launch indexFirst store =
      (restored store, requests (restored store)
        (corrections store.rows ++ [SessionOperation.saveActiveIndex (restored store).activeIndex]) ++
          watchRequest (restored store) .loadPendingUploads) := by
  have some_rows : store.rows.isEmpty = false := by
    simpa using nonempty
  cases indexFirst <;>
    simp [launch, update, accept, tryFinishRestore, startWatch, restored, requests, watchRequest,
      some_rows]

theorem launch_empty {store : Store} (empty : store.rows = []) (indexFirst : Bool) :
    (launch indexFirst store).1.accounts = [] := by
  cases indexFirst <;>
    simp [launch, update, accept, tryFinishRestore, requests, empty]

theorem restored_accounts (store : Store) :
    (restored store).accounts = firsts Account.wallet (store.rows.map corrected) :=
  FirstSeen.follow_fst _ _ _

theorem restored_activeWallet (store : Store) :
    (restored store).activeWallet =
      (select Account.wallet (store.rows.map corrected) store.index).map Account.wallet := rfl

theorem restored_lt {store : Store} (nonempty : store.rows ≠ []) :
    (restored store).activeIndex < (restored store).accounts.length := by
  have positive : 0 < (store.rows.map corrected).length := by
    rw [List.length_map]
    exact List.length_pos_iff.mpr nonempty
  have some_kept := @FirstSeen.firsts_pos _ _ _ Account.wallet _ positive
  rw [← restored_accounts] at some_kept
  simp only [restored] at some_kept ⊢
  split
  · next inside => exact inside
  · exact some_kept

structure Kept (device : Device) : Prop where
  accounts : device.session.accounts = firsts Account.wallet device.store.rows
  right : ∀ row ∈ device.store.rows, corrected row = row
  index : device.store.index = device.session.activeIndex
  inside : device.session.accounts ≠ [] →
    device.session.activeIndex < device.session.accounts.length
  first : device.session.accounts = [] → device.session.activeIndex = 0

variable {device : Device}

theorem Kept.rows_nil (kept : Kept device)
    (empty : device.session.accounts = []) : device.store.rows = [] := by
  by_contra some_rows
  have positive := @FirstSeen.firsts_pos _ _ _ Account.wallet _ (List.length_pos_iff.mpr some_rows)
  rw [← kept.accounts, empty] at positive
  exact absurd positive (Nat.lt_irrefl 0)

theorem map_corrected {rows : List Account} (right : ∀ row ∈ rows, corrected row = row) :
    rows.map corrected = rows := by
  conv_rhs => rw [← List.map_id rows]
  exact List.map_congr_left right

theorem Kept.launched {store : Store} (nonempty : store.rows ≠ []) (indexFirst : Bool) :
    Kept (store.launched indexFirst) := by
  have launched := launch_eq nonempty indexFirst
  constructor
  · rw [Store.launched, launched]
    exact restored_accounts store
  · intro row member
    obtain ⟨stored, _, rfl⟩ := List.mem_map.mp member
    exact corrected_corrected stored
  · rfl
  · intro _
    rw [Store.launched, launched]
    exact restored_lt nonempty
  · intro empty
    rw [Store.launched, launched] at empty
    have inside := restored_lt nonempty
    rw [empty] at inside
    exact absurd inside (Nat.not_lt_zero _)

theorem Kept.switch (kept : Kept device) (index : Nat) :
    Kept (device.takes (.switchAccount index)) := by
  simp only [Device.takes, update, switchAccount]
  split
  · exact kept
  · next outside =>
      split
      · exact kept
      · constructor
        · exact kept.accounts
        · exact kept.right
        · rfl
        · intro _
          exact Nat.lt_of_not_le outside
        · intro empty
          simp only at empty
          simp [empty] at outside

theorem Kept.erased (kept : Kept device) {index : Nat} {removed : Account}
    (here : device.session.accounts[index]? = some removed) :
    device.session.accounts.eraseIdx index =
      firsts Account.wallet (device.store.rows.filter fun row => row.wallet ≠ removed.wallet) := by
  rw [FirstSeen.firsts_filter, ← kept.accounts]
  apply FirstSeen.eraseIdx_of_nodup ?_ here
  rw [kept.accounts]
  exact FirstSeen.firsts_nodup _

omit [AddressRuntime] in
theorem performAll_removal (store : Store) (model : Model) (address : String) (index : Nat)
    (wasActive : Prop) [Decidable wasActive] :
    store.performAll (requests model ([.removeAccount address, .saveActiveIndex index] ++
        if wasActive then [.clearExtensionCache] else [])) =
      ⟨store.rows.filter fun row => row.wallet ≠ Chars.lower address.toList, index⟩ := by
  by_cases was : wasActive
  · rw [if_pos was]
    rfl
  · rw [if_neg was]
    rfl

theorem Kept.remove (kept : Kept device) (index : Nat) :
    Kept (device.takes (.removeAccount index)) := by
  simp only [Device.takes, update, removeAccount]
  split
  · exact kept
  · next here =>
      have erased := kept.erased here
      have small := (List.getElem?_eq_some_iff.mp here).1
      split
      · next =>
          constructor
          · rfl
          · exact nofun
          · rfl
          · exact fun some_left => absurd rfl some_left
          · exact fun _ => rfl
      · next some_left =>
          have length := List.length_eraseIdx_of_lt small
          have positive : 0 < (device.session.accounts.eraseIdx index).length := by
            rw [List.length_pos_iff]
            simpa using some_left
          rw [performAll_removal]
          constructor
          · exact erased
          · intro row member
            exact kept.right row (List.mem_filter.mp member).1
          · rfl
          · intro _
            simp only
            omega
          · intro empty
            simp only at empty
            rw [empty] at positive
            exact absurd positive (Nat.lt_irrefl 0)

theorem Kept.establish (kept : Kept device) {account : Account}
    (right : corrected account = account) : Kept (device.after (.establish account)) := by
  have among : (∃ held ∈ device.session.accounts, held.wallet = account.wallet) ↔
      account.wallet ∈ device.store.rows.map Account.wallet := by
    rw [← FirstSeen.mem_firsts_map, ← kept.accounts, List.mem_map]
  simp only [Device.after, Device.takes, update, Session.establish]
  cases found : device.session.accounts.findIdx? (·.sameWallet account) with
  | some =>
    obtain ⟨small, same, _⟩ := List.findIdx?_eq_some_iff_getElem.mp found
    have stored := among.mp ⟨_, List.getElem_mem small, by simpa [Account.sameWallet] using same⟩
    simp only [Store.keep, if_pos stored]
    constructor
    · exact kept.accounts
    · exact kept.right
    · rfl
    · exact fun _ => small
    · intro empty
      have empty : device.session.accounts = [] := empty
      simp [empty] at small
  | none =>
    have absent : account.wallet ∉ device.store.rows.map Account.wallet := by
      intro stored
      obtain ⟨held, member, same⟩ := among.mpr stored
      have differs := List.findIdx?_eq_none_iff.mp found held member
      simp [Account.sameWallet, same] at differs
    simp only [Store.keep, if_neg absent]
    constructor
    · show device.session.accounts ++ [account] =
        firsts Account.wallet (device.store.rows ++ [account])
      rw [FirstSeen.firsts_fresh absent, kept.accounts]
    · intro row member
      rcases List.mem_append.mp member with old | new
      · exact kept.right row old
      · rw [List.mem_singleton.mp new]
        exact right
    · rfl
    · intro _
      show device.session.accounts.length < (device.session.accounts ++ [account]).length
      simp
    · intro empty
      have empty : device.session.accounts ++ [account] = [] := empty
      simp at empty

theorem Kept.enter (kept : Kept device) (index : Nat)
    (nodup : (device.store.rows.map Account.wallet).Nodup) :
    Kept (device.after (.enter index)) := by
  have whole := FirstSeen.firsts_of_nodup nodup
  simp only [Device.after, Device.takes, update, Session.establish]
  cases rows : device.store.rows with
  | nil =>
    have accounts : device.session.accounts = [] := by
      rw [kept.accounts, rows]
      rfl
    have zero : device.store.index = 0 := by
      rw [kept.index, kept.first accounts]
    constructor
    · simp [Store.performAll, rows]
      rfl
    · simp [Store.performAll, rows]
    · simpa [Store.performAll] using zero
    · exact fun some_left => absurd rfl some_left
    · exact fun _ => rfl
  | cons =>
    rw [rows] at whole
    constructor
    · simpa [Store.performAll, requests, startWatch, watchRequest, Store.perform, rows] using whole.symm
    · intro row member
      apply kept.right row
      simpa [Store.performAll, requests, startWatch, watchRequest, Store.perform, rows] using member
    · simp [Store.performAll, requests, startWatch, watchRequest, Store.perform]
    · intro _
      simp only [List.isEmpty_cons, Bool.false_eq_true, if_false, startWatch]
      split
      · assumption
      · exact Nat.succ_pos _
    · rintro ⟨⟩

theorem Kept.after (kept : Kept device) {step : Between}
    (meets : device.Meets step) : Kept (device.after step) := by
  cases step with
  | switch index => exact kept.switch index
  | remove index => exact kept.remove index
  | establish => exact kept.establish meets
  | enter index => exact kept.enter index meets

theorem Kept.reaches {start device : Device} (kept : Kept start) (reaches : Reaches start device) :
    Kept device := by
  induction reaches with
  | refl => exact kept
  | after _ _ meets ih => exact ih.after meets

/-- A restart opens the wallet the session left exactly when no stored row up to its position
is of an earlier row's wallet. -/
theorem Kept.restart_iff (kept : Kept device) (indexFirst : Bool) :
    (launch indexFirst device.store).1.activeWallet = device.session.activeWallet ↔
      ∀ slot ≤ device.session.activeIndex,
        isTwin Account.wallet device.store.rows slot = false := by
  by_cases empty : device.session.accounts = []
  · have rows := kept.rows_nil empty
    have relaunched := launch_empty rows indexFirst
    rw [Model.activeWallet, Model.activeWallet, relaunched, empty, rows]
    simp [FirstSeen.isTwin]
  · have some_rows : device.store.rows ≠ [] := by
      intro rows
      apply empty
      rw [kept.accounts, rows]
      rfl
    rw [launch_eq some_rows, restored_activeWallet, map_corrected kept.right, kept.index,
      Model.activeWallet, kept.accounts]
    apply FirstSeen.select_again
    rw [← kept.accounts]
    exact kept.inside empty

/-- A launch has every stored wallet once, in the order they are first seen in; its position is
the saved one's wallet exactly when the position finds it; and after any steps a restart opens
the wallet left active exactly when no stored row up to its position is of an earlier row's
wallet. -/
theorem restarts_alike_iff (store : Store) (nonempty : store.rows ≠ []) (indexFirst : Bool) :
    (launch indexFirst store).1.phase = .active ∧
    (launch indexFirst store).1.accounts.map Account.wallet =
      ((store.rows.map corrected).map Account.wallet).eraseDups ∧
    (launch indexFirst store).1.accounts.Sublist (store.rows.map corrected) ∧
    ((launch indexFirst store).1.activeWallet =
        (wanted (store.rows.map corrected) store.index).map Account.wallet ↔
      Finds Account.wallet (store.rows.map corrected) store.index) ∧
    ∀ device, Reaches (store.launched indexFirst) device → ∀ again,
      ((launch again device.store).1.activeWallet = device.session.activeWallet ↔
        ∀ slot ≤ device.session.activeIndex,
          isTwin Account.wallet device.store.rows slot = false) := by
  have positive : 0 < (store.rows.map corrected).length := by
    rw [List.length_map]
    exact List.length_pos_iff.mpr nonempty
  have launched := launch_eq nonempty indexFirst
  refine ⟨?_, ?_, ?_, ?_, ?_⟩
  · rw [launched]
    rfl
  · rw [launched, restored_accounts]
    exact FirstSeen.firsts_map _
  · rw [launched, restored_accounts]
    exact FirstSeen.firsts_sublist _
  · rw [launched, restored_activeWallet]
    exact FirstSeen.select_iff positive
  · intro device reaches again
    exact ((Kept.launched nonempty indexFirst).reaches reaches).restart_iff again

omit [AddressRuntime] in
/-- A one-key record of a wallet. -/
def plainAccount (id address : String) : Account where
  id := id
  name := ""
  address := address
  publicKeyHex := ""
  createdAtIso := ""
  keys := []
  signInKey := none
  signingDomain := "getvela.app"
  signingVenue := .inVela

/-- Nothing is known of any key. -/
@[reducible] def noAddresses : AddressRuntime := ⟨fun _ => none⟩

/-- One wallet's record stored twice before another wallet's, which is active. -/
def twinStore : Store := ⟨[plainAccount "1" "0xA", plainAccount "2" "0xa", plainAccount "3" "0xB"], 2⟩

/-- One wallet's record stored three times before another wallet's, which is active. -/
def tripletStore : Store :=
  ⟨[plainAccount "1" "0xA", plainAccount "2" "0xa", plainAccount "3" "0XA", plainAccount "4" "0xB"], 3⟩

omit [AddressRuntime] in
theorem restarts_alike_twins :
    (@launch noAddresses true (@Store.launched noAddresses twinStore false).store).1.activeWallet =
        (@Store.launched noAddresses twinStore false).session.activeWallet ↔
      ∀ slot ≤ (@Store.launched noAddresses twinStore false).session.activeIndex,
        isTwin Account.wallet (@Store.launched noAddresses twinStore false).store.rows slot =
          false :=
  (@restarts_alike_iff noAddresses twinStore (by decide) false).2.2.2.2 _
    (@Reaches.refl noAddresses _) true

omit [AddressRuntime] in
/-- With two records of one wallet the second boot opens another wallet than the first, and with
three the first boot already does. -/
theorem restart_opens_other :
    (@launch noAddresses false twinStore).1.activeWallet = some "0xb".toList ∧
    (@launch noAddresses false (@Store.launched noAddresses twinStore false).store).1.activeWallet =
      some "0xa".toList ∧
    (wanted tripletStore.rows tripletStore.index).map Account.wallet = some "0xb".toList ∧
    (@launch noAddresses false tripletStore).1.activeWallet = some "0xa".toList := by
  decide

end VelaWallet.Session
