import VelaWallet.Wallet.LandingWatch
import VelaWallet.Wallet.Restarts

/-!
# Signing out

While no account is removed or handed over between an upload check and the sign-out it was for,
an upload check in flight is always answered to, and signing out is warned of the very wallets
it ends.
-/

namespace VelaWallet.Session

variable {books : Books} {event : Event} {left : List Request} {model : Model} {number : Nat}
  {next : Served Model Request} {reached : Served Model Request × Books}
  {served : Served Model Request}

/-- The session is active exactly while it holds wallets, each once, one of them at its position;
an upload check and its dialog are only then. -/
structure Orderly (model : Model) : Prop where
  busy : model.checkingUploads = true → model.phase = .active
  opened : model.signOutWarning ≠ none → model.phase = .active
  active : model.phase = .active → model.accounts ≠ [] ∧ model.wallets.Nodup
  inside : model.accounts ≠ [] → model.activeIndex < model.accounts.length
  idle : model.phase ≠ .active → model.accounts = []

/-- What holds of signing out in every run. -/
structure Guarded (served : Served Model Request) (books : Books) : Prop where
  attempts : ∀ request ∈ served.requests, ∀ attempt, request.asker = .attempt attempt →
    attempt ≤ served.state.attempt
  given : ∀ entry ∈ served.outstanding, entry.2 < served.issued
  counted : served.requests.countP (· == served.state.check) =
    served.state.checkingUploads.toNat
  asked : ∀ number, (served.state.check, number) ∈ served.outstanding →
    SameWallets (books.held number) served.state.wallets
  dialog : ∀ warning, served.state.signOutWarning = some warning →
    ∃ wallets, (warning, wallets) ∈ books.answers ∧ SameWallets wallets served.state.wallets
  orderly : Orderly served.state
  sealedAt : books.sealedAt ≤ served.issued
  superseded : ∀ entry ∈ served.outstanding, entry.2 < books.sealedAt →
    ∀ attempt, entry.1.asker = .attempt attempt → attempt < served.state.attempt

section Steps

variable [AddressRuntime] {move : Move Event} {before after : Served Model Request × Books}
  {output : List (Request × Nat)}

theorem Guarded.turn (guarded : Guarded before.1 before.2)
    (stepped : session.step move before = some (after, output)) :
    Turn before.1.state after.1.state (update move.event before.1.state).2 move.event := by
  obtain ⟨_, _, state, _, _⟩ := session_step stepped
  rw [state]
  exact turn_of_update guarded.orderly.busy guarded.orderly.inside
    (fun active => (guarded.orderly.active active).1) _

variable {requests : List Request}

omit [AddressRuntime] in
theorem Turn.attempt_le {next : Model}
    (turn : Turn model next requests event) : model.attempt ≤ next.attempt := by
  cases turn with
  | quiet calm | moved calm | removed _ _ calm => exact Nat.le_of_eq calm.attempt.symm
  | booted _ _ _ _ _ attempt | established _ _ _ _ _ attempt => exact attempt ▸ Nat.le_succ _
  | restored _ _ _ _ attempt | emptied _ _ _ _ _ attempt => exact Nat.le_of_eq attempt.symm
  | removedLast _ _ out | confirmed _ out => exact out ▸ Nat.le_succ _
  | asked _ _ _ next => exact next ▸ Nat.le_succ _
  | answered _ _ next | unanswered _ _ next | dismissed next => exact next ▸ Nat.le_refl _

omit [AddressRuntime] in
theorem Turn.asker {next : Model} (turn : Turn model next requests event) :
    ∀ request ∈ requests, ∀ attempt, request.asker = .attempt attempt → attempt = next.attempt := by
  cases turn with
  | quiet _ _ _ _ plain | booted _ _ _ _ _ _ plain | moved _ _ _ _ _ plain
  | restored _ _ _ _ _ _ _ _ _ plain | emptied _ _ _ _ _ _ _ _ plain
  | established _ _ _ _ _ _ plain | removed _ _ _ _ _ plain | removedLast _ _ _ plain
  | confirmed _ _ plain => exact fun request member => (plain request member).2
  | asked _ _ _ _ asks =>
    subst asks
    intro request member attempt asker
    rw [List.mem_singleton.mp member] at asker
    exact (Asker.attempt.inj asker).symm
  | answered _ _ _ none_asked | unanswered _ _ _ none_asked | dismissed _ none_asked =>
    subst none_asked
    exact nofun

theorem seals_attempt (sealing : model.seals event = true) :
    model.attempt < (update event model).1.attempt := by
  cases event with
  | accountEstablished mode =>
    cases mode with
    | addAccount => exact Nat.lt_succ_self _
    | setWallet =>
      simp only [update, establish]
      split <;> exact Nat.lt_succ_self _
  | signOutConfirmed =>
    obtain ⟨warning, opened⟩ := Option.isSome_iff_exists.mp sealing
    simp only [update, signOutConfirmed, opened]
    exact Nat.lt_succ_self _
  | removeAccount index =>
    simp only [Model.seals, Bool.and_eq_true, decide_eq_true_eq, beq_iff_eq] at sealing
    simp only [update, removeAccount, List.getElem?_eq_getElem sealing.1]
    have none_left : (model.accounts.eraseIdx index).isEmpty = true := by
      rw [List.isEmpty_iff_length_eq_zero, List.length_eraseIdx_of_lt sealing.1, sealing.2]
    rw [if_pos none_left]
    exact Nat.lt_succ_self _
  | _ => cases sealing

omit [AddressRuntime] in
theorem Guarded.countP_later (guarded : Guarded before.1 before.2) (kept : left ⊆ before.1.requests)
    (later : before.1.state.attempt < model.attempt) : left.countP (· == model.check) = 0 := by
  rw [List.countP_eq_zero]
  intro request member
  rw [beq_iff_eq]
  rintro rfl
  have old := guarded.attempts _ (kept member) model.attempt rfl
  omega

omit [AddressRuntime] in
theorem Plain.countP (plain : Plain model requests)
    (other : Model) : requests.countP (· == other.check) = 0 := by
  rw [List.countP_eq_zero]
  intro request member
  rw [beq_iff_eq]
  rintro rfl
  exact (plain _ member).1 rfl

omit [AddressRuntime] in
theorem Guarded.countP_kept (guarded : Guarded before.1 before.2)
    (unsettled : before.1.state.settledBy event = false)
    (takes : sessionShell.Takes event before.1.requests left) :
    left.countP (· == before.1.state.check) = before.1.state.checkingUploads.toNat := by
  rw [← guarded.counted]
  rcases takes.countP (· == before.1.state.check) with same | ⟨request, member, answers, kind, _⟩
  · exact same.symm
  · obtain rfl := beq_iff_eq.mp kind
    have checking : before.1.state.checkingUploads = true := by
      have positive : 0 < before.1.requests.countP (· == before.1.state.check) :=
        List.countP_pos_iff.mpr ⟨_, member, beq_self_eq_true _⟩
      rw [guarded.counted] at positive
      cases checking : before.1.state.checkingUploads with
      | true => rfl
      | false =>
        rw [checking] at positive
        exact absurd positive (Nat.lt_irrefl 0)
    have active := guarded.orderly.busy checking
    cases event with
    | shellCompleted _ result =>
      cases result <;>
        simp_all [Model.check, SessionOperation.answeredBy, Model.settledBy]
    | _ => cases answers

end Steps

section Kept

variable {model next : Model} {requests : List Request} {event : Event}

theorem Orderly.closed (orderly : Orderly model) (other : model.phase ≠ .active) :
    model.checkingUploads = false ∧ model.signOutWarning = none := by
  constructor
  · by_contra checking
    exact other (orderly.busy (by simpa using checking))
  · by_contra opened
    exact other (orderly.opened opened)

theorem Orderly.of_closed (checking : model.checkingUploads = false)
    (closed : model.signOutWarning = none)
    (active : model.phase = .active → model.accounts ≠ [] ∧ model.wallets.Nodup)
    (inside : model.accounts ≠ [] → model.activeIndex < model.accounts.length)
    (idle : model.phase ≠ .active → model.accounts = []) : Orderly model where
  busy := fun busy => absurd (checking.symm.trans busy) Bool.false_ne_true
  opened := fun opened => absurd closed opened
  active := active
  inside := inside
  idle := idle

theorem Orderly.signedOut (model : Model) : Orderly (signedOut model) :=
  .of_closed rfl rfl nofun (fun some_held => absurd rfl some_held) fun _ => rfl

theorem keeps_remove {index : Nat} (keeps : model.keeps (.removeAccount index) = true)
    (small : index < model.accounts.length) :
    1 < model.accounts.length ∧ model.checkingUploads = false ∧ model.signOutWarning = none := by
  simp only [Model.keeps, Bool.or_eq_true, Bool.and_eq_true, decide_eq_true_eq,
    Bool.not_eq_eq_eq_not, Bool.not_true, Option.isNone_iff_eq_none] at keeps
  rcases keeps with outside | ⟨⟨more, idle⟩, closed⟩
  · omega
  · exact ⟨more, idle, closed⟩

theorem keeps_establish {mode : CompletionMode}
    (keeps : model.keeps (.accountEstablished mode) = true) :
    model.checkingUploads = false ∧ (handedOver mode model.wallets).Nodup ∧
      (model.signOutWarning = none ∨ SameWallets (handedOver mode model.wallets) model.wallets) := by
  simp only [Model.keeps, Bool.or_eq_true, Bool.and_eq_true, decide_eq_true_eq,
    Bool.not_eq_eq_eq_not, Bool.not_true, Option.isNone_iff_eq_none] at keeps
  exact ⟨keeps.1.1, keeps.1.2, keeps.2⟩

theorem wallets_ne_nil : model.wallets ≠ [] ↔ model.accounts ≠ [] := by
  rw [Model.wallets, ne_eq, List.map_eq_nil_iff]

theorem Turn.orderly (turn : Turn model next requests event) (orderly : Orderly model)
    (keeps : model.keeps event = true) : Orderly next := by
  cases turn with
  | quiet calm accounts activeIndex =>
    constructor
    · rw [calm.checkingUploads, calm.phase]
      exact orderly.busy
    · rw [calm.signOutWarning, calm.phase]
      exact orderly.opened
    · rw [calm.phase, Model.wallets, accounts]
      exact orderly.active
    · rw [accounts, activeIndex]
      exact orderly.inside
    · rw [calm.phase, accounts]
      exact orderly.idle
  | booted restoring phase accounts checking warning
  | emptied restoring phase accounts checking warning =>
    have other : model.phase ≠ .active := by simp [restoring]
    have closed := orderly.closed other
    refine .of_closed (checking.trans closed.1) (warning.trans closed.2) ?_ ?_ fun _ => ?_
    · rw [phase]
      rintro ⟨⟩
    · rw [accounts, orderly.idle other]
      exact fun some_held => absurd rfl some_held
    · rw [accounts, orderly.idle other]
  | moved calm wallets inside =>
    have same : next.accounts ≠ [] ↔ model.accounts ≠ [] := by
      rw [← wallets_ne_nil, ← wallets_ne_nil, wallets]
    constructor
    · rw [calm.checkingUploads, calm.phase]
      exact orderly.busy
    · rw [calm.signOutWarning, calm.phase]
      exact orderly.opened
    · rw [calm.phase, wallets, same]
      exact orderly.active
    · exact fun _ => inside
    · rw [calm.phase]
      intro other
      by_contra some_held
      exact same.mp some_held (orderly.idle other)
  | restored restoring phase checking warning _ inside nodup =>
    have closed := orderly.closed (by simp [restoring])
    refine .of_closed (checking.trans closed.1) (warning.trans closed.2) ?_ (fun _ => inside) ?_
    · exact fun _ => ⟨List.ne_nil_of_length_pos (Nat.zero_lt_of_lt inside), nodup⟩
    · exact fun other => absurd phase other
  | @established mode wallets phase inside checking warning =>
    obtain ⟨none_checked, nodup, same⟩ := keeps_establish keeps
    constructor
    · intro busy
      rw [checking, none_checked] at busy
      cases busy
    · intro opened
      rw [warning] at opened
      have held : next.accounts ≠ [] := by
        rcases same with closed | same
        · exact absurd closed opened
        · have some_held := (orderly.active (orderly.opened opened)).1
          rw [← wallets_ne_nil, wallets]
          obtain ⟨wallet, member⟩ := List.exists_mem_of_ne_nil _ (wallets_ne_nil.mpr some_held)
          exact List.ne_nil_of_mem ((same wallet).mpr member)
      rw [phase, if_neg held]
    · intro active
      rw [phase] at active
      split at active
      · cases active
      · next held => exact ⟨held, wallets ▸ nodup⟩
    · exact inside
    · intro other
      by_contra held
      rw [phase, if_neg held] at other
      exact other rfl
  | @removed index small more calm accounts inside =>
    obtain ⟨_, idle, closed⟩ := keeps_remove keeps small
    have held := List.ne_nil_of_length_pos (Nat.zero_lt_of_lt small)
    have active : model.phase = .active := by
      by_contra other
      exact held (orderly.idle other)
    refine .of_closed (calm.checkingUploads.trans idle) (calm.signOutWarning.trans closed) ?_
      (fun _ => inside) ?_
    · intro _
      refine ⟨List.ne_nil_of_length_pos (Nat.zero_lt_of_lt inside), ?_⟩
      rw [Model.wallets, accounts]
      exact (orderly.active active).2.sublist ((List.eraseIdx_sublist _ _).map _)
    · rw [calm.phase]
      exact fun other => absurd active other
  | removedLast _ _ out | confirmed _ out => exact out ▸ Orderly.signedOut model
  | asked active _ _ after =>
    subst after
    exact ⟨fun _ => active, orderly.opened, orderly.active, orderly.inside, orderly.idle⟩
  | answered active _ after =>
    subst after
    exact ⟨by rintro ⟨⟩, fun _ => active, orderly.active, orderly.inside, orderly.idle⟩
  | unanswered _ _ after =>
    subst after
    exact ⟨by rintro ⟨⟩, orderly.opened, orderly.active, orderly.inside, orderly.idle⟩
  | dismissed after =>
    subst after
    exact ⟨orderly.busy, fun opened => absurd rfl opened, orderly.active, orderly.inside, orderly.idle⟩

/-- A check in flight was so before, under the same attempt and with the same wallets, or is
asked for now. -/
theorem Turn.checking (turn : Turn model next requests event) (orderly : Orderly model)
    (keeps : model.keeps event = true) (checking : next.checkingUploads = true) :
    next.wallets = model.wallets ∧
      (next.attempt = model.attempt ∨ model.attempt < next.attempt) := by
  have none_of : ∀ {flag : Bool}, next.checkingUploads = flag → flag = false → False := by
    rintro flag same rfl
    rw [checking] at same
    cases same
  cases turn with
  | quiet calm accounts =>
    refine ⟨?_, .inl calm.attempt⟩
    rw [Model.wallets, accounts]
    rfl
  | moved calm wallets => exact ⟨wallets, .inl calm.attempt⟩
  | booted restoring _ _ same | restored restoring _ same | emptied restoring _ _ same =>
    exact (none_of same (orderly.closed (by simp [restoring])).1).elim
  | established _ _ _ same => exact (none_of same (keeps_establish keeps).1).elim
  | removed small _ calm => exact (none_of calm.checkingUploads (keeps_remove keeps small).2.1).elim
  | removedLast _ _ out | confirmed _ out =>
    subst out
    cases checking
  | asked _ _ _ after =>
    subst after
    exact ⟨rfl, .inr (Nat.lt_succ_self _)⟩
  | answered _ _ after | unanswered _ _ after =>
    subst after
    cases checking
  | dismissed after =>
    subst after
    exact ⟨rfl, .inl rfl⟩

/-- An open dialog was open before, over the same wallets, or is what a check answers now. -/
theorem Turn.warned (turn : Turn model next requests event) (orderly : Orderly model)
    (keeps : model.keeps event = true) {warning : Bool}
    (opened : next.signOutWarning = some warning) :
    model.signOutWarning = some warning ∧ SameWallets model.wallets next.wallets ∨
      event = .shellCompleted model.attempt (.pendingUploads warning) ∧
        model.checkingUploads = true ∧ model.phase = .active ∧ next.wallets = model.wallets := by
  have none_of : ∀ {other : Option Bool}, next.signOutWarning = other → other = none → False := by
    rintro other same rfl
    rw [opened] at same
    cases same
  cases turn with
  | quiet calm accounts =>
    refine .inl ⟨calm.signOutWarning ▸ opened, ?_⟩
    rw [Model.wallets, Model.wallets, accounts]
    exact SameWallets.refl _
  | moved calm wallets =>
    refine .inl ⟨calm.signOutWarning ▸ opened, ?_⟩
    rw [wallets]
    exact SameWallets.refl _
  | booted restoring _ _ _ same | restored restoring _ _ same | emptied restoring _ _ _ same =>
    exact (none_of same (orderly.closed (by simp [restoring])).2).elim
  | established wallets _ _ _ same =>
    have before := same.symm.trans opened
    rcases (keeps_establish keeps).2.2 with closed | kept
    · rw [closed] at before
      cases before
    · rw [wallets]
      exact .inl ⟨before, kept.symm⟩
  | removed small _ calm => exact (none_of calm.signOutWarning (keeps_remove keeps small).2.2).elim
  | removedLast _ _ out | confirmed _ out =>
    subst out
    cases opened
  | asked _ _ _ after | unanswered _ _ after =>
    subst after
    exact .inl ⟨opened, SameWallets.refl _⟩
  | answered active checking after =>
    subst after
    obtain rfl := Option.some.inj opened
    exact .inr ⟨rfl, checking, active, rfl⟩
  | dismissed after =>
    subst after
    cases opened

end Kept

section Runs

variable [AddressRuntime] {move : Move Event} {before after : Served Model Request × Books}
  {output : List (Request × Nat)}

omit [AddressRuntime] in
theorem takes_check {result : SessionShellResult} {requests : List Request}
    (answers : ∀ operation : SessionOperation, operation.answeredBy result = true →
      operation = .checkPendingUploads)
    (takes : sessionShell.Takes (.shellCompleted model.attempt result) requests left) :
    requests.countP (· == model.check) = left.countP (· == model.check) + 1 := by
  cases takes with
  | none external => cases external
  | @one request early late answered =>
    obtain ⟨asker, operation⟩ := request
    cases asker with
    | watch => cases answered
    | attempt =>
      simp only [Bool.and_eq_true, beq_iff_eq] at answered
      obtain rfl := answers operation answered.2
      rw [answered.1]
      simp [Model.check, Nat.add_assoc]

theorem Guarded.counted_step (guarded : Guarded before.1 before.2)
    (keeps : before.1.state.keeps move.event = true)
    (stepped : session.step move before = some (after, output)) :
    after.1.requests.countP (· == after.1.state.check) = after.1.state.checkingUploads.toNat := by
  have turn := guarded.turn stepped
  obtain ⟨rest, serves, state, _, _⟩ := session_step stepped
  obtain ⟨left, takes, requests⟩ := serves.takes
  have kept := takes.subset
  rw [requests, List.countP_append]
  generalize (update move.event before.1.state).2 = made at turn
  have same_check : after.1.state.attempt = before.1.state.attempt →
      after.1.state.check = before.1.state.check := by
    intro same
    rw [Model.check, same]
    rfl
  have calmly : after.1.state.attempt = before.1.state.attempt →
      after.1.state.checkingUploads = before.1.state.checkingUploads →
      before.1.state.settledBy move.event = false → Plain after.1.state made →
      left.countP (· == after.1.state.check) + made.countP (· == after.1.state.check) =
        after.1.state.checkingUploads.toNat := by
    intro attempt checking unsettled plain
    rw [same_check attempt, guarded.countP_kept unsettled takes, plain.countP, checking]
    rfl
  have anew : before.1.state.attempt < after.1.state.attempt →
      after.1.state.checkingUploads = false → Plain after.1.state made →
      left.countP (· == after.1.state.check) + made.countP (· == after.1.state.check) =
        after.1.state.checkingUploads.toNat := by
    intro attempt checking plain
    rw [guarded.countP_later kept attempt, plain.countP, checking]
    rfl
  generalize event : move.event = taken at turn takes calmly keeps
  cases turn with
  | quiet calm _ _ unsettled plain | moved calm _ _ unsettled _ plain =>
    exact calmly calm.attempt calm.checkingUploads unsettled plain
  | restored _ _ checking _ attempt _ _ _ unsettled plain
  | emptied _ _ _ checking _ attempt _ unsettled plain =>
    exact calmly attempt checking unsettled plain
  | booted restoring _ _ checking _ attempt plain =>
    apply anew (attempt ▸ Nat.lt_succ_self _) _ plain
    exact checking.trans (guarded.orderly.closed (by simp [restoring])).1
  | established _ _ _ checking _ attempt plain =>
    apply anew (attempt ▸ Nat.lt_succ_self _) _ plain
    exact checking.trans (keeps_establish keeps).1
  | removed _ _ calm _ _ plain => exact calmly calm.attempt calm.checkingUploads rfl plain
  | removedLast _ _ out plain | confirmed _ out plain =>
    rw [out] at anew plain ⊢
    exact anew (Nat.lt_succ_self _) rfl plain
  | asked _ _ _ next asks =>
    rw [guarded.countP_later kept (next ▸ Nat.lt_succ_self _), asks, next]
    simp
  | answered _ checking next none_asked | unanswered _ checking next none_asked =>
    have counted := guarded.counted
    rw [takes_check (by intro operation; cases operation <;> simp [SessionOperation.answeredBy])
      takes, checking] at counted
    rw [none_asked, same_check (by rw [next]), Nat.succ.inj counted, next]
    rfl
  | dismissed next none_asked =>
    have plain : Plain after.1.state made := none_asked ▸ Plain.nil _
    exact calmly (by rw [next]) (by rw [next]) rfl plain

omit [AddressRuntime] in
theorem Books.held_old (small : number < served.issued) :
    (books.write served move next).held number = books.held number := if_pos small

omit [AddressRuntime] in
theorem Books.held_new (anew : served.issued ≤ number) :
    (books.write served move next).held number = served.state.wallets :=
  if_neg (Nat.not_lt.mpr anew)

omit [AddressRuntime] in
theorem Books.answers_kept
    {answer : Bool × List (List Char)} (written : answer ∈ books.answers) :
    answer ∈ (books.write served move next).answers := by
  unfold Books.write
  split
  · exact List.mem_cons_of_mem _ written
  · exact written

section

variable (guarded : Guarded before.1 before.2) (keeps : before.1.state.keeps move.event = true)
  (stepped : session.step move before = some (after, output))
include guarded keeps stepped

theorem Guarded.asked_step (member : (after.1.state.check, number) ∈ after.1.outstanding) :
    SameWallets (after.2.held number) after.1.state.wallets := by
  have turn := guarded.turn stepped
  have counted := guarded.counted_step keeps stepped
  obtain ⟨rest, serves, state, _, books⟩ := session_step stepped
  have checking : after.1.state.checkingUploads = true := by
    have positive : 0 < after.1.requests.countP (· == after.1.state.check) :=
      List.countP_pos_iff.mpr ⟨_, List.mem_map_of_mem member, beq_self_eq_true _⟩
    rw [counted] at positive
    cases checking : after.1.state.checkingUploads with
    | true => rfl
    | false =>
      rw [checking] at positive
      exact absurd positive (Nat.lt_irrefl 0)
  obtain ⟨wallets, attempt⟩ := turn.checking guarded.orderly keeps checking
  rcases outstanding_cases serves member with old | ⟨_, anew, _⟩
  · have was := serves.accepted.sublist.subset old
    have small := guarded.given _ was
    rcases attempt with same | later
    · have check : after.1.state.check = before.1.state.check := by
        rw [Model.check, same]
        rfl
      rw [check] at was
      rw [books, Books.held_old small, wallets]
      exact guarded.asked number was
    · have known := guarded.attempts _ (List.mem_map_of_mem was) after.1.state.attempt rfl
      exact absurd later (Nat.not_lt.mpr known)
  · rw [books, Books.held_new anew, wallets]
    exact SameWallets.refl _

theorem Guarded.dialog_step {warning : Bool}
    (opened : after.1.state.signOutWarning = some warning) :
    ∃ wallets, (warning, wallets) ∈ after.2.answers ∧
      SameWallets wallets after.1.state.wallets := by
  have turn := guarded.turn stepped
  obtain ⟨rest, serves, _, _, books⟩ := session_step stepped
  rcases turn.warned guarded.orderly keeps opened with ⟨was, same⟩ | ⟨event, _, _, wallets⟩
  · obtain ⟨asked, answered, held⟩ := guarded.dialog warning was
    refine ⟨asked, ?_, held.trans same⟩
    rw [books]
    exact Books.answers_kept answered
  · have accepted := serves.accepted
    generalize outstanding : before.1.outstanding = entries at accepted
    cases accepted with
    | arrives external =>
      rw [Move.event] at event
      rw [event] at external
      cases external
    | @answers taken request number early late answers =>
      rw [Move.event] at event
      subst event
      obtain ⟨asker, operation⟩ := request
      cases asker with
      | watch => cases answers
      | attempt =>
        simp only [Bool.and_eq_true, beq_iff_eq] at answers
        obtain ⟨rfl, answers⟩ := answers
        obtain rfl : operation = .checkPendingUploads := by
          cases operation <;> simp [SessionOperation.answeredBy] at answers
          rfl
        have held := guarded.asked number (by rw [outstanding]; simp [Model.check])
        refine ⟨before.2.held number, ?_, wallets ▸ held⟩
        rw [books]
        exact List.mem_cons_self

end

theorem Guarded.step (guarded : Guarded before.1 before.2)
    (keeps : before.1.state.keeps move.event = true)
    (stepped : session.step move before = some (after, output)) : Guarded after.1 after.2 := by
  have turn := guarded.turn stepped
  have counted := guarded.counted_step keeps stepped
  obtain ⟨rest, serves, state, _, books⟩ := session_step stepped
  have given : ∀ entry ∈ after.1.outstanding, entry.2 < after.1.issued := by
    intro entry member
    rcases outstanding_cases serves member with old | ⟨_, _, small⟩
    · have small := guarded.given entry (serves.accepted.sublist.subset old)
      rw [serves.issued]
      exact Nat.lt_add_right _ small
    · exact small
  have sealed_at : after.2.sealedAt =
      if before.1.state.seals move.event then before.1.issued else before.2.sealedAt := by
    rw [books]
    rfl
  constructor
  case given => exact given
  case counted => exact counted
  case orderly => exact turn.orderly guarded.orderly keeps
  case asked =>
    intro number member
    exact guarded.asked_step keeps stepped member
  case dialog =>
    intro warning opened
    exact guarded.dialog_step keeps stepped opened
  case attempts =>
    intro request member attempt asker
    obtain ⟨entry, among, rfl⟩ := List.mem_map.mp member
    rcases outstanding_cases serves among with old | ⟨made, _, _⟩
    · have known := serves.accepted.sublist.subset old
      have small := guarded.attempts entry.1 (List.mem_map_of_mem known) attempt asker
      exact Nat.le_trans small turn.attempt_le
    · exact Nat.le_of_eq (turn.asker entry.1 made attempt asker)
  case sealedAt =>
    have grown : before.1.issued ≤ after.1.issued := by
      rw [serves.issued]
      exact Nat.le_add_right _ _
    rw [sealed_at]
    split
    · exact grown
    · exact Nat.le_trans guarded.sealedAt grown
  case superseded =>
    intro entry member early attempt asker
    rw [sealed_at] at early
    rcases outstanding_cases serves member with old | ⟨_, anew, _⟩
    · have known := serves.accepted.sublist.subset old
      split at early
      · next sealing =>
          have later : before.1.state.attempt < after.1.state.attempt := by
            rw [state]
            exact seals_attempt sealing
          have small := guarded.attempts entry.1 (List.mem_map_of_mem known) attempt asker
          exact Nat.lt_of_le_of_lt small later
      · have superseded := guarded.superseded entry known early attempt asker
        exact Nat.lt_of_lt_of_le superseded turn.attempt_le
    · split at early
      · exact absurd early (Nat.not_lt.mpr anew)
      · have before_all := Nat.lt_of_lt_of_le early guarded.sealedAt
        exact absurd before_all (Nat.not_lt.mpr anew)

/-- What holds of the session wherever a run has reached. -/
structure Sound (reached : Served Model Request × Books) : Prop where
  guarded : Guarded reached.1 reached.2
  watched : Watched reached.1 reached.2
  numbered : Process.Numbered reached.1

theorem Sound.init : Sound session.init where
  guarded := {
    attempts := nofun
    given := nofun
    counted := rfl
    asked := nofun
    dialog := nofun
    orderly := .of_closed rfl rfl nofun (fun some_held => absurd rfl some_held) fun _ => rfl
    sealedAt := Nat.le_refl 0
    superseded := nofun }
  watched := {
    watches := nofun
    queue := nofun
    waits := .idle rfl (Nat.zero_le _) nofun }
  numbered := @Process.Numbered.init _ _ _ machine sessionShell

theorem sound_of_run {history : List (Move Event × List (Request × Nat))}
    (run : session.Run keeping history reached) :
    Sound reached := by
  apply run.state_invariant Sound .init
  intro move before after output keeps stepped sound
  obtain ⟨rest, serves, _⟩ := session_step stepped
  constructor
  · exact sound.guarded.step keeps stepped
  · exact sound.watched.step stepped
  · exact serves.numbered sound.numbered

/-- An upload check in flight waits for a request that may be answered, with what the platform
finds, and the answer settles it. -/
theorem Sound.settles {reached : Served Model Request × Books} (sound : Sound reached)
    (checking : reached.1.state.checkingUploads = true) :
    ∃ number, (reached.1.state.check, number) ∈ reached.1.outstanding ∧
      ∀ hasPending, ∃ after output,
        session.step (.answers number
          (.shellCompleted reached.1.state.attempt (.pendingUploads hasPending))) reached =
            some (after, output) ∧
        after.1.state = { reached.1.state with
          checkingUploads := false, signOutWarning := some hasPending } := by
  have positive : 0 < reached.1.requests.countP (· == reached.1.state.check) := by
    rw [sound.guarded.counted, checking]
    exact Nat.one_pos
  obtain ⟨request, among, same⟩ := List.countP_pos_iff.mp positive
  obtain ⟨⟨_, number⟩, member, rfl⟩ := List.mem_map.mp among
  obtain rfl := beq_iff_eq.mp same
  refine ⟨number, member, ?_⟩
  intro hasPending
  obtain ⟨rest, accepted⟩ := @Process.Numbered.accepts _ _ _ sessionShell _ sound.numbered _ _ member
    (.shellCompleted reached.1.state.attempt (.pendingUploads hasPending))
    (by simp [Model.check, SessionOperation.answeredBy])
  have active := sound.guarded.orderly.busy checking
  have settled : update (.shellCompleted reached.1.state.attempt (.pendingUploads hasPending))
      reached.1.state = ({ reached.1.state with
        checkingUploads := false, signOutWarning := some hasPending }, []) := by
    simp [update, accept, active, checking]
  obtain ⟨after, stepped, state⟩ : ∃ after, (machine.served sessionShell).step (.answers number
      (.shellCompleted reached.1.state.attempt (.pendingUploads hasPending))) reached.1 =
        some (after, []) ∧ after.state = { reached.1.state with
          checkingUploads := false, signOutWarning := some hasPending } := by
    simp [accepted, Move.event, settled]
  refine ⟨(after, reached.2.write reached.1 (.answers number
    (.shellCompleted reached.1.state.attempt (.pendingUploads hasPending))) after), [], ?_, state⟩
  exact Process.watching_step.mpr ⟨stepped, rfl⟩

/-- A sign-out is what the open dialog confirms, and the dialog shows what a check answered for
the wallets it ends. -/
theorem Sound.warned (sound : Sound reached)
    {move : Move Event} {after : Served Model Request × Books} {output : List (Request × Nat)}
    (keeps : keeping move reached = true)
    (stepped : session.step move reached = some (after, output))
    (signedIn : reached.1.state.phase ≠ .signedOut) (out : after.1.state.phase = .signedOut) :
    move = .arrives .signOutConfirmed ∧
      ∃ warning wallets, reached.1.state.signOutWarning = some warning ∧
        (warning, wallets) ∈ reached.2.answers ∧
        SameWallets wallets reached.1.state.wallets := by
  have turn := sound.guarded.turn stepped
  obtain ⟨rest, serves, _, _, _⟩ := session_step stepped
  have accepted := serves.accepted
  generalize reached.1.outstanding = entries at accepted
  generalize event : move.event = taken at turn
  have other : ∀ {phase : Phase}, after.1.state.phase = phase → phase = .signedOut := by
    intro phase same
    rw [← same, out]
  cases turn with
  | quiet calm | moved calm | removed _ _ calm =>
    exact absurd (calm.phase.symm.trans out) signedIn
  | booted _ phase | restored _ phase | emptied _ phase => cases other phase
  | established _ phase =>
    have out := other phase
    split at out <;> cases out
  | removedLast small =>
    rw [keeping, event] at keeps
    obtain ⟨more, _⟩ := keeps_remove keeps small
    omega
  | asked active _ _ next | answered active _ next | unanswered active _ next | dismissed next =>
    rw [next] at out
    exact absurd out signedIn
  | confirmed opened =>
    obtain ⟨wallets, answered, same⟩ := sound.guarded.dialog _ opened
    refine ⟨?_, _, wallets, opened, answered, same⟩
    cases accepted with
    | arrives => exact congrArg Move.arrives event
    | answers answers =>
      rw [Move.event] at event
      subst event
      cases answers_internal answers

/-- What was asked for before accounts were last handed over, or ended, changes none of them. -/
theorem Sound.superseded (sound : Sound reached) {after : Served Model Request × Books}
    {output : List (Request × Nat)} (early : number < reached.2.sealedAt)
    (stepped : session.step (.answers number event) reached = some (after, output)) :
    after.1.state.accounts = reached.1.state.accounts ∧
      after.1.state.activeIndex = reached.1.state.activeIndex := by
  obtain ⟨rest, serves, state, _, _⟩ := session_step stepped
  have accepted := serves.accepted
  rw [state]
  generalize outstanding : reached.1.outstanding = entries at accepted
  cases accepted with
  | @answers _ request _ late earlier answers =>
    obtain ⟨asker, operation⟩ := request
    have member : ((⟨asker, operation⟩ : Request), number) ∈ reached.1.outstanding := by
      rw [outstanding]
      simp
    cases event with
    | shellCompleted attempt =>
      cases asker with
      | watch => cases answers
      | attempt asked =>
        simp only [Bool.and_eq_true, beq_iff_eq] at answers
        have stale := sound.guarded.superseded _ member early asked rfl
        have differs : attempt ≠ reached.1.state.attempt := by
          rw [← answers.1]
          exact Nat.ne_of_lt stale
        simp [update, Move.event, differs]
    | watchCompleted _ result =>
      simp only [update, Move.event]
      split
      · exact ⟨rfl, rfl⟩
      · obtain ⟨_, accounts, activeIndex, _⟩ := acceptWatch_calm result reached.1.state
        exact ⟨accounts, activeIndex⟩
    | _ => cases asker <;> cases answers

/-- Signing out as it is meant to be, where a run has reached and on every allowed move from
there. -/
structure SignsOutSafely (allowed : Move Event → Served Model Request × Books → Bool)
    (reached : Served Model Request × Books) : Prop where
  /-- An active session has an account at its position, and no wallet twice. -/
  active : reached.1.state.phase = .active →
    reached.1.state.activeIndex < reached.1.state.accounts.length ∧
      reached.1.state.wallets.Nodup
  /-- An upload check in flight is unanswered, and its answer will be taken. -/
  settles : reached.1.state.checkingUploads = true →
    ∃ number, (reached.1.state.check, number) ∈ reached.1.outstanding ∧
      ∀ hasPending, ∃ after output,
        session.step (.answers number
          (.shellCompleted reached.1.state.attempt (.pendingUploads hasPending))) reached =
            some (after, output) ∧
        after.1.state = { reached.1.state with
          checkingUploads := false, signOutWarning := some hasPending }
  /-- Signing out confirms a dialog whose warning a check answered for the wallets it ends. -/
  warned : ∀ {move : Move Event} {after : Served Model Request × Books}
    {output : List (Request × Nat)}, allowed move reached = true →
    session.step move reached = some (after, output) →
    reached.1.state.phase ≠ .signedOut → after.1.state.phase = .signedOut →
    move = .arrives .signOutConfirmed ∧
      ∃ warning wallets, reached.1.state.signOutWarning = some warning ∧
        (warning, wallets) ∈ reached.2.answers ∧
        SameWallets wallets reached.1.state.wallets
  /-- An answer asked for before accounts were last handed over, or ended, changes none. -/
  superseded : ∀ {number : Nat} {event : Event} {after : Served Model Request × Books}
    {output : List (Request × Nat)}, number < reached.2.sealedAt →
    session.step (.answers number event) reached = some (after, output) →
    after.1.state.accounts = reached.1.state.accounts ∧
      after.1.state.activeIndex = reached.1.state.activeIndex
  /-- An outbox record is dropped on the landing of its own task, asked by the current watch. -/
  removes : ∀ {move : Move Event} {after : Served Model Request × Books}
    {output : List (Request × Nat)} {asker : Asker} {credentialId : String} {number : Nat},
    session.step move reached = some (after, output) →
    ((⟨asker, .removePendingUpload credentialId⟩ : Request), number) ∈ output →
    ∃ asked taskId record,
      move = .answers asked (.watchCompleted reached.1.state.watch .registryLanded) ∧
      ((⟨.watch reached.1.state.watch, .awaitRegistryLanding taskId⟩ : Request), asked) ∈
        reached.1.outstanding ∧
      some record ∈ reached.2.records ∧ record.id = credentialId ∧
      record.members.length ≤ 1 ∧ record.taskId = some taskId

omit [AddressRuntime] in
theorem awaitsLanding_some {record : PendingUpload} {taskId : String}
    (waits : record.awaitsLanding = some taskId) :
    record.members.length ≤ 1 ∧ record.taskId = some taskId := by
  unfold PendingUpload.awaitsLanding at waits
  split at waits
  · cases waits
  · next single =>
      exact ⟨Nat.le_of_not_lt single, Option.eq_some_of_filter_eq_some waits⟩

/-- While no account is removed or handed over between an upload check and the sign-out it was
for, nobody is signed out unwarned and signing out never blocks. -/
theorem signs_out_safely {history : List (Move Event × List (Request × Nat))}
    {reached : Served Model Request × Books} (run : session.Run keeping history reached) :
    SignsOutSafely keeping reached := by
  have sound := sound_of_run run
  constructor
  case active =>
    intro active
    obtain ⟨held, nodup⟩ := sound.guarded.orderly.active active
    exact ⟨sound.guarded.orderly.inside held, nodup⟩
  case settles => exact sound.settles
  case warned => exact sound.warned
  case superseded => exact sound.superseded
  case removes =>
    intro move after output asker credentialId number stepped removal
    obtain ⟨asked, taskId, record, answered, outstanding, stored, same, waits⟩ :=
      sound.watched.removal stepped removal
    obtain ⟨single, task⟩ := awaitsLanding_some waits
    exact ⟨asked, taskId, record, answered, outstanding, stored, same, single, task⟩

end Runs

/-- A sign-out whose check found an upload waiting, confirmed. -/
def confirmedMoves : List (Move Event) := [
  .arrives (.accountEstablished (.addAccount (plainAccount "1" "0xA"))), .arrives .signOut,
  .answers 2 (.shellCompleted 2 (.pendingUploads true)), .arrives .signOutConfirmed]

theorem signs_out_safely_confirmed :
    ∃ history reached, (@session noAddresses).Run keeping history reached ∧
      reached.1.state.phase = .signedOut ∧ @SignsOutSafely noAddresses keeping reached := by
  obtain ⟨history, reached, run, out⟩ := @Process.exists_run_of_play _ _ _ (@session noAddresses)
    keeping confirmedMoves (fun reached => reached.2.1.state.phase == .signedOut) (by decide)
  exact ⟨history, reached, run, by simpa using out, @signs_out_safely noAddresses _ _ run⟩

/-- A wallet handed over while the upload check of a sign-out is in flight. -/
def blockedMoves : List (Move Event) := [
  .arrives (.accountEstablished (.addAccount (plainAccount "1" "0xA"))), .arrives .signOut,
  .arrives (.accountEstablished (.addAccount (plainAccount "2" "0xB"))),
  .answers 2 (.shellCompleted 2 (.pendingUploads false))]

def removedMoves : List (Move Event) := [
  .arrives (.accountEstablished (.addAccount (plainAccount "1" "0xA"))), .arrives (.removeAccount 0)]

/-- A wallet handed over during the check leaves the check marked in flight with nothing
outstanding for it; removing the one account signs out with no check answered. -/
theorem sign_out_blocks :
    (∃ history reached, (@session noAddresses).Run Process.unrestricted history reached ∧
      reached.1.state.checkingUploads = true ∧ reached.1.state.phase = .active ∧
      (∀ entry ∈ reached.1.outstanding, entry.1 ≠ reached.1.state.check) ∧
      ¬ @SignsOutSafely noAddresses Process.unrestricted reached) ∧
    ∃ history reached, (@session noAddresses).Run Process.unrestricted history reached ∧
      reached.1.state.phase = .signedOut ∧ reached.2.answers = [] := by
  constructor
  · obtain ⟨history, reached, run, blocked⟩ := @Process.exists_run_of_play _ _ _
      (@session noAddresses) Process.unrestricted blockedMoves
      (fun reached => reached.2.1.state.checkingUploads && reached.2.1.state.phase == .active &&
        reached.2.1.outstanding.all (·.1 != reached.2.1.state.check)) (by decide)
    simp only [Bool.and_eq_true, List.all_eq_true, bne_iff_ne, ne_eq, beq_iff_eq] at blocked
    obtain ⟨⟨checking, active⟩, unasked⟩ := blocked
    refine ⟨history, reached, run, checking, active, unasked, ?_⟩
    intro safely
    obtain ⟨number, outstanding, _⟩ := @SignsOutSafely.settles noAddresses _ _ safely checking
    exact unasked _ outstanding rfl
  · obtain ⟨history, reached, run, out⟩ := @Process.exists_run_of_play _ _ _ (@session noAddresses)
      Process.unrestricted removedMoves
      (fun reached => reached.2.1.state.phase == .signedOut && reached.2.2.answers == [])
      (by decide)
    simp only [Bool.and_eq_true, beq_iff_eq] at out
    exact ⟨history, reached, run, out.1, out.2⟩

end VelaWallet.Session
