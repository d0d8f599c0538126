import VelaWallet.Sign.Session
import VelaWallet.Sign.SubmitSoundness

/-!
# A granted request is signed by the granted account

What puts an account in front and what a pipeline signs from, and the grants that watch
the session: every submit of a request that arrived with the address of an account of the
wallet is from that account, after the switch the request asked for was acknowledged, as
long as neither a list of accounts nor the answer to another switch takes its place.
-/

namespace VelaWallet.SignRequest

open FeePolicy (sameText)
open Json (Value)

variable {arrival : Arrival} {fl : Inflight} {output : List ((Nat × SignOperation) × Nat)}
  {operations : List SignOperation} {number : Nat} {outcome : SignSubmitOutcome}

section Grants

variable {event : Event} {model next : Model} {core : Core}
  {issued : List (Nat × SignOperation)}

def takesSheet [SignRuntime] (model : Model) (arrival : Arrival) : Bool :=
  isSigningMethod arrival.method && (model.settledOutcome arrival.id).isNone &&
    !isExpired arrival && (checkArrival (arriving model) arrival).toOption.isSome

/-- The accounts once the granted one is put in front. -/
def Front.granting (granted : Option String) (front : Front) : Front :=
  let index := signAccountIndex front.accounts front.activeIndex granted
  { front with
    activeIndex := index
    reconciled := index == front.activeIndex }

/-- The switch that puts the granted account in front, when another is. -/
def Front.switches (granted : Option String) (front : Front) : List SignOperation :=
  let index := signAccountIndex front.accounts front.activeIndex granted
  if index = front.activeIndex then [] else [.switchActiveAccount index]

theorem reconcile_front (granted : Option String) (model : Model) :
    (reconcile granted model).1.front = model.front.granting granted ∧
      issuedBy (reconcile granted model).2 = under model.attempt (model.front.switches granted) := by
  unfold reconcile Front.granting Front.switches
  dsimp only [Model.front]
  split
  case isTrue same => simp [done, same]; rfl
  case isFalse other => simp [other]; rfl

/-- What is said to askers alone. -/
def Saying (operations : List SignOperation) : Prop :=
  ∀ operation ∈ operations, operation.answersFor.isSome = true

theorem saying_owed (pending : Option Pending) :
    Saying ((pending.map Pending.owed).getD []) := by
  cases pending with
  | none => simp [Saying]
  | some =>
    intro operation member
    obtain ⟨payload, _, rfl⟩ := Pending.mem_owed member
    rfl

theorem takeSheet_front [SignRuntime] {result : Model × Cmd}
    (took : takeSheet arrival model = .ok result) :
    result.1.front = model.front.granting arrival.grantedAddress ∧
      ∃ said, Saying said ∧
        issuedBy result.2 =
          under model.attempt (said ++ model.front.switches arrival.grantedAddress) := by
  dsimp only [takeSheet] at took
  obtain ⟨replaced, sameCore⟩ := answerReplaced_core model
  have front : (answerReplaced model).1.front = model.front := congrArg Core.front sameCore
  have attempt : (answerReplaced model).1.attempt = model.attempt := congrArg Core.attempt sameCore
  obtain ⟨switched, asked⟩ := reconcile_front arrival.grantedAddress (answerReplaced model).1
  cases judged : judgeArrival (reconcile arrival.grantedAddress (answerReplaced model).1).1
      arrival with
  | error _ =>
    rw [judged] at took
    contradiction
  | ok refusal =>
    rw [judged] at took
    cases took
    have shown : ∀ model, (showRequest arrival refusal model).front = model.front := by
      intro model
      cases refusal <;> rfl
    refine ⟨?_, _, saying_owed model.pending, ?_⟩
    · rw [shown, switched, front]
    · simp only [issuedBy_append, answerReplaced_issued, asked, attempt, front, issuedBy_render,
        issuedBy_nil, List.append_nil]
      simp [under]

/-- What becomes of a request that arrives: it takes the sheet with the granted account in
front, the switch asked for when another was; or nothing of these moves. -/
theorem arrival_cases [SignRuntime]
    (stepped : signing.step (.requestArrived arrival) model = some (next, issued)) :
    (takesSheet model arrival = true ∧ next.front = model.front.granting arrival.grantedAddress ∧
        ∃ said, Saying said ∧
          issued = under model.attempt (said ++ model.front.switches arrival.grantedAddress)) ∨
      (takesSheet model arrival = false ∧ next.front = model.front ∧
        next.pending = model.pending ∧ ∃ said, Saying said ∧ issued = under model.attempt said) := by
  obtain ⟨cmd, updated, rfl⟩ := signing_step.mp stepped
  unfold update at updated
  dsimp only [onRequestArrived] at updated
  split at updated
  case isTrue other =>
    cases updated
    rw [Bool.not_eq_true'] at other
    exact .inr ⟨by simp [takesSheet, other], rfl, rfl, [], by simp [Saying], rfl⟩
  case isFalse signs =>
    have settledSame : (arriving model).settledOutcome arrival.id =
        model.settledOutcome arrival.id := rfl
    split at updated
    case _ settled =>
      cases updated
      rw [settledSame] at settled
      exact .inr ⟨by simp [takesSheet, settled], rfl, rfl, [], by simp [Saying], rfl⟩
    case _ unsettled =>
      rw [settledSame] at unsettled
      split at updated
      case isTrue expired =>
        cases updated
        exact .inr ⟨by simp [takesSheet, expired], rfl, rfl, [], by simp [Saying], rfl⟩
      case isFalse current =>
        split at updated
        case _ refused =>
          cases updated
          refine .inr ⟨by simp [takesSheet, refused, Except.toOption], rfl, rfl, _, ?_,
            issuedBy_opsAndRender _ _⟩
          simp [Saying, respondOp, SignOperation.answersFor]
        case _ passed =>
          obtain ⟨_, _, rfl⟩ := checkArrival_kept passed
          obtain ⟨front, said, saying, issued⟩ := takeSheet_front updated
          refine .inl ⟨?_, front, said, saying, issued⟩
          simp only [Bool.not_eq_true', Bool.not_eq_false] at signs
          simp [takesSheet, signs, unsettled, current, passed, Except.toOption]

def Runs (event : Event) (model : Model) (core : Core) [SignRuntime] : Prop :=
  ∀ fl, core.inflight = some fl →
    (∃ before, model.inflight = some before ∧ before.address = fl.address) ∨
    ∃ opts start pending started, Starts model event opts start pending started ∧
      started.address = fl.address

theorem Runs.kept [SignRuntime] {before : Inflight} (running : model.inflight = some before)
    (ran : core.inflight = some fl) (same : before.address = fl.address) :
    Runs event model core := by
  intro other runs
  obtain rfl := Option.some.inj (ran.symm.trans runs)
  exact .inl ⟨before, running, same⟩

theorem Runs.over [SignRuntime] (idle : core.inflight = none) : Runs event model core := by
  intro fl running
  rw [idle] at running
  contradiction

theorem Runs.same [SignRuntime] (same : core.inflight = model.inflight) :
    Runs event model core :=
  fun fl running => .inl ⟨fl, same.symm.trans running, rfl⟩

theorem Runs.starts [SignRuntime] {opts : SignApproveOpts} {start : Core} {pending : Pending}
    {started fl : Inflight} (starts : Starts model event opts start pending started)
    (ran : core.inflight = some fl) (same : started.address = fl.address) :
    Runs event model core := by
  intro other runs
  obtain rfl := Option.some.inj (ran.symm.trans runs)
  exact .inr ⟨opts, start, pending, started, starts, same⟩

theorem Written.address {after : Inflight} {before : Core}
    (written : Written outcome fl before after core operations) : fl.address = after.address := by
  cases written <;> rfl

theorem Runs.submitted [SignRuntime] {fl after : Inflight} {start : Core}
    {operations : List SignOperation} {outcome : SignSubmitOutcome}
    (submitted : Submitted model event fl start operations outcome)
    (ran : core.inflight = some after) (same : fl.address = after.address) :
    Runs event model core := by
  obtain ⟨_, before, _, _, running, _, written, _⟩ := submitted
  exact .kept running ran (written.address.trans same)

theorem Core.inflight_clearedIf (id : String) (core : Core) :
    (core.clearedIf id).inflight = core.inflight := by
  unfold Core.clearedIf
  split <;> rfl

theorem Runs.stoppedFor [SignRuntime] {id : String} (same : core.inflight = model.inflight) :
    Runs event model (core.stoppedFor id) := by
  rcases Core.stoppedFor_cases id core with kept | stopped
  · rw [kept]
    exact .same same
  · rw [stopped]
    exact .over rfl

theorem Change.runs [SignRuntime] (change : Change event model core issued) :
    Runs event model core := by
  cases change
  case switchCancelled | rejected => exact .stoppedFor rfl
  case tapped tapped => exact .same (by cases tapped <;> rfl)
  case refusedTap takes | startedFailed takes => exact .over takes.inflight
  case started starts _ | startedSubmit starts _ => exact .starts starts rfl rfl
  case sponsoring running _ | submits running _ _ | signed running _
      | submittedAhead running _ _ _ | submittedAfresh running _ | prompted running
      | postCleared running _ _ _ _ => exact .kept running rfl rfl
  case failedShown | failedAnswered | fundingWait | trackedHeld | submitQuiet | submitRefused
      | submitFailedShown | submitFailedAnswered | droppedStopped => exact .over rfl
  case batchAnswered | trackedAnswered | submitGone | submitAnswered | recordAnswered =>
    exact .over (Core.inflight_clearedIf _ _)
  case submitRecorded submitted _ _ | submitUnderfunded submitted =>
    exact .submitted submitted rfl rfl
  case dropped =>
    intro fl running
    obtain ⟨before, ran, rfl⟩ := Option.map_eq_some_iff.mp running
    refine .inl ⟨before, ran, ?_⟩
    unfold Inflight.leftBy
    split <;> rfl
  all_goals exact .same rfl

/-- A request that was not there before came to the sheet as it arrived; and the account in
front is moved by arrivals, lists of accounts and the answers to switches alone. -/
structure Fronts (event : Event) (model : Model) (core : Core) : Prop where
  sheet : core.pending.isSome = true → model.pending.isSome = true
  front : core.front = model.front ∨
    (∃ accounts activeIndex, event = .accountsChanged accounts activeIndex ∧
      core.front = { model.front with accounts, activeIndex }) ∨
    ∃ attempt, event = .shellCompleted attempt .accountSwitched ∧
      core.front = { model.front with reconciled := true }

theorem Fronts.same (sheet : core.pending = model.pending) (front : core.front = model.front) :
    Fronts event model core where
  sheet shown := sheet ▸ shown
  front := .inl front

theorem Fronts.shown {pending : Pending} (shown : model.pending = some pending)
    (front : core.front = model.front) : Fronts event model core where
  sheet _ := by rw [shown]; rfl
  front := .inl front

theorem Fronts.hidden (hidden : core.pending = none) (front : core.front = model.front) :
    Fronts event model core where
  sheet shown := by rw [hidden] at shown; contradiction
  front := .inl front

theorem Fronts.clearedIf {id : String} (fronts : Fronts event model core) :
    Fronts event model (core.clearedIf id) := by
  unfold Core.clearedIf
  split
  · exact { sheet := fun shown => by contradiction, front := fronts.front }
  · exact fronts

theorem Core.front_stoppedFor (id : String) (core : Core) :
    (core.stoppedFor id).front = core.front := by
  unfold Core.stoppedFor
  split <;> rfl

theorem Tapped.front {opts : SignApproveOpts} (tapped : Tapped model event opts core) :
    core.front = model.front := by
  cases tapped <;> rfl

theorem Submitted.front (submitted : Submitted model event fl core operations outcome) :
    core.front = model.front := by
  obtain ⟨_, _, _, _, _, _, written, _⟩ := submitted
  cases written <;> rfl

theorem Change.fronts [SignRuntime] (change : Change event model core issued) :
    (∃ arrival, event = .requestArrived arrival) ∨ Fronts event model core := by
  cases change
  case arrivalShown arrival _ _ _ named _ _ _ =>
    exact .inl ⟨arrival, named⟩
  all_goals right
  case accountsListed accounts activeIndex named =>
    exact { sheet := id, front := .inr (.inl ⟨accounts, activeIndex, named, rfl⟩) }
  case accountSwitched attempt named =>
    exact { sheet := id, front := .inr (.inr ⟨attempt, named, rfl⟩) }
  case switchCancelled | rejected => exact .hidden rfl (Core.front_stoppedFor _ _)
  case tapped tapped => exact .same tapped.pending tapped.front
  case refusedTap takes | startedFailed takes => exact .shown takes.shown takes.tapped.front
  case started starts _ | startedSubmit starts _ =>
    exact .same starts.tapped.pending starts.tapped.front
  case failedShown shown _ _ | trackedHeld shown _ | retried shown _ | simStarted shown _
      | simEnded shown _ => exact .shown shown rfl
  case batchAnswered | trackedAnswered | recordAnswered => exact .clearedIf (.same rfl rfl)
  case submitQuiet submitted | submitRefused submitted _ | submitRecorded submitted _ _
      | submitUnderfunded submitted | submitFailedAnswered submitted _ =>
    exact .same submitted.pending submitted.front
  case submitGone submitted | submitAnswered submitted _ _ =>
    exact .clearedIf (.same submitted.pending submitted.front)
  case submitFailedShown submitted shown _ => exact .shown shown submitted.front
  case dismissed | fundingCancelled => exact .hidden rfl rfl
  case dropped sheet | droppedStopped sheet =>
    rcases sheet with rfl | rfl
    · exact .same rfl rfl
    · exact .hidden rfl rfl
  all_goals exact .same rfl rfl

/-- An operation that puts another account in front. -/
def SignOperation.switches : SignOperation → Bool
  | switchActiveAccount _ => true
  | _ => false

/-- Nothing here switches the account. -/
def Steady (operations : List SignOperation) : Prop :=
  ∀ operation ∈ operations, operation.switches = false

@[simp] theorem steady_nil : Steady [] := by simp [Steady]

@[simp] theorem steady_cons {operation : SignOperation} {rest : List SignOperation} :
    Steady (operation :: rest) ↔ operation.switches = false ∧ Steady rest := by
  simp [Steady]

@[simp] theorem steady_append {first second : List SignOperation} :
    Steady (first ++ second) ↔ Steady first ∧ Steady second := by
  simp only [Steady, List.mem_append, or_imp, forall_and]

theorem Saying.steady (saying : Saying operations) :
    Steady operations := by
  intro operation member
  cases operation
  case switchActiveAccount => exact absurd (saying _ member) nofun
  all_goals rfl

theorem steady_of_onRecords
    (records : ∀ operation ∈ operations, operation.onRecords = true) : Steady operations := by
  intro operation member
  cases operation
  case switchActiveAccount => exact absurd (records _ member) nofun
  all_goals rfl

@[simp] theorem steady_closeFailed (fl : Inflight) : Steady (closeFailed fl) :=
  steady_of_onRecords (closeFailed_onRecords fl)

@[simp] theorem steady_owed (pending : Option Pending) :
    Steady ((pending.map Pending.owed).getD []) := (saying_owed pending).steady

@[simp] theorem steady_switchAnswer (id transportId : Option String)
    (payload : SignResponsePayload) : Steady (switchAnswer id transportId payload) := by
  unfold switchAnswer
  split
  · exact steady_cons.mpr ⟨rfl, steady_nil⟩
  · exact steady_nil

@[simp] theorem steady_withdraw (ahead : Option WriteAhead) :
    Steady ((ahead.map fun wa => [SignOperation.deleteRecord wa.recordId]).getD []) := by
  cases ahead with
  | none => exact steady_nil
  | some => exact steady_cons.mpr ⟨rfl, steady_nil⟩

theorem Submitted.steady (submitted : Submitted model event fl core operations outcome) :
    Steady operations :=
  steady_of_onRecords submitted.onRecords

theorem Change.steady [SignRuntime] (change : Change event model core issued) :
    (∃ arrival, event = .requestArrived arrival) ∨ Steady (issued.map (·.2)) := by
  cases change
  case arrivalShown arrival _ _ _ named _ _ _ =>
    exact .inl ⟨arrival, named⟩
  all_goals right
  case submittedAhead patches =>
    rcases patches with rfl | rfl
    all_goals simp [SignOperation.switches]
  all_goals simp [SignOperation.switches, Inflight.respond, Pending.respond, respondOp,
    Inflight.submit]
  all_goals exact Submitted.steady ‹_›

/-- What a request was granted as it arrived: the address of an account of the wallet, and
the number of the switch it asked for. -/
structure Grant where
  address : String
  switch : Option Nat

/-- The grants of the request on the sheet and of the pipeline, and the numbers of the
operations acknowledged. -/
structure Grants where
  sheet : Option Grant := none
  pipeline : Option Grant := none
  acknowledged : List Nat := []

/-- The number of the switch among the operations handed out. -/
def switchNumber (output : List ((Nat × SignOperation) × Nat)) : Option Nat :=
  (output.find? (·.1.2.switches)).map (·.2)

/-- The grant of an arriving request, when it names an account of the wallet. -/
def grantOf (model : Model) (arrival : Arrival) (output : List ((Nat × SignOperation) × Nat)) :
    Option Grant :=
  arrival.grantedAddress.bind fun granted =>
    if model.accounts.any (sameText ·.address granted) then
      some ⟨granted, switchNumber output⟩
    else none

/-- What a move of the session does to the grants: a request that takes the sheet brings
its own, a pipeline starts with the sheet's, and an answer acknowledges its operation. -/
def Grants.observe [SignRuntime] (grants : Grants) (before : Served Model (Nat × SignOperation))
    (move : Move Event) (_ : Served Model (Nat × SignOperation))
    (output : List ((Nat × SignOperation) × Nat)) : Grants where
  sheet :=
    match move.event with
    | .requestArrived arrival =>
      if takesSheet before.state arrival then grantOf before.state arrival output
      else grants.sheet
    | _ => grants.sheet
  pipeline := if before.state.inflight.isNone then grants.sheet else grants.pipeline
  acknowledged :=
    match move with
    | .answers number _ => number :: grants.acknowledged
    | .arrives _ => grants.acknowledged

@[reducible] def granting [SignRuntime] :=
  session.watching ({} : Grants) Grants.observe

/-- A list of accounts puts the account granted to the request on the sheet in front; the
account granted to an arriving request has a position that fits; and while the request on
the sheet waits for its switch, the answer to a switch is to the last one asked. -/
def keepsGrant [SignRuntime] (move : Move Event)
    (watched : Served Model (Nat × SignOperation) × Grants) : Bool :=
  let model := watched.1.state
  match move, move.event with
  | _, .accountsChanged accounts activeIndex =>
    model.pending.isNone || watched.2.sheet.all fun grant =>
      (accounts[activeIndex.toNat]?).any (sameText ·.address grant.address)
  | _, .requestArrived arrival =>
    arrival.grantedAddress.all fun granted =>
      (model.accounts.findIdx? (sameText ·.address granted)).all (· < 2 ^ 32)
  | .answers number _, .shellCompleted _ .accountSwitched =>
    model.pending.isNone || model.reconciled ||
      watched.1.outstanding.all fun request => !request.1.2.switches || request.2 ≤ number
  | _, _ => true

/-- A submit of the pipeline is from the granted account, after the switch its request
asked for was acknowledged. -/
def Honours (grants : Grants) (operation : SignOperation) : Prop :=
  match operation with
  | .signAndSubmit _ _ _ _ address .. =>
    ∀ grant, grants.pipeline = some grant →
      sameText address grant.address = true ∧
        ∀ number, grant.switch = some number → number ∈ grants.acknowledged
  | _ => True

/-- The switch of the number is out, the last one asked. -/
def LastAsked (number : Nat) (served : Served Model (Nat × SignOperation)) : Prop :=
  served.state.reconciled = false ∧
    (∃ request : Nat × SignOperation, request.2.switches = true ∧
      (request, number) ∈ served.outstanding) ∧
    ∀ request ∈ served.outstanding, request.1.2.switches = true → request.2 ≤ number

/-- The grants hold: the account granted to the request on the sheet is in front, its switch
acknowledged or the last one out; and the pipeline signs from its grant. -/
structure Granted (grants : Grants) (served : Served Model (Nat × SignOperation)) : Prop where
  front : ∀ grant, grants.sheet = some grant → served.state.pending.isSome = true →
    ∃ account, served.state.activeAccount = some account ∧
      sameText account.address grant.address = true
  switch : ∀ grant number, grants.sheet = some grant → grant.switch = some number →
    served.state.pending.isSome = true → number ∈ grants.acknowledged ∨ LastAsked number served
  pipeline : ∀ grant fl, grants.pipeline = some grant → served.state.inflight = some fl →
    sameText fl.address grant.address = true ∧
      ∀ number, grant.switch = some number → number ∈ grants.acknowledged

theorem exists_granted {accounts : List SignAccountRef} {activeIndex : UInt32} {granted : String}
    (known : accounts.any (sameText ·.address granted) = true)
    (fits : (accounts.findIdx? (sameText ·.address granted)).all (· < 2 ^ 32) = true) :
    ∃ account, accounts[(signAccountIndex accounts activeIndex (some granted)).toNat]? =
      some account ∧ sameText account.address granted = true := by
  rw [← List.findIdx?_isSome, Option.isSome_iff_exists] at known
  obtain ⟨index, found⟩ := known
  rw [found, Option.all_some, decide_eq_true_eq] at fits
  have at_index : signAccountIndex accounts activeIndex (some granted) = UInt32.ofNat index := by
    simp only [signAccountIndex, found, if_pos fits]
  obtain ⟨inside, names, _⟩ := List.findIdx?_eq_some_iff_getElem.mp found
  refine ⟨accounts[index], ?_, names⟩
  rw [at_index, UInt32.toNat_ofNat_of_lt' fits]
  exact List.getElem?_eq_getElem inside

namespace Granted

variable [SignRuntime] {grants : Grants} {move : Move Event}
  {before after : Served Model (Nat × SignOperation)} {rest : List ((Nat × SignOperation) × Nat)}

theorem acknowledged_of (grants : Grants) (output : List ((Nat × SignOperation) × Nat))
    (member : number ∈ grants.acknowledged) :
    number ∈ (grants.observe before move after output).acknowledged := by
  unfold Grants.observe
  cases move with
  | arrives => exact member
  | answers => exact List.mem_cons_of_mem _ member

theorem pipeline_next (granted : Granted grants before) {grant : Grant}
    (serves : Process.Serves signing signShell move before after rest issued)
    (running : after.state.inflight = some fl)
    (under_ : (grants.observe before move after output).pipeline = some grant) :
    sameText fl.address grant.address = true ∧
      ∀ number, grant.switch = some number →
        number ∈ (grants.observe before move after output).acknowledged := by
  have acknowledges : sameText fl.address grant.address = true ∧
      (∀ number, grant.switch = some number → number ∈ grants.acknowledged) := by
    rcases (signing_change serves.stepped).runs fl running with
      ⟨was, ran, same⟩ | ⟨opts, start, pending, started, starts, same⟩
    · have kept : (grants.observe before move after output).pipeline = grants.pipeline := by
        simp [Grants.observe, ran]
      rw [kept] at under_
      rw [← same]
      exact granted.pipeline grant was under_ ran
    · have idle : before.state.inflight = none := starts.free
      have sheet : (grants.observe before move after output).pipeline = grants.sheet := by
        simp [Grants.observe, idle]
      rw [sheet] at under_
      have shown : before.state.pending.isSome = true := by
        rw [starts.shown]
        rfl
      constructor
      · obtain ⟨signer, chainId, params, inFront, _, rfl⟩ := starts.captured
        obtain ⟨account, front, names⟩ := granted.front grant under_ shown
        obtain rfl := Option.some.inj (inFront.symm.trans front)
        rw [← same]
        exact names
      · intro number asked
        rcases granted.switch grant number under_ asked shown with acknowledged | waits
        · exact acknowledged
        · have reconciled := starts.reconciled
          rw [waits.1] at reconciled
          contradiction
  exact ⟨acknowledges.1, fun number asked => acknowledged_of grants output
    (acknowledges.2 number asked)⟩

theorem front_next (granted : Granted grants before) (keeps : keepsGrant move (before, grants) = true)
    {grant : Grant}
    (serves : Process.Serves signing signShell move before after rest issued)
    (sheet : (grants.observe before move after output).sheet = some grant)
    (shown : after.state.pending.isSome = true) :
    ∃ account, after.state.activeAccount = some account ∧
      sameText account.address grant.address = true := by
  by_cases arrives : ∃ arrival, move.event = .requestArrived arrival
  case pos =>
    obtain ⟨arrival, named⟩ := arrives
    have stepped := serves.stepped
    rw [named] at stepped
    simp only [Grants.observe, named] at sheet
    rcases arrival_cases stepped with ⟨takes, front, _⟩ | ⟨stays, front, same, _⟩
    · rw [if_pos takes] at sheet
      obtain ⟨address, asked, known⟩ := Option.bind_eq_some_iff.mp sheet
      split at known
      case isFalse => contradiction
      case isTrue listed =>
        cases known
        have fits : (before.state.accounts.findIdx? (sameText ·.address address)).all
            (· < 2 ^ 32) = true := by
          simpa [keepsGrant, named, asked] using keeps
        have activeAccount : after.state.activeAccount =
            before.state.accounts[(signAccountIndex before.state.accounts
              before.state.activeIndex (some address)).toNat]? := by
          have inFront : after.state.activeAccount =
            after.state.front.accounts[after.state.front.activeIndex.toNat]? := rfl
          rw [inFront, front, asked]
          rfl
        rw [activeAccount]
        exact exists_granted listed fits
    · rw [if_neg (by simp [stays])] at sheet
      rw [same] at shown
      have inFront : after.state.activeAccount = before.state.activeAccount :=
        congrArg (fun front : Front => front.accounts[front.activeIndex.toNat]?) front
      rw [inFront]
      exact granted.front grant sheet shown
  case neg =>
    have kept : (grants.observe before move after output).sheet = grants.sheet := by
      unfold Grants.observe
      split
      case _ arrival named => exact absurd ⟨arrival, named⟩ arrives
      case _ => rfl
    rw [kept] at sheet
    have fronts : Fronts move.event before.state after.state.core := by
      rcases (signing_change serves.stepped).fronts with named | fronts
      · exact absurd named arrives
      · exact fronts
    have was := granted.front grant sheet (fronts.sheet shown)
    rcases fronts.front with same | ⟨accounts, activeIndex, named, listed⟩ | ⟨_, _, switched⟩
    · have inFront : after.state.activeAccount = before.state.activeAccount :=
        congrArg (fun front : Front => front.accounts[front.activeIndex.toNat]?) same
      rw [inFront]
      exact was
    · have inFront : after.state.activeAccount = accounts[activeIndex.toNat]? :=
        congrArg (fun front : Front => front.accounts[front.activeIndex.toNat]?) listed
      have names : (accounts[activeIndex.toNat]?).any (sameText ·.address grant.address) =
          true := by
        have hidden : before.state.pending.isNone = false := by
          have wasShown : before.state.pending.isSome = true := fronts.sheet shown
          rw [← Option.not_isSome, wasShown]
          rfl
        cases move <;> simpa [keepsGrant, named, hidden, sheet] using keeps
      rw [inFront]
      obtain ⟨account, found, same⟩ := Option.any_eq_true _ _ |>.mp names
      exact ⟨account, found, same⟩
    · have inFront : after.state.activeAccount = before.state.activeAccount :=
        congrArg (fun front : Front => front.accounts[front.activeIndex.toNat]?) switched
      rw [inFront]
      exact was

/-- A switch that is out stays the last one while no other is asked, unless it is
answered. -/
theorem waits_next (waits : LastAsked number before) (steady : Steady (issued.map (·.2)))
    (serves : Process.Serves signing signShell move before after rest issued)
    (front : after.state.reconciled = false) :
    number ∈ (grants.observe before move after output).acknowledged ∨ LastAsked number after := by
  obtain ⟨_, ⟨request, switches, member⟩, last⟩ := waits
  rcases serves.accepted.stays member with ⟨event, named, _⟩ | stays
  · left
    subst named
    exact List.mem_cons_self
  · refine .inr ⟨front, ⟨request, switches, ?_⟩, ?_⟩
    · rw [serves.outstanding]
      exact List.mem_append_left _ stays
    · intro other out switching
      rw [serves.outstanding, List.mem_append] at out
      rcases out with old | new
      · exact last other (serves.accepted.sublist.subset old) switching
      · have asked := steady other.1.2
          (List.mem_map_of_mem (List.fst_mem_of_mem_zipIdx new))
        rw [asked] at switching
        contradiction

theorem waits_asked {said : List SignOperation}
    (numbered : Process.Numbered before) (saying : Saying said)
    (serves : Process.Serves signing signShell move before after rest issued)
    (front : after.state.front = before.state.front.granting arrival.grantedAddress)
    (issues : issued = under before.state.attempt
      (said ++ before.state.front.switches arrival.grantedAddress))
    (asked : switchNumber (issued.zipIdx before.issued) = some number) : LastAsked number after := by
  obtain ⟨found, foundAt, rfl⟩ := Option.map_eq_some_iff.mp asked
  have switching : found.1.2.switches = true := by simpa using List.find?_some foundAt
  have member := List.mem_of_find?_eq_some foundAt
  have other : ¬ signAccountIndex before.state.front.accounts before.state.front.activeIndex
      arrival.grantedAddress = before.state.front.activeIndex := by
    intro same
    have none_asked : Steady (issued.map (·.2)) := by
      rw [issues, Front.switches, if_pos same, List.append_nil, map_snd_under]
      exact saying.steady
    rw [none_asked found.1.2 (List.mem_map_of_mem (List.fst_mem_of_mem_zipIdx member))]
      at switching
    contradiction
  rw [Front.switches, if_neg other, under, List.map_append] at issues
  have last : found.2 = before.issued + said.length := by
    have silent : ((said.map (before.state.attempt, ·)).zipIdx before.issued).find?
        (·.1.2.switches) = none := by
      rw [List.find?_eq_none]
      intro entry entryMember switches
      obtain ⟨operation, operationMember, same⟩ :=
        List.mem_map.mp (List.fst_mem_of_mem_zipIdx entryMember)
      rw [← same, saying.steady operation operationMember] at switches
      contradiction
    rw [issues, List.zipIdx_append, List.find?_append, silent] at foundAt
    simp only [List.map_cons, List.map_nil, List.zipIdx_cons, List.zipIdx_nil, List.length_map,
      Option.none_or, List.find?_cons, SignOperation.switches] at foundAt
    rw [← Option.some.inj foundAt, Nat.add_comm]
  refine ⟨?_, ⟨found.1, switching, ?_⟩, ?_⟩
  · have reconciled := congrArg Front.reconciled front
    rw [show after.state.front.reconciled = after.state.reconciled from rfl] at reconciled
    rw [reconciled]
    exact beq_eq_false_iff_ne.mpr other
  · rw [serves.outstanding]
    exact List.mem_append_right _ member
  · intro request out _
    rw [serves.outstanding, List.mem_append] at out
    rcases out with old | new
    · have given := numbered.given request (serves.accepted.sublist.subset old)
      exact Nat.le_trans given.le (last ▸ Nat.le_add_right _ _)
    · have made := List.snd_lt_add_of_mem_zipIdx new
      rw [issues] at made
      simp only [List.length_append, List.length_map, List.length_singleton] at made
      rw [last]
      exact Nat.le_of_lt_succ made

theorem switch_next (granted : Granted grants before) (numbered : Process.Numbered before)
    (keeps : keepsGrant move (before, grants) = true) {grant : Grant}
    (serves : Process.Serves signing signShell move before after rest issued)
    (sheet : (grants.observe before move after (issued.zipIdx before.issued)).sheet = some grant)
    (asked : grant.switch = some number) (shown : after.state.pending.isSome = true) :
    number ∈ (grants.observe before move after (issued.zipIdx before.issued)).acknowledged ∨
      LastAsked number after := by
  by_cases arrives : ∃ arrival, move.event = .requestArrived arrival
  case pos =>
    obtain ⟨arrival, named⟩ := arrives
    have stepped := serves.stepped
    rw [named] at stepped
    simp only [Grants.observe, named] at sheet
    rcases arrival_cases stepped with
      ⟨takes, front, said, saying, issues⟩ | ⟨stays, front, same, said, saying, issues⟩
    · rw [if_pos takes] at sheet
      obtain ⟨address, _, known⟩ := Option.bind_eq_some_iff.mp sheet
      split at known
      case isFalse => contradiction
      case isTrue =>
        cases known
        exact .inr (waits_asked numbered saying serves front issues asked)
    · rw [if_neg (by simp [stays])] at sheet
      rw [same] at shown
      rcases granted.switch grant number sheet asked shown with acknowledged | waits
      · exact .inl (acknowledged_of grants _ acknowledged)
      · apply waits_next waits _ serves
        · exact (congrArg Front.reconciled front).trans waits.1
        · rw [issues, map_snd_under]
          exact saying.steady
  case neg =>
    have kept : (grants.observe before move after (issued.zipIdx before.issued)).sheet =
        grants.sheet := by
      unfold Grants.observe
      split
      case _ arrival named => exact absurd ⟨arrival, named⟩ arrives
      case _ => rfl
    rw [kept] at sheet
    have steady : Steady (issued.map (·.2)) := by
      rcases (signing_change serves.stepped).steady with named | steady
      · exact absurd named arrives
      · exact steady
    have fronts : Fronts move.event before.state after.state.core := by
      rcases (signing_change serves.stepped).fronts with named | fronts
      · exact absurd named arrives
      · exact fronts
    have wasShown : before.state.pending.isSome = true := fronts.sheet shown
    rcases granted.switch grant number sheet asked wasShown with acknowledged | waits
    · exact .inl (acknowledged_of grants _ acknowledged)
    · rcases fronts.front with same | ⟨_, _, _, listed⟩ | ⟨attempt, named, _⟩
      · exact waits_next waits steady serves ((congrArg Front.reconciled same).trans waits.1)
      · exact waits_next waits steady serves ((congrArg Front.reconciled listed).trans waits.1)
      · -- the answer to a switch is to the last one asked, the request's own
        left
        have hidden : before.state.pending.isNone = false := by
          rw [← Option.not_isSome, wasShown]
          rfl
        have accepted := serves.accepted
        generalize out : before.outstanding = outstanding at accepted
        cases accepted with
        | arrives =>
          rw [show (Move.arrives _).event = _ from rfl] at named
          subst named
          contradiction
        | @answers event request answered first last answers =>
          rw [show (Move.answers _ _).event = _ from rfl] at named
          subst named
          simp only [Bool.and_eq_true] at answers
          have switches : request.2.switches = true := by
            cases operation : request.2 <;> rw [operation] at answers <;>
              first | rfl | exact absurd answers.2 nofun
          obtain ⟨unreconciled, ⟨own, ownSwitches, member⟩, lastAsked⟩ := waits
          have newest := lastAsked (request, answered) (by simp [out]) switches
          have fits : number ≤ answered := by
            simp only [keepsGrant, Move.event, hidden, unreconciled, Bool.false_or,
              List.all_eq_true] at keeps
            simpa [ownSwitches] using keeps (own, number) member
          rw [Nat.le_antisymm fits newest]
          exact List.mem_cons_self

theorem step (granted : Granted grants before) (numbered : Process.Numbered before)
    (keeps : keepsGrant move (before, grants) = true)
    (serves : Process.Serves signing signShell move before after rest issued) :
    Granted (grants.observe before move after (issued.zipIdx before.issued)) after where
  front _ := granted.front_next keeps serves
  switch _ _ sheet asked := granted.switch_next numbered keeps serves sheet asked
  pipeline _ _ under_ running := granted.pipeline_next serves running under_

end Granted

theorem granted_of_run [SignRuntime]
    {history : List (Move Event × List ((Nat × SignOperation) × Nat))}
    {watched : Served Model (Nat × SignOperation) × Grants}
    (run : granting.Run keepsGrant history watched) :
    Process.Numbered watched.1 ∧ Granted watched.2 watched.1 := by
  apply run.state_invariant fun watched => Process.Numbered watched.1 ∧ Granted watched.2 watched.1
  · refine ⟨@Process.Numbered.init _ _ _ signing signShell, ?_, ?_, ?_⟩
    all_goals
      intros
      contradiction
  · intro move before after output keeps stepped held
    obtain ⟨stepped, observed⟩ := Process.watching_step.mp stepped
    obtain ⟨rest, issued, serves, rfl⟩ := Process.served_step stepped
    rw [observed]
    exact ⟨serves.numbered held.1, held.2.step held.1 keeps serves⟩

/-- In every run a submit of a request granted to an account of the wallet is from that
account, after the switch the request asked for was acknowledged, as long as every move
keeps the grant. -/
theorem grant_honoured [SignRuntime]
    {history : List (Move Event × List ((Nat × SignOperation) × Nat))}
    {watched next : Served Model (Nat × SignOperation) × Grants} {move : Move Event}
    {output : List ((Nat × SignOperation) × Nat)}
    (run : granting.Run keepsGrant history watched) (keeps : keepsGrant move watched = true)
    (stepped : granting.step move watched = some (next, output)) :
    ∀ entry ∈ output, Honours next.2 entry.1.2 := by
  have granted : Granted next.2 next.1 := (granted_of_run (run.step keeps stepped)).2
  obtain ⟨stepped, observed⟩ := Process.watching_step.mp stepped
  obtain ⟨rest, issued, serves, rfl⟩ := Process.served_step stepped
  intro entry member
  have handed : entry.1.2 ∈ issued.map (·.2) :=
    List.mem_map_of_mem (List.fst_mem_of_mem_zipIdx member)
  rcases (signing_change serves.stepped).submits_cases with quiet | ⟨fl, rfl, _, submits⟩
  · have unsubmitting := quiet entry.1.2 handed
    unfold Honours
    split
    case _ operation => rw [operation] at unsubmitting; contradiction
    case _ => trivial
  · rw [map_snd_under, List.mem_singleton] at handed
    rw [handed]
    intro grant under_
    have running : next.1.state.inflight = some { fl with stage := .submitting } := by
      generalize core : next.1.state.core = after at submits
      have ran : next.1.state.inflight = after.inflight := congrArg Core.inflight core
      rw [ran]
      cases submits <;> rfl
    have honest := granted.pipeline grant { fl with stage := .submitting } under_ running
    exact honest

end Grants

@[reducible] def grantRuntime : SignRuntime := sampleRuntime [("[]", .array [])]

/-- The request for a message's signature by the other account. -/
def grantedMessage : Arrival :=
  { sampleArrival "1" "[]" with
    method := "personal_sign"
    grantedAddress := some sampleOther.address }

/-- The owner is in front as the request arrives and asks for the switch; the accounts are
listed with `front` in front, the switch is acknowledged, and the request approved. -/
def listedWith (front : UInt32) : List (Move Event) :=
  [.arrives (.accountsChanged [sampleOwner, sampleOther] 0),
    .arrives (.requestArrived grantedMessage),
    .arrives (.accountsChanged [sampleOwner, sampleOther] front),
    .answers 0 (.shellCompleted 0 .accountSwitched)]

/-- Some submit of the tap that follows is not honoured. -/
def dishonours (grants : Grants) (operation : SignOperation) : Bool :=
  match operation with
  | .signAndSubmit _ _ _ _ address .. =>
    grants.pipeline.any fun grant => !sameText address grant.address
  | _ => false

theorem not_honours {grants : Grants} {operation : SignOperation}
    (dishonoured : dishonours grants operation = true) : ¬ Honours grants operation := by
  unfold dishonours at dishonoured
  split at dishonoured
  case _ =>
    intro honours
    obtain ⟨grant, under_, other⟩ := Option.any_eq_true _ _ |>.mp dishonoured
    rw [(honours grant under_).1] at other
    contradiction
  case _ => contradiction

theorem staleList_dishonoured : ∃ history watched next output,
    (@granting grantRuntime).Run Process.unrestricted history watched ∧
      (@granting grantRuntime).step (.arrives (.approveTapped {})) watched = some (next, output) ∧
      ∃ entry ∈ output, ¬ Honours next.2 entry.1.2 := by
  have played : ((@granting grantRuntime).play Process.unrestricted (listedWith 0)).any
      (fun reached =>
        ((@granting grantRuntime).step (.arrives (.approveTapped {})) reached.2).any
          fun result => result.2.any fun entry => dishonours result.1.2 entry.1.2) = true := by
    decide +kernel
  obtain ⟨history, watched, run, passed⟩ := Process.exists_run_of_play played
  obtain ⟨⟨next, output⟩, stepped, dishonoured⟩ := Option.any_eq_true _ _ |>.mp passed
  obtain ⟨entry, member, other⟩ := List.any_eq_true.mp dishonoured
  exact ⟨history, watched, next, output, run, stepped, entry, member, not_honours other⟩

theorem keptList_honoured : ∃ history watched next output,
    (@granting grantRuntime).Run (@keepsGrant grantRuntime) history watched ∧
      (@granting grantRuntime).step (.arrives (.approveTapped {})) watched = some (next, output) ∧
      output.any (·.1.2.submitsFor.isSome) = true ∧
      ∀ entry ∈ output, Honours next.2 entry.1.2 := by
  have played : ((@granting grantRuntime).play (@keepsGrant grantRuntime) (listedWith 1)).any
      (fun reached =>
        ((@granting grantRuntime).step (.arrives (.approveTapped {})) reached.2).any
          fun result => result.2.any (·.1.2.submitsFor.isSome)) = true := by
    decide +kernel
  obtain ⟨history, watched, run, passed⟩ := Process.exists_run_of_play played
  obtain ⟨⟨next, output⟩, stepped, submits⟩ := Option.any_eq_true _ _ |>.mp passed
  have keeps : @keepsGrant grantRuntime (.arrives (.approveTapped {})) watched = true := rfl
  exact ⟨history, watched, next, output, run, stepped, submits,
    @grant_honoured grantRuntime history watched next (.arrives (.approveTapped {})) output run
      keeps stepped⟩

end VelaWallet.SignRequest
