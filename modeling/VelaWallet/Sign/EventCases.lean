import VelaWallet.Sign.Changes

/-!
# Every event is one of the changes

Each update of the signing machine, read as what it does to the requests and what it
hands out.
-/

namespace VelaWallet.SignRequest

open Json (fromStr)
open SelfCallGuard (enforceNoSelfCall)

variable {admitted arrival : Arrival} {nowMs : Float} {fl : Inflight}
  {operations : List SignOperation} {model next : Model} {result : Model × Cmd}
  {opts : SignApproveOpts} {payload : SignResponsePayload} {raw : SignSubmitOutcome}
  {detail : Option String} {kind : SignErrorKind} {userOpHash : String} {code : Int} {core : Core}

/-! ## Commands and projections -/

@[simp] theorem issuedBy_append (first second : Cmd) :
    issuedBy (first ++ second) = issuedBy first ++ issuedBy second := by simp [issuedBy]

@[simp] theorem issuedBy_nil : issuedBy [] = [] := rfl

@[simp] theorem issuedBy_render (rest : Cmd) : issuedBy (.render :: rest) = issuedBy rest := rfl

section

variable (model : Model)

@[simp] theorem issuedBy_requestOp (operation : SignOperation) (rest : Cmd) :
    issuedBy (requestOp model operation :: rest) =
      (model.attempt, operation) :: issuedBy rest := rfl

@[simp] theorem issuedBy_map_requestOp (operations : List SignOperation) :
    issuedBy (operations.map (requestOp model)) = under model.attempt operations := by
  induction operations with
  | nil => rfl
  | cons _ _ ih => simpa [under] using ih

@[simp] theorem done_fst : (done model).1 = model := rfl

@[simp] theorem done_snd : (done model).2 = [] := rfl

@[simp] theorem render_fst : (render model).1 = model := rfl

@[simp] theorem render_snd : (render model).2 = [.render] := rfl

@[simp] theorem opsAndRender_fst (operations : List SignOperation) :
    (opsAndRender operations model).1 = model := rfl

@[simp] theorem issuedBy_opsAndRender (operations : List SignOperation) :
    issuedBy (opsAndRender operations model).2 = under model.attempt operations := by
  simp [opsAndRender]

@[simp] theorem request_fst (operation : SignOperation) :
    (request operation model).1 = model := rfl

@[simp] theorem issuedBy_request (operation : SignOperation) :
    issuedBy (request operation model).2 = under model.attempt [operation] := by
  simp [request, under]

end

namespace Model

section

variable (model : Model)

@[simp] theorem core_clearSheet : model.clearSheet.core = model.core.cleared := rfl

@[simp] theorem core_errorCleared : model.errorCleared.core = model.core := rfl

@[simp] theorem core_withError (kind : SignErrorKind) (detail : Option String) :
    (model.withError kind detail).core = model.core := rfl

@[simp] theorem core_settle (id : String) (outcome : SignSettledOutcome) :
    (model.settle id outcome).core = model.core.settle id outcome := rfl

@[simp] theorem core_clearIfShown (id : String) :
    (model.clearIfShown id).core = model.core.clearedIf id := by
  unfold clearIfShown Core.clearedIf Model.shows
  split
  case isTrue shown => rw [core_clearSheet, if_pos (by exact shown)]
  case isFalse hidden => rw [if_neg (by exact hidden)]

theorem attempt_clearIfShown (id : String) :
    (model.clearIfShown id).attempt = model.attempt := by
  unfold clearIfShown
  split <;> rfl

end

theorem shows_iff {id : String} :
    model.shows id = true ↔ ∃ pending, model.pending = some pending ∧ pending.id = id := by
  simp [shows, Option.any_eq_true]

theorem shows_eq_false {id : String} :
    model.shows id = false ↔ ∀ pending, model.pending = some pending → pending.id ≠ id := by
  rw [← Bool.not_eq_true, shows_iff]
  simp

end Model

abbrev Does [SignRuntime] (event : Event) (model : Model) (result : Model × Cmd) : Prop :=
  Change event model result.1.core (issuedBy result.2)

theorem does_ops [SignRuntime] {event : Event}
    (change : Change event model next.core (under next.attempt operations)) :
    Does event model (opsAndRender operations next) := by
  unfold Does
  rw [issuedBy_opsAndRender]
  exact change

section Cases

variable {event : Event} {model : Model}

theorem answerHeld_owed (model : Model) :
    (answerHeld model).2.toList = (model.pending.map Pending.owed).getD [] := by
  unfold answerHeld
  cases shown : model.pending with
  | none => rfl
  | some pending => cases held : pending.held <;> simp [Pending.owed, held]

theorem answerHeld_core (model : Model) :
    (answerHeld model).1.core = { model.core with pending := (answerHeld model).1.pending } := by
  unfold answerHeld
  split
  · rfl
  · split <;> rfl

theorem answerHeld_of_held {pending : Pending}
    (shown : model.pending = some pending) (held : pending.held = some payload) :
    answerHeld model =
      ({ model with pending := some pending.answered }, some (pending.respond payload)) := by
  simp only [answerHeld, shown, held, Pending.respond, Pending.answered]

theorem answerHeld_of_unheld {pending : Pending} (shown : model.pending = some pending)
    (unheld : pending.held = none) : answerHeld model = (model, none) := by
  simp only [answerHeld, shown, unheld]

theorem answerReplaced_core (model : Model) : ∃ pending,
    (answerReplaced model).1.core = { model.core with pending } := by
  refine ⟨(answerHeld model).1.pending, ?_⟩
  rw [← answerHeld_core]
  unfold answerReplaced
  split <;> simp_all

theorem answerReplaced_issued (model : Model) :
    issuedBy (answerReplaced model).2 =
      under model.attempt ((model.pending.map Pending.owed).getD []) := by
  rw [← answerHeld_owed]
  have attempt := congrArg Core.attempt (answerHeld_core model)
  unfold answerReplaced
  split
  case _ same =>
    simp only [same] at attempt ⊢
    simp only [Model.core] at attempt
    simp [under, attempt]
  case _ same => simp [same, under]

theorem reconcile_core (granted : Option String) (model : Model) :
    ∃ front, (reconcile granted model).1.core = { model.core with front } := by
  dsimp only [reconcile]
  split
  · exact ⟨_, rfl⟩
  · exact ⟨_, rfl⟩

theorem reconcile_issued (granted : Option String) (model : Model) :
    ∃ switches, issuedBy (reconcile granted model).2 = under model.attempt switches ∧
      (switches = [] ∨ ∃ index, switches = [.switchActiveAccount index]) := by
  dsimp only [reconcile]
  split
  · exact ⟨[], rfl, .inl rfl⟩
  · exact ⟨[_], rfl, .inr ⟨_, rfl⟩⟩

@[simp] theorem showRequest_core (arrival : Arrival)
    (refusal : Option SelfCallGuard.SelfCallBlock) (model : Model) :
    (showRequest arrival refusal model).core =
      { model.core with pending := some arrival.pending } := by
  cases refusal <;> rfl

theorem checkArrival_kept [SignRuntime] {globalChain : Option UInt32}
    (passed : checkArrival model arrival = .ok (admitted, globalChain)) :
    ∃ paramsJson requestedAddress,
      admitted = { arrival with paramsJson, requestedAddress } := by
  unfold checkArrival at passed
  obtain ⟨typed, readTyped, passed⟩ := Fallible.bind_ok.mp passed
  obtain ⟨read, readValue, passed⟩ := Fallible.bind_ok.mp passed
  have typedKept : ∃ paramsJson requestedAddress,
      typed = { arrival with paramsJson, requestedAddress } := by
    unfold readTypedData at readTyped
    split at readTyped
    · cases readTyped
      exact ⟨_, _, rfl⟩
    · split at readTyped
      · contradiction
      · split at readTyped
        · contradiction
        · cases readTyped
          exact ⟨_, _, rfl⟩
  have readKept : ∃ paramsJson, read = { typed with paramsJson } := by
    unfold readValues at readValue
    split at readValue
    · contradiction
    · cases readValue
      exact ⟨_, rfl⟩
    · cases readValue
      exact ⟨typed.paramsJson, rfl⟩
  split at passed
  · obtain ⟨chain, _, passed⟩ := Fallible.bind_ok.mp passed
    cases passed
    obtain ⟨_, requested, rfl⟩ := typedKept
    obtain ⟨paramsJson, rfl⟩ := readKept
    exact ⟨paramsJson, requested, rfl⟩
  · contradiction

theorem checkArrival_id [SignRuntime] {globalChain : Option UInt32}
    (passed : checkArrival model arrival = .ok (admitted, globalChain)) :
    admitted.id = arrival.id := by
  obtain ⟨_, _, rfl⟩ := checkArrival_kept passed
  rfl

theorem takeSheet_cases [SignRuntime] {from_ : Model}
    (named : event = .requestArrived arrival) (sameId : admitted.id = arrival.id)
    (unsettled : model.settledOutcome arrival.id = none)
    (core : from_.core = model.core.unfunded) (took : takeSheet admitted from_ = .ok result) :
    Does event model result := by
  dsimp only [takeSheet] at took
  cases judged : judgeArrival (reconcile admitted.grantedAddress (answerReplaced from_).1).1
      admitted with
  | error _ =>
    rw [judged] at took
    contradiction
  | ok _ =>
    rw [judged] at took
    cases took
    obtain ⟨replaced, sameCore⟩ := answerReplaced_core from_
    obtain ⟨switches, asked, asks⟩ := reconcile_issued admitted.grantedAddress
      (answerReplaced from_).1
    have attempt : (answerReplaced from_).1.attempt = model.attempt := by
      have := congrArg Core.attempt sameCore
      rw [core] at this
      exact this
    have pending : from_.pending = model.pending := congrArg Core.pending core
    have fromAttempt : from_.attempt = model.attempt := congrArg Core.attempt core
    obtain ⟨front, switched⟩ := reconcile_core admitted.grantedAddress (answerReplaced from_).1
    have does : Change event model { model.core.unfunded with
        pending := some admitted.pending
        front } _ := .arrivalShown named sameId unsettled asks
    simp only [Does, showRequest_core, issuedBy_append, answerReplaced_issued,
      asked, attempt, pending, fromAttempt, issuedBy_render, issuedBy_nil, List.append_nil]
    rw [switched, sameCore, core]
    simpa [under] using does

theorem onRequestArrived_cases [SignRuntime]
    (updated : onRequestArrived arrival model = .ok result) :
    Does (.requestArrived arrival) model result := by
  dsimp only [onRequestArrived] at updated
  split at updated
  · cases updated
    exact .unfunded
  split at updated
  · cases updated
    exact .unfunded
  rename_i unsettled
  split at updated
  · cases updated
    exact .unfunded
  split at updated
  · cases updated
    exact does_ops (.arrivalRefused rfl)
  · rename_i passed
    exact takeSheet_cases rfl (checkArrival_id passed) unsettled rfl updated

theorem killPresubmitPipeline_core {pending : Pending} (shown : model.pending = some pending) :
    (killPresubmitPipeline model).core = model.core.stoppedFor pending.id := by
  unfold killPresubmitPipeline stopPresubmitInflight Core.stoppedFor Model.inflightMatchesPending
  cases running : model.inflight with
  | none => simp [Model.core, running]
  | some fl =>
    by_cases same : pending.id = fl.id
    · by_cases before : fl.stage.beforePasskey = true
      · simp [Model.core, Model.front, running, Model.shows, shown, same, before, Core.stopped]
      · simp [Model.core, running, Model.shows, shown, same, before]
    · have other : fl.id ≠ pending.id := Ne.symm same
      simp [Model.core, running, Model.shows, shown, same, other]

theorem beforePasskey_of_uncommitted {pending : Pending} (shown : model.pending = some pending)
    (uncommitted : model.committed = false) (fl : Inflight) (running : model.inflight = some fl)
    (same : fl.id = pending.id) : fl.stage.beforePasskey = true := by
  simp only [Model.committed, Model.inflightMatchesPending, Model.shows, running, shown,
    Option.any_some, Bool.or_eq_false_iff, Bool.and_eq_false_iff] at uncommitted
  rcases uncommitted.2 with other | stage
  · simp [same] at other
  · cases at_ : fl.stage <;> simp_all [Stage.beforePasskey]

theorem answerSwitched_cases {pending : Pending} (shown : model.pending = some pending) :
    ∃ answered payload, (answerSwitched model).1.pending = some answered ∧
      answered.id = pending.id ∧
      (answerSwitched model).1.core = { model.core with pending := some answered } ∧
      (answerSwitched model).2 = [pending.respond payload] := by
  cases held : pending.held with
  | none =>
    refine ⟨pending, errPayload codeUserRejected .walletSwitchedChains none, ?_, rfl, ?_, ?_⟩
    all_goals simp [answerSwitched, answerHeld_of_unheld shown held, shown, Model.core,
      Pending.respond]
  | some payload =>
    refine ⟨pending.answered, payload, ?_, rfl, ?_, ?_⟩
    all_goals simp [answerSwitched, answerHeld_of_held shown held, Model.core, Model.front]

theorem stoppedFor_pending (core : Core) (pending : Option Pending) (id : String) :
    { core with pending }.stoppedFor id = { core.stoppedFor id with pending } := by
  unfold Core.stoppedFor
  split <;> rfl

theorem onChainSwitch_cases [SignRuntime] (id transportId param : Option String) :
    Does (.chainSwitchRequested id transportId param) model
      (onChainSwitch id transportId param model) := by
  unfold onChainSwitch
  split
  · exact does_ops (.switchAnswered rfl)
  split
  · exact does_ops (.switchAnswered rfl)
  apply does_ops
  unfold cancelForSwitch
  split
  case isFalse => exact .switchAnswered rfl
  case isTrue cancels =>
    unfold switchCancels at cancels
    rw [Bool.and_eq_true, Bool.not_eq_true', Option.any_eq_true] at cancels
    obtain ⟨⟨pending, shown, own⟩, uncommitted⟩ := cancels
    obtain ⟨answered, payload, answeredShown, sameId, core, operations⟩ :=
      answerSwitched_cases shown
    have stopped := killPresubmitPipeline_core answeredShown
    rw [sameId, core] at stopped
    have unanswered : pending.responded = false := by simp_all
    have before := beforePasskey_of_uncommitted shown uncommitted
    have cancelled : (killPresubmitPipeline (answerSwitched model).1).clearSheet.core =
        (model.core.stoppedFor pending.id).cleared := by
      rw [Model.core_clearSheet, stopped, stoppedFor_pending]
      rfl
    have attempt : (killPresubmitPipeline (answerSwitched model).1).clearSheet.attempt =
        (model.core.stoppedFor pending.id).attempt := congrArg Core.attempt cancelled
    have change : Change (.chainSwitchRequested id transportId param) model _
        (under _ (pending.respond payload :: switchAnswer id transportId (.ok none))) :=
      .switchCancelled rfl shown unanswered before
    rw [← cancelled, ← attempt] at change
    rw [operations]
    exact change

theorem Pending.filter_id {pending : Pending} {id : String} (same : pending.id = id) :
    (some pending).filter (·.id == id) = some pending := by simp [same]

theorem failInflight_shown {fl : Inflight} {pending : Pending} (running : model.inflight = some fl)
    (shown : model.pending = some pending) (same : pending.id = fl.id) :
    (failInflight code kind detail model).1.core = { model.core.ended with
        pending := some (pending.failing (errPayload code kind detail)) } ∧
      issuedBy (failInflight code kind detail model).2 = under model.attempt (closeFailed fl) := by
  simp only [failInflight, running, shown, Pending.filter_id same]
  exact ⟨rfl, issuedBy_opsAndRender _ _⟩

theorem failInflight_hidden {fl : Inflight} (running : model.inflight = some fl)
    (hidden : model.shows fl.id = false) :
    (failInflight code kind detail model).1.core = model.core.ended ∧
      issuedBy (failInflight code kind detail model).2 =
        under model.attempt (closeFailed fl ++ [fl.respond (errPayload code kind detail)]) := by
  have absent : model.pending.filter (·.id == fl.id) = none := by
    rw [Option.filter_eq_none_iff]
    intro pending shown
    simpa using Model.shows_eq_false.mp hidden pending shown
  simp only [failInflight, running, absent]
  exact ⟨rfl, issuedBy_opsAndRender _ _⟩

theorem failed_cases [SignRuntime] {fl : Inflight} {blocked : Option SignBlockedView}
    (running : model.inflight = some fl) (stage : fl.stage.beforePasskey = true)
    (hears : Hears model fl event) :
    Does event model (failInflight code kind detail { model with blocked }) := by
  unfold Does
  cases shows : model.shows fl.id with
  | true =>
    obtain ⟨pending, shown, same⟩ := Model.shows_iff.mp shows
    obtain ⟨core, issued⟩ := @failInflight_shown detail kind code { model with blocked } fl
      pending running shown same
    rw [core, issued]
    exact .failedShown running stage shown same hears
  | false =>
    obtain ⟨core, issued⟩ := @failInflight_hidden detail kind code { model with blocked } fl
      running shows
    rw [core, issued]
    exact .failedAnswered running stage shows hears

theorem proceedSubmit_cases [SignRuntime]
    (running : model.inflight = some fl) (proceeded : proceedSubmit model = .ok result) :
    GuardPasses model fl ∧
        result = request fl.submit
          { model with inflight := some { fl with stage := .submitting } } ∨
      ∃ code kind detail blocked,
        result = failInflight code kind detail { model with blocked } := by
  unfold proceedSubmit at proceeded
  split at proceeded
  case _ idle =>
    rw [running] at idle
    contradiction
  case _ same =>
    obtain rfl := Option.some.inj (running.symm.trans same)
    split at proceeded
    case _ =>
      cases proceeded
      exact .inr ⟨_, _, _, model.blocked, rfl⟩
    case _ params parsed =>
      cases judged : enforceNoSelfCall fl.method (some params) (activeAddress model) with
      | error =>
        rw [judged] at proceeded
        contradiction
      | ok verdict =>
        rw [judged] at proceeded
        cases proceeded
        cases verdict with
        | error block => exact .inr ⟨_, _, _, some (blockedView block), rfl⟩
        | ok =>
          dsimp only [submitGuarded]
          split
          · exact .inr ⟨_, _, _, model.blocked, rfl⟩
          · exact .inl ⟨⟨params, parsed, judged⟩, rfl⟩

/-- What an approve starts from is the model but for the options and the funding
view. -/
structure TapFrom (model : Model) (event : Event) (opts : SignApproveOpts) (start : Model) :
    Prop where
  tapped : Tapped model event opts start.core
  pending : start.pending = model.pending
  inflight : start.inflight = model.inflight
  attempt : start.attempt = model.attempt
  reconciled : start.reconciled = model.reconciled
  account : start.activeAccount = model.activeAccount

theorem TapFrom.takes {opts : SignApproveOpts} {start : Model} {pending : Pending}
    (tap : TapFrom model event opts start) (shown : start.pending = some pending)
    (taken : takesApprove start pending = true) :
    Takes model event opts start.core pending := by
  simp only [takesApprove, Bool.and_eq_true, Bool.not_eq_true', Option.isNone_iff_eq_none]
    at taken
  obtain ⟨⟨⟨⟨⟨⟨free, unanswered⟩, unheld⟩, unfunded⟩, reconciled⟩, _⟩, _⟩ := taken
  exact {
    tapped := tap.tapped
    shown := tap.pending ▸ shown
    free := tap.inflight ▸ free
    unfunded
    unanswered
    unheld
    reconciled := tap.reconciled ▸ reconciled }

@[simp] theorem approving_core (start : Model) : (approving start).core = start.core := rfl

theorem Core.inflight_none (free : core.inflight = none) (pending : Option Pending) :
    { core with
      pending
      inflight := none } = { core with pending } := by
  cases core
  cases free
  rfl

theorem failPending_cases [SignRuntime] {start : Model} {pending : Pending}
    (takes : Takes model event opts start.core pending) (free : start.inflight = none)
    (shown : start.pending = some pending) (attempt : start.attempt = model.attempt) :
    Does event model (failPending code kind detail start) := by
  have core : (failPending code kind detail start).1.core =
      { start.core with pending := some { pending with responded := true } } := by
    simp only [failPending, shown, opsAndRender_fst, Model.core_withError]
    exact @Core.inflight_none start.core free _
  have issued : issuedBy (failPending code kind detail start).2 =
      under model.attempt [pending.respond (errPayload code kind detail)] := by
    simp only [failPending, shown, issuedBy_opsAndRender, Pending.respond, ← attempt]
    rfl
  unfold Does
  rw [core, issued]
  exact .refusedTap takes

theorem startFailed_cases [SignRuntime] {opts : SignApproveOpts} {start : Model}
    {pending : Pending} {fl : Inflight} {blocked : Option SignBlockedView}
    (takes : Takes model event opts start.core pending) (free : start.inflight = none)
    (shown : start.pending = some pending) (same : pending.id = fl.id)
    (unrecorded : fl.recordId = none) :
    Does event model (failInflight code kind detail
      { start with
        inflight := some fl
        blocked }) := by
  obtain ⟨core, issued⟩ := @failInflight_shown detail kind code
    { start with
      inflight := some fl
      blocked } fl pending rfl shown same
  unfold Does
  rw [core, issued, closeFailed, unrecorded]
  have sheet := @Core.inflight_none start.core free (some (pending.failing
    (errPayload code kind detail)))
  have change : Change event model { start.core with
      pending := some (pending.failing (errPayload code kind detail)) } [] := .startedFailed takes
  rw [← sheet] at change
  exact change

theorem startPipeline_cases [SignRuntime] {start : Model} {pending : Pending} {bustCache : Bool}
    (tap : TapFrom model event opts start)
    (starts : Starts model event opts start.core pending fl) (same : pending.id = fl.id)
    (unrecorded : fl.recordId = none)
    (started : startPipeline fl opts bustCache start = .ok result) :
    Does event model result := by
  have free : start.inflight = none := tap.inflight.trans starts.free
  have shown : start.pending = some pending := tap.pending.trans starts.shown
  unfold startPipeline at started
  dsimp only at started
  split at started
  case isTrue nonce =>
    cases started
    unfold Does
    rw [issuedBy_request, request_fst]
    show Change event model { start.core with inflight := some fl } (under start.attempt _)
    rw [tap.attempt]
    exact .started starts nonce
  case isFalse =>
    obtain ⟨passes, rfl⟩ | ⟨code, kind, detail, blocked, rfl⟩ := proceedSubmit_cases rfl started
    · have judged : GuardPasses model fl := by
        obtain ⟨params, parsed, passed⟩ := passes
        have account : activeAddress { start with inflight := some fl } = activeAddress model :=
          congrArg (fun account => (account.map SignAccountRef.address).getD "") tap.account
        exact ⟨params, parsed, account ▸ passed⟩
      unfold Does
      rw [issuedBy_request, request_fst]
      show Change event model { start.core with inflight := some { fl with stage := .submitting } }
        (under start.attempt _)
      rw [tap.attempt]
      exact .startedSubmit starts judged
    · exact @startFailed_cases detail kind code event model _ opts start pending fl blocked
        starts.toTakes free shown same unrecorded

theorem approveWith_cases [SignRuntime] {start : Model}
    {bustCache : Bool} (tap : TapFrom model event opts start)
    (approved : approveWith opts bustCache start = .ok result) : Does event model result := by
  have ignored : Does event model (done start) := .tapped tap.tapped
  unfold approveWith at approved
  split at approved
  case _ pending signer shown inFront =>
    split at approved
    case isFalse =>
      cases approved
      exact ignored
    case isTrue taken =>
      have takes : Takes model event opts start.core pending := tap.takes shown taken
      have free : (approving start).inflight = none := tap.inflight.trans takes.free
      unfold approveTaken at approved
      dsimp only at approved
      split at approved
      · cases approved
        exact failPending_cases takes free shown tap.attempt
      split at approved
      · cases approved
        exact failPending_cases takes free shown tap.attempt
      split at approved
      · cases approved
        exact .tapped tap.tapped
      case _ params parsed _ _ _ =>
        have fresh : TapFrom model event opts (approving start) :=
          ⟨tap.tapped, tap.pending, tap.inflight, tap.attempt, tap.reconciled, tap.account⟩
        refine startPipeline_cases fresh { takes with captured := ?_ } rfl rfl approved
        exact ⟨signer, _, params, tap.account ▸ inFront, parsed, rfl⟩
  case _ =>
    cases approved
    exact ignored

theorem approveTapped_cases [SignRuntime] (approved : approveTapped opts model = .ok result) :
    Does (.approveTapped opts) model result := by
  have tap : TapFrom model (.approveTapped opts) opts { model with lastOpts := some opts } :=
    ⟨.approve opts, rfl, rfl, rfl, rfl, rfl⟩
  exact approveWith_cases tap approved

theorem fundingComplete_cases [SignRuntime] (completed : fundingComplete model = .ok result) :
    Does .fundingCompleteTapped model result := by
  unfold fundingComplete at completed
  dsimp only at completed
  split at completed
  case isTrue =>
    cases completed
    exact .kept
  case isFalse up =>
    have funded : model.funding.isSome = true := by
      simpa [Option.isSome_iff_ne_none] using up
    split at completed
    case _ =>
      cases completed
      exact .unfunded
    case _ pending shown =>
      split at completed
      case isTrue =>
        cases completed
        exact .unfunded
      case isFalse pinned =>
        have pinnedHere : ∀ other, model.pending = some other →
            model.fundingPinnedRid.any (· != other.id) = false := by
          intro other same
          obtain rfl := Option.some.inj (shown.symm.trans same)
          exact Bool.eq_false_of_not_eq_true pinned
        have tap : TapFrom model .fundingCompleteTapped (model.lastOpts.getD {})
            { model with
              funding := none
              fundingPinnedRid := none } :=
          ⟨.again funded pinnedHere, rfl, rfl, rfl, rfl, rfl⟩
        exact approveWith_cases tap completed

theorem LetsSubmit.hears {fl : Inflight} (lets : LetsSubmit model fl event) :
    Hears model fl event := by
  cases lets with
  | prechecked stage | sponsored stage => exact ⟨_, rfl, by rw [stage]; rfl⟩

theorem letsSubmit_cases [SignRuntime]
    (running : model.inflight = some fl) (stage : fl.stage.beforePasskey = true)
    (lets : LetsSubmit model fl event) (proceeded : proceedSubmit model = .ok result) :
    Does event model result := by
  obtain ⟨passes, rfl⟩ | ⟨code, kind, detail, blocked, rfl⟩ :=
    proceedSubmit_cases running proceeded
  · unfold Does
    rw [issuedBy_request, request_fst]
    exact .submits running lets passes
  · exact failed_cases running stage lets.hears

theorem onPrecheck_cases [SignRuntime] {funding : Option SignFundingNeeded}
    (answered : onPrecheck funding model = .ok result) :
    Does (.shellCompleted model.attempt (.preCheck funding)) model result := by
  unfold onPrecheck at answered
  split at answered
  case _ =>
    cases answered
    exact .kept
  case _ running =>
    split at answered
    case _ stage =>
      exact letsSubmit_cases running (by rw [stage]; rfl) (.prechecked stage) answered
    case _ stage =>
      cases answered
      unfold Does
      rw [issuedBy_request, request_fst]
      exact .sponsoring rfl running stage
    case _ =>
      cases answered
      exact .kept

theorem toFundingWait_cases [SignRuntime] {data : SignFundingNeeded}
    {presentation : SignFundingPresentation} {reason : Option String}
    (running : model.inflight = some fl) (stage : fl.stage.beforePasskey = true)
    (shown : model.shows fl.id = true) (hears : Hears model fl event) :
    Does event model (toFundingWait data presentation reason model) := by
  have change : Change event model { model.core.ended with
      funding := some { data, presentation, denialReason := reason }
      fundingPinnedRid := some fl.id } [] := .fundingWait running stage shown hears
  have pinned : model.inflight.map (·.id) = some fl.id := by rw [running, Option.map_some]
  rw [← pinned] at change
  exact change

theorem onSponsorship_cases [SignRuntime] {outcome : SignSponsorship}
    (answered : onSponsorship outcome model = .ok result) :
    Does (.shellCompleted model.attempt (.sponsorship outcome)) model result := by
  unfold onSponsorship at answered
  split at answered
  case _ =>
    cases answered
    exact .kept
  case _ fl running =>
    split at answered
    case _ stage =>
      have before : fl.stage.beforePasskey = true := by rw [stage]; rfl
      have hears : Hears model fl (.shellCompleted model.attempt (.sponsorship outcome)) :=
        ⟨_, rfl, by rw [stage]; rfl⟩
      split at answered
      case isTrue =>
        cases answered
        exact @failed_cases _ _ _ _ model _ fl model.blocked running before hears
      case isFalse shown =>
        rw [Bool.not_eq_true', Bool.not_eq_false] at shown
        cases outcome with
        | funded => exact letsSubmit_cases running before (.sponsored stage shown) answered
        | confirming | denied =>
          cases answered
          exact toFundingWait_cases running before shown hears
    case _ stage =>
      have before : fl.stage.beforePasskey = true := by rw [stage]; rfl
      have hears : Hears model fl (.shellCompleted model.attempt (.sponsorship outcome)) :=
        ⟨_, rfl, by rw [stage]; rfl⟩
      split at answered
      case isTrue =>
        cases answered
        exact @failed_cases _ _ _ _ model _ fl model.blocked running before hears
      case isFalse shown =>
        rw [Bool.not_eq_true', Bool.not_eq_false] at shown
        split at answered <;> cases answered
        all_goals exact toFundingWait_cases running before shown hears
    case _ =>
      cases answered
      exact .kept

theorem onOpSigned_cases [SignRuntime] (id userOpHash : String) (submitBlock : Option UInt64)
    (nowMs : Float) : Does (.opSigned id userOpHash submitBlock nowMs) model
      (onOpSigned id userOpHash submitBlock nowMs model) := by
  unfold onOpSigned
  split
  case _ => exact .kept
  case _ running =>
    split
    case isFalse => exact .kept
    case isTrue takes =>
      unfold Does
      rw [issuedBy_request, request_fst]
      exact .signed rfl running takes

theorem showOp_core (userOpHash : String) (maybeSent : Bool) (model : Model) :
    (showOp userOpHash maybeSent model).core = model.core := by
  unfold showOp
  split <;> rfl

theorem answerBatchId_cases (running : model.inflight = some fl) :
    answerBatchId model = (model, []) ∨
      ∃ id, batchId fl = some id ∧ (answerBatchId model).2 = [fl.respond (okAnswer fl id)] ∧
        (answerBatchId model).1.core =
          (model.core.settle fl.id .submitted).stopped.clearedIf fl.id := by
  simp only [answerBatchId, running]
  cases batch : batchId fl with
  | none => exact .inl rfl
  | some id =>
    refine .inr ⟨id, rfl, rfl, ?_⟩
    rw [Model.core_clearIfShown]
    rfl

theorem handedAhead_core (fl : Inflight) (wa : WriteAhead) (maybeSent : Bool)
    (submitBlock : Option UInt64) (model : Model) :
    (handedAhead fl wa maybeSent submitBlock model).core =
      { model.core with inflight := some (fl.submittedAhead wa maybeSent) } :=
  showOp_core wa.userOpHash maybeSent
    { model with inflight := some (fl.submittedAhead wa maybeSent) }

theorem submittedAhead_cases [SignRuntime] {wa : WriteAhead}
    {id : String} {maybeSent : Bool} {submitBlock : Option UInt64}
    (running : model.inflight = some fl) (takes : fl.takesSubmitted id = true)
    (ahead : fl.writeAhead = some wa) :
    Does (.opSubmitted id userOpHash nowMs maybeSent submitBlock) model
      (submittedAhead fl wa maybeSent submitBlock model) := by
  have core := handedAhead_core fl wa maybeSent submitBlock model
  unfold submittedAhead
  dsimp only
  generalize handedAhead fl wa maybeSent submitBlock model = handed at core ⊢
  split
  case isTrue =>
    show Change _ model handed.core []
    rw [core]
    exact .submittedAhead rfl running takes ahead (.inl rfl)
  case isFalse accepted =>
    rw [Bool.not_eq_true] at accepted
    subst accepted
    apply does_ops
    have attempt : handed.attempt = model.attempt := congrArg Core.attempt core
    rcases answerBatchId_cases (congrArg Core.inflight core) with
      unanswered | ⟨id, batch, answers, closed⟩
    · rw [unanswered]
      show Change _ model handed.core (under handed.attempt _)
      rw [core, attempt]
      exact .submittedAhead rfl running takes ahead (.inr rfl)
    · have kind : methodKind fl.method = .batch ∧ wa.userOpHash = id := by
        unfold batchId at batch
        split at batch
        · exact ⟨‹_›, Option.some.inj batch⟩
        · contradiction
      obtain ⟨kind, rfl⟩ := kind
      have closedAt : (answerBatchId handed).1.core =
          (model.core.settle fl.id .submitted).stopped.clearedIf fl.id := by
        rw [closed, core]
        rfl
      have attemptAt : (answerBatchId handed).1.attempt = model.attempt + 1 := by
        have := congrArg Core.attempt closedAt
        unfold Core.clearedIf at this
        split at this <;> exact this
      rw [answers, closedAt, attemptAt]
      exact .batchAnswered rfl running takes ahead kind

theorem withdrawWriteAhead_cases (running : model.inflight = some fl) :
    (withdrawWriteAhead model).1.core = { model.core with inflight := some fl.unwritten } ∧
      (withdrawWriteAhead model).2 =
        (fl.writeAhead.map fun wa => [SignOperation.deleteRecord wa.recordId]).getD [] := by
  simp only [withdrawWriteAhead, running]
  cases ahead : fl.writeAhead with
  | none =>
    have same : fl.unwritten = fl := by
      unfold Inflight.unwritten
      rw [← ahead]
    simp [same, Model.core, running]
  | some => exact ⟨rfl, rfl⟩

theorem handedAfresh_core (fl : Inflight) (userOpHash recordId : String) (maybeSent : Bool)
    (submitBlock : Option UInt64) (model : Model) :
    (handedAfresh fl userOpHash recordId maybeSent submitBlock model).core =
      { model.core with inflight := some (fl.submitted userOpHash recordId maybeSent) } :=
  showOp_core userOpHash maybeSent
    { model with inflight := some (fl.submitted userOpHash recordId maybeSent) }

theorem submittedAfresh_cases [SignRuntime] {id : String}
    {maybeSent : Bool} {submitBlock : Option UInt64}
    (running : model.inflight = some fl) (takes : fl.takesSubmitted id = true) :
    Does (.opSubmitted id userOpHash nowMs maybeSent submitBlock) model
      (submittedAfresh userOpHash nowMs maybeSent submitBlock model) := by
  obtain ⟨core, deletes⟩ := withdrawWriteAhead_cases running
  unfold submittedAfresh
  dsimp only
  split
  case _ idle =>
    have := congrArg Core.inflight core
    rw [show (withdrawWriteAhead model).1.core.inflight = none from idle] at this
    contradiction
  case _ other same =>
    have unwritten : other = fl.unwritten := by
      have := congrArg Core.inflight core
      rw [show (withdrawWriteAhead model).1.core.inflight = some other from same] at this
      exact Option.some.inj this
    subst unwritten
    apply does_ops
    have handed := handedAfresh_core fl.unwritten userOpHash
      (recordIdFor "eth_sendTransaction" nowMs) maybeSent submitBlock (withdrawWriteAhead model).1
    have attempt := congrArg Core.attempt handed
    rw [core] at handed attempt
    have attemptAt : (handedAfresh fl.unwritten userOpHash
      (recordIdFor "eth_sendTransaction" nowMs) maybeSent submitBlock
      (withdrawWriteAhead model).1).attempt = model.attempt := attempt
    rw [handed, deletes, attemptAt]
    exact .submittedAfresh rfl running takes

theorem onOpSubmitted_cases [SignRuntime] (id userOpHash : String) (nowMs : Float)
    (maybeSent : Bool) (submitBlock : Option UInt64) :
    Does (.opSubmitted id userOpHash nowMs maybeSent submitBlock) model
      (onOpSubmitted id userOpHash nowMs maybeSent submitBlock model) := by
  unfold onOpSubmitted
  split
  case _ => exact .kept
  case _ running =>
    split
    case isFalse => exact .kept
    case isTrue takes =>
      split
      case _ named =>
        exact submittedAhead_cases running takes (Option.filter_eq_some_iff.mp named).1
      case _ => exact submittedAfresh_cases running takes

theorem answerTracked_cases [SignRuntime]
    {status : TrackStatus} {txHash : Option String} {reason : Option Send.RefusalReason}
    {refusal : Option Bool} (running : model.inflight = some fl)
    (tracked : fl.isTracked userOpHash = true)
    (word : trackedAnswer fl status txHash = some (payload, refusal)) :
    Does (.opTracked userOpHash status txHash reason) model
      (answerTracked fl payload refusal reason model) := by
  have answered : Change (.opTracked userOpHash status txHash reason) model _ _ :=
    .trackedAnswered rfl running tracked word
  unfold answerTracked
  dsimp only
  split
  case _ =>
    apply does_ops
    rw [Model.core_clearIfShown, Model.attempt_clearIfShown]
    exact answered
  case _ =>
    split
    case _ shown =>
      obtain ⟨here, same⟩ := Option.filter_eq_some_iff.mp shown
      exact .trackedHeld rfl running tracked here (by simpa using same)
    case _ hidden =>
      apply does_ops
      have absent : model.shows fl.id = false := by
        rw [Model.shows_eq_false]
        intro pending shown
        simpa using Option.filter_eq_none_iff.mp hidden pending shown
      have same : (model.core.settle fl.id .submitted).stopped.clearedIf fl.id =
          (model.core.settle fl.id .submitted).stopped :=
        if_neg (by exact Bool.eq_false_iff.mp absent)
      rw [same] at answered
      exact answered

theorem onOpTracked_cases [SignRuntime] (userOpHash : String) (status : TrackStatus)
    (txHash : Option String) (reason : Option Send.RefusalReason) :
    Does (.opTracked userOpHash status txHash reason) model
      (onOpTracked userOpHash status txHash reason model) := by
  unfold onOpTracked
  split
  case _ => exact .kept
  case _ running =>
    split
    case isFalse => exact .kept
    case isTrue tracked =>
      split
      case _ => exact .kept
      case _ word => exact answerTracked_cases running tracked word

theorem onCeremony_cases [SignRuntime] (id : String) (next : Ceremony) :
    Does event model (onCeremony id next model) := by
  unfold onCeremony
  split
  case _ => exact .kept
  case _ running =>
    split
    case isTrue => exact .prompted running
    case isFalse => exact .kept

/-! ## The submit's outcome -/

/-- The end of a submit, behind what became of its write-ahead record. -/
abbrev Ends [SignRuntime] (event : Event) (model : Model) (operations : List SignOperation)
    (result : Model × Cmd) : Prop :=
  Change event model result.1.core (under result.1.attempt operations ++ issuedBy result.2)

theorem under_append (attempt : Nat) (first second : List SignOperation) :
    under attempt first ++ under attempt second = under attempt (first ++ second) := by
  simp [under]

theorem ends_ops [SignRuntime] {replies : List SignOperation}
    (change : Change event model next.core (under next.attempt (operations ++ replies))) :
    Ends event model operations (opsAndRender replies next) := by
  unfold Ends
  rw [issuedBy_opsAndRender, opsAndRender_fst, under_append]
  exact change

theorem ends_request [SignRuntime] {operation : SignOperation}
    (change : Change event model next.core (under next.attempt (operations ++ [operation]))) :
    Ends event model operations (request operation next) := by
  unfold Ends
  rw [issuedBy_request, request_fst, under_append]
  exact change

theorem ends_render [SignRuntime]
    (change : Change event model next.core (under next.attempt operations)) :
    Ends event model operations (render next) := by
  unfold Ends
  simpa using change

theorem behindRecords_cases [SignRuntime] (ends : Ends event model operations result) :
    Does event model (behindRecords operations result) := by
  unfold behindRecords
  split
  case isTrue none =>
    rw [List.isEmpty_iff] at none
    subst none
    exact ends
  case isFalse =>
    unfold Does
    rw [issuedBy_append, issuedBy_opsAndRender]
    exact ends

section Outcome

variable {fl : Inflight} {start : Model} {operations : List SignOperation}
  {outcome : SignSubmitOutcome}

theorem Written.pending {before : Inflight} {next : Core}
    (written : Written raw before core fl next operations) : next.pending = core.pending := by
  cases written <;> rfl

theorem Written.inflight {before : Inflight} {next : Core}
    (running : core.inflight = some before)
    (written : Written raw before core fl next operations) : next.inflight = some fl := by
  cases written
  case kept => exact running
  all_goals rfl

theorem Submitted.pending
    (submitted : Submitted model event fl core operations outcome) :
    core.pending = model.pending := by
  obtain ⟨_, _, _, _, _, _, written, _⟩ := submitted
  exact written.pending

theorem Submitted.inflight
    (submitted : Submitted model event fl core operations outcome) :
    core.inflight = some fl := by
  obtain ⟨_, _, _, _, running, _, written, _⟩ := submitted
  exact written.inflight running

theorem Submitted.shows (submitted : Submitted model event fl start.core operations outcome)
    (id : String) : start.shows id = model.shows id :=
  congrArg (Option.any fun pending : Pending => pending.id == id) submitted.pending

theorem passkeyCancelled_cases [SignRuntime]
    (submitted : Submitted model event fl start.core operations .passkeyCancelled) :
    Ends event model operations (passkeyCancelled fl start) := by
  unfold passkeyCancelled
  dsimp only
  split
  case isTrue refused =>
    rw [Bool.and_eq_true, Bool.and_eq_true, Bool.not_eq_true'] at refused
    exact ends_ops (.submitRefused submitted (submitted.shows fl.id ▸ refused.1.1))
  case isFalse => exact ends_render (.submitQuiet submitted)

theorem answerInflight_cases [SignRuntime]
    (submitted : Submitted model event fl start.core operations outcome)
    (recorded : fl.recordId.isSome = true)
    (answers : outcomeAnswer fl outcome = some payload) :
    Ends event model operations (answerInflight fl payload (start.settle fl.id .submitted)) := by
  apply ends_ops
  rw [Model.core_clearIfShown, Model.attempt_clearIfShown]
  exact .submitAnswered submitted recorded answers

theorem recorded_ends [SignRuntime] {after : Model} (record : SignRecord)
    (next : AfterRecord) (opHash : Option String)
    (submitted : Submitted model event fl start.core operations outcome)
    (unrecorded : fl.recordId = none) (answers : (outcomeAnswer fl outcome).isSome = true)
    (recorded : after.core = { start.core.settle fl.id .submitted with inflight := some { fl with
      opHash
      recordId := some record.recordId
      stage := .persistingResult next } }) :
    Ends event model operations (request (.persistRecord record) after) := by
  apply ends_request
  have attempt : after.attempt = start.attempt := congrArg Core.attempt recorded
  rw [recorded, attempt]
  exact .submitRecorded submitted unrecorded answers

section

variable (submitted : Submitted model event fl start.core operations outcome)
include submitted

theorem persistResult_cases [SignRuntime] {result : String}
    (unrecorded : fl.recordId = none) (answers : (outcomeAnswer fl outcome).isSome = true) :
    Ends event model operations
      (persistResult fl result nowMs (start.settle fl.id .submitted)) :=
  recorded_ends (resultRecord fl result nowMs) (.result result) fl.opHash submitted unrecorded
    answers rfl

theorem persistPendingThen_cases [SignRuntime] {next : AfterRecord}
    (unrecorded : fl.recordId = none) (answers : (outcomeAnswer fl outcome).isSome = true) :
    Ends event model operations
      (persistPendingThen fl userOpHash nowMs next (start.settle fl.id .submitted)) := by
  apply recorded_ends _ next (some userOpHash) submitted unrecorded answers
  cases next
  case result => rfl
  all_goals
    dsimp only
    split <;> rfl

theorem failed_ends [SignRuntime]
    :
    Ends event model operations (failInflight code kind detail start) := by
  have running : start.inflight = some fl := submitted.inflight
  unfold Ends
  cases shows : start.shows fl.id with
  | true =>
    obtain ⟨pending, shown, same⟩ := Model.shows_iff.mp shows
    obtain ⟨core, issued⟩ := @failInflight_shown detail kind code start fl pending running shown
      same
    have attempt : (failInflight code kind detail start).1.attempt = start.attempt :=
      congrArg Core.attempt core
    rw [core, issued, attempt, under_append]
    exact .submitFailedShown submitted (submitted.pending ▸ shown) same
  | false =>
    obtain ⟨core, issued⟩ := @failInflight_hidden detail kind code start fl running shows
    have attempt : (failInflight code kind detail start).1.attempt = start.attempt :=
      congrArg Core.attempt core
    rw [core, issued, attempt, under_append]
    exact .submitFailedAnswered submitted (submitted.shows fl.id ▸ shows)

theorem submitFailed_cases [SignRuntime] {message : String} {refused : Bool}
    {signer : Option FailureKind}
    :
    Ends event model operations (submitFailed message refused signer start) := by
  have failed : Ends event model operations (failInflight codeInternal (signerFailure signer)
    (some (if refused then refusedDappDetail else message)) start) := failed_ends submitted
  exact failed

theorem venueBlocked_cases [SignRuntime] {block : Send.VenueBlock}
    :
    Ends event model operations (venueBlocked block start) := by
  have failed : Ends event model operations
    (failInflight codeInternal .venueBlocked none start) := failed_ends submitted
  exact failed

end

theorem afterRecord_cases [SignRuntime] {nowMs : Float} {next : AfterRecord}
    (submitted : Submitted model event fl start.core operations outcome)
    (answers : outcomeAnswer fl outcome = some (next.payload fl)) :
    Ends event model operations
      (if fl.recordId.isNone then
        persistPendingThen fl userOpHash nowMs next (start.settle fl.id .submitted)
      else answerInflight fl (next.payload fl) (start.settle fl.id .submitted)) := by
  split
  case isTrue unrecorded =>
    rw [Option.isNone_iff_eq_none] at unrecorded
    exact persistPendingThen_cases submitted unrecorded (by rw [answers]; rfl)
  case isFalse recorded =>
    rw [Option.isNone_iff_eq_none, ← ne_eq, ← Option.isSome_iff_ne_none] at recorded
    exact answerInflight_cases submitted recorded answers

theorem onSubmitOutcome_cases [SignRuntime]
    (submitted : Submitted model event fl start.core operations (readOutcome fl raw)) :
    Ends event model operations (onSubmitOutcome fl raw nowMs start) := by
  unfold onSubmitOutcome
  cases read : readOutcome fl raw with
  | passkeyCancelled => exact passkeyCancelled_cases (read ▸ submitted)
  | askerGone =>
    apply ends_render
    rw [Model.core_clearIfShown, Model.attempt_clearIfShown]
    exact .submitGone (read ▸ submitted)
  | succeeded =>
    rw [read] at submitted
    dsimp only
    split
    case isTrue recorded => exact answerInflight_cases submitted recorded rfl
    case isFalse unrecorded =>
      rw [Bool.not_eq_true, Option.isSome_eq_false_iff, Option.isNone_iff_eq_none] at unrecorded
      exact persistResult_cases submitted unrecorded rfl
  | receiptPending userOpHash =>
    exact @afterRecord_cases userOpHash _ _ _ _ _ _ _ nowMs (.result userOpHash)
      (read ▸ submitted) rfl
  | reverted userOpHash txHash =>
    exact @afterRecord_cases userOpHash _ _ _ _ _ _ _ nowMs
      (.reverted (revertedDetail txHash)) (read ▸ submitted) rfl
  | notConfirmed userOpHash =>
    exact @afterRecord_cases userOpHash _ _ _ _ _ _ _ nowMs
      (.notConfirmed (notConfirmedDetail userOpHash)) (read ▸ submitted) rfl
  | underfunded _ funding =>
    rw [read] at submitted
    cases funding with
    | none => exact failed_ends submitted
    | some => exact ends_request (.submitUnderfunded submitted)
  | failed => exact submitFailed_cases (read ▸ submitted)
  | venueBlocked => exact venueBlocked_cases (read ▸ submitted)

end Outcome

theorem settleWriteAhead_written {fl : Inflight} {wa : WriteAhead} {raw : SignSubmitOutcome}
    (ahead : fl.writeAhead = some wa) (unrecorded : fl.recordId = none) :
    ∃ next, (settleWriteAhead fl wa raw model).1.inflight = some next ∧
      Written raw fl model.core next (settleWriteAhead fl wa raw model).1.core
        (settleWriteAhead fl wa raw model).2 := by
  unfold settleWriteAhead
  split
  case isTrue same =>
    refine ⟨fl.adopting wa, rfl, .adopted ahead unrecorded same ?_⟩
    dsimp only
    split
    · exact .inr rfl
    · exact .inl rfl
  case isFalse other =>
    rw [Bool.not_eq_true] at other
    refine ⟨fl.unwritten, ?_, ?_⟩
    · dsimp only
      split <;> rfl
    · have written : Written raw fl model.core fl.unwritten _ _ :=
        .withdrawn ahead unrecorded other
      dsimp only
      split
      case isTrue cleared =>
        rw [if_pos cleared] at written
        exact written
      case isFalse waiting =>
        rw [if_neg waiting] at written
        exact written

theorem onSubmit_cases [SignRuntime] :
    Does (.shellCompleted model.attempt (.submit raw nowMs)) model (onSubmit raw nowMs model) := by
  unfold onSubmit
  split
  case _ => exact .kept
  case _ fl running =>
    split
    case isTrue => exact .kept
    case isFalse stage =>
      have submitting : fl.stage = .submitting := by simpa using stage
      split
      case _ wa ahead unrecorded =>
        obtain ⟨next, taken, written⟩ := @settleWriteAhead_written model fl wa raw ahead unrecorded
        dsimp only
        rw [taken]
        exact behindRecords_cases (onSubmitOutcome_cases
          ⟨nowMs, fl, raw, rfl, running, submitting, written, rfl⟩)
      case _ settled =>
        have kept : fl.writeAhead = none ∨ fl.recordId.isSome = true := by
          cases ahead : fl.writeAhead with
          | none => exact .inl rfl
          | some wa =>
            cases recorded : fl.recordId with
            | none => exact (settled wa ahead recorded).elim
            | some => exact .inr rfl
        have ends : Ends (.shellCompleted model.attempt (.submit raw nowMs)) model []
            (onSubmitOutcome fl raw nowMs model) := onSubmitOutcome_cases
          ⟨nowMs, fl, raw, rfl, running, submitting, .kept kept, rfl⟩
        exact ends

theorem onRecordPersisted_cases [SignRuntime] :
    Does (.shellCompleted model.attempt .recordPersisted) model (onRecordPersisted model) := by
  unfold onRecordPersisted
  split
  case _ => exact .kept
  case _ running =>
    split
    case _ stage =>
      split
      case _ => exact .kept
      case _ waits =>
        obtain ⟨ahead, waits⟩ := Option.filter_eq_some_iff.mp waits
        rw [Bool.and_eq_true, Bool.not_eq_true', Option.isNone_iff_eq_none] at waits
        unfold Does
        rw [issuedBy_request, request_fst]
        exact .postCleared rfl running stage ahead waits.1 waits.2
    case _ stage =>
      apply does_ops
      rw [Model.core_clearIfShown, Model.attempt_clearIfShown]
      exact .recordAnswered rfl running stage
    case _ => exact .kept

theorem Model.pendingNamed_eq_some {id : String} {pending : Pending}
    (named : model.pendingNamed id = some pending) :
    model.pending = some pending ∧ pending.id = id := by
  obtain ⟨shown, same⟩ := Option.filter_eq_some_iff.mp named
  exact ⟨shown, by simpa using same⟩

theorem onSimStarted_cases [SignRuntime] (id : String) :
    Does (.simStarted id) model (onSimStarted id model) := by
  unfold onSimStarted
  split
  case _ => exact .kept
  case _ named =>
    obtain ⟨shown, same⟩ := Model.pendingNamed_eq_some named
    dsimp only
    unfold Does
    rw [issuedBy_request, request_fst]
    exact .simStarted rfl shown same

theorem onSimSettled_cases [SignRuntime] (id : String) :
    Does event model (onSimSettled id model) := by
  unfold onSimSettled
  split
  case _ => exact .kept
  case _ named =>
    split
    case isTrue => exact .kept
    case isFalse => exact .simEnded (Model.pendingNamed_eq_some named).1 (.inr rfl)

theorem onSimDeadline_cases [SignRuntime] (id : String) (round : UInt32) :
    Does event model (onSimDeadline id round model) := by
  unfold onSimDeadline
  split
  case _ => exact .kept
  case _ named =>
    split
    case isTrue => exact .simEnded (Model.pendingNamed_eq_some named).1 (.inl rfl)
    case isFalse => exact .kept

theorem dismiss_cases [SignRuntime] : Does event model (dismiss model) := by
  have core := answerHeld_core model
  have attempt : (answerHeld model).1.attempt = model.attempt := congrArg Core.attempt core
  have change : Change event model _ _ := .dismissed
  apply does_ops
  rw [answerHeld_owed]
  show Change event model (answerHeld model).1.core.cleared (under (answerHeld model).1.attempt _)
  rw [core, attempt]
  exact change

theorem Core.stoppedFor_settle (core : Core) (id other : String) (outcome : SignSettledOutcome) :
    (core.settle id outcome).stoppedFor other = (core.stoppedFor other).settle id outcome := by
  unfold Core.stoppedFor
  rw [apply_ite (Core.settle id outcome)]
  rfl

theorem reject_cases [SignRuntime] : Does event model (reject model) := by
  unfold reject
  split
  case _ => exact .kept
  case _ pending shown =>
    split
    case isTrue => exact .kept
    case isFalse uncommitted =>
      rw [Bool.not_eq_true] at uncommitted
      split
      case isTrue => exact dismiss_cases
      case isFalse unanswered =>
        rw [Bool.or_eq_true, not_or, Bool.not_eq_true, Option.isSome_iff_ne_none, not_not]
          at unanswered
        apply does_ops
        have core : (killPresubmitPipeline (model.settle pending.id .rejected)).clearSheet.core =
            ((model.core.settle pending.id .rejected).stoppedFor pending.id).cleared := by
          rw [Model.core_clearSheet, ← Model.core_settle]
          exact congrArg Core.cleared
            (@killPresubmitPipeline_core (model.settle pending.id .rejected) pending shown)
        have attempt : (killPresubmitPipeline (model.settle pending.id
            .rejected)).clearSheet.attempt = (model.core.stoppedFor pending.id).attempt := by
          have := congrArg Core.attempt core
          rw [Core.stoppedFor_settle] at this
          exact this
        rw [core, attempt]
        unfold rejection
        split
        · exact .rejected shown unanswered.1 unanswered.2
            (beforePasskey_of_uncommitted shown uncommitted)
        · exact .rejected shown unanswered.1 unanswered.2
            (beforePasskey_of_uncommitted shown uncommitted)

theorem retry_cases [SignRuntime] : Does .retryTapped model (retry model) := by
  unfold retry
  split
  case isTrue => exact .kept
  case isFalse held =>
    rw [Bool.not_eq_true', Bool.not_eq_false] at held
    cases shown : model.pending with
    | none =>
      rw [Model.failureRetryable, shown] at held
      contradiction
    | some pending =>
      have change : Change .retryTapped model { model.core with pending := some pending.unheld }
          [] := .retried rfl shown held
      exact change

theorem fundingCancel_cases [SignRuntime]
    (asked : event = .fundingCancelled ∨ model.funding.isSome = true) :
    Does event model (fundingCancel model) := by
  unfold fundingCancel
  dsimp only
  split
  case _ => exact .unfunded
  case _ shown =>
    apply does_ops
    exact .fundingCancelled shown asked

theorem swipeDismissed_cases [SignRuntime] :
    Does event model (swipeDismissed model) := by
  unfold swipeDismissed
  split
  case _ => exact reject_cases
  case _ => exact dismiss_cases
  case _ action =>
    have funded : model.funding.isSome = true := by
      unfold swipeAction at action
      by_contra unfunded
      simp only [unfunded] at action
      grind
    exact fundingCancel_cases (.inr funded)
  case _ => exact .kept

theorem transportDropped_cases [SignRuntime] (transportId : String) :
    Does event model (transportDropped transportId model) := by
  unfold transportDropped
  dsimp only
  generalize (model.pending.any fun pending =>
    !(pending.dedicatedTransport && pending.transportId != transportId)) = leaves
  have sheet : (if leaves then model.clearSheet else model).core = model.core ∨
      (if leaves then model.clearSheet else model).core = model.core.cleared := by
    cases leaves
    · exact .inl rfl
    · exact .inr rfl
  have same : (if leaves then model.clearSheet else model).inflight = model.inflight := by
    cases leaves <;> rfl
  generalize (if leaves then model.clearSheet else model) = left at sheet same ⊢
  have dropped : Change event model { left.core with
      inflight := model.inflight.map (Inflight.leftBy transportId) } [] := .dropped sheet
  rw [← same] at dropped
  split
  case isTrue =>
    unfold stopPresubmitInflight
    split
    case isTrue before =>
      obtain ⟨gone, running, stage⟩ := Option.any_eq_true _ _ |>.mp before
      obtain ⟨fl, was, rfl⟩ := Option.map_eq_some_iff.mp running
      have stays : (Inflight.leftBy transportId fl).stage = fl.stage := by
        unfold Inflight.leftBy
        split <;> rfl
      have stopped : Change event model left.core.stopped [] :=
        .droppedStopped (same ▸ was) (stays ▸ stage) sheet
      exact stopped
    case isFalse => exact dropped
  case isFalse => exact dropped

theorem accept_change [SignRuntime] {result : SignShellResult} {next : Model × Cmd}
    (accepted : accept result model = .ok next) :
    Does (.shellCompleted model.attempt result) model next := by
  unfold accept at accepted
  split at accepted
  case _ =>
    cases accepted
    exact .accountSwitched rfl
  case _ =>
    cases accepted
    exact .kept
  case _ =>
    cases accepted
    exact .kept
  case _ id round =>
    cases accepted
    exact onSimDeadline_cases id round
  case _ =>
    cases accepted
    exact onRecordPersisted_cases
  case _ => exact onPrecheck_cases accepted
  case _ => exact onSponsorship_cases accepted
  case _ =>
    cases accepted
    exact onSubmit_cases

theorem shellCompleted_change [SignRuntime] {attempt : Nat} {result : SignShellResult}
    {next : Model × Cmd} (completed : shellCompleted attempt result model = .ok next) :
    Does (.shellCompleted attempt result) model next := by
  unfold shellCompleted at completed
  split at completed
  case isTrue =>
    cases completed
    exact .kept
  case isFalse taken =>
    by_cases current : attempt = model.attempt
    · subst current
      exact accept_change completed
    · have own : result.ownCorrelation = true := by_contra fun other => taken ⟨current, other⟩
      cases result
      case accountSwitched =>
        cases completed
        exact .accountSwitched rfl
      case simVerdictTimerFired id round =>
        cases completed
        exact onSimDeadline_cases id round
      all_goals contradiction

theorem update_change [SignRuntime] {next : Model × Cmd} (updated : update event model = .ok next) :
    Does event model next := by
  cases event with
  | inFlightOps =>
    unfold update at updated
    dsimp only at updated
    split at updated
    all_goals
      cases updated
      exact .kept
  | requestArrived => exact onRequestArrived_cases updated
  | approveTapped => exact approveTapped_cases updated
  | fundingCompleteTapped => exact fundingComplete_cases updated
  | shellCompleted => exact shellCompleted_change updated
  | chainSwitchRequested id transportId param =>
    cases updated
    exact onChainSwitch_cases id transportId param
  | opSubmitted id userOpHash nowMs maybeSent submitBlock =>
    cases updated
    exact onOpSubmitted_cases id userOpHash nowMs maybeSent submitBlock
  | opSigned id userOpHash submitBlock nowMs =>
    cases updated
    exact onOpSigned_cases id userOpHash submitBlock nowMs
  | opTracked userOpHash status txHash refusal =>
    cases updated
    exact onOpTracked_cases userOpHash status txHash refusal
  | ceremonyStarted id =>
    cases updated
    exact onCeremony_cases id .up
  | ceremonyDone id =>
    cases updated
    exact onCeremony_cases id .done
  | simStarted id =>
    cases updated
    exact onSimStarted_cases id
  | simSettled id =>
    cases updated
    exact onSimSettled_cases id
  | transportDropped transportId =>
    cases updated
    exact transportDropped_cases transportId
  | rejectTapped =>
    cases updated
    exact reject_cases
  | dismissTapped =>
    cases updated
    exact dismiss_cases
  | retryTapped =>
    cases updated
    exact retry_cases
  | swipeDismissed =>
    cases updated
    exact swipeDismissed_cases
  | fundingCancelled =>
    cases updated
    exact fundingCancel_cases (.inl rfl)
  | networksChanged =>
    cases updated
    exact .kept
  | accountsChanged =>
    cases updated
    exact .accountsListed rfl

end Cases

end VelaWallet.SignRequest
