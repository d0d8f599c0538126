import VelaWallet.Sign.SubmitSoundness

/-!
# What a funding retry replays

The options the funding view's Continue approves with, against those of the tap that
started the pipeline it was opened for.
-/

namespace VelaWallet.SignRequest

open Json (fromStr)

variable {fl : Inflight}

/-! ## What leaves the taps alone -/

structure Core.Calm (before after : Core) : Prop where
  options : after.lastOpts = before.lastOpts
  started : after.inflight.isSome = true → before.inflight.isSome = true
  funded : after.funding.isSome = true →
    before.funding.isSome = true ∧ after.fundingPinnedRid = before.fundingPinnedRid ∧
      after.pending.map (·.id) = before.pending.map (·.id)

namespace Core.Calm

variable {first second third core : Core}

theorem front (front : Front) : Calm core { core with front } where
  options := rfl
  started running := running
  funded up := ⟨up, rfl, rfl⟩

theorem refl : Calm core core where
  options := rfl
  started running := running
  funded up := ⟨up, rfl, rfl⟩

theorem trans (left : Calm first second) (right : Calm second third) : Calm first third where
  options := right.options.trans left.options
  started running := left.started (right.started running)
  funded up := by
    obtain ⟨up, pinned, shown⟩ := right.funded up
    obtain ⟨up, pinned', shown'⟩ := left.funded up
    exact ⟨up, pinned.trans pinned', shown.trans shown'⟩

theorem unfunded : Calm core core.unfunded where
  options := rfl
  started running := running
  funded up := by contradiction

theorem cleared : Calm core core.cleared where
  options := rfl
  started running := running
  funded up := by contradiction

theorem clearedIf (id : String) : Calm core (core.clearedIf id) := by
  unfold Core.clearedIf
  split
  · exact cleared
  · exact refl

theorem ended : Calm core core.ended where
  options := rfl
  started running := by contradiction
  funded up := ⟨up, rfl, rfl⟩

theorem stopped : Calm core core.stopped where
  options := rfl
  started running := by contradiction
  funded up := ⟨up, rfl, rfl⟩

theorem stoppedFor (id : String) : Calm core (core.stoppedFor id) := by
  unfold Core.stoppedFor
  split
  · exact stopped
  · exact refl

theorem settle (id : String) (outcome : SignSettledOutcome) : Calm core (core.settle id outcome) where
  options := rfl
  started running := running
  funded up := ⟨up, rfl, rfl⟩

theorem inflight (running : core.inflight = some fl) (inflight : Option Inflight) :
    Calm core { core with inflight } where
  options := rfl
  started _ := by rw [running]; rfl
  funded up := ⟨up, rfl, rfl⟩

theorem recorded {fl : Inflight} (running : core.inflight = some fl) (id : String)
    (outcome : SignSettledOutcome) (inflight : Option Inflight) :
    Calm core { core.settle id outcome with inflight } where
  options := rfl
  started _ := by rw [running]; rfl
  funded up := ⟨up, rfl, rfl⟩

theorem marked (mark : Inflight → Inflight) :
    Calm core { core with inflight := core.inflight.map mark } where
  options := rfl
  started running := by simpa using running
  funded up := ⟨up, rfl, rfl⟩

theorem pending {pending changed : Pending} (shown : core.pending = some pending)
    (same : changed.id = pending.id) : Calm core { core with pending := some changed } where
  options := rfl
  started running := running
  funded up := ⟨up, rfl, by simp [shown, same]⟩

theorem sheet (pending : Option Pending) : Calm core { core.unfunded with pending } where
  options := rfl
  started running := running
  funded up := by contradiction

end Core.Calm

section Cases

variable {event : Event} {model : Model} {issued : List (Nat × SignOperation)}

theorem Written.calm {outcome : SignSubmitOutcome} {next : Inflight} {before core : Core}
    {operations : List SignOperation} (running : before.inflight = some fl)
    (written : Written outcome fl before next core operations) : before.Calm core := by
  cases written
  case kept => exact .refl
  case adopted => exact .inflight running _
  case withdrawn =>
    exact {
      options := rfl
      started := fun _ => by rw [running]; rfl
      funded := fun up => ⟨up, rfl, rfl⟩ }

theorem Submitted.calm {core : Core} {operations : List SignOperation}
    {outcome : SignSubmitOutcome} (submitted : Submitted model event fl core operations outcome) :
    model.core.Calm core := by
  obtain ⟨_, _, _, _, running, _, written, _⟩ := submitted
  exact written.calm running

/-- A pipeline of the request, as a tap with the options starts it. -/
def PipelineOf [SignRuntime] (model : Model) (pending : Pending) (opts : SignApproveOpts)
    (fl : Inflight) : Prop :=
  ∃ signer chainId params stage, model.activeAccount = some signer ∧
    fromStr (opts.paramsOverrideJson.getD pending.paramsJson) = some params ∧
    fl = { pipelineOf pending opts signer chainId
      (opts.paramsOverrideJson.getD pending.paramsJson) params with stage }

/-- What a change does to the taps: nothing; a tap is remembered and ignored; everything
is over; a tap starts its pipeline; or the pipeline goes to the funding view. -/
inductive TapCase [SignRuntime] (event : Event) (model : Model) : Core → Prop where
  | calm {core : Core} (calm : model.core.Calm core) : TapCase event model core
  | ignored {opts : SignApproveOpts} (named : event = .approveTapped opts) :
      TapCase event model { model.core with lastOpts := some opts }
  | finished {core : Core} (idle : core.inflight = none) (unfunded : core.funding = none) :
      TapCase event model core
  | starts {opts : SignApproveOpts} {core : Core} {pending : Pending} {fl : Inflight}
      (takes : Takes model event opts core pending) (pipeline : PipelineOf model pending opts fl) :
      TapCase event model { core with inflight := some fl }
  | funding {fl : Inflight} {funding : FundingState} (running : model.inflight = some fl)
      (shown : model.shows fl.id = true) :
      TapCase event model { model.core.ended with
        funding := some funding
        fundingPinnedRid := some fl.id }

theorem Starts.pipeline [SignRuntime] {opts : SignApproveOpts} {core : Core} {pending : Pending}
    (starts : Starts model event opts core pending fl) (stage : Stage) :
    PipelineOf model pending opts { fl with stage } := by
  obtain ⟨signer, chainId, params, account, parsed, rfl⟩ := starts.captured
  exact ⟨signer, chainId, params, stage, account, parsed, rfl⟩

theorem Change.tap_cases [SignRuntime] {core : Core} (change : Change event model core issued) :
    TapCase event model core := by
  cases change
  case kept | switchAnswered => exact .calm .refl
  case unfunded | arrivalRefused => exact .calm .unfunded
  case accountsListed | accountSwitched => exact .calm (.front _)
  case arrivalShown => exact .calm (.trans (.sheet _) (.front _))
  case switchCancelled => exact .calm (.trans (.stoppedFor _) .cleared)
  case tapped tapped =>
    cases tapped
    case approve => exact .ignored rfl
    case again => exact .calm .unfunded
  case refusedTap takes | startedFailed takes => exact .finished takes.inflight takes.unfunded
  case started starts _ =>
    obtain ⟨signer, chainId, params, account, parsed, rfl⟩ := starts.captured
    exact .starts starts.toTakes ⟨signer, chainId, params, .precheck, account, parsed, rfl⟩
  case startedSubmit starts _ => exact .starts starts.toTakes (starts.pipeline .submitting)
  case sponsoring running _ | submits running _ _ | signed running _
      | submittedAhead running _ _ _ | submittedAfresh running _ | prompted running
      | postCleared running _ _ _ _ => exact .calm (.inflight running _)
  case failedShown shown _ _ => exact .calm (.trans .ended (.pending shown rfl))
  case failedAnswered => exact .calm .ended
  case fundingWait running _ shown _ => exact .funding running shown
  case batchAnswered | trackedAnswered =>
    exact .calm (.trans (.settle _ _) (.trans .stopped (.clearedIf _)))
  case trackedHeld shown _ =>
    exact .calm (.trans (.settle _ _) (.trans .stopped (.pending shown rfl)))
  case submitQuiet submitted | submitFailedAnswered submitted _ =>
    exact .calm (submitted.calm.trans .ended)
  case submitRefused submitted _ =>
    exact .calm (submitted.calm.trans (.trans .ended (.settle _ _)))
  case submitGone submitted => exact .calm (submitted.calm.trans (.trans .ended (.clearedIf _)))
  case submitAnswered submitted _ _ =>
    exact .calm (submitted.calm.trans (.trans (.settle _ _) (.trans .ended (.clearedIf _))))
  case submitRecorded submitted _ _ =>
    exact .calm (submitted.calm.trans (.recorded submitted.inflight _ _ _))
  case submitUnderfunded submitted =>
    exact .calm (submitted.calm.trans (.inflight submitted.inflight _))
  case submitFailedShown submitted shown _ =>
    exact .calm (submitted.calm.trans (.trans .ended
      (.pending (submitted.pending.trans shown) rfl)))
  case recordAnswered => exact .calm (.trans .ended (.clearedIf _))
  case rejected =>
    exact .calm (.trans (.settle _ _) (.trans (.stoppedFor _) .cleared))
  case dismissed => exact .calm .cleared
  case retried shown _ | simStarted shown _ | simEnded shown _ => exact .calm (.pending shown rfl)
  case fundingCancelled => exact .calm (.sheet _)
  case dropped sheet =>
    rcases sheet with rfl | rfl
    · exact .calm (.marked _)
    · exact .calm (.trans .cleared (.marked _))
  case droppedStopped sheet =>
    rcases sheet with rfl | rfl
    · exact .calm .stopped
    · exact .calm (.trans .cleared .stopped)

end Cases

/-- The options of the tap behind the running pipeline, and the request sent to the
funding view with the options of the tap behind its pipeline. -/
structure Taps where
  running : Option SignApproveOpts := none
  parked : Option (String × SignApproveOpts) := none

/-- A pipeline starts by a tap's own options, or by those of the one sent to the funding
view; the one sent there is remembered with its options. -/
def Taps.observe (taps : Taps) (before : Model) (event : Event) (after : Model)
    (_ : List (Nat × SignOperation)) : Taps where
  running :=
    if before.inflight.isNone && after.inflight.isSome then
      match event with
      | .approveTapped opts => some opts
      | .fundingCompleteTapped => taps.parked.map (·.2)
      | _ => none
    else taps.running
  parked :=
    if before.funding.isNone && after.funding.isSome then
      before.inflight.bind fun fl => taps.running.map (fl.id, ·)
    else taps.parked

/-- The signing machine with its taps remembered. -/
@[reducible] def tapped [SignRuntime] :
    Process (Model × Taps) Event (List (Nat × SignOperation)) :=
  signing.watching {} Taps.observe

/-- A tap that comes while a pipeline runs or the funding view is up carries the options
saved already. -/
def keepsOptions (event : Event) (watched : Model × Taps) : Bool :=
  match event with
  | .approveTapped opts =>
    (watched.1.inflight.isNone && watched.1.funding.isNone) || watched.1.lastOpts == some opts
  | _ => true

/-- The saved options are those of the pipeline's tap, also while its request waits in the
funding view. -/
structure Remembers (taps : Taps) (core : Core) : Prop where
  running : core.inflight.isSome = true →
    ∃ opts, taps.running = some opts ∧ core.lastOpts = some opts
  parked : core.funding.isSome = true → core.inflight = none ∧ ∃ pending opts,
    core.pending = some pending ∧ core.fundingPinnedRid = some pending.id ∧
      taps.parked = some (pending.id, opts) ∧ core.lastOpts = some opts

section Remembers

variable {event : Event} {model next : Model} {taps : Taps}
  {issued : List (Nat × SignOperation)}

theorem Remembers.idle {core : Core} (idle : core.inflight = none)
    (unfunded : core.funding = none) : Remembers taps core where
  running running := by simp [idle] at running
  parked up := by simp [unfunded] at up

theorem Taps.observe_running_of_running (running : model.inflight.isSome = true) :
    (taps.observe model event next issued).running = taps.running := by
  simp [observe, Option.isNone_eq_false_iff.mpr running]

theorem Taps.observe_parked_of_funded
    (kept : next.funding.isSome = true → model.funding.isSome = true) :
    (taps.observe model event next issued).parked = taps.parked := by
  unfold observe
  dsimp only
  split
  case isTrue opened =>
    rw [Bool.and_eq_true, Option.isNone_iff_eq_none] at opened
    have up := kept opened.2
    rw [opened.1] at up
    contradiction
  case isFalse => rfl

theorem Remembers.calm (remembers : Remembers taps model.core) (calm : model.core.Calm next.core) :
    Remembers (taps.observe model event next issued) next.core where
  running running := by
    have before := calm.started running
    obtain ⟨opts, ran, saved⟩ := remembers.running before
    refine ⟨opts, ?_, calm.options.trans saved⟩
    rw [Taps.observe_running_of_running before, ran]
  parked up := by
    obtain ⟨before, pinned, shown⟩ := calm.funded up
    obtain ⟨idle, pending, opts, here, pinnedBefore, parked, saved⟩ := remembers.parked before
    rw [here, Option.map_some, Option.map_eq_some_iff] at shown
    obtain ⟨changed, now, same⟩ := shown
    refine ⟨?_, changed, opts, now, ?_, ?_, calm.options.trans saved⟩
    · by_contra running
      have := calm.started (Option.isSome_iff_ne_none.mpr running)
      rw [idle] at this
      contradiction
    · rw [pinned, pinnedBefore, same]
    · rw [Taps.observe_parked_of_funded fun _ => before, parked, same]

theorem Remembers.tapped [SignRuntime] (remembers : Remembers taps model.core)
    {opts : SignApproveOpts} {core : Core} {pending : Pending}
    (takes : Takes model event opts core pending) (running : next.inflight.isSome = true) :
    (taps.observe model event next issued).running = some opts ∧
      core.lastOpts = some opts ∧
      (event = .fundingCompleteTapped → taps.parked = some (pending.id, opts)) := by
  have free : model.inflight.isNone = true := by rw [takes.free]; rfl
  have shown := takes.shown
  have tapped := takes.tapped
  clear takes
  cases tapped
  case approve =>
    refine ⟨?_, rfl, fun named => ?_⟩
    · simp [Taps.observe, free, running]
    · contradiction
  case again funded _ =>
    obtain ⟨_, other, opts, here, _, parked, saved⟩ := remembers.parked funded
    obtain rfl := Option.some.inj (shown.symm.trans here)
    have same : model.lastOpts = some opts := saved
    refine ⟨?_, ?_, fun _ => ?_⟩
    · simp [Taps.observe, free, running, parked, same]
    · simp [Core.unfunded, Model.core, same]
    · rw [parked, same, Option.getD_some]

theorem Remembers.step [SignRuntime] (remembers : Remembers taps model.core)
    (fits : keepsOptions event (model, taps) = true) (tap : TapCase event model next.core) :
    Remembers (taps.observe model event next issued) next.core := by
  generalize after : next.core = core at tap
  cases tap
  case calm calm =>
    subst after
    exact remembers.calm calm
  case ignored opts named =>
    subst named
    -- what is saved changes only when nothing needs it
    rw [keepsOptions, Bool.or_eq_true, Bool.and_eq_true, Option.isNone_iff_eq_none,
      Option.isNone_iff_eq_none, beq_iff_eq] at fits
    rcases fits with ⟨idle, unfunded⟩ | saved
    · exact .idle idle unfunded
    · have same : next.core = model.core := by
        rw [after]
        show { model.core with lastOpts := some opts } = model.core
        rw [← saved]
        rfl
      rw [← after, same]
      exact same ▸ remembers.calm (same ▸ .refl)
  case finished idle unfunded => exact .idle idle unfunded
  case starts opts core pending fl takes _ =>
    have running : next.inflight.isSome = true := by
      rw [show next.inflight = some fl from congrArg Core.inflight after]
      rfl
    obtain ⟨ran, saved, _⟩ := @Remembers.tapped event model next taps issued _ remembers opts core
      pending takes running
    exact {
      running := fun _ => ⟨opts, ran, saved⟩
      parked := fun up => by
        rw [show core.funding = none from takes.unfunded] at up
        contradiction }
  case funding fl funding running shown =>
    obtain ⟨opts, ran, saved⟩ := remembers.running (by
      rw [show model.core.inflight = some fl from running]
      rfl)
    obtain ⟨pending, here, same⟩ := Model.shows_iff.mp shown
    have unfunded : model.funding = none := by
      by_contra up
      obtain ⟨idle, _⟩ := remembers.parked (Option.isSome_iff_ne_none.mpr up)
      rw [show model.core.inflight = some fl from running] at idle
      contradiction
    have up : next.funding = some funding := congrArg Core.funding after
    refine ⟨fun running => by contradiction, fun _ => ⟨rfl, pending, opts, here, ?_, ?_, saved⟩⟩
    · rw [same]
    · simp [Taps.observe, unfunded, up, running, ran, same]

end Remembers

section Continue

variable {model next : Model} {taps : Taps} {issued : List (Nat × SignOperation)}

theorem remembers_of_run [SignRuntime] {history : List (Event × List (Nat × SignOperation))}
    {watched : Model × Taps} (run : tapped.Run keepsOptions history watched) :
    Remembers watched.2 watched.1.core := by
  apply run.state_invariant (fun watched => Remembers watched.2 watched.1.core)
  · exact .idle rfl rfl
  · intro event before after issued fits stepped remembers
    obtain ⟨stepped, observed⟩ := Process.watching_step.mp stepped
    rw [observed]
    exact remembers.step fits (signing_change stepped).tap_cases

theorem continue_starts [SignRuntime]
    (stepped : signing.step .fundingCompleteTapped model = some (next, issued))
    (idle : model.inflight = none) (running : next.inflight = some fl) :
    ∃ opts core pending, Takes model .fundingCompleteTapped opts core pending ∧
      PipelineOf model pending opts fl := by
  have tap := (signing_change stepped).tap_cases
  generalize after : next.core = core at tap
  have runs : core.inflight = some fl := after ▸ running
  cases tap
  case calm calm =>
    have started := calm.started (by rw [runs]; rfl)
    rw [show model.core.inflight = none from idle] at started
    contradiction
  case ignored => contradiction
  case finished stopped _ =>
    rw [stopped] at runs
    contradiction
  case starts opts core pending _ takes pipeline =>
    cases runs
    exact ⟨opts, core, pending, takes, pipeline⟩
  case funding ran _ =>
    rw [idle] at ran
    contradiction

/-- When Continue starts a pipeline, it is for the request that was sent to the funding
view, with the options of the tap that started the pipeline sent there, as long as no tap
that comes while a pipeline runs or the funding view is up carries other options. -/
theorem continue_replays [SignRuntime] {history : List (Event × List (Nat × SignOperation))}
    (run : tapped.Run keepsOptions history (model, taps))
    (stepped : signing.step .fundingCompleteTapped model = some (next, issued))
    (idle : model.inflight = none) {fl : Inflight} (running : next.inflight = some fl) :
    ∃ pending opts, model.pending = some pending ∧ taps.parked = some (pending.id, opts) ∧
      PipelineOf model pending opts fl := by
  obtain ⟨opts, core, pending, takes, pipeline⟩ := continue_starts stepped idle running
  obtain ⟨_, _, parked⟩ := @Remembers.tapped .fundingCompleteTapped model next taps issued _
    (remembers_of_run run) opts core pending takes (by rw [running]; rfl)
  exact ⟨pending, opts, takes.shown, parked rfl, pipeline⟩

end Continue

theorem PipelineOf.unlimitedApproved [SignRuntime] {model : Model} {pending : Pending}
    {opts : SignApproveOpts} {fl : Inflight} (pipeline : PipelineOf model pending opts fl) :
    fl.unlimitedApproved = opts.unlimitedApproved := by
  obtain ⟨_, _, _, _, _, _, rfl⟩ := pipeline
  rfl

/-- The request is approved; a second tap comes while its pre-check is out; then the
funding view opens. -/
def fundedAfter (first second : SignApproveOpts) : List Event :=
  [.accountsChanged [sampleOwner, sampleOther] 1,
    .requestArrived (sampleArrival "1" moduleText),
    .approveTapped first,
    .approveTapped second,
    .shellCompleted 0 (.preCheck (some sampleFunding)),
    .shellCompleted 0 (.sponsorship (.denied none))]

/-- The pipeline Continue starts keeps an unlimited approval the parked tap did not
consent to. -/
def replaysUnlimited (watched : Model × Taps) : Bool :=
  watched.1.inflight.isNone &&
    ((@signing moduleRuntime).step .fundingCompleteTapped watched.1).any fun stepped =>
      stepped.1.inflight.any fun fl =>
        fl.unlimitedApproved && watched.2.parked.any fun parked => !parked.2.unlimitedApproved

theorem ignoredTap_replayed : ∃ history model taps next issued fl,
    (@tapped moduleRuntime).Run Process.unrestricted history (model, taps) ∧
      (@signing moduleRuntime).step .fundingCompleteTapped model = some (next, issued) ∧
      model.inflight = none ∧ next.inflight = some fl ∧
      ¬ ∃ pending opts, model.pending = some pending ∧ taps.parked = some (pending.id, opts) ∧
        @PipelineOf moduleRuntime model pending opts fl := by
  have played : ((@tapped moduleRuntime).play Process.unrestricted
      (fundedAfter {} { unlimitedApproved := true })).any
      (fun reached => replaysUnlimited reached.2) = true := by decide +kernel
  obtain ⟨history, ⟨model, taps⟩, run, replayed⟩ := Process.exists_run_of_play played
  simp only [replaysUnlimited, Bool.and_eq_true, Option.isNone_iff_eq_none,
    Option.any_eq_true] at replayed
  obtain ⟨idle, ⟨next, issued⟩, stepped, fl, running, kept, parked, sent, unasked⟩ := replayed
  refine ⟨history, model, taps, next, issued, fl, run, stepped, idle, running, ?_⟩
  rintro ⟨pending, opts, _, same, pipeline⟩
  obtain rfl := Option.some.inj (sent.symm.trans same)
  rw [@PipelineOf.unlimitedApproved moduleRuntime model pending _ fl pipeline] at kept
  simp [kept] at unasked

theorem continue_replays_denied : ∃ history model taps next issued fl,
    (@tapped moduleRuntime).Run keepsOptions history (model, taps) ∧
      (@signing moduleRuntime).step .fundingCompleteTapped model = some (next, issued) ∧
      next.inflight = some fl ∧
      ∃ pending opts, model.pending = some pending ∧ taps.parked = some (pending.id, opts) ∧
        @PipelineOf moduleRuntime model pending opts fl := by
  have played : ((@tapped moduleRuntime).play keepsOptions (fundedAfter {} {})).any
      (fun reached => reached.2.1.inflight.isNone &&
        ((@signing moduleRuntime).step .fundingCompleteTapped reached.2.1).any fun stepped =>
          stepped.1.inflight.isSome) = true := by decide +kernel
  obtain ⟨history, ⟨model, taps⟩, run, continued⟩ := Process.exists_run_of_play played
  simp only [Bool.and_eq_true, Option.isNone_iff_eq_none, Option.any_eq_true,
    Option.isSome_iff_exists] at continued
  obtain ⟨idle, ⟨next, issued⟩, stepped, fl, running⟩ := continued
  exact ⟨history, model, taps, next, issued, fl, run, stepped, running,
    @continue_replays model next taps issued moduleRuntime history run stepped idle fl running⟩

end VelaWallet.SignRequest
