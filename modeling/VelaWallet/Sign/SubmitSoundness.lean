import VelaWallet.Sign.Runs

/-!
# The account the guard judges

The submit chokepoint asks the self-call guard about the account in front, and signs
with the account the approve tap captured.
-/

namespace VelaWallet.SignRequest

open Json (Value fromStr)
open SelfCallGuard (enforceNoSelfCall)

section Judged

variable [SignRuntime]

def Judged : SignOperation → Prop
  | .signAndSubmit _ method paramsJson _ address _ _ _ _ =>
    ((fromStr paramsJson).map fun params => enforceNoSelfCall method (some params) address) =
      some (.ok (.ok ()))
  | _ => True

instance (operation : SignOperation) : Decidable (Judged operation) := by
  cases operation <;> unfold Judged <;> infer_instance

end Judged

/-- The pipeline waits for a sponsorship it asked for before its submit. -/
def Stage.isSponsoring : Stage → Bool
  | sponsoring _ => true
  | _ => false

/-- The pipeline an answer lets go on to its submit. -/
def letOn (event : Event) (model : Model) : Option Inflight :=
  match event with
  | .shellCompleted attempt (.preCheck none) =>
    model.inflight.filter fun fl => attempt == model.attempt && fl.stage == .precheck
  | .shellCompleted attempt (.sponsorship .funded) =>
    model.inflight.filter fun fl =>
      attempt == model.attempt && fl.stage.isSponsoring && model.shows fl.id
  | _ => none

/-- The pipeline a check lets go on is of the account in front. -/
def inFront (event : Event) (model : Model) : Bool :=
  (letOn event model).all (·.address == activeAddress model)

section Submits

variable {event : Event} {model : Model} {fl : Inflight}

theorem letOn_of_letsSubmit (running : model.inflight = some fl)
    (lets : LetsSubmit model fl event) : letOn event model = some fl := by
  cases lets
  case prechecked stage => simp [letOn, running, stage]
  case sponsored stage shown =>
    simp [letOn, running, stage, shown, Stage.isSponsoring]

theorem judged_of_passes [SignRuntime] (passes : GuardPasses model fl)
    (front : fl.address = activeAddress model) : Judged fl.submit := by
  obtain ⟨params, parsed, passed⟩ := passes
  rw [← front] at passed
  simp [Judged, Inflight.submit, parsed, passed]

theorem Starts.address [SignRuntime] {opts : SignApproveOpts} {core : Core} {pending : Pending}
    (starts : Starts model event opts core pending fl) : fl.address = activeAddress model := by
  obtain ⟨signer, chainId, params, inFront, _, rfl⟩ := starts.captured
  simp [activeAddress, inFront, pipelineOf]

theorem judged_of_unsubmitting [SignRuntime] {operation : SignOperation}
    (other : operation.submitsFor = none) : Judged operation := by
  cases operation
  case signAndSubmit => contradiction
  all_goals trivial

theorem step_judged [SignRuntime] {next : Model} {issued : List (Nat × SignOperation)}
    (front : inFront event model = true)
    (stepped : signing.step event model = some (next, issued)) :
    ∀ operation ∈ issued.map (·.2), Judged operation := by
  intro operation member
  rcases (signing_change stepped).submits_cases with quiet | ⟨fl, rfl, passes, by_⟩
  · exact judged_of_unsubmitting (quiet operation member)
  · rw [map_snd_under, List.mem_singleton] at member
    subst member
    generalize next.core = core at by_
    cases by_
    case tap starts => exact judged_of_passes passes starts.address
    case check running lets =>
      rw [inFront, letOn_of_letsSubmit running lets, Option.all_some, beq_iff_eq] at front
      exact judged_of_passes passes front

/-- Every submit of a run passes the guard for its own account and params, when every
check that lets a pipeline go on comes with the pipeline's account in front. -/
theorem submits_judged [SignRuntime] {history : List (Event × List (Nat × SignOperation))}
    (run : signing.Run inFront history model) :
    ∀ operation ∈ handedOut history, Judged operation := by
  refine run.invariant (fun history _ => ∀ operation ∈ handedOut history,
    Judged operation) (by simp) ?_
  intro history event state next issued fits stepped judged operation member
  rw [handedOut_append, List.mem_append] at member
  rcases member with earlier | now
  · exact judged operation earlier
  · exact step_judged fits stepped operation now

end Submits

def sampleOwner : SignAccountRef := ⟨"0xaaaaaaaaaaaaaaaaaaaaaaaaaaaaaaaaaaaaaaaa", "owner"⟩

def sampleOther : SignAccountRef := ⟨"0xbbbbbbbbbbbbbbbbbbbbbbbbbbbbbbbbbbbbbbbb", "other"⟩

/-- A site asks the owner's account to enable a module. -/
def moduleParams : Value :=
  .array [.object [("data", .string "0x610b5925"), ("to", .string sampleOwner.address)]]

def moduleText : String :=
  "[\x7b\"data\":\"0x610b5925\",\"to\":\"" ++ sampleOwner.address ++ "\"\x7d]"

@[reducible] def moduleRuntime : SignRuntime := sampleRuntime [(moduleText, moduleParams)]

/-- The request of a site that wants a transaction sent. -/
def sampleArrival (id paramsJson : String) : Arrival where
  id := id
  method := "eth_sendTransaction"
  paramsJson := paramsJson
  origin := "https://site.example"
  transportId := "page"
  nowMs := 0

def sampleFunding : SignFundingNeeded :=
  ⟨"0xdddddddddddddddddddddddddddddddddddddddd", "0xeeeeeeeeeeeeeeeeeeeeeeeeeeeeeeeeeeeeeeee",
    1, "ETH", "10", "20", "0"⟩

/-- The request arrives and is approved with `front` in front; the pre-check answers
with the accounts as `later` leaves them. -/
def checkedWith (front later : UInt32) : List Event :=
  [.accountsChanged [sampleOwner, sampleOther] front,
    .requestArrived (sampleArrival "1" moduleText),
    .approveTapped {},
    .accountsChanged [sampleOwner, sampleOther] later,
    .shellCompleted 0 (.preCheck none)]

theorem moduleSubmit_unjudged : ∃ history model,
    (@signing moduleRuntime).Run Process.unrestricted history model ∧
      ∃ operation ∈ handedOut history, ¬ @Judged moduleRuntime operation := by
  have played : ((@signing moduleRuntime).play Process.unrestricted (checkedWith 0 1)).any
      (fun reached => (handedOut reached.1).any fun operation =>
        !decide (@Judged moduleRuntime operation)) = true := by decide +kernel
  obtain ⟨history, model, run, unjudged⟩ := Process.exists_run_of_play played
  refine ⟨history, model, run, ?_⟩
  simpa using unjudged

theorem submits_judged_sameAccount : ∃ history model,
    (@signing moduleRuntime).Run inFront history model ∧
      (handedOut history).any (·.submitsFor.isSome) = true ∧
      ∀ operation ∈ handedOut history, @Judged moduleRuntime operation := by
  have played : ((@signing moduleRuntime).play inFront (checkedWith 1 1)).any
      (fun reached => (handedOut reached.1).any (·.submitsFor.isSome)) = true := by decide +kernel
  obtain ⟨history, model, run, submits⟩ := Process.exists_run_of_play played
  exact ⟨history, model, run, submits, @submits_judged model moduleRuntime history run⟩

end VelaWallet.SignRequest
