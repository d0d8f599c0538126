import VelaWallet.Send.QuietAnswers

/-!
# When the receipt tells something else

The lines of the receipt are written by the answer of a submit, forgotten by the next confirm and
dropped when the screen is opened again.  The updates about an operation leave them as they are.
-/

namespace VelaWallet.Send

open FeePolicy

@[simp] theorem all_cons_fst (update : Model → Model × Cmd) (updates : List (Model → Model × Cmd))
    (model : Model) : (all (update :: updates) model).1 = (all updates (update model).1).1 := rfl

variable (model : Model)

@[simp] theorem all_nil_fst : (all [] model).1 = model := rfl

@[simp] theorem done_fst : (done model).1 = model := rfl

@[simp] theorem render_fst : (render model).1 = model := rfl

@[simp] theorem dropForeignRelayStops_told : (dropForeignRelayStops model).told = model.told := by
  unfold dropForeignRelayStops
  dsimp only
  split <;> rfl

theorem cancelSigning_told : (cancelSigning model).1.told = model.told := by
  unfold cancelSigning
  split
  · rfl
  · split <;> rfl

section

variable (model : Model)

theorem opSigned_told (userOpHash : String) (submitBlock : Option UInt64) (nowMs : Float) :
    (opSigned userOpHash submitBlock nowMs model).1.told = model.told := by
  unfold opSigned
  split
  · split <;> rfl
  · rfl

@[simp] theorem withdrawWriteAhead_told (pipelineId : Nat) :
    (withdrawWriteAhead pipelineId model).1.told = model.told := by
  unfold withdrawWriteAhead
  split <;> rfl

theorem recordsPersisted_told (id : Nat) :
    (recordsPersisted id model).1.told = model.told := by
  unfold recordsPersisted
  split
  · rfl
  · split
    · rfl
    · dsimp only
      split <;> rfl

@[simp] theorem announceSubmitted_told (maybeSent : Bool) :
    (announceSubmitted maybeSent model).1.told = model.told := by
  unfold announceSubmitted
  dsimp only
  split <;> rfl

@[simp] theorem handOver_told (written : WriteAhead) (chainId : UInt32) (maybeSent : Bool)
    (submitBlock : Option UInt64) :
    (handOver written chainId maybeSent submitBlock model).1.told = model.told := by
  unfold handOver
  dsimp only
  split <;> rfl

@[simp] theorem persistSubmitted_told (lines : List SendLine) (chainId : UInt32)
    (userOpHash : String) (nowMs : Float) (maybeSent : Bool) (submitBlock : Option UInt64) :
    (persistSubmitted lines chainId userOpHash nowMs maybeSent submitBlock model).1.told =
      model.told := rfl

theorem failureProbe_told (gen : Nat) (fallback : FailureFallback) :
    (failureProbe gen fallback model).1.told = model.told := by
  unfold failureProbe
  split <;> rfl

theorem submitFailed_told (gen : Nat) (failure : SendSubmitFailure) :
    (submitFailed gen failure model).1.told = model.told := by
  unfold submitFailed
  split
  · rfl
  · exact failureProbe_told _ _ _
  · exact failureProbe_told _ _ _
  · rfl
  · rfl
  · rfl

theorem submitFailedAnswer_told (id : Nat) (failure : SendSubmitFailure) :
    (submitFailedAnswer id failure model).1.told = model.told := by
  unfold submitFailedAnswer acceptSubmitFailed
  split
  · rfl
  · split
    · split
      · rfl
      · simp only [all_cons_fst, all_nil_fst, submitFailed_told, withdrawWriteAhead_told]
        rfl
    · rfl

end

/-- The event starts over: `Open`, or the scan of a full request. -/
def reopens (event : Event) (model : Model) : Bool :=
  match event with
  | .openScreen .. => true
  | .scanResolved (.request _ (some _) _ _) => !model.form.splitMode
  | _ => false

/-- What an event does to the lines of the receipt. -/
inductive Retells (event : Event) (before after : Model) : Prop where
  | kept (same : after.told = before.told)
  | begun (free : before.lock.held = false) (taken : after.lock.held = true)
  | reopened (reopening : reopens event before = true)
  | answered {id : Nat} {userOpHash : String} {nowMs : Float} {maybeSent : Bool}
      {submitBlock : Option UInt64}
      (named : event = .shellCompleted id (.submitted userOpHash nowMs maybeSent submitBlock))
      (waiting : before.pipeline.submitId = some id)

variable {event : Event}

theorem startConfirm_retells (account : SendAccountRef) (model : Model) :
    Retells event model (startConfirm account model).1 := by
  unfold startConfirm
  split
  · exact .kept rfl
  · next lock begun =>
      have free : model.lock.held = false := by
        unfold ReentryLock.begin? at begun
        split at begun
        · cases begun
        · next free => exact Bool.eq_false_of_not_eq_true free
      have taken : lock.held = true := by
        unfold ReentryLock.begin? at begun
        rw [free] at begun
        cases begun
        rfl
      apply Retells.begun free
      dsimp only
      split
      · unfold submitTreasuryRecheck
        split
        · exact taken
        · exact taken
      · exact taken

theorem slideConfirm_retells [Runtime] : Retells event model (slideConfirm model).1 := by
  unfold slideConfirm
  split
  · exact .kept rfl
  · split
    · split
      · exact .kept (editAmount_quiet model : Hushed (fun _ => True) True _ _).told
      · split
        · exact .kept rfl
        · exact startConfirm_retells _ _
    · exact .kept rfl

theorem confirmTapped_retells [Runtime] (review : Option String) (model : Model) :
    Retells event model (confirmTapped review model).1 := by
  unfold confirmTapped
  split
  · split
    · exact slideConfirm_retells _
    · exact .kept rfl
  · exact slideConfirm_retells _

theorem retryAfterBootstrap_retells [Runtime] :
    Retells event model (retryAfterBootstrap model).1 := by
  unfold retryAfterBootstrap resumeFlow
  split
  · exact .kept (handleContinue_quiet fun _ => trivial : Hushed (fun _ => True) True _ _).told
  · rcases (slideConfirm_retells (clearRelayStops model) : Retells event _ _) with
      same | ⟨free, taken⟩ | reopening | ⟨named, waiting⟩
    · exact .kept same
    · exact .begun free taken
    · exact .reopened reopening
    · exact .answered named waiting
  · exact .kept rfl

theorem submitted_retells {id : Nat} {userOpHash : String} {nowMs : Float} {maybeSent : Bool}
    {submitBlock : Option UInt64}
    (named : event = .shellCompleted id (.submitted userOpHash nowMs maybeSent submitBlock)) :
    Retells event model (submitted id userOpHash nowMs maybeSent submitBlock model).1 := by
  by_cases waiting : model.pipeline.submitId = some id
  · exact .answered named waiting
  · apply Retells.kept
    unfold submitted acceptSubmitted
    split
    · next expect gen chainId lines slot =>
        split
        · rfl
        · next same =>
            have slot : model.pipeline = .submitting expect gen chainId lines := slot
            rw [slot] at waiting
            exact absurd (congrArg some (Decidable.not_not.mp same)) waiting
    · rfl

end VelaWallet.Send
