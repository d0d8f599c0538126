import VelaWallet.Base.Process
import VelaWallet.Sign.EventCases

/-!
# The runs of the signing machine

The signing machine as a process: any events in any order, each with the operations it
hands out, and the events that hand out a submit.
-/

namespace VelaWallet.SignRequest

open Json (Value)
open SelfCallGuard (enforceNoSelfCall)

variable {fl : Inflight} {operations : List SignOperation} {operation : SignOperation}
  {outcome : SignSubmitOutcome} {core : Core}

@[reducible] def signing [SignRuntime] : Process Model Event (List (Nat × SignOperation)) where
  init := {}
  step event model :=
    (update event model).toOption.map fun next => (next.1, issuedBy next.2)

section Runs

variable {event : Event} {model next : Model} {issued : List (Nat × SignOperation)}

theorem signing_step [SignRuntime] :
    signing.step event model = some (next, issued) ↔
      ∃ cmd, update event model = .ok (next, cmd) ∧ issuedBy cmd = issued := by
  cases updated : update event model with
  | error => simp [updated, Except.toOption]
  | ok result =>
    obtain ⟨after, cmd⟩ := result
    simp only [updated, Except.toOption, Option.map_some, Option.some.injEq,
      Prod.mk.injEq, Except.ok.injEq]
    constructor
    · rintro ⟨rfl, rfl⟩
      exact ⟨cmd, ⟨rfl, rfl⟩, rfl⟩
    · rintro ⟨_, ⟨rfl, rfl⟩, rfl⟩
      exact ⟨rfl, rfl⟩

theorem signing_change [SignRuntime] (stepped : signing.step event model = some (next, issued)) :
    Change event model next.core issued := by
  obtain ⟨cmd, updated, rfl⟩ := signing_step.mp stepped
  exact update_change updated

def handedOut (history : List (Event × List (Nat × SignOperation))) : List SignOperation :=
  history.flatMap fun entry => entry.2.map (·.2)

@[simp] theorem handedOut_nil : handedOut [] = [] := rfl

@[simp] theorem handedOut_append
    (history : List (Event × List (Nat × SignOperation))) (event : Event)
    (issued : List (Nat × SignOperation)) :
    handedOut (history ++ [(event, issued)]) = handedOut history ++ issued.map (·.2) := by
  simp [handedOut]

/-- The JSON library's answers on the given texts, over the plain case table. -/
@[reducible] def sampleRuntime (texts : List (String × Value)) : SignRuntime where
  fromStr text := (texts.find? (·.1 == text)).map (·.2)
  toStr value := ((texts.find? (·.2 == value)).map (·.1)).getD ""
  toLowercase := Utf8.asciiCaseTable.toLowercase
  toLowercase_ascii := Utf8.asciiCaseTable.toLowercase_ascii
  hashTypedData _ := .error "no typed data"

def SignOperation.submitsFor : SignOperation → Option String
  | signAndSubmit id .. => some id
  | _ => none

def SignOperation.answersFor : SignOperation → Option String
  | sendResponse _ id _ => some id
  | _ => none

/-- The request whose bytes may leave. -/
def SignOperation.clearsFor : SignOperation → Option String
  | clearToPost id _ => some id
  | _ => none

@[simp] theorem mem_under {attempt : Nat} {entry : Nat × SignOperation} :
    entry ∈ under attempt operations ↔ entry.1 = attempt ∧ entry.2 ∈ operations := by
  obtain ⟨under_, operation⟩ := entry
  simp only [under, List.mem_map, Prod.mk.injEq]
  constructor
  · rintro ⟨_, member, rfl, rfl⟩
    exact ⟨rfl, member⟩
  · rintro ⟨rfl, member⟩
    exact ⟨operation, member, rfl, rfl⟩

@[simp] theorem map_snd_under (attempt : Nat) (operations : List SignOperation) :
    (under attempt operations).map (·.2) = operations := by simp [under]

def SignOperation.onRecords : SignOperation → Bool
  | persistRecord _ | updateRecord .. | deleteRecord _ => true
  | _ => false

theorem Written.onRecords {next : Inflight} {before : Core}
    (written : Written outcome fl before next core operations) :
    ∀ operation ∈ operations, operation.onRecords = true := by
  cases written
  case kept => simp
  case adopted patches =>
    rcases patches with rfl | rfl
    · simp
    · simp [SignOperation.onRecords]
  case withdrawn => simp [SignOperation.onRecords]

theorem Submitted.onRecords
    (submitted : Submitted model event fl core operations outcome) :
    ∀ operation ∈ operations, operation.onRecords = true := by
  obtain ⟨_, _, _, _, _, _, written, _⟩ := submitted
  exact written.onRecords

theorem closeFailed_onRecords (fl : Inflight) :
    ∀ operation ∈ closeFailed fl, operation.onRecords = true := by
  unfold closeFailed
  split <;> simp [SignOperation.onRecords]

theorem Pending.mem_owed {pending : Pending} (member : operation ∈ pending.owed) :
    ∃ payload, pending.held = some payload ∧ operation = pending.respond payload := by
  unfold Pending.owed at member
  split at member
  case _ payload held => exact ⟨payload, held, List.mem_singleton.mp member⟩
  case _ => contradiction

/-- Nothing here is a submit. -/
def Unsubmitting (operations : List SignOperation) : Prop :=
  ∀ operation ∈ operations, operation.submitsFor = none

@[simp] theorem unsubmitting_nil : Unsubmitting [] := by simp [Unsubmitting]

@[simp] theorem unsubmitting_cons {rest : List SignOperation} :
    Unsubmitting (operation :: rest) ↔ operation.submitsFor = none ∧ Unsubmitting rest := by
  simp [Unsubmitting]

@[simp] theorem unsubmitting_append {first second : List SignOperation} :
    Unsubmitting (first ++ second) ↔ Unsubmitting first ∧ Unsubmitting second := by
  simp only [Unsubmitting, List.mem_append, or_imp, forall_and]

theorem submitsFor_of_onRecords
    (records : operation.onRecords = true) : operation.submitsFor = none := by
  cases operation
  case signAndSubmit => contradiction
  all_goals rfl

theorem unsubmitting_of_onRecords (records : ∀ operation ∈ operations, operation.onRecords = true) :
    Unsubmitting operations :=
  fun operation member => submitsFor_of_onRecords (records operation member)

@[simp] theorem unsubmitting_closeFailed (fl : Inflight) : Unsubmitting (closeFailed fl) :=
  unsubmitting_of_onRecords (closeFailed_onRecords fl)

theorem Submitted.unsubmitting
    (submitted : Submitted model event fl core operations outcome) :
    Unsubmitting operations :=
  unsubmitting_of_onRecords submitted.onRecords

@[simp] theorem unsubmitting_owed (pending : Option Pending) :
    Unsubmitting ((pending.map Pending.owed).getD []) := by
  cases pending with
  | none => exact unsubmitting_nil
  | some =>
    intro operation member
    obtain ⟨payload, _, rfl⟩ := Pending.mem_owed member
    rfl

@[simp] theorem unsubmitting_switchAnswer (id transportId : Option String)
    (payload : SignResponsePayload) : Unsubmitting (switchAnswer id transportId payload) := by
  unfold switchAnswer
  split
  · exact unsubmitting_cons.mpr ⟨rfl, unsubmitting_nil⟩
  · exact unsubmitting_nil

@[simp] theorem unsubmitting_withdraw (ahead : Option WriteAhead) :
    Unsubmitting ((ahead.map fun wa => [SignOperation.deleteRecord wa.recordId]).getD []) := by
  cases ahead with
  | none => exact unsubmitting_nil
  | some => exact unsubmitting_cons.mpr ⟨rfl, unsubmitting_nil⟩

/-- How a submit goes out: at the tap that starts its pipeline, or when a check lets the
pipeline go on. -/
inductive SubmitsBy [SignRuntime] (event : Event) (model : Model) (fl : Inflight) : Core → Prop
    where
  | tap {opts : SignApproveOpts} {core : Core} {pending : Pending}
      (starts : Starts model event opts core pending fl) :
      SubmitsBy event model fl { core with inflight := some { fl with stage := .submitting } }
  | check (running : model.inflight = some fl) (answered : LetsSubmit model fl event) :
      SubmitsBy event model fl
        { model.core with inflight := some { fl with stage := .submitting } }

theorem Change.submits_cases [SignRuntime] (change : Change event model core issued) :
    Unsubmitting (issued.map (·.2)) ∨
      ∃ fl, issued = under model.attempt [fl.submit] ∧ GuardPasses model fl ∧
        SubmitsBy event model fl core := by
  cases change
  case startedSubmit starts passes => exact .inr ⟨_, rfl, passes, .tap starts⟩
  case submits running answered passes => exact .inr ⟨_, rfl, passes, .check running answered⟩
  all_goals left
  case arrivalShown asks =>
    rcases asks with rfl | ⟨index, rfl⟩
    all_goals simp [SignOperation.submitsFor]
  case submittedAhead patches =>
    rcases patches with rfl | rfl
    all_goals simp [SignOperation.submitsFor]
  all_goals simp [SignOperation.submitsFor, Inflight.respond, Pending.respond, respondOp]
  all_goals exact Submitted.unsubmitting ‹_›

theorem Takes.inflight {opts : SignApproveOpts} {pending : Pending}
    (takes : Takes model event opts core pending) : core.inflight = none := by
  have free := takes.free
  have tapped := takes.tapped
  cases tapped
  · exact free
  · exact free

theorem Tapped.pending {opts : SignApproveOpts}
    (tapped : Tapped model event opts core) : core.pending = model.pending := by
  cases tapped <;> rfl

end Runs

end VelaWallet.SignRequest
