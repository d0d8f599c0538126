import Mathlib.Logic.Relation
import VelaWallet.Send.Machine

/-!
# Moves of the pipeline slot

One slot holds the estimate, the check or the confirm run in flight.  Every
update that signs, records and posts nothing moves the slot by the single moves
listed here; a move that takes the slot from a check or a run says so.
-/

namespace VelaWallet.Send

open FeePolicy
open SignedReview (Review)

variable {pipeline : Pipeline}

namespace Pipeline

def isPreCheck : Pipeline → Bool
  | preCheck .. => true
  | _ => false

/-- The generation of the confirm run the slot is part of. -/
def run : Pipeline → Option Nat
  | submitCredential _ gen | submitTreasury _ gen _ | submitting _ gen _ _ | failureProbe _ gen _ =>
    some gen
  | _ => none

/-- The generation of a confirm run that has handed nothing out yet. -/
def prepares : Pipeline → Option Nat
  | submitCredential _ gen | submitTreasury _ gen _ => some gen
  | _ => none

/-- The request whose answer the confirm run in the slot waits for. -/
def awaits : Pipeline → Option Nat
  | submitCredential id _ | submitTreasury id _ _ | submitting id _ _ _ | failureProbe id _ _ =>
    some id
  | _ => none

/-- Nothing that holds a flag or the lock is in the slot. -/
def isLoose (pipeline : Pipeline) : Bool := !pipeline.isPreCheck && pipeline.run.isNone

theorem submitId_of_loose (loose : pipeline.isLoose = true) :
    pipeline.submitId = none := by
  cases pipeline <;> first | rfl | cases loose

theorem run_of_prepares {gen : Nat} (prepares : pipeline.prepares = some gen) :
    pipeline.run = some gen := by
  cases pipeline <;> first | exact prepares | cases prepares

theorem submitId_of_prepares {gen : Nat}
    (prepares : pipeline.prepares = some gen) : pipeline.submitId = none := by
  cases pipeline <;> first | rfl | cases prepares

theorem submitId_of_preCheck (checking : pipeline.isPreCheck = true) :
    pipeline.submitId = none := by
  cases pipeline <;> first | rfl | cases checking

end Pipeline

/-- What is remembered of the payment: the slot with its flag and lock, and the
submits and records that are out. -/
structure Slot where
  pipeline : Pipeline
  lock : ReentryLock
  estimatingGas : Bool
  confirmedReview : Option Review
  withdrawn : Option Nat
  writeAhead : Option WriteAhead
  persist : Option (Nat × PersistCtx)

def Model.slot (model : Model) : Slot where
  pipeline := model.pipeline
  lock := model.lock
  estimatingGas := model.fees.estimatingGas
  confirmedReview := model.confirmedReview
  withdrawn := model.withdrawnSubmit
  writeAhead := model.writeAhead
  persist := model.flights.persist

/-- One move of the slot.  `taken` says what the slot holds where it is taken from
a check or a run that has not ended, and `ends` is the case where a run ends. -/
inductive Move (taken : Slot → Prop) (ends : Prop) : Slot → Slot → Prop where
  /-- A quote, a wait or nothing follows another. -/
  | quoted {slot : Slot} {target : Pipeline} (free : slot.pipeline.isLoose = true)
      (quote : target.isLoose = true) : Move taken ends slot { slot with pipeline := target }
  /-- A quote or a wait takes the slot from whatever is in it. -/
  | displaced {slot : Slot} {target : Pipeline} (takes : taken slot) (quote : target.isLoose = true) :
      Move taken ends slot { slot with pipeline := target }
  /-- A pre-check starts, from anything but a confirm run. -/
  | checking {slot : Slot} {target : Pipeline} (free : slot.pipeline.run.isSome = true → taken slot)
      (check : target.isPreCheck = true) :
      Move taken ends slot { slot with pipeline := target, estimatingGas := true }
  /-- The pre-check hears one of its answers. -/
  | heard {slot : Slot} {target : Pipeline} (was : slot.pipeline.isPreCheck = true)
      (check : target.isPreCheck = true) : Move taken ends slot { slot with pipeline := target }
  /-- The pre-check is over. -/
  | checked {slot : Slot} {target : Pipeline} (was : slot.pipeline.isPreCheck = true)
      (quote : target.isLoose = true) :
      Move taken ends slot { slot with pipeline := target, estimatingGas := false }
  /-- A confirm takes the lock and freezes its review. -/
  | begun {slot : Slot} {target : Pipeline} {lock : ReentryLock} {gen : Nat}
      {review : Option Review} (locks : slot.lock.begin? = some (gen, lock))
      (quiet : slot.estimatingGas = false) (run : target.prepares = some gen) :
      Move taken ends slot { slot with pipeline := target, lock, confirmedReview := review }
  /-- The run goes on to its next check. -/
  | rechecked {slot : Slot} {target : Pipeline} {gen : Nat}
      (was : slot.pipeline.prepares = some gen) (run : target.prepares = some gen) :
      Move taken ends slot { slot with pipeline := target }
  /-- The run ends with nothing signed. -/
  | ended {slot : Slot} {gen : Nat} {review : Option Review} (finished : ends)
      (was : slot.pipeline.run = some gen)
      (unsigned : slot.pipeline.submitId = none) :
      Move taken ends slot { slot with
        pipeline := .idle, lock := slot.lock.endRun gen, confirmedReview := review }

/-- What no move touches; a submit only ever leaves the slot. -/
structure Slot.Untouched (before after : Slot) : Prop where
  submit : after.pipeline = before.pipeline ∨ after.pipeline.submitId = none
  withdrawn : after.withdrawn = before.withdrawn
  writeAhead : after.writeAhead = before.writeAhead
  persist : after.persist = before.persist

theorem Move.untouched {taken : Slot → Prop} {ends : Prop} {before after : Slot} (move : Move taken ends before after) :
    before.Untouched after := by
  cases move with
  | quoted _ quote | displaced _ quote | checked _ quote =>
    exact ⟨Or.inr (Pipeline.submitId_of_loose quote), rfl, rfl, rfl⟩
  | checking _ check | heard _ check =>
    exact ⟨Or.inr (Pipeline.submitId_of_preCheck check), rfl, rfl, rfl⟩
  | begun _ _ run | rechecked _ run =>
    exact ⟨Or.inr (Pipeline.submitId_of_prepares run), rfl, rfl, rfl⟩
  | ended => exact ⟨Or.inr rfl, rfl, rfl, rfl⟩

/-! ## Updates that only move the slot -/

/-- From one model to the other the slot only moves. -/
structure Kept (taken : Slot → Prop) (ends : Prop) (before after : Model) : Prop where
  counted : before.attempt ≤ after.attempt
  moved : Relation.ReflTransGen (Move taken ends) before.slot after.slot

theorem Kept.untouched {taken : Slot → Prop} {ends : Prop} {before after : Model}
    (kept : Kept taken ends before after) : before.slot.Untouched after.slot := by
  have moved := kept.moved
  generalize before.slot = first at moved ⊢
  generalize after.slot = last at moved ⊢
  induction moved with
  | refl => exact ⟨Or.inl rfl, rfl, rfl, rfl⟩
  | tail _ move ih =>
    have next := move.untouched
    refine ⟨?_, next.withdrawn.trans ih.withdrawn, next.writeAhead.trans ih.writeAhead,
      next.persist.trans ih.persist⟩
    rcases next.submit with same | emptied
    · rw [same]
      exact ih.submit
    · exact Or.inr emptied

/-- What the receipt tells of the payment. -/
def Model.told (model : Model) : Option (List SendLine) × Option SendLine :=
  (model.receipt.receiptLines, model.receipt.receiptSigned)

/-- From one model to the other the slot only moves, and the receipt tells the same. -/
structure Still (taken : Slot → Prop) (ends : Prop) (before after : Model) : Prop
    extends Kept taken ends before after where
  told : after.told = before.told

namespace Still

variable {taken : Slot → Prop} {ends : Prop} {first second third before after : Model}

theorem refl (model : Model) : Still taken ends model model := ⟨⟨Nat.le_refl _, .refl⟩, rfl⟩

theorem trans (left : Still taken ends first second) (right : Still taken ends second third) :
    Still taken ends first third where
  counted := Nat.le_trans left.counted right.counted
  moved := left.moved.trans right.moved
  told := right.told.trans left.told

theorem behind (right : Still taken ends second third) (left : Still taken ends first second) :
    Still taken ends first third :=
  left.trans right

theorem asks (count : Nat) (slot : after.slot = before.slot)
    (counted : after.attempt = before.attempt + count) (told : after.told = before.told) : Still taken ends before after where
  counted := by
    rw [counted]
    exact Nat.le_add_right _ _
  moved := by
    rw [slot]
  told := told

theorem same (slot : after.slot = before.slot) (counted : after.attempt = before.attempt)
    (told : after.told = before.told) : Still taken ends before after :=
  asks 0 slot counted told

theorem moves {slot : Slot} (count : Nat) (move : Move taken ends before.slot slot)
    (target : after.slot = slot) (counted : after.attempt = before.attempt + count)
    (told : after.told = before.told) : Still taken ends before after where
  counted := by
    rw [counted]
    exact Nat.le_add_right _ _
  moved := by
    rw [target]
    exact .single move
  told := told

theorem taking (count : Nat) (takes : before.pipeline.isLoose = false → taken before.slot)
    (quote : after.pipeline.isLoose = true)
    (target : after.slot = { before.slot with pipeline := after.pipeline })
    (counted : after.attempt = before.attempt + count) (told : after.told = before.told) : Still taken ends before after := by
  cases free : before.pipeline.isLoose with
  | false => exact moves count (.displaced (takes free) quote) target counted told
  | true => exact moves count (.quoted free quote) target counted told

theorem quoted (count : Nat) (free : before.pipeline.isLoose = true)
    (quote : after.pipeline.isLoose = true)
    (target : after.slot = { before.slot with pipeline := after.pipeline })
    (counted : after.attempt = before.attempt + count) (told : after.told = before.told) : Still taken ends before after :=
  moves count (.quoted free quote) target counted told

end Still

/-- The requests that are about no operation sent or to be sent. -/
def SendOperation.isQuiet : SendOperation → Bool
  | submitUserOp _ | cancelPasskeySign | persistTxRecords _ | trackSubmitted _ | clearToPost _ =>
    false
  | _ => true

/-- An effect that is no request about an operation. -/
def SendEffect.isQuiet : SendEffect → Bool
  | render => true
  | request _ operation => operation.isQuiet

/-- An update that only moves the slot, and asks for nothing about an operation. -/
structure Quiet (taken : Slot → Prop) (ends : Prop) (before : Model) (result : Model × Cmd) : Prop
    extends Kept taken ends before result.1 where
  effects : result.2.all SendEffect.isQuiet = true

/-- An update that only moves the slot, asks for nothing about an operation, and leaves what the
receipt tells. -/
structure Hushed (taken : Slot → Prop) (ends : Prop) (before : Model) (result : Model × Cmd) : Prop
    extends Still taken ends before result.1 where
  effects : result.2.all SendEffect.isQuiet = true

theorem Hushed.toQuiet {taken : Slot → Prop} {ends : Prop} {before : Model} {result : Model × Cmd}
    (hushed : Hushed taken ends before result) : Quiet taken ends before result :=
  ⟨hushed.toKept, hushed.effects⟩

namespace Hushed

variable {taken : Slot → Prop} {ends : Prop} {before after : Model}

theorem after_kept {result : Model × Cmd} (quiet : Hushed taken ends after result)
    (kept : Still taken ends before after) : Hushed taken ends before result where
  toStill := kept.trans quiet.toStill
  effects := quiet.effects

theorem of_done (kept : Still taken ends before after) : Hushed taken ends before (done after) := ⟨kept, rfl⟩

theorem of_render (kept : Still taken ends before after) : Hushed taken ends before (render after) :=
  ⟨kept, rfl⟩

theorem of_fire {operation : SendOperation} (kept : Still taken ends before after)
    (quiet : operation.isQuiet = true) : Hushed taken ends before (fire operation after) where
  toStill := kept.trans (.asks 1 rfl rfl rfl)
  effects := by
    simp only [fire, List.all_cons, List.all_nil, SendEffect.isQuiet, quiet, Bool.and_true]

theorem of_alert {kind : SendAlertKind} (kept : Still taken ends before after) :
    Hushed taken ends before (alert kind after) :=
  of_fire kept rfl

theorem of_all {updates : List (Model → Model × Cmd)}
    (quiet : ∀ update ∈ updates, ∀ model, Hushed taken ends model (update model))
    (kept : Still taken ends before after) : Hushed taken ends before (all updates after) := by
  induction updates generalizing after with
  | nil => exact of_done kept
  | cons update _ ih =>
    have first := quiet update List.mem_cons_self after
    have rest := ih (fun later member => quiet later (List.mem_cons_of_mem _ member))
      (kept.trans first.toStill)
    exact { toStill := rest.toStill
            effects := by
              simp only [all, List.all_append, first.effects, rest.effects, Bool.and_self] }

theorem of_pair {first second : Model → Model × Cmd}
    (firstQuiet : ∀ model, Hushed taken ends model (first model))
    (secondQuiet : ∀ model, Hushed taken ends model (second model)) (kept : Still taken ends before after) :
    Hushed taken ends before (all [first, second] after) := by
  apply of_all _ kept
  intro update member
  simp only [List.mem_cons, List.not_mem_nil, or_false] at member
  rcases member with rfl | rfl
  · exact firstQuiet
  · exact secondQuiet

theorem of_triple {first second third : Model → Model × Cmd}
    (firstQuiet : ∀ model, Hushed taken ends model (first model))
    (secondQuiet : ∀ model, Hushed taken ends model (second model))
    (thirdQuiet : ∀ model, Hushed taken ends model (third model)) (kept : Still taken ends before after) :
    Hushed taken ends before (all [first, second, third] after) := by
  apply of_all _ kept
  intro update member
  simp only [List.mem_cons, List.not_mem_nil, or_false] at member
  rcases member with rfl | rfl | rfl
  · exact firstQuiet
  · exact secondQuiet
  · exact thirdQuiet

end Hushed

end VelaWallet.Send
