import VelaWallet.Send.Receipt
import VelaWallet.Send.RecordSoundness

/-!
# The receipt tells what was signed

Beside the model a run keeps a slip of the operation that is out, and of the one the receipt is
of.  While the form stays in the mode of the batch it was signed in, the receipt shows the lines
of that slip.
-/

namespace VelaWallet.Send

open FeePolicy
open SignedReview (Review)

variable {event : Event} {lines : List SendLine} {model : Model} {gen : Nat} {plan : SubmitPlan}
  {chainId : UInt32}

/-- What a submit was of: its lines, and whether it was a batch. -/
structure Slip where
  lines : List SendLine
  batch : Bool

/-- The form pays several lines. -/
def Form.isBatch (form : Form) : Bool := form.multiSelectMode || form.splitMode

/-- A model, the operation that is out, and the one the receipt is of. -/
structure Till where
  model : Model := {}
  out : Option Slip := none
  told : Option Slip := none

/-- The event is the answer of the submit that is out. -/
def settles (event : Event) (model : Model) : Bool :=
  match event with
  | .shellCompleted id (.submitted ..) => model.pipeline.submitId == some id
  | _ => false

def slipOf [Runtime] (model : Model) : Option Slip :=
  (submitPlan model).map fun plan => ⟨plan.lines, model.form.isBatch⟩

/-- A receipt is told by the answer of its submit, until a confirm takes the lock or the screen
is opened again. -/
def Till.tellsNext (event : Event) (till : Till) (next : Model) : Option Slip :=
  if settles event till.model then till.out
  else if reopens event till.model || (!till.model.lock.held && next.lock.held) then none
  else till.told

def receipting [Runtime] : Machine Till Event SendEffect where
  init := {}
  step event till :=
    let moved := machine.step event till.model
    (⟨moved.1, if (handedOut moved.2).isSome then slipOf till.model else till.out,
      till.tellsNext event moved.1⟩, moved.2)

/-- Where the answer of a batch comes in, the form still pays several lines, and the sums of the
receipt fit. -/
def keepsMode (event : Event) (till : Till) : Bool :=
  !settles event till.model || till.out.all fun slip =>
    (!slip.batch || till.model.form.isBatch) && coinsFit slip.lines

/-- The slip of an operation that is out. -/
structure SlipFor (lines : List SendLine) (slip : Slip) : Prop where
  same : slip.lines = lines
  readable : Readable lines
  lone : slip.batch = false → ∃ line, lines = [line]

structure Tells (receipt : Receipt) (slip : Slip) : Prop where
  readable : Readable slip.lines
  fits : coinsFit slip.lines = true
  lines : receipt.lines = slip.lines
  batch : slip.batch = true → receipt.receiptLines = some slip.lines

/-- The receipt shown is that of the operation signed: the exact sums of its lines, coin by coin,
and of a batch the lines themselves. -/
def ToldAsSigned (till : Till) : Prop :=
  ∀ slip view, till.told = some slip → receiptView till.model = some view →
    SumsOf slip.lines view.coins ∧
    (slip.batch = true → view.transfers = slip.lines.map SendLine.shown)

section Runs

variable [Runtime]

theorem opSigned_pipeline (userOpHash : String) (submitBlock : Option UInt64) (nowMs : Float)
    (model : Model) :
    (opSigned userOpHash submitBlock nowMs model).1.pipeline = model.pipeline := by
  rcases opSigned_cases userOpHash submitBlock nowMs model with nothing | taken
  · rw [nothing]
    rfl
  · have ⟨signs⟩ := taken
    exact congrArg Slot.pipeline signs.slot

theorem update_submitting {id : Nat}
    (after : (update event model).1.pipeline = .submitting id gen chainId lines) :
    (∃ submits : Submits event model (step event model), lines = submits.plan.lines) ∨
      model.pipeline = .submitting id gen chainId lines := by
  have slotted : (step event model).1.slot.pipeline = .submitting id gen chainId lines := by
    rw [← update_slot]
    exact after
  cases step_change event model with
  | quiet _ quiet =>
    exact Or.inr (quiet.toKept.untouched.loses.pipeline _ _ _ _ slotted)
  | reopened _ reopened =>
    rw [reopened.slot] at slotted
    cases slotted
  | submits submits =>
    rw [submits.handed] at slotted
    cases slotted
    exact Or.inl ⟨submits, rfl⟩
  | signed _ same =>
    rw [same] at slotted
    exact Or.inr ((opSigned_pipeline _ _ _ model).symm.trans slotted)
  | cancelled _ same =>
    rw [same] at slotted
    apply Or.inr
    rcases cancelSigning_cases model with nothing | cancels
    · rw [nothing] at slotted
      exact slotted
    · exact cancels.loses.pipeline _ _ _ _ slotted
  | @submitted answered userOpHash nowMs maybeSent submitBlock named same =>
    rw [same] at slotted
    by_cases held : model.pipeline.submitId = some answered
    · have ⟨gen, chainId, lines, waiting⟩ := submitting_of_submitId held
      have settled : Settled answered gen model
        (submitted answered userOpHash nowMs maybeSent submitBlock model) :=
          submitted_held waiting
      cases settled.pipeline.symm.trans slotted
    · rw [submitted_unheld held] at slotted
      exact Or.inr slotted
  | @failed answered failure named same =>
    rw [same] at slotted
    exact Or.inr ((submitFailedAnswer_loses answered failure model).1.pipeline _ _ _ _ slotted)
  | @persisted answered named same =>
    rw [same] at slotted
    apply Or.inr
    rcases recordsPersisted_cases answered model with ⟨_, nothing⟩ | taken
    · rw [nothing] at slotted
      exact slotted
    · have ⟨acknowledges⟩ := taken
      rw [acknowledges.slot] at slotted
      exact slotted

omit [Runtime] in
theorem readable_of_signedReview {review : Review}
    (reviewed : signedReview plan = some review) : Readable plan.lines := by
  have ⟨listed, _⟩ := transfers_of_signedReview reviewed
  intro line member
  have ⟨transfer, _, built⟩ := PartialMap.exists_image listed member
  have ⟨units, read, _⟩ := Option.bind_eq_some_iff.mp built
  exact Option.isSome_of_mem read

omit [Runtime] in
theorem lone_line (planned : submitPlan model = some plan)
    (single : model.form.isBatch = false) : ∃ line, plan.lines = [line] := by
  obtain ⟨lone, unsplit⟩ := Bool.or_eq_false_iff.mp single
  simp only [submitPlan, lone, unsplit, Bool.false_eq_true, if_false, Option.bind_eq_bind,
    Option.bind_eq_some_iff] at planned
  obtain ⟨token, _, account, _, parts, built, made⟩ := planned
  simp only [singlePlan, Option.bind_eq_bind, Option.bind_eq_some_iff] at built
  obtain ⟨units, _, call, _, paired⟩ := built
  cases paired
  cases made
  exact ⟨_, rfl⟩

theorem slipOf_planned (planned : submitPlan model = some plan) :
    slipOf model = some ⟨plan.lines, model.form.isBatch⟩ := by
  rw [slipOf, planned, Option.map_some]

theorem handedOut_submits (submits : Submits event model (step event model)) :
    (handedOut (update event model).2).isSome = true := by
  have same : (update event model).2 = (step event model).2 := rfl
  rw [same, submits.handed]
  rfl

theorem handedOut_submitting {id : Nat}
    (waiting : model.pipeline = .submitting id gen chainId lines) :
    (handedOut (update event model).2).isSome = false := by
  apply Bool.eq_false_of_not_eq_true
  intro handed
  have ⟨operation, named⟩ := Option.isSome_iff_exists.mp handed
  have ⟨number, emitted⟩ := mem_of_handedOut named
  have ⟨submits, _⟩ := emitted_by_submit emitted
  cases submits.waiting.symm.trans waiting

/-- The slips of a run are those of what is out and of what the receipt shows. -/
structure Slipped (till : Till) : Prop where
  out : ∀ id gen chainId lines, till.model.pipeline = .submitting id gen chainId lines →
    ∃ slip, till.out = some slip ∧ SlipFor lines slip
  told : ∀ slip, till.told = some slip → Tells till.model.receipt slip

variable {till : Till}

theorem out_step (slipped : Slipped till) {id : Nat}
    (after : (receipting.step event till).1.model.pipeline = .submitting id gen chainId lines) :
    ∃ slip, (receipting.step event till).1.out = some slip ∧ SlipFor lines slip := by
  have same : (receipting.step event till).1.out =
      if (handedOut (update event till.model).2).isSome then slipOf till.model else till.out := rfl
  rcases update_submitting after with ⟨submits, listed⟩ | waiting
  · rw [same, handedOut_submits submits, if_pos rfl, slipOf_planned submits.planned, listed]
    refine ⟨_, rfl, rfl, readable_of_signedReview submits.reviewed, ?_⟩
    intro single
    exact lone_line submits.planned single
  · rw [same, handedOut_submitting waiting, if_neg Bool.false_ne_true]
    exact slipped.out _ _ _ _ waiting

omit [Runtime] in
theorem acceptSubmitted_told {id : Nat}
    {userOpHash : String} {nowMs : Float} {maybeSent : Bool} {submitBlock : Option UInt64}
    (waiting : model.pipeline = .submitting id gen chainId lines) :
    (acceptSubmitted id userOpHash nowMs maybeSent submitBlock model).1.told =
      (if model.form.isBatch then some lines else none, lines.head?) := by
  unfold acceptSubmitted
  simp only [waiting, ne_eq, not_true_eq_false, if_false]
  split
  · simp only [all_cons_fst, all_nil_fst, render_fst, handOver_told, announceSubmitted_told]
    rfl
  · simp only [all_cons_fst, all_nil_fst, render_fst, persistSubmitted_told,
      announceSubmitted_told, withdrawWriteAhead_told]
    rfl

omit [Runtime] in
theorem exists_of_settles (settled : settles event model = true) :
    ∃ id userOpHash nowMs maybeSent submitBlock,
      event = .shellCompleted id (.submitted userOpHash nowMs maybeSent submitBlock) ∧
      model.pipeline.submitId = some id := by
  unfold settles at settled
  split at settled
  · exact ⟨_, _, _, _, _, rfl, eq_of_beq settled⟩
  · cases settled

theorem tells_of_settles {slip : Slip} (slipped : Slipped till)
    (fits : keepsMode event till = true) (settled : settles event till.model = true)
    (out : till.out = some slip) : Tells (update event till.model).1.receipt slip := by
  obtain ⟨id, userOpHash, nowMs, maybeSent, submitBlock, named, held⟩ := exists_of_settles settled
  obtain ⟨gen, chainId, lines, waiting⟩ := submitting_of_submitId held
  obtain ⟨known, same, slip_for⟩ := slipped.out _ _ _ _ waiting
  cases out.symm.trans same
  have told : (update event till.model).1.told =
      (if till.model.form.isBatch then some lines else none, lines.head?) := by
    rw [update, dropForeignRelayStops_told, named]
    exact acceptSubmitted_told waiting
  have shown := congrArg Prod.fst told
  have signed := congrArg Prod.snd told
  dsimp only [Model.told] at shown signed
  rw [keepsMode, settled, out] at fits
  obtain ⟨mode, sums⟩ := Bool.and_eq_true_iff.mp fits
  refine ⟨slip_for.same ▸ slip_for.readable, sums, ?_, ?_⟩
  · rw [Receipt.lines, shown, signed, slip_for.same]
    cases batch : till.model.form.isBatch with
    | true => rfl
    | false =>
      rw [batch, Bool.or_false] at mode
      obtain ⟨line, lone⟩ := slip_for.lone (Bool.not_eq_true' _ ▸ mode)
      rw [lone]
      rfl
  · intro batch
    rw [batch] at mode
    have paysSeveral : till.model.form.isBatch = true := mode
    rw [shown, paysSeveral, if_pos rfl, slip_for.same]

theorem told_step {slip : Slip} (slipped : Slipped till) (fits : keepsMode event till = true)
    (told : (receipting.step event till).1.told = some slip) :
    Tells (receipting.step event till).1.model.receipt slip := by
  have next : till.tellsNext event (update event till.model).1 = some slip := told
  unfold Till.tellsNext at next
  split at next
  · next settled => exact tells_of_settles slipped fits settled next
  · next unsettled =>
      split at next
      · cases next
      · next goes_on =>
          have tells := slipped.told slip next
          rw [Bool.or_eq_true, not_or] at goes_on
          rcases update_retells event till.model with
            same | ⟨free, taken⟩ | reopening | ⟨named, held⟩
          · have lines := congrArg Prod.fst same
            have signed := congrArg Prod.snd same
            dsimp only [Model.told] at lines signed
            refine ⟨tells.readable, tells.fits, ?_, ?_⟩
            · exact (congrArg₂ (fun lines (signed : Option SendLine) =>
                lines.getD signed.toList) lines signed).trans tells.lines
            · intro batch
              exact lines.trans (tells.batch batch)
          · exact absurd (by rw [free, taken]; rfl) goes_on.2
          · exact absurd reopening goes_on.1
          · rw [named, settles, held, beq_self_eq_true] at unsettled
            exact absurd rfl unsettled

theorem slipped_step (fits : keepsMode event till = true)
    (slipped : Slipped till) : Slipped (receipting.step event till).1 where
  out _ _ _ _ after := out_step slipped after
  told _ told := told_step slipped fits told

theorem reached_slipped (reached : receipting.ReachableBy keepsMode till) : Slipped till := by
  apply reached.invariant
  · exact ⟨nofun, nofun⟩
  · intro event till fits slipped
    exact slipped_step fits slipped

/-- In every run in which the form stays in the mode of a batch until its submit is answered, and
no sum is too large, the answer of a submit finds its slip, and the receipt shows what was
signed. -/
theorem receipt_tells_signed (reached : receipting.ReachableBy keepsMode till) :
    (∀ event, settles event till.model = true → till.out.isSome = true) ∧ ToldAsSigned till := by
  have slipped := reached_slipped reached
  constructor
  · intro event settled
    have ⟨id, _, _, _, _, _, held⟩ := exists_of_settles settled
    have ⟨gen, chainId, lines, waiting⟩ := submitting_of_submitId held
    have ⟨slip, out, _⟩ := slipped.out _ _ _ _ waiting
    rw [out]
    rfl
  · intro slip view told shown
    have tells := slipped.told slip told
    have ⟨coins, transfers⟩ := receiptView_some shown
    constructor
    · rw [coins, Receipt.coins, tells.lines]
      exact receiptCoins_sums tells.readable tells.fits
    · intro batch
      rw [transfers, Receipt.transfers, tells.batch batch]
      rfl

end Runs

/-- Two payees paid in one signature, up to the submit. -/
def splitSubmit : List Event :=
  [.openScreen (some sampleAccount) {} {},
    .shellCompleted 1 (.tokensLoaded (some [sampleEther]) [⟨1, "ethereum", "ETH"⟩]),
    .selectToken sampleEther.id,
    .seedSplitRecipients [⟨"", samplePayee, "1", none⟩,
      ⟨"", "0x4444444444444444444444444444444444444444", "0.5", none⟩],
    .continueTapped,
    .shellCompleted 4 (.accountCredential (some "04")),
    .shellCompleted 5 (.feeEstimated (.ok (nativeQuote 1 "1000"))),
    .shellCompleted 6 (.treasuryProbed .covered),
    .slideConfirm none,
    .shellCompleted 9 (.treasuryProbed .covered)]

def splitAnswer : Event := .shellCompleted 10 (.submitted "0xaa" 0 false none)

theorem receipt_tells_signed_split :
    ∃ till slip, (@receipting plainRuntime).Reachable till ∧ till.told = some slip ∧
      slip.lines.map (·.amount) = ["1", "0.5"] ∧ (receiptView till.model).isSome = true ∧
      ToldAsSigned till := by
  have run := (@receipting plainRuntime).reachable_after (splitSubmit ++ [splitAnswer])
  have shown : (@receipting plainRuntime).allows keepsMode (@receipting plainRuntime).init
        (splitSubmit ++ [splitAnswer]) = true ∧
      ((@receipting plainRuntime).after (splitSubmit ++ [splitAnswer])).told.map
        (fun slip => slip.lines.map (·.amount)) = some ["1", "0.5"] ∧
      (receiptView ((@receipting plainRuntime).after (splitSubmit ++ [splitAnswer])).model).isSome =
        true := by decide +kernel
  have ⟨allowed, amounts, view⟩ := shown
  have ⟨slip, told, lines⟩ := Option.map_eq_some_iff.mp amounts
  exact ⟨_, slip, run, told, lines, view,
    (@receipt_tells_signed plainRuntime _ (Machine.reachableBy_after _ allowed)).2⟩

/-- The rows edited down to one while the submit is out: the receipt shows the first payment, and
no batch. -/
theorem receipt_forgets_lines :
    ∃ till, (@receipting plainRuntime).Reachable till ∧ ¬ ToldAsSigned till := by
  let events := splitSubmit ++ [.recipientsChanged [⟨"rcpt_1", samplePayee, "1", none⟩],
    splitAnswer]
  have shown : ((@receipting plainRuntime).after events).told.map
        (fun slip => (slip.batch, slip.lines.length)) = some (true, 2) ∧
      (receiptView ((@receipting plainRuntime).after events).model).map
        (fun view => view.transfers.length) = some 0 := by decide +kernel
  have ⟨slipped, viewed⟩ := shown
  have ⟨slip, told, signed⟩ := Option.map_eq_some_iff.mp slipped
  have ⟨view, seen, transfers⟩ := Option.map_eq_some_iff.mp viewed
  have ⟨batch, lines⟩ := Prod.mk.inj signed
  refine ⟨_, Machine.reachable_after events, ?_⟩
  intro tells
  have same := congrArg List.length ((tells slip view told seen).2 batch)
  rw [List.length_map, lines, transfers] at same
  cases same

end VelaWallet.Send
