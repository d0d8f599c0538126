import Mathlib.Data.List.Forall2
import VelaWallet.Guard.RewriteSoundness

/-!
# Consent stays with the leg that earned it

In every reachable state of the guard, a batch whose confirm is allowed hands out
an unbounded approval only for a leg the person kept so, or for one whose
calldata stops before the end of its amount word.  Such a leg cannot be
re-encoded; it goes out as it came, the request then carries no consent, and the
submit chokepoint refuses it.
-/

namespace VelaWallet.ApprovalGuard

open Json (Value Reader Writer fromStr toStr)
open Utf8 (bytes stripPrefix CaseTable)
open Fallible (bind_ok orFail_ok)

variable {editor : Editor} {choice : GuardChoice} {detected : GuardDetectedApproval}
  {metaView : GuardTokenMetaView} {model : Model} {customText : String} {call : Value}

/-- The approval the guard reads off a call object. -/
def detectCall [CaseTable] (call : Value) : Option GuardDetectedApproval :=
  detectCalldataApproval ((call.get? "to").bind Value.asStr?) ((call.get? "data").bind Value.asStr?)

def ApprovesUnbounded [CaseTable] (call : Value) : Prop :=
  ∃ detected, detectCall call = some detected ∧ detected.isUnbounded = true ∧
    detected.isBooleanGrant = false

instance [CaseTable] (call : Value) : Decidable (ApprovesUnbounded call) :=
  decidable_of_iff
    ((detectCall call).any fun detected => detected.isUnbounded && !detected.isBooleanGrant)
    (by simp [ApprovesUnbounded, Option.any_eq_true])

/-- The calldata of an approval stops before the end of its amount word. -/
def CutShort [CaseTable] (call : Value) : Prop :=
  ∃ detected data index, detectCall call = some detected ∧
    (call.get? "data").bind Value.asStr? = some data ∧ detected.locus = .calldataWord index ∧
    (stripPrefix hexMark (bytes data)).length < 8 + index * 64 + 64

theorem detectCall_calldata [CaseTable]
    (found : detectCall call = some detected) : CalldataApproval detected := by
  obtain ⟨_, _, _, read⟩ := detectCalldataApproval_some found
  exact detectHex_calldata read

theorem asStr?_getD_null (found : Option Value) :
    (found.getD .null).asStr? = found.bind Value.asStr? := by
  cases found <;> rfl

theorem detectApproval_legParams [CaseTable] [Reader] [Writer] (call : Value) :
    detectApproval "eth_sendTransaction" (some (legParams call)) = detectCall call := by
  simp [detectApproval, legParams, detectCall, Value.lookup, Value.isObject, Value.asArray?,
    asStr?_getD_null]

/-- A request with a leg that approves an unbounded amount is refused unless it
carries consent. -/
theorem enforceApprovals_unbounded [CaseTable] [Reader] [Writer] {params : Value}
    {calls : List Value} (read : batchCalls (some params) = some calls)
    (member : call ∈ calls) (unbounded : ApprovesUnbounded call) :
    ∃ refusal, enforceApprovals "wallet_sendCalls" params false = .error refusal := by
  obtain ⟨detected, found, isUnbounded, amountShape⟩ := unbounded
  obtain ⟨refusal, refused⟩ :=
    enforceDetected_unbounded (detectCall_calldata found) isUnbounded amountShape
  have legRefused : enforceNoUnlimited "eth_sendTransaction" (some (legParams call)) =
      .error refusal := by
    rw [enforceNoUnlimited, detectApproval_legParams, found]
    exact refused
  have list : ((params.at? 0).bind (·.get? "calls")).bind Value.asArray? = some calls := by
    rw [Option.bind_assoc]
    exact read
  unfold enforceApprovals
  simp only [Bool.false_eq_true, if_false, if_true, list, Option.getD_some]
  split
  case h_1 whole _ => exact ⟨whole, rfl⟩
  case h_2 => exact enforceLegs_error member legRefused

/-- An editor is mounted only where the leg asks for something unbounded, and its
card is the one the approval calls for. -/
inductive EditorFits : Editor → Option GuardDetectedApproval → Prop where
  | none {detected : Option GuardDetectedApproval} : EditorFits .none detected
  | amount {mode : GuardEditorMode} {customText : String} {detected : GuardDetectedApproval}
      (unbounded : detected.isUnbounded = true) (amountShape : detected.isBooleanGrant = false) :
      EditorFits (.amount mode customText) (some detected)
  | boolean {selected : Option BoolPick} {detected : GuardDetectedApproval}
      (booleanShape : detected.isBooleanGrant = true) :
      EditorFits (.boolean selected) (some detected)

/-- A leg says of its call what detection says of it. -/
structure LegFits [CaseTable] (leg : Leg) : Prop where
  detected : leg.detected = detectCall leg.call
  editor : EditorFits leg.editor leg.detected

/-- A batch is the one the request in hand asks for. -/
structure FitsRequest [CaseTable] (model : Model) (batch : BatchState) : Prop where
  method : model.method = "wallet_sendCalls"
  calls : batchCalls model.params = some (batch.legs.map (·.call))
  legs : ∀ leg ∈ batch.legs, LegFits leg

/-- The batch of a model, if there is one, is that of its request. -/
def Consistent [CaseTable] (model : Model) : Prop :=
  ∀ batch, model.batch = some batch → FitsRequest model batch

theorem EditorFits.setCustomText {detected : Option GuardDetectedApproval}
    (fits : EditorFits editor detected) (text : String) :
    EditorFits (setCustomText editor text).1 detected := by
  cases fits with
  | none => exact .none
  | amount unbounded amountShape => exact .amount unbounded amountShape
  | boolean booleanShape => exact .boolean booleanShape

theorem EditorFits.setBoolPick {detected : Option GuardDetectedApproval}
    (fits : EditorFits editor detected) (pick : BoolPick) :
    EditorFits (setBoolPick editor pick).1 detected := by
  cases fits with
  | none => exact .none
  | amount unbounded amountShape => exact .amount unbounded amountShape
  | boolean booleanShape => exact .boolean booleanShape

theorem amountPreset_amount {balance : Option Nat} {mode : GuardEditorMode}
    {changed : Editor} (pressed : amountPreset customText detected metaView balance mode = some changed) :
    ∃ mode text, changed = .amount mode text := by
  unfold amountPreset at pressed
  cases mode with
  | requested =>
    simp only at pressed
    split at pressed
    case isTrue =>
      cases pressed
      exact ⟨_, _, rfl⟩
    case isFalse =>
      simp only [Option.ite_none_right_eq_some, Option.some.injEq] at pressed
      exact ⟨_, _, pressed.2.symm⟩
  | balance | revoke =>
    simp only [Option.ite_none_right_eq_some, Option.some.injEq] at pressed
    exact ⟨_, _, pressed.2.symm⟩
  | custom =>
    cases pressed
    exact ⟨_, _, rfl⟩
  | grant => cases pressed

theorem EditorFits.applyPreset
    (fits : EditorFits editor (some detected)) (metaView : GuardTokenMetaView)
    (balance : Option Nat) (mode : GuardEditorMode) :
    EditorFits (applyPreset editor detected metaView balance mode).1 (some detected) := by
  cases fits with
  | none => exact .none
  | boolean booleanShape =>
    simp only [ApprovalGuard.applyPreset]
    split <;> exact .boolean booleanShape
  | amount unbounded amountShape =>
    simp only [ApprovalGuard.applyPreset]
    split
    case h_1 pressed =>
      obtain ⟨mode, text, rfl⟩ := amountPreset_amount pressed
      exact .amount unbounded amountShape
    case h_2 => exact .amount unbounded amountShape

theorem initEditor_fits {editable : Bool} (shown : legShowsEditor editable detected = true) :
    EditorFits (initEditor detected) (some detected) := by
  simp only [legShowsEditor, Bool.and_eq_true, Bool.or_eq_true] at shown
  unfold initEditor
  split
  case isTrue booleanShape => exact .boolean booleanShape
  case isFalse notBoolean =>
    have amountShape := Bool.eq_false_iff.mpr notBoolean
    have unbounded := shown.2.resolve_right notBoolean
    rw [if_pos unbounded]
    split <;> exact .amount unbounded amountShape

theorem startLeg_fits [CaseTable] (editable : Bool) (call : Value) :
    LegFits (startLeg editable call) where
  detected := rfl
  editor := by
    simp only [startLeg]
    split
    case h_1 found =>
      rw [found]
      split
      case isTrue shown => exact initEditor_fits shown
      case isFalse => exact .none
    case h_2 => exact .none

section Steps

variable [CaseTable]

theorem startBatch_consistent (isBatch : model.method = "wallet_sendCalls")
    (fresh : model.batch = none) : Consistent (startBatch model).1 := by
  intro batch found
  unfold startBatch at found ⊢
  split at found
  case h_1 | h_2 => rw [fresh] at found; cases found
  case h_3 call calls read =>
    have calls_eq : ((call :: calls).map (startLeg (!model.readOnly))).map (·.call) =
        call :: calls := by
      rw [List.map_map]
      exact List.map_id _
    have fits : ∀ leg ∈ (call :: calls).map (startLeg (!model.readOnly)), LegFits leg := by
      intro leg member
      obtain ⟨source, _, rfl⟩ := List.mem_map.mp member
      exact startLeg_fits _ source
    simp only at found ⊢
    split at found
    case isTrue none_named =>
      rw [if_pos none_named]
      cases found
      exact ⟨isBatch, by rw [calls_eq]; exact read, fits⟩
    case isFalse named =>
      rw [if_neg named]
      cases found
      exact ⟨isBatch, by rw [calls_eq]; exact read, fits⟩

theorem Consistent.frame {changed : Model} (consistent : Consistent model)
    (batch : changed.batch = model.batch) (method : changed.method = model.method)
    (params : changed.params = model.params) : Consistent changed := by
  intro current found
  have old := consistent current (batch ▸ found)
  exact ⟨method ▸ old.method, params ▸ old.calls, old.legs⟩

theorem consistent_of_none (fresh : model.batch = none) : Consistent model := by
  intro batch found
  rw [fresh] at found
  cases found

section

variable (consistent : Consistent model)
include consistent

theorem withLegEditor_consistent (index : Nat)
    {change : BatchState → Leg → Editor × List GuardEffect}
    (fitting : ∀ batch leg, LegFits leg → EditorFits (change batch leg).1 leg.detected) :
    Consistent (withLegEditor model index change).1 := by
  unfold withLegEditor
  split
  case h_1 => exact consistent
  case h_2 batch isBatch =>
    split
    case h_1 => exact consistent
    case h_2 leg at_index =>
      have old := consistent batch isBatch
      intro changed found
      cases found
      refine ⟨old.method, ?_, ?_⟩
      · rw [old.calls, List.map_set]
        congr 1
        obtain ⟨inside, rfl⟩ := List.getElem?_eq_some_iff.mp at_index
        have mapped : index < (batch.legs.map (·.call)).length := by simpa using inside
        have same : (batch.legs.map (·.call))[index] = batch.legs[index].call :=
          List.getElem_map _
        rw [← same, List.set_getElem_self]
      · intro other member
        rcases List.mem_or_eq_of_mem_set member with inLegs | rfl
        · exact old.legs other inLegs
        · have legFits := old.legs leg (List.mem_of_getElem? at_index)
          exact ⟨legFits.detected, fitting batch leg legFits⟩

theorem acceptMeta_consistent
    (metas : Option (List GuardTokenMetaEntry)) : Consistent (acceptMeta model metas).1 := by
  unfold acceptMeta
  split
  case h_1 batch isBatch =>
    split
    case h_1 => exact consistent
    case h_2 =>
      intro changed found
      cases found
      have old := consistent batch isBatch
      exact ⟨old.method, old.calls, old.legs⟩
  case h_2 =>
    split
    case isTrue => exact consistent.frame rfl rfl rfl
    case isFalse => exact consistent

theorem accept_consistent
    (result : GuardShellResult) : Consistent (accept model result).1 := by
  cases result with
  | metaResolved metas => exact acceptMeta_consistent consistent metas
  | allowanceRead =>
    unfold accept
    simp only
    split
    case isTrue => exact consistent.frame rfl rfl rfl
    case isFalse => exact consistent
  | balanceRead =>
    unfold accept
    simp only
    split
    case isTrue => exact consistent
    case isFalse => exact consistent.frame rfl rfl rfl

theorem update_consistent [Reader] [Writer]
    (event : Event) : Consistent (update event model).1 := by
  cases event with
  | approvalDetected =>
    unfold update start
    simp only
    split
    case isTrue isBatch => exact startBatch_consistent isBatch rfl
    case isFalse =>
      split
      case h_1 | h_2 => exact consistent_of_none rfl
  | presetSelected =>
    unfold update
    simp only
    split
    case h_1 => exact consistent
    case h_2 => exact consistent.frame rfl rfl rfl
  | customAmountChanged | grantDeliberatelyChosen | revokeChosen =>
    exact consistent.frame rfl rfl rfl
  | legPresetSelected _ mode =>
    apply withLegEditor_consistent consistent
    intro batch leg fits
    have editor := fits.editor
    generalize leg.detected = detected at editor
    cases detected with
    | none => exact editor
    | some => exact editor.applyPreset _ none mode
  | legCustomAmountChanged index text =>
    exact withLegEditor_consistent consistent index fun _ _ fits => fits.editor.setCustomText text
  | legGrantDeliberatelyChosen index =>
    exact withLegEditor_consistent consistent index fun _ _ fits => fits.editor.setBoolPick .grant
  | legRevokeChosen index =>
    exact withLegEditor_consistent consistent index fun _ _ fits => fits.editor.setBoolPick .revoke
  | batchRecipientsResolved =>
    unfold update
    simp only
    split
    case h_1 => exact consistent
    case h_2 batch isBatch =>
      intro changed found
      cases found
      have old := consistent batch isBatch
      exact ⟨old.method, old.calls, old.legs⟩
  | shellCompleted _ result =>
    unfold update
    simp only
    split
    case isTrue => exact accept_consistent consistent result
    case isFalse => exact consistent

end

theorem reachable_consistent [Reader] [Writer]
    (reachable : approvalGuard.Reachable model) : Consistent model :=
  reachable.invariant (consistent_of_none rfl) fun event _ consistent =>
    update_consistent consistent event

end Steps

theorem parseDecU256_toString {value : Nat} (fits : value < 2 ^ 256) :
    parseDecU256 (toString value) = some value := by
  have digits : ∀ byte ∈ bytes (toString value), Decimal.IsDigit byte :=
    fun _ => Decimal.digits_toString
  have present : (bytes (toString value)).isEmpty = false := by
    rw [List.isEmpty_eq_false_iff]
    exact Decimal.toString_ne_nil value
  unfold parseDecU256
  simp only [present, Bool.false_eq_true, false_or]
  rw [if_neg (not_not_intro digits), Decimal.natOf?_toString, Option.bind_some, if_pos fits]

theorem customChoice_some (chosen : (customChoice detected metaView customText).1 = some choice) :
    ∃ amount, choice = .amount (toString amount) ∧ amount < 2 ^ 256 ∧
      isUnboundedAmount amount (bitsFromWire detected.amountBits) = false := by
  unfold customChoice at chosen
  simp only at chosen
  split at chosen
  case isTrue => cases chosen
  case isFalse =>
    split at chosen
    case h_1 => cases chosen
    case h_2 raw parsed =>
      split at chosen
      case isTrue => cases chosen
      case isFalse bounded =>
        cases chosen
        exact ⟨raw, rfl, parseTokenAmount_lt parsed, Bool.eq_false_iff.mpr bounded⟩

/-- The amount card of an unbounded leg stands for keeping it, for a revoke, or for
a written, bounded amount. -/
theorem amountChoice_some {mode : GuardEditorMode}
    (unbounded : detected.isUnbounded = true) (amountShape : detected.isBooleanGrant = false)
    (chosen : (amountChoice mode customText detected metaView none).1 = some choice) :
    choice = .unlimited ∨ choice = .revoke ∨
      ∃ amount, choice = .amount (toString amount) ∧ amount < 2 ^ 256 ∧
        isUnboundedAmount amount (bitsFromWire detected.amountBits) = false := by
  unfold amountChoice at chosen
  cases mode with
  | revoke =>
    cases chosen
    exact Or.inr (Or.inl rfl)
  | requested =>
    simp only [unbounded, amountShape, Bool.not_false, Bool.and_self, if_true] at chosen
    cases chosen
    exact Or.inl rfl
  | balance =>
    have uncapped : hasBalanceCap detected none = false := by simp [hasBalanceCap]
    simp only [uncapped, Bool.false_eq_true, if_false] at chosen
    exact Or.inr (Or.inr (customChoice_some chosen))
  | custom | grant => exact Or.inr (Or.inr (customChoice_some chosen))

theorem newWord_of_fits
    (fits : EditorFits editor (some detected)) (approval : CalldataApproval detected)
    (chosen : (deriveEditor editor detected metaView none).bind (·.choice) = some choice)
    (decided : choice ≠ .unlimited) : ∃ word, newWord detected choice = .ok word := by
  cases fits with
  | none => cases chosen
  | boolean booleanShape =>
    have flag := approval.boolean.mp booleanShape
    obtain ⟨pick, _, rfl⟩ := Option.map_eq_some_iff.mp chosen
    unfold newWord
    rw [if_pos flag]
    cases pick with
    | grant | revoke => exact ⟨_, rfl⟩
  | amount unbounded amountShape =>
    have other : detected.kind ≠ .setApprovalForAll := by
      intro flag
      rw [approval.boolean.mpr flag] at amountShape
      cases amountShape
    unfold newWord
    rw [if_neg other]
    rcases amountChoice_some unbounded amountShape chosen with kept | rfl | ⟨amount, rfl, fits, bounded⟩
    · exact (decided kept).elim
    · exact ⟨_, rfl⟩
    · have read : Fallible.orFail (parseDecU256 (toString amount))
          GuardRewriteError.invalidChoiceAmount = .ok amount :=
        orFail_ok.mpr (parseDecU256_toString fits)
      have asked : chosenAmount detected (.amount (toString amount)) = .ok amount :=
        bind_ok.mpr ⟨amount, read, by rw [if_neg (Bool.eq_false_iff.mp bounded)]⟩
      exact ⟨hexWord amount, by rw [asked]; rfl⟩

theorem rewriteLeg_ne_kept (call : Value) (detected : GuardDetectedApproval)
    (choice : GuardChoice) : rewriteLeg call detected choice ≠ .kept := by
  unfold rewriteLeg
  split
  case h_1 => exact RebuiltLeg.noConfusion
  case h_2 =>
    split
    case h_1 | h_2 => exact RebuiltLeg.noConfusion

theorem rewriteLeg_rewritten {changed : Value}
    (rewritten : rewriteLeg call detected choice = .rewritten changed) :
    ∃ members data newData, call = .object members ∧
      (call.get? "data").bind Value.asStr? = some data ∧
      rewriteCalldata data detected choice = .ok newData ∧
      changed = .object (Value.insertMember "data" (.string newData) members) := by
  unfold rewriteLeg at rewritten
  split at rewritten
  case h_1 => cases rewritten
  case h_2 data isData =>
    split at rewritten
    case h_1 newData members isNew =>
      cases rewritten
      exact ⟨members, data, newData, rfl, isData, isNew, rfl⟩
    case h_2 => cases rewritten

section Legs

variable [CaseTable] {editable : Bool} {batch : BatchState} {leg : Leg}

def shownChoice (editable : Bool) (batch : BatchState) (leg : Leg) : Option GuardChoice :=
  (legView editable batch leg).choice

/-- A leg is left as it was only if its calldata stops before its amount word
ends. -/
theorem rebuildLeg_failed (fits : LegFits leg)
    (failed : rebuildLeg leg (shownChoice editable batch leg) = .failed) : CutShort leg.call := by
  unfold rebuildLeg at failed
  split at failed
  case h_2 => cases failed
  case h_1 detected choice isDetected chosen =>
    have found : detectCall leg.call = some detected := fits.detected ▸ isDetected
    obtain ⟨text, isText, ascii, read⟩ := detectCalldataApproval_some found
    have approval := detectHex_calldata read
    obtain ⟨index, locus⟩ := approval.locus
    refine ⟨detected, text, index, found, isText, locus, ?_⟩
    by_contra long
    have inside := Nat.le_of_not_lt long
    have isObject : ∃ members, leg.call = .object members := by
      generalize leg.call = call at isText
      cases call with
      | object members => exact ⟨members, rfl⟩
      | _ => cases isText
    obtain ⟨members, isMembers⟩ := isObject
    split at failed
    case isFalse => cases failed
    case isTrue decided =>
      simp only [Bool.and_eq_true, bne_iff_ne, ne_eq] at decided
      have derived : (deriveEditor leg.editor detected (legMeta batch detected) none).bind
          (·.choice) = some choice := by
        simpa only [shownChoice, legView, isDetected, Option.bind_some] using chosen
      obtain ⟨word, made⟩ :=
        newWord_of_fits (isDetected ▸ fits.editor) approval derived decided.2
      have rewritten := @rewriteCalldata_eq text detected choice index locus ascii inside
      rw [made] at rewritten
      rw [isMembers] at isText
      simp only [rewriteLeg, isMembers, isText, rewritten, Except.map] at failed
      cases failed

theorem rebuildLeg_rewritten (fits : LegFits leg) {choice : Option GuardChoice}
    (rewritten : rebuildLeg leg choice = .rewritten call) : ¬ ApprovesUnbounded call := by
  unfold rebuildLeg at rewritten
  split at rewritten
  case h_2 => cases rewritten
  case h_1 detected _ isDetected =>
    split at rewritten
    case isFalse => cases rewritten
    case isTrue decided =>
      simp only [Bool.and_eq_true, bne_iff_ne, ne_eq] at decided
      obtain ⟨members, data, newData, isMembers, isData, isNew, rfl⟩ :=
        rewriteLeg_rewritten rewritten
      have found : detectCall leg.call = some detected := fits.detected ▸ isDetected
      rw [detectCall, isData] at found
      obtain ⟨changed, changedFound, bounded⟩ := rewriteCalldata_bounded found decided.2 isNew
      have sameTarget : Value.lookup "to" (Value.insertMember "data" (.string newData) members) =
          leg.call.get? "to" := by
        rw [isMembers]
        exact Value.lookup_insertMember_other (by decide) _ _
      intro ⟨other, otherFound, unbounded, amountShape⟩
      simp only [detectCall, Value.get?_object, Value.lookup_insertMember_self, sameTarget,
        Option.bind_some, Value.asStr?_string, changedFound, Option.some.injEq] at otherFound
      subst otherFound
      rw [bounded amountShape] at unbounded
      cases unbounded

theorem rebuildLeg_kept (fits : LegFits leg)
    (settled : (legView editable batch leg).needsChoice = false)
    (kept : rebuildLeg leg (shownChoice editable batch leg) = .kept)
    (unbounded : ApprovesUnbounded leg.call) :
    shownChoice editable batch leg = some .unlimited := by
  obtain ⟨detected, found, isUnbounded, amountShape⟩ := unbounded
  have isDetected : leg.detected = some detected := fits.detected.trans found
  have approval := detectCall_calldata found
  have isSettled : legNeedsChoice (some detected) (shownChoice editable batch leg) = false := by
    rw [← isDetected]
    exact settled
  unfold rebuildLeg at kept
  rw [isDetected] at kept
  generalize shownChoice editable batch leg = shown at kept isSettled ⊢
  cases shown with
  | none =>
    simp only [legNeedsChoice, approval.editable, approval.grows isUnbounded, amountShape,
      isUnbounded] at isSettled
    cases isSettled
  | some =>
    simp only at kept
    split at kept
    case isTrue => exact (rewriteLeg_ne_kept _ _ _ kept).elim
    case isFalse undecided =>
      simp only [approval.editable, Bool.true_and, bne_iff_ne, ne_eq, not_not] at undecided
      rw [undecided]

def outgoingCall (editable : Bool) (batch : BatchState) (leg : Leg) : Value :=
  (rebuildLeg leg (shownChoice editable batch leg)).outgoing leg.call

/-- A settled leg that goes out unbounded was kept so, or could not be
re-encoded. -/
theorem outgoingCall_unbounded (fits : LegFits leg)
    (settled : (legView editable batch leg).needsChoice = false)
    (unbounded : ApprovesUnbounded (outgoingCall editable batch leg)) :
    shownChoice editable batch leg = some .unlimited ∨
      (CutShort (outgoingCall editable batch leg) ∧
        rebuildLeg leg (shownChoice editable batch leg) = .failed) := by
  unfold outgoingCall at unbounded ⊢
  cases rebuilt : rebuildLeg leg (shownChoice editable batch leg) with
  | kept =>
    rw [rebuilt] at unbounded
    exact Or.inl (rebuildLeg_kept fits settled rebuilt unbounded)
  | rewritten =>
    rw [rebuilt] at unbounded
    exact (rebuildLeg_rewritten fits rebuilt unbounded).elim
  | failed => exact Or.inr ⟨rebuildLeg_failed fits rebuilt, rfl⟩

end Legs

theorem view_batch [Reader] [Writer] {batch : BatchState}
    (isBatch : model.batch = some batch) : view model = batchView model batch := by
  unfold view
  rw [isBatch]

theorem rebuiltLegs_eq (model : Model) (batch : BatchState) :
    rebuiltLegs batch (buildBatchView model batch) =
      batch.legs.map fun leg =>
        (leg.call, rebuildLeg leg (shownChoice (!model.readOnly) batch leg)) := by
  simp only [rebuiltLegs, buildBatchView, List.zipWith_map_right, List.zipWith_self]
  rfl

theorem batchCalls_shape {params : Value} {calls : List Value}
    (read : batchCalls (some params) = some calls) :
    ∃ members rest, params = .array (.object members :: rest) := by
  simp only [batchCalls, Option.bind_eq_bind, Option.bind_some, Option.bind_eq_some_iff] at read
  obtain ⟨first, isFirst, found, isFound, _⟩ := read
  cases params with
  | array items =>
    cases items with
    | nil => cases isFirst
    | cons _ rest =>
      cases isFirst
      cases first with
      | object members => exact ⟨members, rest, rfl⟩
      | _ => cases isFound
  | _ => cases isFirst

theorem outgoing_of_none_rewritten {batch : BatchState}
    (untouched : (rebuiltLegs batch (buildBatchView model batch)).any (·.2.isRewritten) = false) :
    batch.legs.map (outgoingCall (!model.readOnly) batch) = batch.legs.map (·.call) := by
  rw [rebuiltLegs_eq, List.any_map, List.any_eq_false] at untouched
  apply List.map_congr_left
  intro leg member
  have kept := untouched leg member
  unfold outgoingCall
  simp only [Function.comp] at kept
  generalize rebuildLeg leg (shownChoice (!model.readOnly) batch leg) = rebuilt at kept ⊢
  cases rebuilt with
  | kept => rfl
  | rewritten => exact (kept rfl).elim
  | failed => rfl

section Released

variable [CaseTable] [Reader] [Writer] {model : Model} {batch : BatchState}

/-- The params a confirm hands on: the re-encoded request, or the one that came
when nothing was re-encoded. -/
def Releases (model : Model) (released : Value) : Prop :=
  (view model).rewrittenParamsJson = some (toStr released) ∨
    ((view model).rewrittenParamsJson = none ∧ model.params = some released)

theorem exists_released (isBatch : model.batch = some batch) (fits : FitsRequest model batch) :
    ∃ released, Releases model released ∧
      batchCalls (some released) =
        some (batch.legs.map (outgoingCall (!model.readOnly) batch)) := by
  have shown : (view model).rewrittenParamsJson =
      (rebuildBatch model batch (buildBatchView model batch)).map toStr := by
    rw [view_batch isBatch]
    rfl
  unfold Releases
  rw [shown]
  cases rebuilt : rebuildBatch model batch (buildBatchView model batch) with
  | some released =>
    refine ⟨released, Or.inl rfl, ?_⟩
    simp only [rebuildBatch] at rebuilt
    split at rebuilt
    case h_1 =>
      simp only [Option.ite_none_right_eq_some, Option.some.injEq] at rebuilt
      obtain ⟨_, rfl⟩ := rebuilt
      simp only [batchCalls, rebuiltLegs_eq, List.map_map]
      simp [Function.comp_def, outgoingCall]
    case h_2 => cases rebuilt
  | none =>
    obtain ⟨params, isParams, rest⟩ := Option.bind_eq_some_iff.mp fits.calls
    refine ⟨params, Or.inr ⟨rfl, isParams⟩, ?_⟩
    have untouched :
        (rebuiltLegs batch (buildBatchView model batch)).any (·.2.isRewritten) = false := by
      obtain ⟨members, tail, rfl⟩ := batchCalls_shape (isParams ▸ fits.calls)
      rw [rebuildBatch, isParams] at rebuilt
      simpa only [ite_eq_right_iff, reduceCtorEq, imp_false, Bool.not_eq_true] using rebuilt
    rw [outgoing_of_none_rewritten untouched, ← isParams]
    exact fits.calls

/-- What a confirmed batch hands on. -/
structure ConsentKept (model : Model) (released : Value) (calls : List Value) : Prop where
  releases : Releases model released
  listed : batchCalls (some released) = some calls
  /-- An unbounded call is that of a leg kept so, or one that cannot be
  re-encoded, and then the request carries no consent. -/
  own : ∃ shown, (view model).batch = some shown ∧
    List.Forall₂ (fun leg call => ApprovesUnbounded call →
      leg.choice = some .unlimited ∨
        (CutShort call ∧ (view model).unlimitedConsented = false)) shown.legs calls
  /-- Without consent an unbounded call comes with one that cannot be re-encoded,
  and the submit chokepoint refuses the request. -/
  refused : (view model).unlimitedConsented = false →
    ∀ call ∈ calls, ApprovesUnbounded call → (∃ cut ∈ calls, CutShort cut) ∧
      ∃ refusal, enforceApprovals "wallet_sendCalls" released false = .error refusal

/-- The view's consent: some leg kept unbounded, and no decided leg left as it
came. -/
theorem unlimitedConsented_iff (isBatch : model.batch = some batch)
    (fits : FitsRequest model batch) :
    (view model).unlimitedConsented = true ↔
      (∀ leg ∈ batch.legs, rebuildLeg leg (shownChoice (!model.readOnly) batch leg) ≠ .failed) ∧
      ∃ leg ∈ batch.legs, shownChoice (!model.readOnly) batch leg = some .unlimited := by
  have present : model.params.isNone = false := by
    obtain ⟨params, isParams, _⟩ := Option.bind_eq_some_iff.mp fits.calls
    rw [isParams]
    rfl
  have consent : (view model).unlimitedConsented =
      (!(batch.legs.any fun leg =>
          (rebuildLeg leg (shownChoice (!model.readOnly) batch leg)).isFailed) &&
        batch.legs.any fun leg => shownChoice (!model.readOnly) batch leg == some .unlimited) := by
    have projected : (buildBatchView model batch).legs =
        batch.legs.map (legView (!model.readOnly) batch) := rfl
    rw [view_batch isBatch]
    simp only [batchView, rewrittenBatchParams, rebuiltLegs_eq, present, Bool.false_or, projected,
      List.any_map]
    rfl
  have failed_iff : ∀ rebuilt : RebuiltLeg, rebuilt.isFailed = false ↔ rebuilt ≠ .failed := by
    intro rebuilt
    cases rebuilt <;> simp [RebuiltLeg.isFailed]
  rw [consent, Bool.and_eq_true, Bool.not_eq_true', List.any_eq_false, List.any_eq_true]
  simp only [Bool.not_eq_true, failed_iff, beq_iff_eq]

/-- In every reachable state of a batch whose confirm is allowed, an unbounded
approval goes out only under its own leg's consent, or with a request the
chokepoint refuses. -/
theorem reachable_consentKept (reachable : approvalGuard.Reachable model)
    (isBatch : model.batch = some batch) (allowed : (view model).confirmAllowed = true) :
    ∃ released calls, ConsentKept model released calls := by
  have fits := reachable_consistent reachable batch isBatch
  obtain ⟨released, releases, listed⟩ := exists_released isBatch fits
  have consent := unlimitedConsented_iff isBatch fits
  have settled : ∀ leg ∈ batch.legs, (legView (!model.readOnly) batch leg).needsChoice = false := by
    rw [view_batch isBatch] at allowed
    simpa [batchView, buildBatchView] using allowed
  have perLeg : ∀ leg ∈ batch.legs,
      ApprovesUnbounded (outgoingCall (!model.readOnly) batch leg) →
      shownChoice (!model.readOnly) batch leg = some .unlimited ∨
        (CutShort (outgoingCall (!model.readOnly) batch leg) ∧
          (view model).unlimitedConsented = false) := by
    intro leg member unbounded
    rcases outgoingCall_unbounded (fits.legs leg member) (settled leg member) unbounded with
      kept | ⟨cut, failed⟩
    · exact Or.inl kept
    · refine Or.inr ⟨cut, Bool.eq_false_iff.mpr ?_⟩
      intro consented
      exact (consent.mp consented).1 leg member failed
  refine ⟨released, _, releases, listed, ?_, ?_⟩
  · refine ⟨buildBatchView model batch, by rw [view_batch isBatch]; rfl, ?_⟩
    simp only [buildBatchView, List.forall₂_map_left_iff, List.forall₂_map_right_iff,
      List.forall₂_same]
    exact perLeg
  · intro unconsented call member unbounded
    refine ⟨?_, enforceApprovals_unbounded listed member unbounded⟩
    obtain ⟨leg, inLegs, rfl⟩ := List.mem_map.mp member
    rcases perLeg leg inLegs unbounded with kept | ⟨cut, _⟩
    · have someFailed : ∃ leg ∈ batch.legs,
          rebuildLeg leg (shownChoice (!model.readOnly) batch leg) = .failed := by
        by_contra none
        push Not at none
        have consented := consent.mpr ⟨none, leg, inLegs, kept⟩
        rw [unconsented] at consented
        cases consented
      obtain ⟨cut, cutIn, failed⟩ := someFailed
      refine ⟨_, List.mem_map_of_mem cutIn, ?_⟩
      rw [outgoingCall, failed]
      exact rebuildLeg_failed (fits.legs cut cutIn) failed
    · exact ⟨_, member, cut⟩

end Released

/-- A batch with one approval for each of the given calldata texts. -/
def sampleBatch (texts : List String) : Value :=
  .array [.object [("calls", .array (texts.map fun text =>
    .object [("data", .string text), ("to", .string sampleToken)]))]]

def sampleBatchText (texts : List String) : String :=
  "[\x7b\"calls\":[" ++
    String.intercalate "," (texts.map fun text =>
      "\x7b\"data\":\"" ++ text ++ "\",\"to\":\"" ++ sampleToken ++ "\"\x7d") ++
    "]\x7d]"

/-- `approve(spender, amount)`, the amount word as much of it as is given. -/
def approveText (amountWord : String) : String := "0x095ea7b3" ++ sampleSpender ++ amountWord

/-- The JSON library's answers on the sample batches. -/
@[reducible] def sampleReader (texts : List String) : Reader :=
  ⟨fun text => if text = sampleBatchText texts then some (sampleBatch texts) else none⟩

@[reducible] def sampleWriter (texts : List String) : Writer := ⟨fun _ => sampleBatchText texts⟩

/-- The guard over the plain case table, asked for some texts and re-encoding
them to others. -/
@[reducible] def sampleGuard (texts rewritten : List String) : Machine Model Event GuardEffect :=
  @approvalGuard Utf8.asciiCaseTable (sampleReader texts) (sampleWriter rewritten)

def sampleView (texts rewritten : List String) : Model → GuardView :=
  @view (sampleReader texts) (sampleWriter rewritten)

/-- A batch arrives, and the person revokes one leg. -/
def revokeLeg (texts : List String) (index : Nat) : List Event :=
  [.approvalDetected "wallet_sendCalls" (sampleBatchText texts) 1 none false,
    .legPresetSelected index .revoke]

def twoMax : List String := [approveText maxWord, approveText maxWord]

def keptAndRevoked : List String :=
  [approveText maxWord,
    approveText "0000000000000000000000000000000000000000000000000000000000000000"]

/-- Of two unbounded approvals the first is kept and the second revoked. -/
def keptAndRevokedModel : Model :=
  (sampleGuard twoMax keptAndRevoked).after (revokeLeg twoMax 1)

theorem reachable_consentKept_twoLegs :
    (sampleView twoMax keptAndRevoked keptAndRevokedModel).unlimitedConsented = true ∧
    ∃ released calls,
      @ConsentKept Utf8.asciiCaseTable (sampleReader twoMax) (sampleWriter keptAndRevoked)
        keptAndRevokedModel released calls :=
  ⟨by decide +kernel,
    @reachable_consentKept Utf8.asciiCaseTable (sampleReader twoMax) (sampleWriter keptAndRevoked)
      keptAndRevokedModel _ (Machine.reachable_after _) (Option.eq_some_of_isSome (by decide +kernel))
      (by decide +kernel)⟩

/-- An unbounded approval whose amount word is cut short. -/
def cutMax : List String := [approveText "ff"]

/-- The leg is revoked, the confirm is allowed, nothing is consented to, and the
request that goes out is the one that came, unbounded. -/
theorem revokedLeg_outgoing_unbounded :
    let model := (sampleGuard cutMax cutMax).after (revokeLeg cutMax 0)
    (sampleGuard cutMax cutMax).Reachable model ∧
      (sampleView cutMax cutMax model).confirmAllowed = true ∧
      (sampleView cutMax cutMax model).unlimitedConsented = false ∧
      (sampleView cutMax cutMax model).rewrittenParamsJson = none ∧
      ((sampleView cutMax cutMax model).batch.map fun batch => batch.legs.map (·.choice)) =
        some [some .revoke] ∧
      ((batchCalls model.params).any fun calls =>
        calls.any fun call => @ApprovesUnbounded Utf8.asciiCaseTable call) = true :=
  ⟨Machine.reachable_after _, by decide +kernel, by decide +kernel, by decide +kernel,
    by decide +kernel, by decide +kernel⟩

end VelaWallet.ApprovalGuard
