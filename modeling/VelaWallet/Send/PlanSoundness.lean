import VelaWallet.Base.Lists
import VelaWallet.Send.Operation
import VelaWallet.Send.SweepSoundness

/-!
# The review of a plan is what its calls pay

Where the addresses read and the amount of a single send comes to a base unit, what
is handed out under the confirmed review is built of its payments, one call a line,
and passes the check before the passkey.
-/

namespace VelaWallet.Send

open FeePolicy
open SignedReview (Review ReviewedTransfer)

/-- The call is written for the line, of one base unit or more. -/
structure LinePaid (line : SendLine) (call : FeeCall) : Prop where
  paid : ∃ units, 1 ≤ units ∧ toBaseUnits line.amount line.decimals.toNat = some units ∧
    transferCall line.tokenAddress (Utf8.trim line.target) units = some call
  payee : isAddress (Utf8.trim line.target) = true
  token : line.tokenAddress.all isAddress = true

theorem buildTransferCall_some {tokenAddress : Option String} {target : String} {units : Nat}
    {call : FeeCall} (built : buildTransferCall tokenAddress target units = some call) :
    1 ≤ units ∧ isAddress target = true ∧ tokenAddress.all isAddress = true ∧
      transferCall tokenAddress target units = some call := by
  obtain ⟨checks, made⟩ := Option.ite_none_right_eq_some.mp built
  simp only [Bool.and_eq_true, bne_iff_ne] at checks
  obtain ⟨⟨payee, some_units⟩, token⟩ := checks
  refine ⟨Nat.one_le_iff_ne_zero.mpr some_units, isAddress_of_valid payee, ?_, made⟩
  cases tokenAddress with
  | none => rfl
  | some => exact isAddress_of_valid token

theorem trim_of_isAddress {text : String} (named : isAddress text = true) :
    Utf8.trim text = text := by
  obtain ⟨address, read⟩ := exists_address named
  exact parseAddress_trim read

theorem linePaid_of_built {token : SendToken} {target amount : String} {name : Option String}
    {units : Nat} {call : FeeCall} (read : toBaseUnits amount token.decimals.toNat = some units)
    (built : buildTransferCall token.tokenAddress target units = some call) :
    LinePaid (token.line target name amount) call := by
  obtain ⟨worth, payee, named, made⟩ := buildTransferCall_some built
  have plain := trim_of_isAddress payee
  refine ⟨⟨units, worth, read, ?_⟩, ?_, named⟩
  · show transferCall token.tokenAddress (Utf8.trim target) units = some call
    rw [plain]
    exact made
  · show isAddress (Utf8.trim target) = true
    rw [plain]
    exact payee

theorem review_paid {lines : List SendLine} {calls : List FeeCall}
    {transfers : List ReviewedTransfer} (paid : List.Forall₂ LinePaid lines calls)
    (reviewed : (lines.mapM fun line => do
      let units ← toBaseUnits line.amount line.decimals.toNat
      return (⟨Utf8.trim line.target, line.tokenAddress, toString units⟩ : ReviewedTransfer)) =
        some transfers) :
    List.Forall₂ PaidBy transfers calls ∧ ∀ transfer ∈ transfers,
      isAddress transfer.target = true ∧ transfer.token.all isAddress = true := by
  induction paid generalizing transfers with
  | nil =>
    cases reviewed
    exact ⟨.nil, nofun⟩
  | @cons line call lines calls head _ ih =>
    obtain ⟨⟨units, worth, read, made⟩, payee, token⟩ := head
    simp only [List.mapM_cons, Option.bind_eq_bind, Option.bind_eq_some_iff, Option.pure_def,
      Option.some.injEq] at reviewed
    obtain ⟨transfer, ⟨_, again, rfl⟩, rest, reviewed, rfl⟩ := reviewed
    rw [read, Option.some.injEq] at again
    subst again
    obtain ⟨others, named⟩ := ih (by simpa using reviewed)
    have small : units < 2 ^ 128 := Nat.lt_of_le_pred (by decide) (toBaseUnits_le read)
    refine ⟨.cons ⟨units, worth, small, rfl, made⟩ others, ?_⟩
    intro shown member
    rcases List.mem_cons.mp member with rfl | member
    · exact ⟨payee, token⟩
    · exact named shown member

section Modes

variable [Runtime] {model : Model} {token : SendToken} {calls : List FeeCall}
  {lines : List SendLine}

omit [Runtime] in
theorem multiPlan_paid (agreed : AgreeOnDecimals (pickedTokens model))
    (parts : multiPlan model token.chainId = some (calls, lines)) :
    List.Forall₂ LinePaid lines calls := by
  obtain ⟨swept, _, rfl, rfl, sweeps⟩ := multiPlan_swept agreed parts
  rw [List.forall₂_map_left_iff, List.forall₂_map_right_iff, List.forall₂_same]
  intro part member
  obtain ⟨_, target, address, decimals, units, read, _, built⟩ := sweeps part member
  obtain ⟨worth, payee, named, made⟩ := buildTransferCall_some built
  have plain : Utf8.trim part.2.2.target = Utf8.trim model.form.recipient := by
    rw [target, trim_of_isAddress payee]
  refine ⟨⟨units, worth, ?_, ?_⟩, ?_, ?_⟩
  · rw [decimals]
    exact read
  · rw [plain, address]
    exact made
  · rw [plain]
    exact payee
  · rw [address]
    exact named

omit [Runtime] in
theorem splitPlan_paid (parts : splitPlan model token = some (calls, lines)) :
    List.Forall₂ LinePaid lines calls := by
  obtain ⟨built, calls_built, same⟩ := Option.map_eq_some_iff.mp parts
  obtain ⟨rfl, rfl⟩ := Prod.mk.inj same
  unfold buildSplitCalls at calls_built
  obtain ⟨_, rows_built⟩ := Option.ite_none_left_eq_some.mp calls_built
  rw [List.forall₂_map_left_iff]
  refine (PartialMap.forall₂ rows_built).imp ?_
  intro row call made
  obtain ⟨units, read, call_built⟩ := Option.bind_eq_some_iff.mp made
  exact linePaid_of_built read call_built

/-- The amount of the single send, in base units. -/
def singleUnits (model : Model) (token : SendToken) : Nat :=
  (toBaseUnits (modelTokenAmount model token) token.decimals.toNat).getD 0

omit [Runtime] in
theorem singlePlan_paid (payee : isAddress model.form.recipient = true)
    (named : token.tokenAddress.all isAddress = true) (worth : 1 ≤ singleUnits model token)
    (parts : singlePlan model token = some (calls, lines)) : List.Forall₂ LinePaid lines calls := by
  simp only [singlePlan, Option.bind_eq_bind, Option.bind_eq_some_iff, Option.pure_def,
    Option.some.injEq, Prod.mk.injEq] at parts
  obtain ⟨units, read, call, made, rfl, rfl⟩ := parts
  have plain := trim_of_isAddress payee
  have whole : 1 ≤ units := by
    rw [singleUnits, read] at worth
    exact worth
  refine .cons ⟨⟨units, whole, read, ?_⟩, ?_, named⟩ .nil
  · show transferCall token.tokenAddress (Utf8.trim model.form.recipient) units = some call
    rw [plain]
    exact made
  · show isAddress (Utf8.trim model.form.recipient) = true
    rw [plain]
    exact payee

/-- The form's batch comes to payments: the single send's amount is worth a base unit
and its addresses read, the picks of a sweep agree on the decimals of every
contract. -/
def comesToPayments (model : Model) (token : SendToken) : Bool :=
  if model.form.multiSelectMode then
    (pickedTokens model).all fun pick => (pickedTokens model).all fun other =>
      pick.tokenAddress != other.tokenAddress || pick.decimals == other.decimals
  else model.form.splitMode ||
    (isAddress model.form.recipient && token.tokenAddress.all isAddress &&
      decide (1 ≤ singleUnits model token))

/-- Who is paid the quoted fee, and the coin it is paid in, are addresses. -/
def paysFee (model : Model) (token : SendToken) : Bool :=
  let coin := (quotedFeeToken model (planFee model token)).or
    (if isTempoChain token.chainId then some tempoDefaultFeeToken else none)
  ((planFee model token).bind (·.feeRecipient)).all fun recipient =>
    isAddress recipient && coin.all isAddress

/-- What the model would sign comes to payments, and its addresses read. -/
def signsPlainly (model : Model) : Bool :=
  model.account.all (fun account => isAddress account.address) &&
    model.holdings.selectedToken.all fun token =>
      comesToPayments model token && paysFee model token

omit [Runtime] in
theorem planParts_paid (comes : comesToPayments model token = true)
    (parts : planParts model token = some (calls, lines)) : List.Forall₂ LinePaid lines calls := by
  unfold comesToPayments at comes
  unfold planParts at parts
  split at parts
  · next sweeping =>
      rw [if_pos sweeping] at comes
      simp only [List.all_eq_true, Bool.or_eq_true, bne_iff_ne, beq_iff_eq] at comes
      refine multiPlan_paid ?_ parts
      intro pick picked other otherPicked same
      exact (comes pick picked other otherPicked).resolve_left (not_not.mpr same)
  · next single =>
      rw [if_neg single] at comes
      split at parts
      · exact splitPlan_paid parts
      · next whole =>
          rw [Bool.or_eq_true] at comes
          have sound := comes.resolve_left whole
          simp only [Bool.and_eq_true, decide_eq_true_eq] at sound
          obtain ⟨⟨payee, named⟩, worth⟩ := sound
          exact singlePlan_paid payee named worth parts

/-- What is handed out under the review: its rows are what the calls pay, and it
passes the check before the passkey. -/
structure SignsReview (request : SubmitRequest) : Prop where
  paid : List.Forall₂ PaidBy request.review.transfers request.calls
  passes : PassesReview request

omit [Runtime] in
theorem quote_amount_small {fee : FeeEstimate} : coinAmount fee < 2 ^ 128 := by
  have native := fee.totalWei_le
  have coin := fee.amount_le
  unfold coinAmount
  cases asset : fee.feeAsset with
  | native => exact Nat.lt_of_le_pred (by decide) native
  | erc20 =>
    rw [asset] at coin
    exact Nat.lt_of_le_pred (by decide) coin

theorem signsReview_of_signsPlainly {plan : SubmitPlan} {review : Review}
    (plainly : signsPlainly model = true) (planned : submitPlan model = some plan)
    (reviewed : signedReview plan = some review) (publicKeyHex : String) :
    SignsReview (submitRequest plan review publicKeyHex) := by
  obtain ⟨plans⟩ := submitPlan_spec planned
  obtain ⟨token, account, calls, lines, selected, held, parts, rfl⟩ := plans
  simp only [signsPlainly, held, selected, Option.all_some, Bool.and_eq_true] at plainly
  obtain ⟨own, comes, pays⟩ := plainly
  simp only [signedReview, Option.bind_eq_bind, Option.bind_eq_some_iff, Option.pure_def,
    Option.some.injEq] at reviewed
  obtain ⟨transfers, rows, rfl⟩ := reviewed
  obtain ⟨paid, named⟩ := review_paid (planParts_paid comes parts) rows
  refine ⟨paid, passesReview ⟨own, fun row member => (named row member).1,
    fun row member => (named row member).2, ?_⟩ rfl rfl paid rfl ?_⟩
  · intro fee quoted
    obtain ⟨estimate, inHand, quotes⟩ := Option.bind_eq_some_iff.mp quoted
    obtain ⟨recipient, payee, rfl⟩ := Option.map_eq_some_iff.mp quotes
    rw [paysFee, inHand, Option.bind_some, payee, Option.all_some, Bool.and_eq_true] at pays
    exact ⟨pays.1, inHand ▸ pays.2⟩
  · intro fee quoted
    obtain ⟨estimate, _, quotes⟩ := Option.bind_eq_some_iff.mp quoted
    obtain ⟨recipient, _, rfl⟩ := Option.map_eq_some_iff.mp quotes
    exact ⟨coinAmount estimate, quote_amount_small, rfl⟩

end Modes

section Frozen

variable [Runtime] {model : Model} {event : Event}

structure Confirms (review : Review) (event : Event) (model : Model) : Prop where
  onPage : model.step = .confirm
  shown : modelReview model = some review
  frozen : (machine.step event model).1.confirmedReview = some review

omit [Runtime] in
theorem maxed_confirmedReview (exact : String) (entry : Entry) :
    (entry.maxed exact).confirmedReview = entry.confirmedReview := by
  unfold Entry.maxed
  generalize maxFigure exact = figure
  rfl

omit [Runtime] in
theorem filled_confirmedReview (base : Model) :
    (filled base).entry.confirmedReview = base.confirmedReview := by
  obtain ⟨_, _, same⟩ := filled_refigures base
  rw [same]
  rfl

omit [Runtime] in
theorem redisplayed_confirmedReview (display : SendDisplayContext) (base : Model) :
    (redenominateToDisplay { base with display }).entry.confirmedReview =
      base.confirmedReview := by
  obtain ⟨_, _, same⟩ := redenominateToDisplay_refigures display base
  rw [same]
  rfl

theorem toggled_confirmedReview (base : Model) :
    (toggleFiatInput base).1.entry.confirmedReview = base.confirmedReview := by
  obtain ⟨_, _, same⟩ := toggleFiatInput_refigures base
  rw [same]
  rfl

omit [Runtime] in
theorem relisted_confirmedReview (tokens : List SendToken) (base : Model) :
    (relisted tokens base).entry.confirmedReview = base.confirmedReview := by
  obtain ⟨_, _, same⟩ := relisted_refigures tokens base
  rw [same]
  rfl

omit [Runtime] in
theorem warmed_confirmedReview (base : Model) :
    (warmed base).entry.confirmedReview = base.confirmedReview := by
  unfold warmed
  split
  · rfl
  · rfl

omit [Runtime] in
theorem looking_confirmedReview (outcome : Option SendTokenMeta) (chainId : UInt32)
    (address : String) (base : Model) :
    (looking outcome chainId address base).entry.confirmedReview = base.confirmedReview := by
  unfold looking
  cases outcome with
  | none | some found => rfl

theorem routed_confirmedReview {full tokens : List SendToken} {chains : List SendChainInfo}
    {after : Entry} (routed : Routed full (landed tokens chains model) after) :
    after.confirmedReview = model.confirmedReview := by
  cases routed with
  | stays same | narrowed locked same | resolved locked named same
  | looksUp _ _ _ same => rw [same]; rfl
  | shown _ same =>
    rw [same, pickerShown_entry]
    split
    · rfl
    · rfl
  | selected unlocked named same | swept unlocked named handed same =>
    rw [same, warmed_confirmedReview]; rfl

/-- One event keeps the review that is confirmed, takes it back, or confirms the one
on the page. -/
theorem step_confirmedReview (event : Event) (model : Model) :
    (step event model).1.entry.confirmedReview = model.confirmedReview ∨
      (step event model).1.entry.confirmedReview = none ∨
      model.step = .confirm ∧
        (step event model).1.entry.confirmedReview = modelReview model := by
  have stays : ∀ {entry : Entry}, (step event model).1.entry = entry →
      entry.confirmedReview = model.confirmedReview →
      (step event model).1.entry.confirmedReview = model.confirmedReview ∨
        (step event model).1.entry.confirmedReview = none ∨
        model.step = .confirm ∧
          (step event model).1.entry.confirmedReview = modelReview model := by
    intro entry same kept
    rw [same]
    exact Or.inl kept
  cases step_edit event model with
  | kept same | continued runs passes asks same | keyed answered waiting asks same
  | heard answered read waiting same | dropped same | settled settles inHand same
  | unchecked missing same | left same | picking named sweeping same | returned onForm leaves same
  | addressed named unlocked same | handedIn named plain single same
  | readdressed named split lands same | typed named unlocked same | split named unlocked same
  | rowsChanged named several same | single named few same | partially named same | unlisted same
  | picked picks visible same | rescoped named same => exact stays same rfl
  | reopened _ same =>
    rw [same]
    exact Or.inr (Or.inl rfl)
  | begun onPage _ _ _ same =>
    rw [same]
    exact Or.inr (Or.inr ⟨onPage, rfl⟩)
  | revoked same =>
    rw [same]
    exact Or.inr (Or.inl rfl)
  | requoted named onForm read same | recoined named same | maxed named free single selected same =>
    exact stays same (filled_confirmedReview _)
  | filledIn _ _ same => exact stays same (maxed_confirmedReview _ _)
  | redisplayed _ same => exact stays same (redisplayed_confirmedReview _ model)
  | toggled _ same => exact stays same (toggled_confirmedReview model)
  | updated named same | refreshed named mine same =>
    exact stays same (relisted_confirmedReview _ _)
  | routed _ _ routed => exact Or.inl (routed_confirmedReview routed)
  | looked _ _ same => exact stays same (looking_confirmedReview _ _ _ model)
  | selected named found same | chosen named picks found same | swept named picks same =>
    exact stays same (warmed_confirmedReview _)

/-- The review was frozen where a confirm of the run started, and is confirmed ever
since. -/
def FrozenIn (events : List Event) (review : Review) : Prop :=
  ∃ before event later, events = before ++ event :: later ∧
    Confirms review event (machine.after before) ∧
    ∀ part, part <+: later →
      (machine.after (before ++ event :: part)).confirmedReview = some review

theorem frozenIn_of_confirmed {events : List Event} {review : Review}
    (confirmed : (machine.after events).confirmedReview = some review) :
    FrozenIn events review := by
  refine @Machine.exists_begun _ _ _ machine (fun model => model.confirmedReview = some review)
    (Confirms review) nofun ?_ events confirmed
  intro event model reached
  have seen := congrArg Entry.confirmedReview (update_entry event model)
  have moved := step_confirmedReview event model
  rw [← seen] at moved
  rcases moved with kept | revoked | ⟨onPage, shown⟩
  · exact Or.inl (kept.symm.trans reached)
  · cases revoked.symm.trans reached
  · exact Or.inr ⟨onPage, shown.symm.trans reached, reached⟩

/-- In every run, an operation handed out while what the model signs comes to
payments and its addresses read is built of the payments of its review, one call a
row and each of a base unit or more, passes the check of that review, and the
review is the one frozen at the confirm. -/
theorem submit_pays_its_review (events : List Event) (event : Event) {id : Nat}
    {operation : SubmitRequest} (plainly : signsPlainly (machine.after events) = true)
    (emitted : SendEffect.request id (.submitUserOp operation) ∈
      (machine.step event (machine.after events)).2) :
    SignsReview operation ∧ FrozenIn events operation.review := by
  obtain ⟨submits, rfl⟩ := emitted_by_submit emitted
  exact ⟨signsReview_of_signsPlainly plainly submits.planned submits.reviewed
    submits.publicKeyHex, frozenIn_of_confirmed submits.confirmed⟩

end Frozen

theorem submit_pays_its_review_sampleSubmit :
    ∃ operation, @SignsReview plainRuntime operation ∧
      @FrozenIn plainRuntime (sampleConfirm ++ [.slideConfirm none]) operation.review := by
  have goes_out : (handedOut ((@machine plainRuntime).step sampleServes
      ((@machine plainRuntime).after (sampleConfirm ++ [.slideConfirm none]))).2).isSome =
        true := by decide +kernel
  have plainly : signsPlainly ((@machine plainRuntime).after
      (sampleConfirm ++ [.slideConfirm none])) = true := by decide +kernel
  obtain ⟨operation, handed⟩ := Option.isSome_iff_exists.mp goes_out
  obtain ⟨id, emitted⟩ := mem_of_handedOut handed
  exact ⟨operation, @submit_pays_its_review plainRuntime _ _ _ _ plainly emitted⟩

/-- An amount above nothing that comes to no base unit, checked and confirmed. -/
def dustRun : List Event :=
  [.openScreen (some sampleAccount) {} {},
    .shellCompleted 1 (.tokensLoaded (some [sampleEther]) [⟨1, "ethereum", "ETH"⟩]),
    .selectToken sampleEther.id,
    .setRecipient samplePayee,
    .setAmount "0.0000000000000000001",
    .continueTapped,
    .shellCompleted 5 (.accountCredential (some "04")),
    .shellCompleted 6 (.feeEstimated (.ok (nativeQuote 1 "1000"))),
    .shellCompleted 7 (.treasuryProbed .covered),
    .slideConfirm none]

theorem not_signsReview_of_worthless [Runtime] {operation : SubmitRequest}
    {transfer : ReviewedTransfer} (row : operation.review.transfers = [transfer])
    (worthless : transfer.amount = "0") : ¬ SignsReview operation := by
  rintro ⟨paid, _⟩
  rw [row, List.forall₂_cons_left_iff] at paid
  obtain ⟨call, _, ⟨units, worth, small, amount, _⟩, _, _⟩ := paid
  have written : toString 0 = toString units := worthless.symm.trans amount
  have read := read_toString small
  rw [← written, @read_toString 0 (by decide)] at read
  have nothing : 0 = units := Option.some.inj read
  omega

/-- Such an amount is handed out to be signed, a transfer of nothing. -/
theorem submit_pays_nothing :
    ∃ id operation, SendEffect.request id (.submitUserOp operation) ∈
        (plainSend.step sampleServes (plainSend.after dustRun)).2 ∧
      operation.calls.map (·.value) = ["0"] ∧
      ¬ @SignsReview plainRuntime operation := by
  have shown : (handedOut (plainSend.step sampleServes (plainSend.after dustRun)).2).map
      (fun operation => (operation.calls.map (·.value),
        operation.review.transfers.map (·.amount))) = some (["0"], ["0"]) := by decide +kernel
  obtain ⟨operation, handed, both⟩ := Option.map_eq_some_iff.mp shown
  obtain ⟨id, emitted⟩ := mem_of_handedOut handed
  obtain ⟨values, amounts⟩ := Prod.mk.inj both
  obtain ⟨transfer, row, worthless⟩ := List.map_eq_singleton_iff.mp amounts
  exact ⟨id, operation, emitted, values, @not_signsReview_of_worthless
    plainRuntime _ _ row worthless⟩

end VelaWallet.Send
