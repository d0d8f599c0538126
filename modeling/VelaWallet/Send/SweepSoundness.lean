import VelaWallet.Send.BaseUnits
import VelaWallet.Send.CheckSoundness
import VelaWallet.Send.FeeSoundness

/-!
# A sweep is of one chain

What a sweep signs comes from the picks alone: every call pays one of them, in its
own decimals and within its balance.  Where no event picks, hands off or lists a
holding of another chain, all of them are on the chain of the plan.
-/

namespace VelaWallet.Send

open FeePolicy

variable {model : Model}

def SendToken.heldUnits (token : SendToken) : Nat :=
  (toBaseUnits token.balance token.decimals.toNat).getD 0

/-- The line is of the token, and within what is held of it. -/
structure DrawnOn (token : SendToken) (spec : MultiTokenSpec) : Prop where
  tokenAddress : spec.tokenAddress = token.tokenAddress
  decimals : spec.decimals = token.decimals
  within : ∀ units, toBaseUnits spec.amount spec.decimals.toNat = some units →
    units ≤ token.heldUnits

theorem toBaseUnits_le {amount : String} {decimals units : Nat}
    (read : toBaseUnits amount decimals = some units) : units ≤ maxU128 := by
  unfold toBaseUnits at read
  dsimp only at read
  split at read
  · rw [← Option.some.inj read]
    exact Nat.zero_le _
  · obtain ⟨_, read⟩ := Option.ite_none_right_eq_some.mp read
    obtain ⟨fits, read⟩ := Option.ite_none_right_eq_some.mp read
    rw [← Option.some.inj read]
    exact fits

theorem drawnOn_fullBalance (token : SendToken) :
    DrawnOn token ⟨token.tokenAddress, token.decimals, fullBalance token⟩ := by
  refine ⟨rfl, rfl, ?_⟩
  intro units read
  unfold fullBalance at read
  unfold SendToken.heldUnits
  dsimp only at read
  split at read
  · rw [toBaseUnits_zero] at read
    cases read
    exact Nat.zero_le _
  · rw [read]
    exact Nat.le_refl units

theorem DrawnOn.heldBack {token : SendToken} {spec line : MultiTokenSpec} {reserve : Nat}
    (drawn : DrawnOn token spec) (kept : FeePolicy.heldBack spec reserve = some line) :
    DrawnOn token line := by
  unfold FeePolicy.heldBack at kept
  dsimp only at kept
  split at kept
  · cases kept
  · next more =>
      cases kept
      refine ⟨drawn.tokenAddress, drawn.decimals, ?_⟩
      intro units read
      cases whole : toBaseUnits spec.amount spec.decimals.toNat with
      | none =>
        rw [whole] at more
        exact absurd (Nat.zero_le reserve) more
      | some held =>
        have fits : held - reserve ≤ maxU128 := Nat.le_trans (Nat.sub_le _ _) (toBaseUnits_le whole)
        rw [whole, Option.getD_some, toBaseUnits_fromBaseUnits fits] at read
        cases read
        exact Nat.le_trans (Nat.sub_le _ _) (drawn.within held whole)

/-- Holding back keeps every line on its token. -/
def CutsWithin (cut : MultiTokenSpec → Option MultiTokenSpec) : Prop :=
  ∀ token spec line, DrawnOn token spec → cut spec = some line → DrawnOn token line

theorem reserveNativeGas_cuts (reserve : Nat) :
    ∃ cut, CutsWithin cut ∧ ∀ specs, reserveNativeGas specs reserve = specs.filterMap cut := by
  by_cases nothing : reserve = 0
  · refine ⟨some, ?_, ?_⟩
    · rintro token spec line drawn ⟨⟩
      exact drawn
    · intro specs
      rw [reserveNativeGas, if_pos nothing, List.filterMap_some]
  · refine ⟨fun spec => if spec.tokenAddress.isSome then some spec else heldBack spec reserve,
      ?_, ?_⟩
    · intro token spec line drawn kept
      dsimp only at kept
      split at kept
      · cases kept
        exact drawn
      · exact drawn.heldBack kept
    · intro specs
      rw [reserveNativeGas, if_neg nothing]

theorem reserveFeeToken_cuts (feeToken : String) (reserve : Nat) :
    ∃ cut, CutsWithin cut ∧
      ∀ specs, reserveFeeToken specs feeToken reserve = specs.filterMap cut := by
  by_cases nothing : reserve = 0
  · refine ⟨some, ?_, ?_⟩
    · rintro token spec line drawn ⟨⟩
      exact drawn
    · intro specs
      rw [reserveFeeToken, if_pos nothing, List.filterMap_some]
  · refine ⟨fun spec => if spec.tokenAddress.any (sameText · feeToken) then heldBack spec reserve
      else some spec, ?_, ?_⟩
    · intro token spec line drawn kept
      dsimp only at kept
      split at kept
      · exact drawn.heldBack kept
      · cases kept
        exact drawn
    · intro specs
      rw [reserveFeeToken, if_neg nothing]

/-- The lines of a sweep are drawn on the picks, in their order, some picks left
out. -/
theorem multiTokenSpecs_drawn (model : Model) (chainId : UInt32) :
    ∃ line : SendToken → Option MultiTokenSpec,
      multiTokenSpecs model chainId = (pickedTokens model).filterMap line ∧
        ∀ token spec, line token = some spec → DrawnOn token spec := by
  have reserved : ∃ cut, CutsWithin cut ∧
      multiTokenSpecs model chainId = (rawSpecs model).filterMap cut := by
    unfold multiTokenSpecs
    split
    · split
      · next token _ amount _ _ =>
          obtain ⟨cut, within, cuts⟩ := reserveFeeToken_cuts token (saturatingMul amount 2)
          exact ⟨cut, within, cuts _⟩
      · obtain ⟨cut, within, cuts⟩ := reserveNativeGas_cuts _
        exact ⟨cut, within, cuts _⟩
    · obtain ⟨cut, within, cuts⟩ := reserveNativeGas_cuts 0
      exact ⟨cut, within, cuts _⟩
  obtain ⟨cut, within, cuts⟩ := reserved
  refine ⟨fun token => cut ⟨token.tokenAddress, token.decimals, fullBalance token⟩, ?_, ?_⟩
  · rw [cuts, rawSpecs, List.filterMap_map]
    rfl
  · intro token spec kept
    exact within token _ spec (drawnOn_fullBalance token) kept

/-- The call and its line pay a holding of the plan's chain, in its own decimals and
within what is held of it. -/
structure Sweeps (model : Model) (plan : SubmitPlan) (token : SendToken) (call : FeeCall)
    (line : SendLine) : Prop where
  held : token ∈ model.holdings.tokens
  picked : model.form.multiSelectedIds.contains token.id = true
  chain : token.chainId = plan.chainId
  tokenAddress : line.tokenAddress = token.tokenAddress
  decimals : line.decimals = token.decimals
  paid : ∃ units, toBaseUnits line.amount token.decimals.toNat = some units ∧
    units ≤ token.heldUnits ∧
    buildTransferCall token.tokenAddress (Utf8.trim model.form.recipient) units = some call

/-- Every call of the plan, with the line beside it, pays its own pick, in the order
of the picks. -/
def SweepsPicks (model : Model) (plan : SubmitPlan) : Prop :=
  ∃ swept : List (SendToken × FeeCall × SendLine),
    (swept.map (·.1)).Sublist (pickedTokens model) ∧ plan.calls = swept.map (·.2.1) ∧
      plan.lines = swept.map (·.2.2) ∧
      ∀ part ∈ swept, Sweeps model plan part.1 part.2.1 part.2.2

theorem exists_swept {line : SendToken → Option MultiTokenSpec}
    {build : MultiTokenSpec → Option FeeCall} {name : MultiTokenSpec → Option SendLine}
    {picked : List SendToken} {calls : List FeeCall}
    (built : (picked.filterMap line).mapM build = some calls)
    (named : ∀ token ∈ picked, ∀ spec, line token = some spec → (name spec).isSome = true) :
    ∃ swept : List (SendToken × FeeCall × SendLine), (swept.map (·.1)).Sublist picked ∧
      calls = swept.map (·.2.1) ∧ (picked.filterMap line).filterMap name = swept.map (·.2.2) ∧
      ∀ part ∈ swept, part.1 ∈ picked ∧ ∃ spec, line part.1 = some spec ∧
        build spec = some part.2.1 ∧ name spec = some part.2.2 := by
  induction picked generalizing calls with
  | nil =>
    cases built
    exact ⟨[], List.nil_sublist _, rfl, rfl, nofun⟩
  | cons token picked ih =>
    have others : ∀ other ∈ picked, ∀ spec, line other = some spec → (name spec).isSome = true :=
      fun other member => named other (List.mem_cons_of_mem _ member)
    cases kept : line token with
    | none =>
      rw [List.filterMap_cons_none kept] at built ⊢
      obtain ⟨swept, within, called, lined, parts⟩ := ih built others
      refine ⟨swept, within.cons _, called, lined, ?_⟩
      intro part member
      exact ⟨List.mem_cons_of_mem _ (parts part member).1, (parts part member).2⟩
    | some spec =>
      rw [List.filterMap_cons_some kept] at built ⊢
      simp only [List.mapM_cons, Option.bind_eq_bind, Option.bind_eq_some_iff,
        Option.pure_def, Option.some.injEq] at built
      obtain ⟨call, calls_spec, rest, built, rfl⟩ := built
      obtain ⟨shown, named_spec⟩ :=
        Option.isSome_iff_exists.mp (named token List.mem_cons_self spec kept)
      obtain ⟨swept, within, called, lined, parts⟩ := ih built others
      refine ⟨(token, call, shown) :: swept, within.cons_cons _, ?_, ?_, ?_⟩
      · rw [called, List.map_cons]
      · rw [List.filterMap_cons_some named_spec, lined, List.map_cons]
      · intro part member
        rcases List.mem_cons.mp member with rfl | member
        · exact ⟨List.mem_cons_self, spec, kept, calls_spec, named_spec⟩
        · exact ⟨List.mem_cons_of_mem _ (parts part member).1, (parts part member).2⟩

def onChain (ids : List String) (tokens : List SendToken) (chainId : UInt32) : Bool :=
  let picked := tokens.filter fun token => ids.contains token.id
  picked.all (·.chainId == chainId) && picked.all fun token => picked.all fun other =>
    token.tokenAddress != other.tokenAddress || token.decimals == other.decimals

/-- In a sweep, the picks are all on the selected holding's chain. -/
def Entry.onOneChain (entry : Entry) : Bool :=
  !entry.multiSelectMode || entry.selectedToken.all fun selected =>
    onChain entry.multiSelectedIds entry.tokens selected.chainId

def Entry.sweep (entry : Entry) : Bool × List String × List SendToken × Option SendToken :=
  (entry.multiSelectMode, entry.multiSelectedIds, entry.tokens, entry.selectedToken)

theorem onOneChain_of_sweep {left right : Entry} (same : left.sweep = right.sweep)
    (oneChain : right.onOneChain = true) : left.onOneChain = true := by
  simp only [Entry.sweep, Prod.mk.injEq] at same
  obtain ⟨mode, ids, tokens, selected⟩ := same
  rw [Entry.onOneChain, mode, ids, tokens, selected]
  exact oneChain

theorem onChain_mono {ids fewer : List String} {tokens : List SendToken} {chainId : UInt32}
    (fits : onChain ids tokens chainId = true) (within : fewer ⊆ ids) :
    onChain fewer tokens chainId = true := by
  simp only [onChain, Bool.and_eq_true, List.all_eq_true, List.mem_filter,
    List.contains_iff_mem] at fits ⊢
  constructor
  · rintro token ⟨held, named⟩
    exact fits.1 token ⟨held, within named⟩
  · rintro token ⟨held, named⟩ other ⟨otherHeld, otherNamed⟩
    exact fits.2 token ⟨held, within named⟩ other ⟨otherHeld, within otherNamed⟩

/-- The activity line of one line of the sweep: the first pick of its contract. -/
def sweptLine (model : Model) (spec : MultiTokenSpec) : Option SendLine :=
  ((pickedTokens model).find? fun token => token.tokenAddress == spec.tokenAddress).map
    fun token => token.line (Utf8.trim model.form.recipient) (recipientName model) spec.amount

def AgreeOnDecimals (picked : List SendToken) : Prop :=
  ∀ token ∈ picked, ∀ other ∈ picked,
    token.tokenAddress = other.tokenAddress → token.decimals = other.decimals

/-- The call and its line pay the holding, in its own decimals and within what is
held of it. -/
structure SweptBy (model : Model) (token : SendToken) (call : FeeCall) (line : SendLine) :
    Prop where
  picked : token ∈ pickedTokens model
  target : line.target = Utf8.trim model.form.recipient
  tokenAddress : line.tokenAddress = token.tokenAddress
  decimals : line.decimals = token.decimals
  paid : ∃ units, toBaseUnits line.amount token.decimals.toNat = some units ∧
    units ≤ token.heldUnits ∧
    buildTransferCall token.tokenAddress (Utf8.trim model.form.recipient) units = some call

theorem multiPlan_swept {chainId : UInt32} {calls : List FeeCall}
    {lines : List SendLine} (agreed : AgreeOnDecimals (pickedTokens model))
    (parts : multiPlan model chainId = some (calls, lines)) :
    ∃ swept : List (SendToken × FeeCall × SendLine),
      (swept.map (·.1)).Sublist (pickedTokens model) ∧ calls = swept.map (·.2.1) ∧
        lines = swept.map (·.2.2) ∧
        ∀ part ∈ swept, SweptBy model part.1 part.2.1 part.2.2 := by
  obtain ⟨built, calls_built, same⟩ := Option.map_eq_some_iff.mp parts
  obtain ⟨line, specs, drawn⟩ := multiTokenSpecs_drawn model chainId
  rw [specs] at calls_built same
  have built_specs : ((pickedTokens model).filterMap line).mapM (fun spec => do
      let units ← toBaseUnits spec.amount spec.decimals.toNat
      buildTransferCall spec.tokenAddress (Utf8.trim model.form.recipient) units) = some built := by
    unfold buildMultiTokenCalls at calls_built
    split at calls_built
    · cases calls_built
    · exact calls_built
  have found : ∀ token ∈ pickedTokens model, ∀ spec, line token = some spec →
      ((pickedTokens model).find? fun other => other.tokenAddress == spec.tokenAddress).isSome =
        true := by
    intro token picked spec kept
    rw [List.find?_isSome]
    exact ⟨token, picked, beq_iff_eq.mpr (drawn token spec kept).tokenAddress.symm⟩
  obtain ⟨same_calls, same_lines⟩ := Prod.mk.inj same
  obtain ⟨swept, within, calls_swept, lines_swept, paid⟩ := @exists_swept line _
    (sweptLine model) _ _ built_specs fun token picked spec kept =>
      Option.isSome_map.trans (found token picked spec kept)
  refine ⟨swept, within, ?_, ?_, ?_⟩
  · rw [← same_calls, calls_swept]
  · rw [← same_lines]
    exact lines_swept
  intro part member
  obtain ⟨picked, spec, kept, calls_spec, named⟩ := paid part member
  obtain ⟨other, chosen, shown⟩ := Option.map_eq_some_iff.mp named
  have draws := drawn part.1 spec kept
  have other_address : other.tokenAddress = spec.tokenAddress := by
    simpa using List.find?_some chosen
  have decimals : part.1.decimals = other.decimals :=
    agreed part.1 picked other (List.mem_of_find?_eq_some chosen)
      (draws.tokenAddress.symm.trans other_address.symm)
  obtain ⟨units, read, calls_part⟩ := Option.bind_eq_some_iff.mp calls_spec
  refine ⟨picked, ?_, ?_, ?_, units, ?_, draws.within units read, ?_⟩
  · rw [← shown]
    rfl
  · rw [← shown]
    exact other_address.trans draws.tokenAddress
  · rw [← shown]
    exact decimals.symm
  · rw [← shown, ← draws.decimals]
    exact read
  · rw [← draws.tokenAddress]
    exact calls_part

theorem sweepsPicks_of_onOneChain {plan : SubmitPlan}
    (sweeping : model.form.multiSelectMode = true) (oneChain : model.entry.onOneChain = true)
    (planned : submitPlan model = some plan) : SweepsPicks model plan := by
  obtain ⟨plans⟩ := submitPlan_spec planned
  have chain : plan.chainId = plans.token.chainId := congrArg SubmitPlan.chainId plans.made
  have called : plan.calls = plans.calls := congrArg SubmitPlan.calls plans.made
  have lined : plan.lines = plans.lines := congrArg SubmitPlan.lines plans.made
  have fits : onChain model.form.multiSelectedIds model.holdings.tokens plan.chainId = true := by
    simpa [Entry.onOneChain, Model.entry, sweeping, plans.selected, chain] using oneChain
  simp only [onChain, Bool.and_eq_true, List.all_eq_true, Bool.or_eq_true, bne_iff_ne,
    beq_iff_eq] at fits
  obtain ⟨onPlan, agreed⟩ := fits
  have parts : multiPlan model plans.token.chainId = some (plans.calls, plans.lines) := by
    have either := plans.parts
    rwa [planParts, if_pos sweeping] at either
  have agree : AgreeOnDecimals (pickedTokens model) := by
    intro token picked other otherPicked same
    exact (agreed token picked other otherPicked).resolve_left (not_not.mpr same)
  obtain ⟨swept, within, calls_swept, lines_swept, paid⟩ := multiPlan_swept agree parts
  refine ⟨swept, within, called.trans calls_swept, lined.trans lines_swept, ?_⟩
  intro part member
  have sweeps := paid part member
  have held := List.mem_filter.mp sweeps.picked
  exact ⟨held.1, held.2, onPlan part.1 sweeps.picked, sweeps.tokenAddress, sweeps.decimals,
    sweeps.paid⟩

section Steps

variable [Runtime]

/-- The event brings no holding of another chain, and no second reading of a
contract's decimals, into the sweep. -/
def keepsChain (event : Event) (model : Model) : Bool :=
  match event with
  | .toggleMultiToken tokenId => !(visibleMultiTokens model).any (·.id == tokenId) ||
      (withPicks (model.form.multiSelectedIds ++ [tokenId]) model).entry.onOneChain
  | .toggleAllMultiTokens visibleIds => (withPicks (model.form.multiSelectedIds ++
      (valuableMultiIds model).filter visibleIds.contains) model).entry.onOneChain
  | .confirmMultiSelection => (pickedTokens model).head?.all fun first =>
    onChain model.form.multiSelectedIds model.holdings.tokens first.chainId
  | .tokensPartial tokens => (listing (withDisplaySymbols tokens) model).entry.onOneChain
  | .holdingsUpdated tokens => ({ model.entry with
      tokens := offeredTokens model (withDisplaySymbols tokens)
      selectedToken := reselected (withDisplaySymbols tokens) model } : Entry).onOneChain
  | .shellCompleted id (.tokensLoaded tokens chains) =>
    (tokensAnswer id tokens chains model).1.entry.onOneChain
  | .shellCompleted id (.tokenMetadata outcome) =>
    (metadataAnswer id outcome model).1.entry.onOneChain
  | _ => true

variable {model : Model} {event : Event}

omit [Runtime] in
theorem withPicks_onOneChain {ids fewer : List String}
    (oneChain : (withPicks ids model).entry.onOneChain = true) (within : fewer ⊆ ids) :
    (withPicks fewer model).entry.onOneChain = true := by
  unfold Entry.onOneChain at oneChain ⊢
  rw [Bool.or_eq_true] at oneChain ⊢
  refine oneChain.imp id ?_
  intro fits
  show model.holdings.selectedToken.all _ = true
  have fits : model.holdings.selectedToken.all (fun selected =>
    onChain ids model.holdings.tokens selected.chainId) = true := fits
  cases selected : model.holdings.selectedToken with
  | none => rfl
  | some =>
    rw [selected] at fits
    exact onChain_mono fits within

omit [Runtime] in
theorem foldl_withId_subset (more ids : List String) : more.foldl withId ids ⊆ ids ++ more := by
  induction more generalizing ids with
  | nil => simp
  | cons id _ ih =>
    intro found member
    rcases List.mem_append.mp (ih (withId ids id) member) with inIds | inMore
    · unfold withId at inIds
      split at inIds
      · exact List.mem_append_left _ inIds
      · rcases List.mem_append.mp inIds with old | new
        · exact List.mem_append_left _ old
        · rw [List.mem_singleton.mp new]
          exact List.mem_append_right _ List.mem_cons_self
    · exact List.mem_append_right _ (List.mem_cons_of_mem _ inMore)

theorem isPick_onOneChain (picks : event.isPick = true) (keeps : keepsChain event model = true)
    (oneChain : model.entry.onOneChain = true) :
    (step event model).1.entry.onOneChain = true := by
  cases event with
  | toggleMultiToken tokenId =>
    show (toggleMultiToken tokenId model).1.entry.onOneChain = true
    unfold toggleMultiToken
    split
    · exact withPicks_onOneChain oneChain (List.erase_subset)
    · split
      · next shown =>
          simp only [keepsChain, shown, Bool.not_true, Bool.false_or] at keeps
          exact keeps
      · exact oneChain
  | toggleAllMultiTokens visibleIds =>
    show (toggleAllMulti visibleIds model).1.entry.onOneChain = true
    unfold toggleAllMulti
    dsimp only
    split
    · exact oneChain
    · split
      · exact withPicks_onOneChain oneChain (List.filter_sublist.subset)
      · exact withPicks_onOneChain keeps (foldl_withId_subset _ _)
  | _ => cases picks

omit [Runtime] in
theorem rescoped_onOneChain (entry : Entry) (chainId : Option UInt32) :
    ({ entry with multiSelectedIds := [], multiChainId := chainId } : Entry).onOneChain = true := by
  have unpicked : ∀ token : SendToken, (([] : List String).contains token.id) = false :=
    fun _ => rfl
  have none_picked : entry.tokens.filter (fun token => ([] : List String).contains token.id) = [] :=
    List.filter_eq_nil_iff.mpr fun token _ => by rw [unpicked]; exact Bool.false_ne_true
  unfold Entry.onOneChain onChain
  dsimp only
  rw [none_picked]
  cases entry.selectedToken <;> simp

omit [Runtime] in
theorem onOneChain_of_single {entry : Entry} (single : entry.multiSelectMode = false) :
    entry.onOneChain = true := by
  rw [Entry.onOneChain, single]
  rfl

omit [Runtime] in
theorem warmed_onOneChain (base : Model) :
    (warmed base).entry.onOneChain = base.entry.onOneChain := by
  unfold warmed
  split
  · rfl
  · rfl

omit [Runtime] in
theorem maxed_sweep (exact : String) (entry : Entry) : (entry.maxed exact).sweep = entry.sweep := by
  unfold Entry.maxed
  generalize maxFigure exact = figure
  rfl

omit [Runtime] in
theorem filled_sweep (base : Model) : (filled base).entry.sweep = base.entry.sweep := by
  obtain ⟨_, _, same⟩ := filled_refigures base
  rw [same]
  rfl

omit [Runtime] in
theorem redisplayed_sweep (display : SendDisplayContext) (base : Model) :
    (redenominateToDisplay { base with display }).entry.sweep = base.entry.sweep := by
  obtain ⟨_, _, same⟩ := redenominateToDisplay_refigures display base
  rw [same]
  rfl

theorem toggled_sweep (base : Model) : (toggleFiatInput base).1.entry.sweep = base.entry.sweep := by
  obtain ⟨_, _, same⟩ := toggleFiatInput_refigures base
  rw [same]
  rfl

theorem step_onOneChain (keeps : keepsChain event model = true)
    (oneChain : model.entry.onOneChain = true) :
    (step event model).1.entry.onOneChain = true := by
  have stays : ∀ {entry : Entry}, (step event model).1.entry = entry →
      entry.sweep = model.entry.sweep → (step event model).1.entry.onOneChain = true := by
    intro entry same kept
    rw [same]
    exact onOneChain_of_sweep kept oneChain
  cases step_edit event model with
  | kept same | continued runs passes asks same | keyed answered waiting asks same
  | heard answered read waiting same | dropped same | settled settles inHand same
  | unchecked missing same | left same | picking named sweeping same
  | begun onPage selected resolved fits same | revoked same | addressed named unlocked same
  | handedIn named plain single same | readdressed named split lands same
  | typed named unlocked same | split named unlocked same | rowsChanged named several same
  | single named few same | unlisted same => exact stays same rfl
  | reopened _ same =>
    rw [same]
    rfl
  | returned _ _ same =>
    rw [same, Entry.onOneChain]
    exact Bool.or_true _
  | requoted named onForm read same | recoined named same | maxed named free single selected same =>
    exact stays same (filled_sweep _)
  | filledIn _ _ same => exact stays same (maxed_sweep _ _)
  | redisplayed _ same => exact stays same (redisplayed_sweep _ model)
  | toggled _ same => exact stays same (toggled_sweep model)
  | partially named same =>
    subst named
    rw [same]
    exact keeps
  | updated named same =>
    subst named
    obtain ⟨_, _, refigured⟩ := relisted_refigures (withDisplaySymbols _) model
    rw [same, refigured]
    exact keeps
  | refreshed named =>
    subst named
    exact keeps
  | routed named =>
    subst named
    exact keeps
  | looked named =>
    subst named
    exact keeps
  | selected _ _ same =>
    rw [same, warmed_onOneChain]
    exact onOneChain_of_single rfl
  | picked picks => exact isPick_onOneChain picks keeps oneChain
  | rescoped _ same =>
    rw [same]
    exact rescoped_onOneChain model.entry _
  | chosen _ _ _ same =>
    rw [same, warmed_onOneChain]
    exact onOneChain_of_single rfl
  | @swept first second rest named picks same =>
    subst named
    rw [same, warmed_onOneChain]
    simp only [keepsChain, picks, List.head?_cons, Option.all_some] at keeps
    exact keeps

/-- In every run that brings no holding of another chain into a sweep, all that a
sweep would sign pays holdings of the plan's chain, each in its own decimals and
within what is held of it. -/
theorem sweep_is_one_chain (reached : machine.ReachableBy keepsChain model)
    (sweeping : model.form.multiSelectMode = true) {plan : SubmitPlan}
    (planned : submitPlan model = some plan) : SweepsPicks model plan := by
  have oneChain : model.entry.onOneChain = true := by
    refine @Machine.ReachableBy.invariant _ _ _ machine keepsChain
      (fun model => model.entry.onOneChain = true) ?_ ?_ _ reached
    · rfl
    · intro event model keeps oneChain
      rw [show (machine.step event model).1.entry = _ from update_entry event model]
      exact step_onOneChain keeps oneChain
  exact sweepsPicks_of_onOneChain sweeping oneChain planned

end Steps

theorem SweepsPicks.calls_le {plan : SubmitPlan} (sweeps : SweepsPicks model plan) :
    plan.calls.length ≤ (pickedTokens model).countP fun token => token.chainId == plan.chainId := by
  obtain ⟨swept, within, called, _, parts⟩ := sweeps
  have all_there : (swept.map (·.1)).countP (fun token => token.chainId == plan.chainId) =
      (swept.map (·.1)).length := by
    rw [List.countP_eq_length]
    intro token member
    obtain ⟨part, held, rfl⟩ := List.mem_map.mp member
    exact beq_iff_eq.mpr (parts part held).chain
  calc plan.calls.length = (swept.map (·.1)).length := by rw [called, List.length_map, List.length_map]
    _ = (swept.map (·.1)).countP fun token => token.chainId == plan.chainId := all_there.symm
    _ ≤ (pickedTokens model).countP fun token => token.chainId == plan.chainId :=
      within.countP_le


/-- A contract's coin beside the ether of the sample. -/
def sampleCoin : SendToken := { sampleEther with
  symbol := "USDC", decimals := 6, tokenAddress := some sampleDollar }

def sampleBinance : SendToken := { sampleEther with
  network := "bnb", chainId := 56, symbol := "BNB" }

/-- Two holdings picked and confirmed, and a recipient typed. -/
def sampleSweep (second : SendToken) : List Event :=
  [.openScreen (some sampleAccount) {} {},
    .shellCompleted 1 (.tokensLoaded (some [sampleEther, second])
      [⟨1, "ethereum", "ETH"⟩, ⟨56, "bnb", "BNB"⟩]),
    .toggleMultiToken sampleEther.id,
    .toggleMultiToken second.id,
    .confirmMultiSelection,
    .setRecipient samplePayee]

/-- Two holdings of one chain are swept by one call each. -/
theorem sweep_is_one_chain_sampleCoin :
    ∃ plan, submitPlan (plainSend.after (sampleSweep sampleCoin)) = some plan ∧
      plan.calls.length = 2 ∧ SweepsPicks (plainSend.after (sampleSweep sampleCoin)) plan := by
  have reached := @Machine.reachableBy_after _ _ _ plainSend (@keepsChain plainRuntime)
    (sampleSweep sampleCoin) (by decide)
  have sweeping : (plainSend.after (sampleSweep sampleCoin)).form.multiSelectMode = true := by
    decide
  have planned : (submitPlan (plainSend.after (sampleSweep sampleCoin))).map (·.calls.length) =
      some 2 := by decide
  obtain ⟨plan, made, calls⟩ := Option.map_eq_some_iff.mp planned
  exact ⟨plan, made, calls, @sweep_is_one_chain plainRuntime _ reached sweeping _ made⟩

/-- With no network filter, a holding of another chain is picked and contributes a
call to the plan of the first pick's chain. -/
theorem sweep_is_not_one_chain :
    plainSend.Reachable (plainSend.after (sampleSweep sampleBinance)) ∧
      (plainSend.after (sampleSweep sampleBinance)).form.multiSelectMode = true ∧
      ∃ plan, submitPlan (plainSend.after (sampleSweep sampleBinance)) = some plan ∧
        plan.chainId = 1 ∧ plan.calls.length = 2 ∧
        ¬ SweepsPicks (plainSend.after (sampleSweep sampleBinance)) plan := by
  have sweeping : (plainSend.after (sampleSweep sampleBinance)).form.multiSelectMode = true := by
    decide +kernel
  have planned : (submitPlan (plainSend.after (sampleSweep sampleBinance))).map
      (fun plan => (plan.chainId, plan.calls.length)) = some (1, 2) := by decide +kernel
  have picks : (pickedTokens (plainSend.after (sampleSweep sampleBinance))).countP
      (fun token => token.chainId == 1) = 1 := by decide +kernel
  obtain ⟨plan, made, both⟩ := Option.map_eq_some_iff.mp planned
  obtain ⟨chain, calls⟩ := Prod.mk.inj both
  refine ⟨Machine.reachable_after _, sweeping, plan, made, chain, calls, ?_⟩
  intro sweeps
  have few := sweeps.calls_le
  rw [calls, chain, picks] at few
  exact absurd few (by decide)

end VelaWallet.Send
