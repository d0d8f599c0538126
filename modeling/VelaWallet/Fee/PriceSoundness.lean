import VelaWallet.Base.Machine
import VelaWallet.Fee.Events

/-!
# A relay's price is held against the wallet's own

The price a relay publishes is charged as it stands, or raised where the relay's cap has fallen
behind the chain, and only where it is within three times what the formula in force comes to.
-/

namespace VelaWallet.FeePolicy

open Utf8 (CaseTable)

variable {gas : ChainGasPrice} {plan : GenericPlan} {raw : Option FeeBundlerQuote}
  {ctx : RequestCtx} {after : Model} {perGas : Nat}

def Admitted (gas : ChainGasPrice) : Prop :=
  ∃ chainId ethGasPrice baseFee priorityFee wantTip,
    resolveGasPrice chainId ethGasPrice baseFee priorityFee wantTip = some gas

/-- A price published in a quote, beside the formula's price and the lowest cap the next block
leaves, over the quote's tip. -/
structure Offer (tier : FeeTier) (gas : ChainGasPrice) (raw : Option FeeBundlerQuote) where
  quote : AcceptedQuote
  relayPrice : Nat
  own : Nat
  lowestCap : Nat
  accepted : acceptBundlerQuote raw gas.gasPrice = some quote
  published : quote.inBandFeePerGas = some relayPrice
  formula : inBandPerGas tier gas.baseFee (quote.maxPriorityFeePerGas.getD 0) = some own
  cap : inBandCap tier (nextBaseFeeFloor gas.baseFee) (quote.maxPriorityFeePerGas.getD 0) =
    some lowestCap

/-- The price charged is one an offer comes to: its own, unless its cap lags behind the chain, and
never one of more than three times what the wallet's formula says. -/
structure Offer.Charges {tier : FeeTier} {gas : ChainGasPrice} {raw : Option FeeBundlerQuote}
    (offer : Offer tier gas raw) (perGas : Nat) : Prop where
  bounded : 0 < offer.own → offer.relayPrice ≤ 3 * offer.own
  stands : offer.lowestCap ≤ offer.quote.maxFeePerGas → perGas = offer.relayPrice

/-- The price comes from the readings the model holds: an offer over them comes to it. -/
def Told (model : Model) (perGas : Nat) : Prop :=
  ∃ ctx gas raw, model.ctx = some ctx ∧ model.pending.gas = some gas ∧
    model.pending.bundler = some raw ∧ Admitted gas ∧
    ∃ offer : Offer ctx.tier gas raw, offer.Charges perGas

theorem Told.same {model : Model} (told : Told model perGas)
    (ctx : after.ctx = model.ctx) (gas : after.pending.gas = model.pending.gas)
    (bundler : after.pending.bundler = model.pending.bundler) : Told after perGas := by
  rw [Told, ctx, gas, bundler]
  exact told

theorem relayPrice_le {quote : AcceptedQuote} {price : Nat}
    (accepted : acceptBundlerQuote raw gas.gasPrice = some quote)
    (published : quote.inBandFeePerGas = some price) : price ≤ maxU128 := by
  have ⟨raw, _, read⟩ := Option.bind_eq_some_iff.mp accepted
  have ⟨maxFee, _, made⟩ := Option.bind_eq_some_iff.mp read
  split at made
  · cases made
  · cases made
    have ⟨named, _⟩ := Option.filter_eq_some_iff.mp published
    have ⟨text, _, figure⟩ := Option.bind_eq_some_iff.mp named
    exact parseFigure_le figure

theorem saturatingMul_lt {left right value : Nat} (fits : value ≤ maxU128) :
    saturatingMul left right < value ↔ left * right < value := by
  rw [saturatingMul, min_lt_iff]
  constructor
  · rintro (below | above)
    · exact below
    · exact absurd fits (Nat.not_le_of_lt above)
  · exact Or.inl

theorem charges_of_published
    (checked : publishedPrice ctx gas (acceptBundlerQuote raw gas.gasPrice) = .ok (some perGas)) :
    ∃ offer : Offer ctx.tier gas raw, offer.Charges perGas := by
  unfold publishedPrice at checked
  split at checked
  · cases checked
  · next relayPrice quote named =>
      have ⟨accepted, taken, paired⟩ := Option.bind_eq_some_iff.mp named
      have ⟨price, published, same⟩ := Option.map_eq_some_iff.mp paired
      cases same
      have fits := relayPrice_le taken published
      dsimp only at checked
      split at checked
      · next own lowestCap formula cap =>
          let offer : Offer ctx.tier gas raw :=
            ⟨quote, relayPrice, own, lowestCap, taken, published, formula, cap⟩
          split at checked
          · cases checked
          · next within =>
              have bounded : 0 < own → relayPrice ≤ 3 * own := by
                intro positive
                apply Nat.le_of_not_lt
                intro above
                apply within
                refine ⟨positive, (saturatingMul_lt fits).mpr ?_⟩
                rwa [Nat.mul_comm]
              split at checked
              · next lags =>
                  split at checked
                  · cases checked
                  · cases checked
                    refine ⟨offer, bounded, ?_⟩
                    intro upToDate
                    exact absurd lags (Nat.not_lt_of_le upToDate)
              · cases checked
                exact ⟨offer, bounded, fun _ => rfl⟩
      · cases checked

theorem publishedPrice_refused (offer : Offer ctx.tier gas raw) (positive : 0 < offer.own)
    (above : 3 * offer.own < offer.relayPrice) :
    publishedPrice ctx gas (acceptBundlerQuote raw gas.gasPrice) = .error .gasQuoteTooHigh := by
  have fits := relayPrice_le offer.accepted offer.published
  have refused : 0 < offer.own ∧ saturatingMul offer.own 3 < offer.relayPrice := by
    refine ⟨positive, (saturatingMul_lt fits).mpr ?_⟩
    rwa [Nat.mul_comm]
  rw [offer.accepted, publishedPrice, Option.bind_some, offer.published, Option.map_some]
  simp only [offer.formula, offer.cap]
  rw [if_pos refused]

theorem tryAdvance_refused [CaseTable] {model : Model} {quotes : Option (List ParsedQuote)}
    (asked : model.ctx = some ctx) (generic : isTempoChain ctx.chainId = false)
    (read : model.pending.gas = some gas) (quoted : model.pending.bundler = some raw)
    (listed : model.pending.quotes = some quotes) (offer : Offer ctx.tier gas raw)
    (positive : 0 < offer.own) (above : 3 * offer.own < offer.relayPrice) :
    tryAdvance model = .fails model .gasQuoteTooHigh := by
  have refused := publishedPrice_refused offer positive above
  unfold tryAdvance
  simp only [asked, generic, read, quoted, listed]
  unfold advanceGeneric
  dsimp only
  split
  · contradiction
  · split
    · rfl
    · rw [refused]

/-- A model in a step that has charged nothing new: the readings are admitted, and whoever
simulates was asked to. -/
structure Kept (held : Option Charge) (model : Model) : Prop where
  gas : ∀ gas, model.pending.gas = some gas → Admitted gas
  asked : ∀ plan, model.phase = .estimating (.generic plan) → model.ctx.isSome
  charge : ∀ perGas, model.charge = some (.published perGas) → held = some (.published perGas)

/-- The price of a plan under simulation comes from the readings. -/
def Planned (model : Model) : Prop :=
  ∀ plan perGas, model.phase = .estimating (.generic plan) → plan.published = some perGas →
    Told model perGas

/-- A model a step ends in: a price charged is the one held before, or comes from the readings. -/
structure Sound (held : Option Charge) (model : Model) : Prop where
  gas : ∀ gas, model.pending.gas = some gas → Admitted gas
  asked : ∀ plan, model.phase = .estimating (.generic plan) → model.ctx.isSome
  plan : Planned model
  charge : ∀ perGas, model.charge = some (.published perGas) →
    held = some (.published perGas) ∨ Told model perGas

variable {held : Option Charge} {model : Model}

namespace Kept

theorem same (kept : Kept held model)
    (gas : after.pending.gas = model.pending.gas) (phase : after.phase = model.phase)
    (ctx : after.ctx = model.ctx) (charge : after.charge = model.charge) : Kept held after where
  gas reading read := kept.gas reading (gas ▸ read)
  asked plan estimating := ctx ▸ kept.asked plan (phase ▸ estimating)
  charge perGas charged := kept.charge perGas (charge ▸ charged)

theorem settles (kept : Kept held model)
    (phase : ∀ plan, after.phase ≠ .estimating (.generic plan))
    (gas : after.pending.gas = model.pending.gas ∨ after.pending.gas = none)
    (charge : after.charge = model.charge ∨ after.charge = none) : Sound held after where
  gas reading read := by
    rcases gas with same | gone
    · exact kept.gas reading (same ▸ read)
    · cases gone.symm.trans read
  asked plan estimating := absurd estimating (phase plan)
  plan plan _ estimating _ := absurd estimating (phase plan)
  charge perGas charged := by
    rcases charge with same | gone
    · exact Or.inl (kept.charge perGas (same ▸ charged))
    · cases gone.symm.trans charged

theorem sound (kept : Kept held model) (planned : Planned model) : Sound held model :=
  ⟨kept.gas, kept.asked, planned, fun perGas charged => Or.inl (kept.charge perGas charged)⟩

end Kept

theorem Planned.same (planned : Planned model) (phase : after.phase = model.phase)
    (ctx : after.ctx = model.ctx) (gas : after.pending.gas = model.pending.gas)
    (bundler : after.pending.bundler = model.pending.bundler) : Planned after := by
  intro plan perGas estimating published
  exact (planned plan perGas (phase ▸ estimating) published).same ctx gas bundler

def Ending.Sound (held : Option Charge) : Ending → Prop
  | goes model _ => FeePolicy.Sound held model
  | fails model _ => Kept held model

section Runs

section

variable (kept : Kept held model)
include kept

theorem beginGathering_sound : (beginGathering model).Sound held := by
  unfold beginGathering
  split
  · next missing =>
      apply kept.settles
      · intro plan estimating
        have asked := kept.asked plan estimating
        rw [missing] at asked
        cases asked
      · exact Or.inl rfl
      · exact Or.inl rfl
  · dsimp only
    split
    · exact kept.same rfl rfl rfl rfl
    · exact kept.settles nofun (Or.inr rfl) (Or.inl rfl)

theorem beginPipeline_sound : (beginPipeline model).Sound held := by
  unfold beginPipeline
  split
  · next missing =>
      have begun := beginGathering_sound kept
      rw [beginGathering, missing] at begun
      exact begun
  · split
    · exact kept.settles nofun (Or.inr rfl) (Or.inl rfl)
    · exact beginGathering_sound kept

theorem keepQuoteCoin_kept : Kept held (keepQuoteCoin model) := by
  unfold keepQuoteCoin
  split
  · exact kept
  · dsimp only
    split
    · exact kept.same rfl rfl rfl rfl
    · exact kept

theorem failOver_sound (failure : FeeFailure) :
    Sound held (failOver model failure) := by
  have shown (failing : Model) (charge : failing.charge = model.charge)
      (gas : failing.pending.gas = model.pending.gas) (phase : failing.phase = model.phase)
      (ctx : failing.ctx = model.ctx) : Sound held { keepQuoteCoin failing with phase := .quoted } := by
    have figure := keepQuoteCoin_kept (kept.same gas phase ctx charge)
    exact figure.settles nofun (Or.inl rfl) (Or.inl rfl)
  unfold failOver
  dsimp only
  split
  · exact kept.settles nofun (Or.inl rfl) (Or.inl rfl)
  · exact kept.settles nofun (Or.inl rfl) (Or.inl rfl)
  · split
    · exact shown _ rfl rfl rfl rfl
    · exact kept.settles nofun (Or.inl rfl) (Or.inl rfl)
  · split
    · exact shown _ rfl rfl rfl rfl
    · exact kept.settles nofun (Or.inl rfl) (Or.inl rfl)
  · exact kept.settles nofun (Or.inl rfl) (Or.inr rfl)
  · exact kept.settles nofun (Or.inl rfl) (Or.inr rfl)

theorem failOnce_sound (failure : FeeFailure) :
    Sound held (failOnce model failure).1 :=
  failOver_sound (kept.same rfl rfl rfl rfl : Kept held (endRetry model)) failure

theorem caughtUp_kept : Kept held (caughtUp model) := by
  have figure := keepQuoteCoin_kept (kept.same rfl rfl rfl rfl :
    Kept held { endRetry model with freshReads := true, origin := .initial })
  exact figure.same rfl rfl rfl rfl

theorem fail_sound (failure : FeeFailure) :
    Sound held (fail model failure).1 := by
  unfold fail
  split
  · have begun := beginPipeline_sound (caughtUp_kept kept)
    split
    · next goes =>
        rw [goes] at begun
        exact begun
    · next fails =>
        rw [fails] at begun
        exact failOnce_sound begun _
  · exact failOnce_sound kept failure

end

theorem Ending.Sound.finish {ending : Ending} (sound : ending.Sound held) :
    FeePolicy.Sound held ending.finish.1 := by
  cases ending with
  | goes => exact sound
  | fails _ failure => exact fail_sound sound failure

/-- A charge comes from the readings when it is a published one. -/
def Charge.Told (charge : Charge) (model : Model) : Prop :=
  ∀ perGas, charge = .published perGas → FeePolicy.Told model perGas

/-- The prices a plan publishes come from the readings. -/
def GenericPlan.Told (plan : GenericPlan) (model : Model) : Prop :=
  ∀ perGas, plan.published = some perGas → FeePolicy.Told model perGas

theorem settleGeneric_sound (kept : Kept held model) (ctx : RequestCtx) (plan : GenericPlan)
    (totalGas : Nat) {charge : Charge} (told : charge.Told model) (native : ParsedQuote) :
    (settleGeneric model ctx plan totalGas charge native).Sound held := by
  unfold settleGeneric
  split
  · exact kept
  · split
    · exact kept
    · dsimp only
      split
      · exact kept
      · refine ⟨kept.gas, nofun, nofun, ?_⟩
        intro perGas charged
        exact Or.inr ((told perGas (Option.some.inj charged)).same rfl rfl rfl)

theorem priceTempo_sound (kept : Kept held model) (ctx : RequestCtx) (plan : TempoPlan)
    (expectedGas : Nat) : (priceTempo model ctx plan expectedGas).Sound held := by
  unfold priceTempo
  dsimp only
  split
  · exact kept.settles nofun (Or.inl rfl) (Or.inr rfl)
  · exact kept.settles nofun (Or.inl rfl) (Or.inr rfl)

variable [CaseTable]

section

variable (kept : Kept held model)
include kept

theorem estimateIn_sound (ctx : RequestCtx)
    (asked : model.ctx.isSome) (told : plan.Told model) (coin : Option String) :
    (estimateIn model ctx plan coin).Sound held := by
  unfold estimateIn
  split
  · exact kept
  · dsimp only
    split
    · exact kept.same rfl rfl rfl rfl
    · have planned : ∀ perGas, plan.published = some perGas → Told model perGas := told
      refine ⟨kept.gas, fun _ _ => asked, ?_, fun perGas charged =>
        Or.inl (kept.charge perGas charged)⟩
      intro estimated perGas phase published
      cases phase
      exact (planned perGas published).same rfl rfl rfl


theorem priceGeneric_sound (ctx : RequestCtx)
    (asked : model.ctx.isSome) (plans : plan.Told model) (totalGas : Nat) {charge : Charge}
    (told : charge.Told model) : (priceGeneric model ctx plan totalGas charge).Sound held := by
  unfold priceGeneric
  split
  · exact kept
  · next native _ =>
      split
      · dsimp only
        split
        · apply estimateIn_sound
          · exact kept.same rfl rfl rfl rfl
          · exact asked
          · exact plans
        · apply settleGeneric_sound
          · exact kept.same rfl rfl rfl rfl
          · exact told
      · exact settleGeneric_sound kept ctx plan totalGas told native

theorem simulateGeneric_sound (ctx : RequestCtx) (rows : List ParsedQuote)
    {plan : Nat → GenericPlan} (asked : model.ctx.isSome)
    (told : ∀ length, (plan length).Told model) :
    (simulateGeneric model ctx rows plan).Sound held := by
  unfold simulateGeneric
  split
  · dsimp only
    split
    · exact kept.same rfl rfl rfl rfl
    · refine ⟨kept.gas, fun _ _ => asked, ?_, fun perGas charged =>
        Or.inl (kept.charge perGas charged)⟩
      intro estimated perGas phase published
      cases phase
      exact (told _ perGas published).same rfl rfl rfl
  · exact kept

theorem advanceGeneric_sound
    {bundler : Option FeeBundlerQuote} (asked : model.ctx = some ctx)
    (read : model.pending.gas = some gas) (quoted : model.pending.bundler = some bundler)
    (measuredBaseFee : Option Nat) (quotes : Option (List ParsedQuote)) :
    (advanceGeneric model ctx gas measuredBaseFee bundler quotes).Sound held := by
  have present : model.ctx.isSome := by
    rw [asked]
    rfl
  unfold advanceGeneric
  dsimp only
  split
  · exact kept
  · split
    · exact kept
    · next published price =>
        have told : ∀ perGas, published = some perGas → Told model perGas := by
          intro perGas same
          subst same
          exact ⟨ctx, gas, bundler, asked, read, quoted, kept.gas gas read,
            charges_of_published price⟩
        split
        · exact kept
        · split
          · apply simulateGeneric_sound
            · exact kept.same rfl rfl rfl rfl
            · exact present
            · intro length
              exact told
          · apply simulateGeneric_sound
            · exact kept.same rfl rfl rfl rfl
            · exact present
            · intro length
              exact told

omit [CaseTable] in
theorem advanceTempo_sound (ctx : RequestCtx) (gas : ChainGasPrice)
    (recipient : Option String) : (advanceTempo model ctx gas recipient).Sound held := by
  unfold advanceTempo
  dsimp only
  generalize (if picksCoin model then _ else none : Option (Option String)) = picked
  cases picked with
  | none =>
    split
    · split
      · exact kept
      · exact kept.settles (by rintro _ ⟨⟩) (Or.inl rfl) (Or.inl rfl)
    · exact priceTempo_sound kept _ _ _
  | some choice =>
    have same : Kept held { model with feeToken := choice } := kept.same rfl rfl rfl rfl
    dsimp only
    split
    · split
      · exact same
      · exact same.settles (by rintro _ ⟨⟩) (Or.inl rfl) (Or.inl rfl)
    · exact priceTempo_sound same _ _ _

theorem tryAdvance_sound (planned : Planned model) :
    (tryAdvance model).Sound held := by
  have waits := kept.sound planned
  unfold tryAdvance
  split
  · exact waits
  · next asked =>
      split
      · split
        · apply advanceTempo_sound
          exact kept.same rfl rfl rfl rfl
        · exact waits
      · split
        · next read quoted _ =>
            exact advanceGeneric_sound kept asked read quoted _ _
        · exact waits

theorem refusedByRelay_sound (ctx : RequestCtx)
    (asked : model.ctx.isSome) (told : plan.Told model) :
    (refusedByRelay model ctx plan).Sound held := by
  have landed (refusing : Model) (same : Kept held refusing) :
      Kept held (if refusing.origin = .refresh ∨ refusing.origin = .catchup then
        { refusing with estimate := none, stale := false, origin := .refresh }
      else refusing) := by
    split
    · exact same.same rfl rfl rfl rfl
    · exact same
  unfold refusedByRelay
  dsimp only
  split
  · apply estimateIn_sound
    · exact kept.same rfl rfl rfl rfl
    · exact asked
    · exact told
  · split
    · apply landed
      exact kept.same rfl rfl rfl rfl
    · apply landed
      exact kept.same rfl rfl rfl rfl

end

omit [CaseTable] in
theorem marked_told (basis : Nat) : (Charge.marked basis).Told model := nofun

theorem acceptGeneric_sound (kept : Kept held model) (ctx : RequestCtx)
    (asked : model.ctx.isSome) (told : plan.Told model) (outcome : FeeGasOutcome)
    (innerFloor : Option Nat) : (acceptGeneric model ctx plan outcome innerFloor).Sound held := by
  cases outcome with
  | estimated =>
    simp only [acceptGeneric]
    split
    · split
      · next published =>
          apply priceGeneric_sound kept ctx asked told
          intro charged same
          exact told charged (published.trans (congrArg some (Charge.published.inj same)))
      · exact priceGeneric_sound kept ctx asked told _ (marked_told _)
    · exact kept
  | contextUnavailable => exact kept
  | simulationFailed =>
    simp only [acceptGeneric]
    split
    · exact kept
    · exact priceGeneric_sound kept ctx asked told _ (marked_told _)
  | refused =>
    simp only [acceptGeneric]
    split
    · exact refusedByRelay_sound kept ctx asked told
    · exact priceGeneric_sound kept ctx asked told _ (marked_told _)

omit [CaseTable] in
theorem acceptTempo_sound (kept : Kept held model) (ctx : RequestCtx) (plan : TempoPlan)
    (outcome : FeeGasOutcome) : (acceptTempo model ctx plan outcome).Sound held := by
  unfold acceptTempo
  split
  · split
    · exact priceTempo_sound kept ctx plan _
    · exact kept
  · exact kept

theorem tryPrice_sound (kept : Kept held model) (planned : Planned model) :
    (tryPrice model).Sound held := by
  have waits := kept.sound planned
  unfold tryPrice
  split
  · next =>
      split
      · exact waits
      · split
        · exact waits
        · next ctx _ asked phase _ =>
            have present : model.ctx.isSome := by
              rw [asked]
              rfl
            apply acceptGeneric_sound kept ctx present
            intro perGas published
            exact planned _ perGas phase published
        · exact acceptTempo_sound kept _ _ _
  · exact waits

omit [CaseTable] in
theorem acceptDeployment_sound (kept : Kept held model) (reading : model.phase = .readingAccount)
    (read : DeploymentRead) : (acceptDeployment model read).Sound held := by
  cases read with
  | read =>
    apply beginGathering_sound
    refine ⟨kept.gas, ?_, kept.charge⟩
    intro plan estimating
    cases reading.symm.trans estimating
  | unreachable | «internal» kind => exact kept.same rfl rfl rfl rfl

omit [CaseTable] in
theorem Planned.gathering (phase : model.phase = .gathering) : Planned model := by
  intro plan perGas estimating
  cases phase.symm.trans estimating

section

variable (kept : Kept held model)
include kept

theorem acceptGasPrice_sound (gathering : model.phase = .gathering)
    (ethGasPrice baseFee priorityFee : Option String) :
    (acceptGasPrice model ethGasPrice baseFee priorityFee).Sound held := by
  unfold acceptGasPrice
  dsimp only
  split
  · exact kept.same rfl rfl rfl rfl
  · next read =>
      apply tryAdvance_sound
      · refine ⟨?_, kept.asked, kept.charge⟩
        intro held same
        cases same
        exact ⟨_, _, _, _, _, read⟩
      · exact Planned.gathering gathering

section

variable (planned : Planned model)
include planned

omit [CaseTable] in
theorem acceptTtl_sound :
    (acceptTtl model).Sound held := by
  have waits := kept.sound planned
  unfold acceptTtl
  split
  · split
    · exact waits
    · apply beginPipeline_sound
      exact kept.same rfl rfl rfl rfl
  · split
    · exact waits
    · apply beginPipeline_sound
      exact kept.same rfl rfl rfl rfl
  · exact waits

omit [CaseTable] in
theorem acceptDeadline_sound :
    (acceptDeadline model).Sound held := by
  have emptied : Kept held { model.next with pending := .empty } :=
    ⟨nofun, kept.asked, kept.charge⟩
  unfold acceptDeadline
  split
  · exact kept.same rfl rfl rfl rfl
  · exact emptied
  · exact emptied
  · exact kept.sound planned

theorem accept_sound
    (result : FeeShellResult) : (accept model result).Sound held := by
  unfold accept
  split
  · next reading => exact acceptDeployment_sound kept reading _
  · next gathering => exact acceptGasPrice_sound kept gathering _ _ _
  · next gathering =>
      apply tryAdvance_sound
      · exact kept.same rfl rfl rfl rfl
      · exact Planned.gathering gathering
  · apply tryAdvance_sound
    · exact kept.same rfl rfl rfl rfl
    · exact planned.same rfl rfl rfl rfl
  · apply tryAdvance_sound
    · exact kept.same rfl rfl rfl rfl
    · exact planned.same rfl rfl rfl rfl
  · apply tryPrice_sound
    · exact kept.same rfl rfl rfl rfl
    · exact planned.same rfl rfl rfl rfl
  · apply tryPrice_sound
    · exact kept.same rfl rfl rfl rfl
    · exact planned.same rfl rfl rfl rfl
  · exact acceptTtl_sound kept planned
  · exact acceptDeadline_sound kept planned
  · exact kept.sound planned

/-! ## Events -/

omit [CaseTable] in
theorem cancelTick_sound :
    Kept held (cancelTick model) ∧ Planned (cancelTick model) := by
  unfold cancelTick
  split
  · exact ⟨⟨nofun, nofun, kept.charge⟩, nofun⟩
  · exact ⟨kept, planned⟩

theorem remeasureIfStale_sound :
    (remeasureIfStale model).Sound held := by
  unfold remeasureIfStale
  split
  · apply beginPipeline_sound
    exact kept.same rfl rfl rfl rfl
  · exact kept.sound planned

end

end

omit [CaseTable] in
theorem switchEstimate_frame {switched : Model} {option : ParsedQuote}
    (made : switchEstimate model option = some switched) :
    switched = { model with estimate := switched.estimate } := by
  unfold switchEstimate at made
  split at made
  · cases made
    rfl
  · cases made

omit [CaseTable] in
theorem reestimateIn_sound (kept : Kept held model) (token : Option String) :
    (reestimateIn model token).Sound held := by
  apply beginPipeline_sound
  exact kept.same rfl rfl rfl rfl

theorem selectFeeAssetNow_sound (kept : Kept held model) (planned : Planned model)
    (token : Option String) : (selectFeeAssetNow model token).Sound held := by
  have waits := kept.sound planned
  unfold selectFeeAssetNow
  dsimp only
  split
  · exact waits
  · split
    · exact Kept.sound (kept.same rfl rfl rfl rfl) (planned.same rfl rfl rfl rfl)
    · split
      · split
        · exact waits
        · exact reestimateIn_sound kept token
      · split
        · exact reestimateIn_sound kept token
        · split
          · exact waits
          · split
            · next made =>
                split at made
                · cases made
                · rw [switchEstimate_frame made]
                  apply remeasureIfStale_sound
                  · exact kept.same rfl rfl rfl rfl
                  · exact planned.same rfl rfl rfl rfl
            · exact reestimateIn_sound kept token

omit [CaseTable] in
theorem repickQuoted_frame (ctx : RequestCtx) :
    ∃ estimate feeToken, repickQuoted model ctx = { model with estimate, feeToken } := by
  unfold repickQuoted
  split
  · split
    · exact ⟨_, _, rfl⟩
    · dsimp only
      split
      · exact ⟨_, _, rfl⟩
      · split
        · next made =>
            have ⟨option, _, switches⟩ := Option.bind_eq_some_iff.mp made
            rw [switchEstimate_frame switches]
            exact ⟨_, _, rfl⟩
        · exact ⟨_, _, rfl⟩
  · exact ⟨_, _, rfl⟩

omit [CaseTable] in
theorem Ending.Sound.keepRefused {ending : Ending} (sound : ending.Sound held)
    (refused : List (Option String)) : (ending.keepRefused refused).Sound held := by
  cases ending with
  | goes _ asked =>
    refine ⟨sound.gas, sound.asked, sound.plan.same rfl rfl rfl rfl, ?_⟩
    intro perGas charged
    rcases FeePolicy.Sound.charge sound perGas charged with before | told
    · exact Or.inl before
    · exact Or.inr (told.same rfl rfl rfl)
  | fails => exact Kept.same sound rfl rfl rfl rfl

section

variable (kept : Kept held model)
include kept

omit [CaseTable] in
theorem retryWithACoinThatPays_sound (planned : Planned model)
    (ctx : RequestCtx) : (retryWithACoinThatPays model ctx).Sound held := by
  have waits := kept.sound planned
  unfold retryWithACoinThatPays
  split
  · exact waits
  · split
    · exact waits
    · split
      · exact waits
      · split
        · exact waits
        · apply Ending.Sound.keepRefused
          apply beginPipeline_sound
          exact kept.same rfl rfl rfl rfl

theorem balanceChangesMeasuredNow_sound (planned : Planned model)
    (changes : List FeeBalanceChange) : (balanceChangesMeasuredNow model changes).Sound held := by
  have measured : Kept held { model with measured := some (readChanges changes) } :=
    kept.same rfl rfl rfl rfl
  have plans : Planned { model with measured := some (readChanges changes) } :=
    planned.same rfl rfl rfl rfl
  unfold balanceChangesMeasuredNow
  dsimp only
  split
  · exact measured.sound plans
  · next ctx _ =>
      split
      · exact measured.sound plans
      · split
        · have ⟨_, _, moved⟩ :=
            @repickQuoted_frame { model with measured := some (readChanges changes) } ctx
          rw [moved]
          apply remeasureIfStale_sound
          · exact kept.same rfl rfl rfl rfl
          · exact planned.same rfl rfl rfl rfl
        · exact retryWithACoinThatPays_sound measured plans _
        · exact retryWithACoinThatPays_sound measured plans _
        · exact measured.sound plans

omit [CaseTable] in
theorem rest_sound : Sound held (rest model) := by
  apply kept.settles
  · intro plan
    unfold rest
    dsimp only
    split
    · exact nofun
    · exact nofun
  · exact Or.inl rfl
  · exact Or.inl rfl

omit [CaseTable] in
theorem abandonRun_kept : Kept held (abandonRun model) :=
  ⟨nofun, kept.asked, kept.charge⟩

omit [CaseTable] in
theorem leaveConfirm_sound : Sound held (leaveConfirm model) := by
  have abandoned := abandonRun_kept kept
  unfold leaveConfirm
  dsimp only
  split
  · apply rest_sound
    exact abandoned.same rfl rfl rfl rfl
  · exact rest_sound abandoned

omit [CaseTable] in
theorem chainChanged_sound (chainId : UInt32) :
    Sound held (chainChanged model chainId) := by
  apply rest_sound
  exact (abandonRun_kept kept).same rfl rfl rfl rfl

omit [CaseTable] in
theorem requote_sound (planned : Planned model) :
    (requote model).Sound held := by
  unfold requote
  split
  · exact kept.sound planned
  · split
    · exact Kept.sound (kept.same rfl rfl rfl rfl) (planned.same rfl rfl rfl rfl)
    · split
      · exact kept.sound planned
      · apply beginPipeline_sound
        exact kept.same rfl rfl rfl rfl

omit [CaseTable] in
theorem quoteExpired_sound (planned : Planned model) :
    (quoteExpired model).Sound held := by
  unfold quoteExpired
  split
  · exact Kept.sound (kept.same rfl rfl rfl rfl) (planned.same rfl rfl rfl rfl)
  · split
    · exact kept.sound planned
    · apply beginPipeline_sound
      exact kept.same rfl rfl rfl rfl

theorem handle_sound (planned : Planned model) (event : Event) :
    (handle model event).Sound held := by
  cases event with
  | quoteRequested =>
    rw [handle, quoteRequested]
    apply beginPipeline_sound
    exact ⟨kept.gas, fun _ _ => rfl, kept.charge⟩
  | selectFeeAsset token =>
    have ⟨keeps, plans⟩ := cancelTick_sound kept planned
    exact selectFeeAssetNow_sound keeps plans token
  | requote => exact requote_sound kept planned
  | leaveConfirm => exact leaveConfirm_sound kept
  | chainChanged chainId => exact chainChanged_sound kept chainId
  | quoteExpired => exact quoteExpired_sound kept planned
  | balanceChangesMeasured changes =>
    have ⟨keeps, plans⟩ := cancelTick_sound kept planned
    exact balanceChangesMeasuredNow_sound keeps plans changes
  | shellCompleted _ result =>
    rw [handle]
    split
    · exact kept.sound planned
    · exact accept_sound kept planned result

theorem update_sound (planned : Planned model) (event : Event) :
    Sound held (update model event).1 := by
  have handled := (handle_sound kept planned event).finish
  unfold update resumeIf
  split
  · exact handled
  · exact handled

end

end Runs

def feeMachine [CaseTable] : Machine Model Event Request where
  init := .fresh
  step event model := update model event

theorem reached_sound [CaseTable] (events : List Event) :
    Kept (feeMachine.after events).charge (feeMachine.after events) ∧
      Planned (feeMachine.after events) := by
  induction events using List.reverseRecOn with
  | nil => exact ⟨⟨nofun, nofun, nofun⟩, nofun⟩
  | append_singleton _ event ih =>
    have sound := update_sound ih.1 ih.2 event
    rw [Machine.after_concat]
    exact ⟨⟨sound.gas, sound.asked, fun _ charged => charged⟩, sound.plan⟩

theorem charged_told [CaseTable] {events : List Event}
    (charged : (feeMachine.after events).charge = some (.published perGas)) :
    ∃ part, part <+: events ∧ (feeMachine.after part).charge = some (.published perGas) ∧
      Told (feeMachine.after part) perGas := by
  induction events using List.reverseRecOn with
  | nil => cases charged
  | append_singleton events event ih =>
    have ⟨kept, planned⟩ := reached_sound events
    have sound := update_sound kept planned event
    have now := charged
    rw [Machine.after_concat] at now
    rcases sound.charge perGas now with before | told
    · have ⟨part, within, told⟩ := ih before
      exact ⟨part, within.trans (List.prefix_append _ _), told⟩
    · refine ⟨events ++ [event], List.prefix_rfl, charged, ?_⟩
      rw [Machine.after_concat]
      exact told

/-- In every run a published price that is charged was, when it was charged, one the readings at
hand came to: held against the wallet's own formula over them, where the formula comes to
anything, and the relay's own figure unless the relay's cap lags; and a figure of more than three
times the formula ends the run. -/
theorem relay_price_bounded [CaseTable] : (∀ (events : List Event) (perGas : Nat),
      (feeMachine.after events).charge = some (.published perGas) →
      ∃ part, part <+: events ∧ (feeMachine.after part).charge = some (.published perGas) ∧
        Told (feeMachine.after part) perGas) ∧
    ∀ (model : Model) (ctx : RequestCtx) (gas : ChainGasPrice) (raw : Option FeeBundlerQuote)
      (quotes : Option (List ParsedQuote)) (offer : Offer ctx.tier gas raw),
      model.ctx = some ctx → isTempoChain ctx.chainId = false →
      model.pending.gas = some gas → model.pending.bundler = some raw →
      model.pending.quotes = some quotes → 0 < offer.own → 3 * offer.own < offer.relayPrice →
      tryAdvance model = .fails model .gasQuoteTooHigh := by
  constructor
  · intro events perGas charged
    exact charged_told charged
  · intro model ctx gas raw quotes offer asked generic read quoted listed positive above
    exact tryAdvance_refused asked generic read quoted listed offer positive above

/-- The runs below are on ASCII texts. -/
@[reducible] def plainCase : CaseTable := Utf8.asciiCaseTable

/-- A relay that takes the chain's coin, and answers a request with a published price. -/
def samplePricing (baseFee : Option String) (maxFee price : String) : List Event :=
  [.quoteRequested 1 "0x1111111111111111111111111111111111111111" true true .standard [] none
      false none,
    .shellCompleted 1 (.gasPrice (some "1000") baseFee none),
    .shellCompleted 1 (.bundlerQuote (some ⟨maxFee, none, none, none, some price⟩)),
    .shellCompleted 1 (.inBandQuotes (some [⟨"0x3333333333333333333333333333333333333333", true,
      none, "1000000000000000000", 18, "ETH", "", some "1", none, none⟩])),
    .shellCompleted 1 (.userOpGas (.estimated "1000" "1000" "1000" (some "3000")))]

def sampleRequest : RequestCtx := ⟨1, "", true, false, false, true, .standard, []⟩

/-- A run that gathered everything, its relay asking for too much. -/
def sampleGathered : Model :=
  { Model.fresh with
    ctx := some sampleRequest,
    phase := .gathering,
    pending := { Pending.empty with
      gas := some ⟨1000, 1000, 0, false⟩,
      bundler := some (some ⟨"1500", none, none, none, some "4951"⟩),
      quotes := some none } }

theorem relay_price_bounded_sample : (∃ part, part <+: samplePricing (some "1000") "1500" "1650" ∧
      ((@feeMachine plainCase).after part).charge = some (.published 1650) ∧
      Told ((@feeMachine plainCase).after part) 1650) ∧
    @tryAdvance plainCase sampleGathered = .fails sampleGathered .gasQuoteTooHigh := by
  have charged : ((@feeMachine plainCase).after
      (samplePricing (some "1000") "1500" "1650")).charge = some (.published 1650) := by
    decide
  have bounded := @relay_price_bounded plainCase
  constructor
  · exact bounded.1 _ 1650 charged
  · exact bounded.2 sampleGathered sampleRequest ⟨1000, 1000, 0, false⟩
      (some ⟨"1500", none, none, none, some "4951"⟩) none
      ⟨⟨1000, 500, some 4951, 1500, none⟩, 4951, 1650, 1312, by decide, rfl, by decide, by decide⟩
      rfl (by decide) rfl rfl rfl (by decide) (by decide)

/-- The run in hand charges more than three times what the formula comes to. -/
def overcharges (model : Model) : Bool :=
  match model.ctx, model.pending.gas, model.pending.bundler, model.charge with
  | some ctx, some gas, some raw, some (.published perGas) =>
    (acceptBundlerQuote raw gas.gasPrice).any fun quote =>
      (inBandPerGas ctx.tier gas.baseFee (quote.maxPriorityFeePerGas.getD 0)).any
        fun own => decide (3 * own < perGas)
  | _, _, _, _ => false

/-- A chain with no base fee and a quote with no tip leave nothing to hold a price against; and a
price within the bound is raised past it where the relay's cap is next to nothing. -/
theorem relay_price_unbounded :
    (∃ model, (@feeMachine plainCase).Reachable model ∧ model.pending.gas.any (·.baseFee == 0) ∧
      overcharges model = true) ∧
    ∃ model, (@feeMachine plainCase).Reachable model ∧ model.pending.gas.any (·.baseFee == 1000) ∧
      overcharges model = true := by
  have shown :
      (((@feeMachine plainCase).after (samplePricing none "1500" "1000000")).pending.gas.any
        (·.baseFee == 0) = true ∧
      overcharges ((@feeMachine plainCase).after (samplePricing none "1500" "1000000")) = true) ∧
      ((@feeMachine plainCase).after (samplePricing (some "1000") "1" "1650")).pending.gas.any
        (·.baseFee == 1000) = true ∧
      overcharges ((@feeMachine plainCase).after (samplePricing (some "1000") "1" "1650")) =
        true := by decide
  exact ⟨⟨_, Machine.reachable_after _, shown.1⟩, ⟨_, Machine.reachable_after _, shown.2⟩⟩

end VelaWallet.FeePolicy
