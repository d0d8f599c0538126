import VelaWallet.Send.Verdicts

/-!
# The fee on the page and the fee signed

An operation is handed out with the coin the person picked, or else the coin of
the estimate in hand, and with the estimate's own figure.  The two name one coin
exactly when the estimate is a quote in the coin picked.
-/

namespace VelaWallet.Send

open FeePolicy

variable {model : Model}

def namesCoin (gasFeeToken : Option String) (fee : FeeEstimate) : Bool :=
  match gasFeeToken, fee.feeAsset with
  | none, .native => true
  | none, .erc20 token _ _ _ => isTempoChain fee.chainId && sameText token tempoDefaultFeeToken
  | some _, .native => false
  | some named, .erc20 token _ _ _ => sameText named token

/-- The operation is signed over an estimate the model holds for its chain: its
coin, and, when a fee is quoted, its recipient and its amount in that coin. -/
def SignsEstimate (model : Model) (operation : SubmitRequest) : Prop :=
  ∃ fee, model.fees.feeEstimate = some fee ∧ fee.chainId = operation.chainId ∧
    namesCoin operation.gasFeeToken fee = true ∧
    ∀ quoted, operation.quotedFee = some quoted →
      fee.feeRecipient = some quoted.recipient ∧ quoted.amount = toString (coinAmount fee)

/-- The estimate in hand is for the send's chain and in the coin the fee is paid
in. -/
def quoteCovers (model : Model) : Bool :=
  (selectedFee model).any fun fee =>
    quoteIsForFeeCoin model fee || (model.fees.coin.gasFeeToken.isNone && namesCoin none fee)

theorem namesCoin_coinName (fee : FeeEstimate) : namesCoin (coinName fee) fee = true := by
  unfold namesCoin coinName
  cases asset : fee.feeAsset with
  | native => rfl
  | erc20 token =>
    by_cases default : (isTempoChain fee.chainId && sameText token tempoDefaultFeeToken) = true
    · simp [default]
    · simp [default]

theorem namesCoin_quotedFeeToken (model : Model) (fee : FeeEstimate) :
    namesCoin (quotedFeeToken model (some fee)) fee =
      (quoteIsForFeeCoin model fee ||
        (model.fees.coin.gasFeeToken.isNone && namesCoin none fee)) := by
  have chosen_of_named := model.fees.coin.chosen_of_named
  unfold quotedFeeToken quoteIsForFeeCoin
  cases chosen : model.fees.coin.feeCoinChosen with
  | false =>
    have unnamed : model.fees.coin.gasFeeToken = none := by
      cases named : model.fees.coin.gasFeeToken with
      | none => rfl
      | some =>
        rw [named, chosen] at chosen_of_named
        cases chosen_of_named rfl
    have own : namesCoin (coinName fee) fee = true := namesCoin_coinName fee
    rw [unnamed]
    cases asset : fee.feeAsset with
    | native | erc20 token decimals amount symbol => simpa using own
  | true =>
    cases named : model.fees.coin.gasFeeToken with
    | none | some token => cases asset : fee.feeAsset <;> simp [namesCoin, asset]

/-- The batch of the form's mode, with its lines. -/
def planParts (model : Model) (token : SendToken) : Option (List FeeCall × List SendLine) :=
  if model.form.multiSelectMode then multiPlan model token.chainId
  else if model.form.splitMode then splitPlan model token
  else singlePlan model token

def planFee (model : Model) (token : SendToken) : Option FeeEstimate :=
  model.fees.feeEstimate.filter (·.chainId == token.chainId)

structure Plans (model : Model) (plan : SubmitPlan) where
  token : SendToken
  account : SendAccountRef
  calls : List FeeCall
  lines : List SendLine
  selected : model.holdings.selectedToken = some token
  held : model.account = some account
  parts : planParts model token = some (calls, lines)
  made : plan = {
    chainId := token.chainId
    account := account.address
    maxFeePerGas := (planFee model token).map fun fee => toString fee.maxFeePerGas
    gasFeeToken := quotedFeeToken model (planFee model token)
    quotedFee := (planFee model token).bind quoteOf
    calls
    lines }

theorem submitPlan_spec {plan : SubmitPlan}
    (planned : submitPlan model = some plan) : Nonempty (Plans model plan) := by
  unfold submitPlan at planned
  cases selected : model.holdings.selectedToken with
  | none => simp [selected] at planned
  | some token =>
    cases held : model.account with
    | none => simp [selected, held] at planned
    | some account =>
      simp only [selected, held, Option.bind_eq_bind, Option.bind_some] at planned
      have found : ∃ both, planParts model token = some both ∧
          some (SubmitPlan.mk token.chainId account.address
            ((planFee model token).map fun fee => toString fee.maxFeePerGas)
            (quotedFeeToken model (planFee model token)) ((planFee model token).bind quoteOf)
            both.1 both.2) = some plan := by
        unfold planParts
        split at planned
        · next multi =>
            rw [if_pos multi]
            exact Option.bind_eq_some_iff.mp planned
        · next single =>
            rw [if_neg single]
            split at planned
            · next splits =>
                rw [if_pos splits]
                exact Option.bind_eq_some_iff.mp planned
            · next whole =>
                rw [if_neg whole]
                exact Option.bind_eq_some_iff.mp planned
      obtain ⟨both, parts, made⟩ := found
      cases made
      exact ⟨{ token, account, calls := both.1, lines := both.2, selected, held, parts
               made := rfl }⟩

theorem selectedFee_of_selected {token : SendToken}
    (selected : model.holdings.selectedToken = some token) :
    selectedFee model = planFee model token := by
  unfold selectedFee planFee
  rw [selected]
  cases model.fees.feeEstimate with
  | none => rfl
  | some fee =>
    by_cases same : fee.chainId = token.chainId
    · simp [same, Option.filter]
    · simp [same, Option.filter]

/-- A plan is over the estimate in hand exactly when that is a quote in the coin
the fee is paid in. -/
theorem signsEstimate_iff {plan : SubmitPlan} (plans : Plans model plan)
    (review : SignedReview.Review) (publicKeyHex : String) :
    SignsEstimate model (submitRequest plan review publicKeyHex) ↔ quoteCovers model = true := by
  have chain : plan.chainId = plans.token.chainId :=
    congrArg SubmitPlan.chainId plans.made
  have coin : plan.gasFeeToken = quotedFeeToken model (planFee model plans.token) :=
    congrArg SubmitPlan.gasFeeToken plans.made
  have quote : plan.quotedFee = (planFee model plans.token).bind quoteOf :=
    congrArg SubmitPlan.quotedFee plans.made
  unfold SignsEstimate quoteCovers submitRequest
  rw [selectedFee_of_selected plans.selected, chain, coin, quote]
  constructor
  · rintro ⟨fee, estimate, same, named, _⟩
    have held : planFee model plans.token = some fee := by
      simp [planFee, estimate, same, Option.filter]
    rw [held] at named ⊢
    rw [Option.any_some, ← namesCoin_quotedFeeToken]
    exact named
  · intro covered
    cases held : planFee model plans.token with
    | none =>
      rw [held] at covered
      cases covered
    | some fee =>
      obtain ⟨estimate, same⟩ := Option.filter_eq_some_iff.mp held
      rw [held, Option.any_some, ← namesCoin_quotedFeeToken] at covered
      refine ⟨fee, estimate, beq_iff_eq.mp same, covered, ?_⟩
      intro quoted quotes
      obtain ⟨recipient, paid, made⟩ := Option.map_eq_some_iff.mp quotes
      cases made
      exact ⟨paid, rfl⟩

/-- The claim of every run: whatever came before, an operation handed out is signed
over the estimate in hand, in its coin, exactly when that estimate is for the
send's chain and the coin the fee is paid in. -/
theorem displayed_fee_is_signed [Runtime] (events : List Event) (event : Event) {id : Nat}
    {operation : SubmitRequest}
    (emitted : SendEffect.request id (.submitUserOp operation) ∈
      (machine.step event (machine.after events)).2) :
    SignsEstimate (machine.after events) operation ↔
      quoteCovers (machine.after events) = true := by
  obtain ⟨submits, rfl⟩ := emitted_by_submit emitted
  obtain ⟨plans⟩ := submitPlan_spec submits.planned
  exact signsEstimate_iff plans submits.review submits.publicKeyHex

theorem not_signsEstimate_of_native {operation : SubmitRequest} {coin : String}
    (named : operation.gasFeeToken = some coin)
    (native : model.fees.feeEstimate.map (·.feeAsset) = some .native) :
    ¬ SignsEstimate model operation := by
  rintro ⟨fee, estimate, _, agrees, _⟩
  rw [estimate, Option.map_some, Option.some.injEq] at native
  simp [namesCoin, named, native] at agrees

theorem not_signsEstimate_of_none {operation : SubmitRequest}
    (empty : model.fees.feeEstimate = none) : ¬ SignsEstimate model operation := by
  rintro ⟨fee, estimate, _⟩
  rw [empty] at estimate
  cases estimate

/-- A coin other than the chain's own. -/
def sampleDollar : String := "0x4444444444444444444444444444444444444444"

/-- The confirm page, another fee coin picked over the quote, and the confirm. -/
def otherCoinRun : List Event :=
  sampleConfirm ++ [.chooseFeeToken (some sampleDollar), .slideConfirm none]

/-- The confirm page, its figure discarded by the fee card, and the confirm. -/
def noQuoteRun : List Event :=
  sampleConfirm ++ [.feeFailedChanged true, .feeFailedChanged false, .slideConfirm none]

def sampleServes : Event := .shellCompleted 11 (.treasuryProbed .covered)

theorem displayed_fee_is_signed_sampleSubmit :
    ∃ operation, SignsEstimate (plainSend.after (sampleConfirm ++ [.slideConfirm none]))
      operation := by
  have goes_out : (handedOut ((@machine plainRuntime).step sampleServes
      ((@machine plainRuntime).after (sampleConfirm ++ [.slideConfirm none]))).2).isSome =
        true := by decide +kernel
  have covered : quoteCovers ((@machine plainRuntime).after
      (sampleConfirm ++ [.slideConfirm none])) = true := by decide +kernel
  obtain ⟨operation, handed⟩ := Option.isSome_iff_exists.mp goes_out
  obtain ⟨id, emitted⟩ := mem_of_handedOut handed
  exact ⟨operation, (@displayed_fee_is_signed plainRuntime _ _ _ _ emitted).mpr covered⟩

/-- A native quote is signed as an amount of another coin, and an operation goes out
with no estimate in hand. -/
theorem displayed_fee_is_not_signed :
    (∃ id operation, SendEffect.request id (.submitUserOp operation) ∈
        (plainSend.step sampleServes (plainSend.after otherCoinRun)).2 ∧
      operation.gasFeeToken = some sampleDollar ∧
      operation.quotedFee.map (·.amount) = some "1000" ∧
      ¬ SignsEstimate (plainSend.after otherCoinRun) operation) ∧
    ∃ id operation, SendEffect.request id (.submitUserOp operation) ∈
        (plainSend.step sampleServes (plainSend.after noQuoteRun)).2 ∧
      (plainSend.after noQuoteRun).fees.feeEstimate = none ∧
      ¬ SignsEstimate (plainSend.after noQuoteRun) operation := by
  constructor
  · have shown : (handedOut (plainSend.step sampleServes
        (plainSend.after otherCoinRun)).2).map (fun operation =>
          (operation.gasFeeToken, operation.quotedFee.map (·.amount))) =
        some (some sampleDollar, some "1000") := by decide +kernel
    obtain ⟨operation, handed, both⟩ := Option.map_eq_some_iff.mp shown
    obtain ⟨id, emitted⟩ := mem_of_handedOut handed
    have coin : operation.gasFeeToken = some sampleDollar := congrArg Prod.fst both
    have native : (plainSend.after otherCoinRun).fees.feeEstimate.map (·.feeAsset) =
        some .native := by decide +kernel
    exact ⟨id, operation, emitted, coin, congrArg Prod.snd both,
      not_signsEstimate_of_native coin native⟩
  · obtain ⟨operation, handed⟩ := Option.isSome_iff_exists.mp (show (handedOut
      (plainSend.step sampleServes (plainSend.after noQuoteRun)).2).isSome = true by
        decide +kernel)
    obtain ⟨id, emitted⟩ := mem_of_handedOut handed
    have empty : (plainSend.after noQuoteRun).fees.feeEstimate = none := by decide +kernel
    exact ⟨id, operation, emitted, empty, not_signsEstimate_of_none empty⟩

end VelaWallet.Send
