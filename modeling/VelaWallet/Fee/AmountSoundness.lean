import VelaWallet.Fee.Pricing
import Mathlib.Algebra.Order.Floor.Div

/-!
# What an in-band amount is worth

The amount of `in_band_amount_with` beside the same formula in exact arithmetic:
what the code returns is that formula's value, so it covers the charge and grows
with it, and a minimum of the relay's lifts it no further than the wallet's own
floor would.
-/

namespace VelaWallet.FeePolicy

namespace AssetPricing

/-- Base units of one whole coin. -/
def unit (asset : AssetPricing) : Nat := 10 ^ asset.decimals.toNat

/-- A decimal fraction of one coin, or its least unit. -/
def fraction (asset : AssetPricing) (places : UInt32) : Nat :=
  if places ≤ asset.decimals then 10 ^ (asset.decimals - places).toNat else 1

/-- The relay's price of the chain's coin, rounded up; zero is no price. -/
def nativePrice (asset : AssetPricing) : Option Nat :=
  (usdPriceScaled asset.usdPrice true).filter (· ≠ 0)

/-- The shell's price of the chain's coin. -/
def shellPrice (asset : AssetPricing) : Option Nat :=
  (usdPriceScaled asset.nativeUsdFloorPrice true).filter (· ≠ 0)

/-- The price of a fee coin, rounded down. -/
def feePrice (asset : AssetPricing) : Option Nat :=
  (usdPriceScaled asset.usdPrice false).filter (· ≠ 0)

def cent (asset : AssetPricing) (price : Nat) : Nat := (10 ^ 6 * asset.unit) ⌈/⌉ price

/-- The wallet's own floor under a fee in the chain's coin. -/
def floor (asset : AssetPricing) : Nat :=
  match asset.nativePrice, asset.shellPrice with
  | some price, _ => max (asset.cent price) (asset.fraction 5)
  | none, some price => max (min (asset.cent price) (asset.fraction 3)) (asset.fraction 5)
  | none, none => asset.fraction 3

/-- The floor in the chain's coin beside what the relay published. -/
def minimum (asset : AssetPricing) : Option Nat → Nat
  | none => asset.floor
  | some published =>
    let shellCent := match asset.nativePrice, asset.shellPrice with
      | none, some price => min (asset.cent price) (asset.fraction 3)
      | _, _ => 0
    min (max published shellCent) asset.floor

/-- A hundredth of a coin worth about a dollar. -/
def hundredth (asset : AssetPricing) (price : Nat) : Nat :=
  if asset.fraction 2 ≤ asset.cent price * 2 then asset.fraction 2 else 0

/-- An amount of the chain's coin in a fee coin, at two prices, rounded up. -/
def convert (fee native : AssetPricing) (nativePrice feePrice amount : Nat) : Nat :=
  (amount * nativePrice * fee.unit) ⌈/⌉ (native.unit * feePrice)

end AssetPricing

theorem wide_eq_some {value kept : Nat} :
    wide value = some kept ↔ value < 2 ^ 256 ∧ value = kept := by
  simp [wide]

theorem narrow_eq_some {value kept : Nat} :
    narrow value = some kept ↔ value ≤ maxU128 ∧ value = kept := by
  simp [narrow]

theorem pow10Wide_eq {decimals : UInt32} {unit : Nat} (read : pow10Wide decimals = some unit) :
    unit = 10 ^ decimals.toNat := by
  simp only [pow10Wide, Option.ite_none_right_eq_some, Option.some.injEq] at read
  exact read.2.symm

theorem fraction_eq {asset : AssetPricing} {places : UInt32} {unit : Nat}
    (read : (if places ≤ asset.decimals then pow10Wide (asset.decimals - places) else some 1) =
      some unit) : unit = asset.fraction places := by
  unfold AssetPricing.fraction
  split at read
  · next above => rw [if_pos above, pow10Wide_eq read]
  · next below => rw [if_neg below, Option.some.inj read]

theorem ceilDivWide_eq {numerator denominator quotient : Nat}
    (divided : ceilDivWide numerator denominator = some quotient) :
    0 < denominator ∧ quotient = numerator ⌈/⌉ denominator := by
  simp only [ceilDivWide, Option.ite_none_left_eq_some, Option.map_eq_some_iff, wide_eq_some]
    at divided
  obtain ⟨nonzero, sum, ⟨_, rfl⟩, rfl⟩ := divided
  have positive : 0 < denominator := Nat.pos_of_ne_zero nonzero
  refine ⟨positive, ?_⟩
  rw [Nat.ceilDiv_eq_add_pred_div, Nat.add_sub_assoc positive]

theorem centWorth_eq {asset : AssetPricing} {price cent : Nat}
    (worth : centWorth (10 ^ asset.decimals.toNat) price = some cent) :
    cent = asset.cent price := by
  obtain ⟨cents, kept, divided⟩ := Option.bind_eq_some_iff.mp worth
  obtain ⟨_, rfl⟩ := wide_eq_some.mp kept
  exact (ceilDivWide_eq divided).2

/-- The amount in exact arithmetic, where the coins it needs are priced. -/
def exactUnits (charged : Nat) (fee native : AssetPricing) (minimums : Minimums) : Option Nat :=
  if fee.isNative then some (max charged (native.minimum minimums.native))
  else do
    let nativePrice ← native.nativePrice
    let feePrice ← fee.feePrice
    let convert := fee.convert native nativePrice feePrice
    let ceiling := max (convert (max charged native.floor)) (fee.cent feePrice)
    return max (max (max (convert charged) (fee.cent feePrice)) (fee.hundredth feePrice))
      (min (minimums.fee.getD 0) ceiling)

variable {charged amount : Nat} {fee native : AssetPricing} {minimums : Minimums}

theorem bind_of_branches {α β : Type} {condition : Prop} [Decidable condition]
    {yes no : Option α} {rest : α → Option β} {result : β}
    (ended : (if condition then yes >>= rest else no >>= rest) = some result) :
    ∃ value, (if condition then yes else no) = some value ∧ rest value = some result := by
  split at ended
  · next holds => simpa [holds] using Option.bind_eq_some_iff.mp ended
  · next fails => simpa [fails] using Option.bind_eq_some_iff.mp ended

theorem inBandUnits_exact (priced : inBandUnits charged fee native minimums = some amount) :
    exactUnits charged fee native minimums = some amount := by
  unfold inBandUnits at priced
  split at priced
  case isTrue => cases priced
  case isFalse =>
  obtain ⟨nativeUnit, readUnit, priced⟩ := Option.bind_eq_some_iff.mp priced
  cases pow10Wide_eq readUnit
  extract_lets nativeUsd shellUsd afterAdmission at priced
  have relayed : native.nativePrice = nativeUsd := rfl
  have shown : native.shellPrice = shellUsd := rfl
  clear_value nativeUsd shellUsd
  obtain ⟨admission, readAdmission, priced⟩ := bind_of_branches priced
  cases fraction_eq readAdmission
  dsimp -zeta only [afterAdmission] at priced
  extract_lets afterBlind at priced
  obtain ⟨blind, readBlind, priced⟩ := bind_of_branches priced
  cases fraction_eq readBlind
  dsimp -zeta only [afterBlind] at priced
  extract_lets afterToday at priced
  obtain ⟨today, isToday, priced⟩ :
      ∃ today, today = native.floor ∧ afterToday today = some amount := by
    unfold AssetPricing.floor
    rw [relayed, shown]
    split at priced
    case h_1 | h_2 =>
      obtain ⟨_, mapped, ended⟩ := Option.bind_eq_some_iff.mp priced
      obtain ⟨cent, worth, rfl⟩ := Option.map_eq_some_iff.mp mapped
      exact ⟨_, by rw [centWorth_eq worth], ended⟩
    case h_3 => exact ⟨_, rfl, priced⟩
  cases isToday
  dsimp -zeta only [afterToday] at priced
  extract_lets afterFloor at priced
  obtain ⟨floor, isFloor, priced⟩ :
      ∃ floor, floor = native.minimum minimums.native ∧ afterFloor floor = some amount := by
    unfold AssetPricing.minimum
    rw [relayed, shown]
    cases told : minimums.native with
    | none =>
      rw [told] at priced
      exact ⟨_, rfl, priced⟩
    | some =>
      rw [told] at priced
      cases nativeUsd with
      | some => exact ⟨_, rfl, priced⟩
      | none =>
        cases shellUsd with
        | none => exact ⟨_, rfl, priced⟩
        | some =>
          obtain ⟨_, mapped, ended⟩ := Option.bind_eq_some_iff.mp priced
          obtain ⟨cent, worth, rfl⟩ := Option.map_eq_some_iff.mp mapped
          exact ⟨_, by rw [centWorth_eq worth], ended⟩
  cases isFloor
  dsimp -zeta only [afterFloor] at priced
  unfold exactUnits
  split at priced
  case isTrue own => rw [if_pos own, ← priced]
  case isFalse other =>
  rw [if_neg other]
  obtain ⟨nativePrice, isNativePrice, priced⟩ := Option.bind_eq_some_iff.mp priced
  obtain ⟨feePrice, isFeePrice, priced⟩ := Option.bind_eq_some_iff.mp priced
  obtain ⟨feeUnit, readFeeUnit, priced⟩ := Option.bind_eq_some_iff.mp priced
  cases pow10Wide_eq readFeeUnit
  extract_lets convert at priced
  have converts : ∀ {native_amount result : Nat}, convert native_amount = some result →
      result = fee.convert native nativePrice feePrice native_amount := by
    intro native_amount result converted
    obtain ⟨priced, keptPriced, converted⟩ := Option.bind_eq_some_iff.mp converted
    obtain ⟨numerator, keptNumerator, converted⟩ := Option.bind_eq_some_iff.mp converted
    obtain ⟨denominator, keptDenominator, divided⟩ := Option.bind_eq_some_iff.mp converted
    obtain ⟨_, rfl⟩ := wide_eq_some.mp keptPriced
    obtain ⟨_, rfl⟩ := wide_eq_some.mp keptNumerator
    obtain ⟨_, rfl⟩ := wide_eq_some.mp keptDenominator
    exact (ceilDivWide_eq divided).2
  clear_value convert
  obtain ⟨cents, keptCents, priced⟩ := Option.bind_eq_some_iff.mp priced
  obtain ⟨cent, divided, priced⟩ := Option.bind_eq_some_iff.mp priced
  obtain ⟨_, rfl⟩ := wide_eq_some.mp keptCents
  have isCent : cent = fee.cent feePrice := (ceilDivWide_eq divided).2
  cases isCent
  extract_lets afterHundredth at priced
  obtain ⟨hundredth, readHundredth, priced⟩ := bind_of_branches priced
  cases fraction_eq readHundredth
  dsimp -zeta only [afterHundredth] at priced
  obtain ⟨doubled, keptDoubled, priced⟩ := Option.bind_eq_some_iff.mp priced
  obtain ⟨_, rfl⟩ := wide_eq_some.mp keptDoubled
  obtain ⟨ceiling, convertedToday, priced⟩ := Option.bind_eq_some_iff.mp priced
  obtain ⟨converted, convertedCharge, priced⟩ := Option.bind_eq_some_iff.mp priced
  cases converts convertedToday
  cases converts convertedCharge
  rw [relayed, isNativePrice]
  unfold AssetPricing.feePrice
  rw [isFeePrice, ← priced]
  rfl

/-! ## The wallet's own rule -/

/-- No published minimum (`Minimums::default`). -/
def Minimums.unpublished : Minimums := ⟨none, none⟩

/-- `in_band_amount`: the fee for a native charge with no published minimum. -/
def inBandAmount (charged : Nat) (fee native : AssetPricing) : Option Nat :=
  inBandAmountWith charged fee native .unpublished

def calculateInBandFeeAmount (totalGas gasPrice : Nat) (fee native : AssetPricing) :
    Option Nat := do
  let charged ← wide (totalGas * gasPrice * 3)
  inBandAmount charged fee native

/-- An amount is worth the charge, at the prices it is converted by. -/
def Covers (charged : Nat) (fee native : AssetPricing) (amount : Nat) : Prop :=
  if fee.isNative then charged ≤ amount
  else ∃ nativePrice feePrice, native.nativePrice = some nativePrice ∧
    fee.feePrice = some feePrice ∧
    charged * nativePrice * fee.unit ≤ amount * feePrice * native.unit

theorem inBandAmountWith_exact
    (priced : inBandAmountWith charged fee native minimums = some amount) :
    exactUnits charged fee native minimums = some amount := by
  obtain ⟨units, exact, kept⟩ := Option.bind_eq_some_iff.mp priced
  obtain ⟨_, rfl⟩ := narrow_eq_some.mp kept
  exact inBandUnits_exact exact

theorem price_pos {scaled : Option Nat} {price : Nat}
    (priced : scaled.filter (· ≠ 0) = some price) : 0 < price :=
  Nat.pos_of_ne_zero (of_decide_eq_true (Option.filter_eq_some_iff.mp priced).2)

theorem AssetPricing.unit_pos (asset : AssetPricing) : 0 < asset.unit := Nat.pow_pos (by decide)

theorem le_convert {nativePrice feePrice : Nat} (positive : 0 < feePrice) (value : Nat) :
    value * nativePrice * fee.unit ≤
      fee.convert native nativePrice feePrice value * feePrice * native.unit := by
  calc value * nativePrice * fee.unit
      ≤ native.unit * feePrice * fee.convert native nativePrice feePrice value :=
        le_smul_ceilDiv (Nat.mul_pos native.unit_pos positive)
    _ = fee.convert native nativePrice feePrice value * feePrice * native.unit := by ring

theorem convert_mono {nativePrice dearer feePrice value more : Nat} (price : nativePrice ≤ dearer)
    (grown : value ≤ more) :
    fee.convert native nativePrice feePrice value ≤ fee.convert native dearer feePrice more := by
  unfold AssetPricing.convert
  rw [Nat.ceilDiv_eq_add_pred_div, Nat.ceilDiv_eq_add_pred_div]
  have := Nat.mul_le_mul_right fee.unit (Nat.mul_le_mul grown price)
  exact Nat.div_le_div_right (by omega)

theorem exactUnits_stable (other : fee.isNative = false) :
    exactUnits charged fee native .unpublished = some amount ↔
      ∃ nativePrice feePrice, native.nativePrice = some nativePrice ∧
        fee.feePrice = some feePrice ∧
        max (max (fee.convert native nativePrice feePrice charged) (fee.cent feePrice))
          (fee.hundredth feePrice) = amount := by
  simp [exactUnits, other, Minimums.unpublished, Option.bind_eq_some_iff]

theorem exactUnits_own (own : fee.isNative = true) :
    exactUnits charged fee native minimums = some amount ↔
      max charged (native.minimum minimums.native) = amount := by
  simp [exactUnits, own]

theorem covers_of_exact (exact : exactUnits charged fee native .unpublished = some amount) :
    Covers charged fee native amount := by
  unfold Covers
  split
  case isTrue own =>
    rw [← (exactUnits_own own).mp exact]
    exact le_max_left _ _
  case isFalse other =>
    obtain ⟨nativePrice, feePrice, relayed, feePriced, rfl⟩ :=
      (exactUnits_stable (Bool.eq_false_iff.mpr other)).mp exact
    refine ⟨nativePrice, feePrice, relayed, feePriced, ?_⟩
    apply (le_convert (price_pos feePriced) charged).trans
    gcongr
    exact (le_max_left _ _).trans (le_max_left _ _)

theorem exactUnits_mono {more grown : Nat} (costlier : charged ≤ more)
    (exact : exactUnits charged fee native .unpublished = some amount)
    (exactMore : exactUnits more fee native .unpublished = some grown) : amount ≤ grown := by
  cases own : fee.isNative with
  | true =>
    rw [← (exactUnits_own own).mp exact, ← (exactUnits_own own).mp exactMore]
    exact max_le_max_right _ costlier
  | false =>
    obtain ⟨nativePrice, feePrice, relayed, feePriced, rfl⟩ := (exactUnits_stable own).mp exact
    obtain ⟨_, _, again, feeAgain, rfl⟩ := (exactUnits_stable own).mp exactMore
    cases relayed.symm.trans again
    cases feePriced.symm.trans feeAgain
    exact max_le_max_right _ (max_le_max_right _ (convert_mono le_rfl costlier))

/-- The same coin of the chain, at a price of the relay's that is no lower. -/
structure Dearer (native dearer : AssetPricing) : Prop where
  decimals : dearer.decimals = native.decimals
  price : ∃ price raised, native.nativePrice = some price ∧ dearer.nativePrice = some raised ∧
    price ≤ raised

theorem Dearer.unit {dearer : AssetPricing} (rising : Dearer native dearer) :
    dearer.unit = native.unit := by
  rw [AssetPricing.unit, rising.decimals]
  rfl

theorem Dearer.stable {dearer : AssetPricing} {raised : Nat} (rising : Dearer native dearer)
    (other : fee.isNative = false)
    (exact : exactUnits charged fee native .unpublished = some amount)
    (exactDearer : exactUnits charged fee dearer .unpublished = some raised) :
    amount ≤ raised := by
  obtain ⟨price, higher, relayed, relayedHigher, le⟩ := rising.price
  obtain ⟨_, feePrice, again, feePriced, rfl⟩ := (exactUnits_stable other).mp exact
  obtain ⟨_, _, againHigher, feeAgain, rfl⟩ := (exactUnits_stable other).mp exactDearer
  cases relayed.symm.trans again
  cases relayedHigher.symm.trans againHigher
  cases feePriced.symm.trans feeAgain
  have sameUnit := rising.unit
  have converted := @convert_mono fee native _ _ feePrice _ _ le (le_refl charged)
  unfold AssetPricing.convert at converted ⊢
  rw [sameUnit]
  exact max_le_max_right _ (max_le_max_right _ converted)

theorem Dearer.own {dearer : AssetPricing} {lowered : Nat} (rising : Dearer native dearer)
    (own : fee.isNative = true)
    (exact : exactUnits charged fee native .unpublished = some amount)
    (exactDearer : exactUnits charged fee dearer .unpublished = some lowered) :
    lowered ≤ amount := by
  obtain ⟨price, higher, relayed, relayedHigher, le⟩ := rising.price
  rw [← (exactUnits_own own).mp exact, ← (exactUnits_own own).mp exactDearer]
  have sameUnit := rising.unit
  have sameFraction : dearer.fraction 5 = native.fraction 5 := by
    rw [AssetPricing.fraction, rising.decimals]
    rfl
  have cheaper : dearer.cent higher ≤ native.cent price := by
    have positive := price_pos relayed
    unfold AssetPricing.cent
    rw [sameUnit]
    apply (ceilDiv_le_iff_le_mul (positive.trans_le le)).mpr
    calc 10 ^ 6 * native.unit
        ≤ price * ((10 ^ 6 * native.unit) ⌈/⌉ price) := le_smul_ceilDiv positive
      _ ≤ higher * ((10 ^ 6 * native.unit) ⌈/⌉ price) := Nat.mul_le_mul_right _ le
  apply max_le_max_left
  simp only [AssetPricing.minimum, Minimums.unpublished, AssetPricing.floor, relayed, relayedHigher,
    sameFraction]
  exact max_le_max_right _ cheaper

/-- An amount covers its charge and is exact, whatever overflowed on the way: it
grows with the charge and, in a stablecoin, with the chain's coin's price; in that
coin itself a higher price only lowers the floor. -/
theorem in_band_amount_covers (priced : inBandAmount charged fee native = some amount) :
    exactUnits charged fee native .unpublished = some amount ∧
    Covers charged fee native amount ∧
    (∀ more grown, charged ≤ more → inBandAmount more fee native = some grown →
      amount ≤ grown) ∧
    (∀ dearer other, Dearer native dearer → inBandAmount charged fee dearer = some other →
      if fee.isNative then other ≤ amount else amount ≤ other) ∧
    ∀ totalGas gasPrice own, calculateInBandFeeAmount totalGas gasPrice fee native = some own →
      inBandAmount (totalGas * gasPrice * 3) fee native = some own := by
  have exact := inBandAmountWith_exact priced
  refine ⟨exact, covers_of_exact exact, ?mono, ?price, ?gas⟩
  case mono =>
    intro more grown costlier pricedMore
    exact exactUnits_mono costlier exact (inBandAmountWith_exact pricedMore)
  case price =>
    intro dearer other rising pricedDearer
    have exactDearer := inBandAmountWith_exact pricedDearer
    split
    case isTrue own => exact rising.own own exact exactDearer
    case isFalse stable => exact rising.stable (Bool.eq_false_iff.mpr stable) exact exactDearer
  case gas =>
    intro totalGas gasPrice own calculated
    obtain ⟨whole, kept, pricedWhole⟩ := Option.bind_eq_some_iff.mp calculated
    obtain ⟨_, rfl⟩ := wide_eq_some.mp kept
    exact pricedWhole

def sampleEther (price : String) : AssetPricing := ⟨true, 18, some price, none⟩

def sampleDollar : AssetPricing := ⟨false, 6, some "1", none⟩

theorem in_band_amount_covers_dollar :
    inBandAmount 1000000000000000 sampleDollar (sampleEther "2500") = some 2500000 ∧
      Covers 1000000000000000 sampleDollar (sampleEther "2500") 2500000 := by
  have priced : inBandAmount 1000000000000000 sampleDollar (sampleEther "2500") = some 2500000 := by
    decide
  exact ⟨priced, (in_band_amount_covers priced).2.1⟩

/-- At ten times the price the least fee in the coin is a tenth. -/
theorem own_coin_fee_falls : ¬ ∀ (charged : Nat) (fee native dearer : AssetPricing)
    (amount other : Nat), Dearer native dearer →
      inBandAmount charged fee native = some amount →
      inBandAmount charged fee dearer = some other → amount ≤ other := by
  intro monotone
  have rising : Dearer (sampleEther "100") (sampleEther "1000") :=
    ⟨rfl, 10000000000, 100000000000, by decide, by decide, by decide⟩
  have := monotone 1 (sampleEther "1") _ _ 100000000000000 10000000000000 rising (by decide)
    (by decide)
  omega

theorem AssetPricing.minimum_le (asset : AssetPricing) (published : Option Nat) :
    asset.minimum published ≤ asset.floor := by
  cases published with
  | none => exact le_refl _
  | some => exact min_le_right _ _

/-- What a relay publishes raises no fee in the chain's coin, and one in a stablecoin
to no more than the wallet's own rule asks for the charge at that coin's floor. -/
theorem published_minimum_capped
    (priced : inBandAmountWith charged fee native minimums = some amount) {own : Nat}
    (unpublished : inBandAmount charged fee native = some own) :
    (fee.isNative = true → amount ≤ own) ∧
    (fee.isNative = false → own ≤ amount ∧ (native.floor ≤ charged → amount = own) ∧
      ∃ raised, exactUnits (max charged native.floor) fee native .unpublished = some raised ∧
        amount ≤ raised) := by
  have exact := inBandAmountWith_exact priced
  have exactOwn := inBandAmountWith_exact unpublished
  constructor
  · intro coin
    rw [← (exactUnits_own coin).mp exact, ← (exactUnits_own coin).mp exactOwn]
    exact max_le_max_left _ (native.minimum_le _)
  · intro other
    obtain ⟨nativePrice, feePrice, relayed, feePriced, rfl⟩ :=
      (exactUnits_stable other).mp exactOwn
    simp only [exactUnits, other, relayed, feePriced, Bool.false_eq_true, if_false,
      Option.bind_eq_bind, Option.bind_some, pure, Option.some.injEq] at exact
    have least := @convert_mono fee native nativePrice _ feePrice charged _ le_rfl
      (le_max_left charged native.floor)
    refine ⟨?_, ?_, _, (exactUnits_stable other).mpr ⟨_, _, relayed, feePriced, rfl⟩, ?_⟩
    · rw [← exact]
      exact le_max_left _ _
    · intro above
      rw [max_eq_left above] at exact
      omega
    · omega

theorem published_minimum_capped_dollar :
    ∃ raised, exactUnits (max 1 (sampleEther "2500").floor) sampleDollar (sampleEther "2500")
      .unpublished = some raised ∧ 20000 ≤ raised :=
  ((@published_minimum_capped 1 20000 sampleDollar (sampleEther "2500") ⟨none, some 20000⟩
    (by decide) 10000 (by decide)).2 rfl).2.2

/-- Two cents published raise a fee of one cent, below the two and a half the floor in ether
comes to. -/
theorem published_minimum_raises : ¬ ∀ (charged : Nat) (fee native : AssetPricing)
    (minimums : Minimums) (amount own : Nat),
    inBandAmountWith charged fee native minimums = some amount →
      inBandAmount charged fee native = some own → amount ≤ own := by
  intro lowers
  have := lowers 1 sampleDollar (sampleEther "2500") ⟨none, some 20000⟩ 20000 10000 (by decide)
    (by decide)
  omega

theorem callDataBytes_eq {text : String} {data : List UInt8} (read : fromHex text = .ok data) :
    callDataBytes text = data.length := by
  have spelled := fromHexBytes_iff.mp read
  have digits : Utf8.trimStartMatches hexMark (Utf8.bytes text) =
      Utf8.stripPrefix hexMark (Utf8.bytes text) := by
    apply Utf8.trimStartMatches_eq_stripPrefix
    · simp [hexMark]
    · exact spelled.not_mark
  rw [callDataBytes, digits, spelled.length, Nat.mul_div_cancel_left _ (by decide)]

section Encoders

variable [RadixErrors]

theorem encodeMultiSendCall_length {call : MultiSendCall} {encoded : List UInt8}
    (written : encodeMultiSendCall call = .ok encoded) : encoded.length = 85 + call.data.length := by
  unfold encodeMultiSendCall at written
  obtain ⟨account, _, written⟩ := Fallible.bind_ok.mp written
  obtain ⟨word, valueRead, written⟩ := Fallible.bind_ok.mp written
  obtain ⟨value, _, rfl⟩ := SignedReview.abiEncodeUint256_word valueRead
  rw [← Fallible.pure_ok.mp written]
  simp [account.length_eq, wordUsize, wordU128, Bytes.beBytes_length]
  omega

theorem packed_length {calls : List FeeCall} {inner : List MultiSendCall}
    {encoded : List (List UInt8)}
    (converted : List.Forall₂
      (fun call made => toMultiSendCall call.target call.value call.data = .ok made) calls inner)
    (written : List.Forall₂ (fun call bytes => encodeMultiSendCall call = .ok bytes) inner encoded) :
    (calls.map fun call => 85 + callDataBytes call.data).sum = encoded.flatten.length := by
  induction converted generalizing encoded with
  | nil =>
    cases written
    rfl
  | cons head _ ih =>
    cases written with
    | cons headWritten tailWritten =>
      have counted := callDataBytes_eq (toMultiSendCall_ok head).2
      rw [List.map_cons, List.sum_cons, ih tailWritten, counted, List.flatten_cons,
        List.length_append, encodeMultiSendCall_length headWritten]

/-- The policy's count of a batch is the length of the call data the submit path builds of the same
calls. -/
theorem multisendExecuteCalldataLen_eq {calls : List FeeCall} {inner : List MultiSendCall}
    {callData : List UInt8}
    (converted : calls.mapM (fun call => toMultiSendCall call.target call.value call.data) =
      .ok inner)
    (built : buildMultiSendExecuteCallData inner = .ok callData) :
    multisendExecuteCalldataLen calls = callData.length := by
  obtain ⟨encoded, written, rfl⟩ := buildMultiSendExecuteCallData_iff.mp built
  have counted := packed_length (Fallible.mapM_ok.mp converted) (Fallible.mapM_ok.mp written)
  simp only [multisendExecuteCalldataLen, counted, pad32Len, batchHead, batchTail,
    List.length_append, selectorOf_length, Address.word_length, wordUsize, wordU128, padToWord,
    Bytes.beBytes_length, List.length_replicate, Bytes.wordPadding]
  omega

end Encoders

/-- Two bytes of data in one call. -/
theorem multisendExecuteCalldataLen_eq_pair : ∃ callData,
    @buildMultiSendExecuteCallData SignedReview.plainRadix
        [⟨Safe.multiSend, "0x1", [1, 2]⟩] = .ok callData ∧
      multisendExecuteCalldataLen [⟨Safe.multiSend, "1", "0x0102"⟩] = callData.length := by
  let _ := SignedReview.plainRadix
  have short : [(1 : UInt8), 2].length < 2 ^ 128 := by decide
  have record := @encodeMultiSendCall_read 1 "0x1" _ Safe.multiSend _ _ (by decide) (by decide)
    short parseAddress_multiSend
  have encoded := Fallible.mapM_ok.mpr (.cons record .nil)
  have built := buildMultiSendExecuteCallData_iff.mpr ⟨_, encoded, rfl⟩
  exact ⟨_, built, multisendExecuteCalldataLen_eq (by decide) built⟩

end VelaWallet.FeePolicy
