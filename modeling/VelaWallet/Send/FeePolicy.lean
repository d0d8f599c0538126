import VelaWallet.Base.Decimal
import VelaWallet.Codec.Primitives

/-!
# Fee estimates and base units

The parts of `fee_policy.rs` and `fee_speed.rs` a send prices its figures with:
the estimate and its wire spelling, base units, and the lines a sweep holds its
fee back from.
-/

namespace VelaWallet.FeePolicy

open Utf8 (bytes eqIgnoreAsciiCase)

/-- `u128::MAX`. -/
def maxU128 : Nat := 2 ^ 128 - 1

def saturatingAdd (left right : Nat) : Nat := min (left + right) maxU128

def saturatingMul (left right : Nat) : Nat := min (left * right) maxU128

/-- `str::eq_ignore_ascii_case`. -/
def sameText (left right : String) : Bool := eqIgnoreAsciiCase (bytes left) (bytes right)

@[simp] theorem sameText_refl (text : String) : sameText text text = true := by simp [sameText]

/-- `is_hex_address`, and `is_valid_address` of the send form. -/
def isValidAddress (text : String) : Bool :=
  (bytes text).length = 42 && hexMark.isPrefixOf (bytes text) &&
    ((bytes text).drop 2).all fun byte => (Hex.digitValue? byte).isSome

theorem trim_of_valid {text : String} (valid : isValidAddress text = true) :
    Utf8.trim text = text := by
  simp only [isValidAddress, Bool.and_eq_true, decide_eq_true_eq, List.all_eq_true] at valid
  obtain ⟨⟨_, marked⟩, hex⟩ := valid
  obtain ⟨rest, split⟩ := List.isPrefixOf_iff_prefix.mp marked
  apply Utf8.trim_eq_self_of_bytes
  intro byte member
  rw [← split] at member hex
  rcases List.mem_append.mp member with inMark | inRest
  · have mark : ∀ byte ∈ hexMark, 32 < byte.toNat ∧ byte.toNat < 128 := by decide
    exact mark byte inMark
  · obtain ⟨value, read⟩ := Option.isSome_iff_exists.mp (hex byte inRest)
    exact Hex.digitValue?_visible read

/-- The gas speed of a quote. -/
inductive FeeTier where
  | slow
  | standard
  | rapid
  | fast
  deriving DecidableEq

/-- `fee_speed::wire_tier`: the tiers a person may choose, and no other. -/
def wireTier (tier : FeeTier) : Option FeeTier :=
  if tier ∈ [FeeTier.fast, .standard, .slow] then some tier else none

/-- One call of the operation being priced. -/
structure FeeCall where
  target : String
  value : String
  data : String
  deriving DecidableEq

/-- The coin a fee is paid in. -/
inductive FeeAsset where
  | native
  | erc20 (token : String) (decimals : UInt32) (amount : Nat) (symbol : Option String)
  deriving DecidableEq

/-- The amount of a fee paid in a token. -/
def FeeAsset.amount : FeeAsset → Nat
  | native => 0
  | erc20 _ _ amount _ => amount

/-- The estimate everything is priced against, its figures in range. -/
structure FeeEstimate where
  chainId : UInt32
  totalWei : Nat
  maxFeePerGas : Nat
  networkFeePerGas : Nat
  relayerFeePerGas : Nat
  bundlerGasPrice : Nat
  inBandGasBasis : Nat
  effectiveGasPrice : Option Nat
  maxGasPrice : Option Nat
  totalGas : Nat
  deployed : Bool
  tier : FeeTier
  quoted : Bool
  feeAsset : FeeAsset
  feeRecipient : Option String
  totalWei_le : totalWei ≤ maxU128
  amount_le : feeAsset.amount ≤ maxU128
  deriving DecidableEq

/-- The coin of a fee as the wire spells it. -/
inductive FeeAssetView where
  | native
  | erc20 (token : String) (decimals : UInt32) (amount : String) (symbol : Option String)

/-- An estimate as the wire spells it. -/
structure FeeEstimateView where
  chainId : UInt32
  totalWei : String
  maxFeePerGas : String
  networkFeePerGas : String
  relayerFeePerGas : String
  bundlerGasPrice : String
  inBandGasBasis : String
  effectiveGasPrice : Option String
  maxGasPrice : Option String
  totalGas : String
  deployed : Bool
  tier : FeeTier
  quoted : Bool
  feeAsset : FeeAssetView
  feeRecipient : Option String

/-- A wire figure: white space around it is dropped. -/
def parseFigure (text : String) : Option Nat := Decimal.parseU128 (bytes (Utf8.trim text))

/-- The coin of a wire estimate. -/
def parseFeeAsset : FeeAssetView → Option FeeAsset
  | .native => some .native
  | .erc20 token decimals amount symbol => do
      let amount ← parseFigure amount
      return .erc20 token decimals amount symbol

theorem parseFigure_le {text : String} {value : Nat} (read : parseFigure text = some value) :
    value ≤ maxU128 := by
  unfold parseFigure Decimal.parseU128 at read
  obtain ⟨_, read⟩ := Option.ite_none_left_eq_some.mp read
  obtain ⟨found, _, kept⟩ := Option.bind_eq_some_iff.mp read
  obtain ⟨fits, same⟩ := Option.ite_none_right_eq_some.mp kept
  rw [← Option.some.inj same]
  exact Nat.le_pred_of_lt fits

theorem parseFeeAsset_le {view : FeeAssetView} {asset : FeeAsset}
    (read : parseFeeAsset view = some asset) : asset.amount ≤ maxU128 := by
  cases view with
  | native =>
    cases read
    exact Nat.zero_le _
  | erc20 =>
    simp only [parseFeeAsset, Option.bind_eq_bind, Option.bind_eq_some_iff, Option.pure_def,
      Option.some.injEq] at read
    obtain ⟨value, figure, rfl⟩ := read
    exact parseFigure_le figure

/-- `parse_fee_view`: the two display figures are dropped when they do not read,
every other one refuses the estimate. -/
def parseFeeView (view : FeeEstimateView) : Option FeeEstimate := do
  let ⟨totalWei, totalRead⟩ ← (parseFigure view.totalWei).attach
  let maxFeePerGas ← parseFigure view.maxFeePerGas
  let networkFeePerGas ← parseFigure view.networkFeePerGas
  let relayerFeePerGas ← parseFigure view.relayerFeePerGas
  let bundlerGasPrice ← parseFigure view.bundlerGasPrice
  let inBandGasBasis ← parseFigure view.inBandGasBasis
  let totalGas ← parseFigure view.totalGas
  let ⟨feeAsset, assetRead⟩ ← (parseFeeAsset view.feeAsset).attach
  return {
    chainId := view.chainId
    totalWei, maxFeePerGas, networkFeePerGas, relayerFeePerGas, bundlerGasPrice, inBandGasBasis
    effectiveGasPrice := view.effectiveGasPrice.bind parseFigure
    maxGasPrice := view.maxGasPrice.bind parseFigure
    totalGas
    deployed := view.deployed
    tier := view.tier
    quoted := view.quoted
    feeAsset
    feeRecipient := view.feeRecipient
    totalWei_le := parseFigure_le totalRead
    amount_le := parseFeeAsset_le assetRead }

/-- `to_base_units`: everything after a second point is ignored. -/
def toBaseUnits (amount : String) (decimals : Nat) : Option Nat :=
  let cleaned := (Utf8.trim amount).toList
  if cleaned.isEmpty then some 0
  else
    let whole := cleaned.takeWhile (· != '.')
    let fraction := ((cleaned.drop (whole.length + 1)).takeWhile (· != '.')).take decimals
    if whole.all Char.isDigit && fraction.all Char.isDigit then
      let padding := List.replicate (decimals - fraction.length) '0'
      let units := Nat.ofDigitChars 10 (whole ++ fraction ++ padding) 0
      if units ≤ maxU128 then some units else none
    else none

def fromBaseUnits (value decimals : Nat) : String :=
  if decimals = 0 then toString value
  else
    let digits := Nat.toDigits 10 value
    let padded := List.replicate (decimals + 1 - digits.length) '0' ++ digits
    let whole := padded.take (padded.length - decimals)
    let fraction :=
      ((padded.drop (padded.length - decimals)).reverse.dropWhile (· == '0')).reverse
    if fraction.isEmpty then String.ofList whole
    else String.ofList whole ++ "." ++ String.ofList fraction

def maxNativeSendable (balance reserve decimals : Nat) : String :=
  if balance ≤ reserve then "0" else fromBaseUnits (balance - reserve) decimals

/-- A row of digits padded with zeros in front to a word. -/
def padWord (digits : List Char) : String :=
  String.ofList (List.replicate (64 - digits.length) '0' ++ digits)

def encodeErc20Transfer (target : String) (amount : Nat) : Option String :=
  if isValidAddress target then
    let account := Utf8.ofAscii (Utf8.toAsciiLowercase ((bytes target).drop 2))
    some ("0xa9059cbb" ++ padWord account.toList ++ padWord (Nat.toDigits 16 amount))
  else none

def tempoChainIds : List UInt32 := [4217, 42431]

def isTempoChain (chainId : UInt32) : Bool := chainId ∈ tempoChainIds

def tempoDefaultFeeToken : String := "0x20c0000000000000000000000000000000000000"

def tempoFeeTokenDecimals : Nat := 6

/-- What a fee takes out of the asset sent, and what may still be sent. -/
structure FeeLimit where
  feeAmount : Nat
  maxTransferAmount : Nat

def sameAssetFeeLimit (fee : Option FeeEstimate) (transferAsset : Option String) (balance : Nat) :
    Option FeeLimit := do
  let fee ← fee
  let feeAmount ← match fee.feeAsset, transferAsset with
    | .erc20 token _ amount _, some transfer => if sameText token transfer then some amount else none
    | .erc20 .., none => none
    | .native, some _ => none
    | .native, none => some fee.totalWei
  return ⟨feeAmount, balance - feeAmount⟩

/-- One line of a sweep. -/
structure MultiTokenSpec where
  tokenAddress : Option String
  decimals : UInt32
  amount : String

/-- A line less what is held back of it, gone when nothing is left. -/
def heldBack (spec : MultiTokenSpec) (reserve : Nat) : Option MultiTokenSpec :=
  let held := (toBaseUnits spec.amount spec.decimals.toNat).getD 0
  if held ≤ reserve then none
  else some { spec with amount := fromBaseUnits (held - reserve) spec.decimals.toNat }

def reserveNativeGas (specs : List MultiTokenSpec) (reserveWei : Nat) : List MultiTokenSpec :=
  if reserveWei = 0 then specs
  else specs.filterMap fun spec =>
    if spec.tokenAddress.isSome then some spec else heldBack spec reserveWei

def reserveFeeToken (specs : List MultiTokenSpec) (feeToken : String) (reserveUnits : Nat) :
    List MultiTokenSpec :=
  if reserveUnits = 0 then specs
  else specs.filterMap fun spec =>
    if spec.tokenAddress.any (sameText · feeToken) then heldBack spec reserveUnits else some spec

end VelaWallet.FeePolicy
