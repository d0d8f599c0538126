import VelaWallet.Codec.FeeLeg
import VelaWallet.Send.FeePolicy

/-!
# The price of a fee

The arithmetic of `fee_policy.rs`: products in 256 bits that refuse rather than
wrap, the in-band amount with its minimums, the relay's published price and the
formula it is held against, and Tempo's reimbursement.
-/

namespace VelaWallet.FeePolicy

open Utf8 (bytes)

/-- `narrow`: the value, when 128 bits hold it. -/
def narrow (value : Nat) : Option Nat := if value ≤ maxU128 then some value else none

def narrowSaturating (value : Nat) : Nat := min value maxU128

def wide (value : Nat) : Option Nat := if value < 2 ^ 256 then some value else none

def pow10Wide (decimals : UInt32) : Option Nat :=
  if decimals.toNat < 78 then some (10 ^ decimals.toNat) else none

def ceilDivWide (numerator denominator : Nat) : Option Nat :=
  if denominator = 0 then none
  else (wide (numerator + (denominator - 1))).map (· / denominator)

def attoUnitsWide (atto : Nat) (decimals : UInt32) : Option Nat :=
  if atto = 0 then some 0
  else do
    let unit ← pow10Wide decimals
    let scaled ← wide (atto * unit)
    return scaled / 10 ^ 18

def parseUnits (text : String) : Option Nat := parseFigure text

structure AssetPricing where
  isNative : Bool
  decimals : UInt32
  usdPrice : Option String
  nativeUsdFloorPrice : Option String

/-- The digits before the first point and, behind one, those after it. -/
def splitPoint (characters : List Char) : List Char × Option (List Char) :=
  let integer := characters.takeWhile (· != '.')
  (integer, if integer.length < characters.length then some (characters.drop (integer.length + 1))
    else none)

/-- A number written in decimal digits, when 128 bits hold it. -/
def readDigits (digits : List Char) : Option Nat := narrow (Nat.ofDigitChars 10 digits 0)

/-- `usd_price_scaled`: the price at eight decimals, rounded up on request. -/
def usdPriceScaled (value : Option String) (roundUp : Bool) : Option Nat := do
  let value ← value
  let (integer, fraction) := splitPoint (Utf8.trim value).toList
  if integer.isEmpty || !integer.all Char.isDigit then none
  else if fraction.any fun digits => digits.isEmpty || !digits.all Char.isDigit then none
  else
    let fraction := fraction.getD []
    let whole ← readDigits integer
    let kept ← readDigits
      (fraction.take 8 ++ List.replicate (8 - (fraction.take 8).length) '0')
    let scaled ← wide (whole * 10 ^ 8 + kept)
    let tail := (fraction.drop 8).any (· != '0')
    let raised ← if roundUp && tail then wide (scaled + 1) else some scaled
    narrow raised

/-- `Minimums`: what the relay published, for the chain's coin and for the fee's. -/
structure Minimums where
  native : Option Nat
  fee : Option Nat

/-- The value a floor of one cent stands for, in a coin of a price. -/
def centWorth (nativeUnit price : Nat) : Option Nat := do
  let cents ← wide (10 ^ 6 * nativeUnit)
  ceilDivWide cents price

/-- The amount of `in_band_amount_with`, before 128 bits must hold it. -/
def inBandUnits (charged : Nat) (feeAsset nativeAsset : AssetPricing) (minimums : Minimums) :
    Option Nat :=
  if !nativeAsset.isNative then none
  else do
    let nativeUnit ← pow10Wide nativeAsset.decimals
    let admissionFloor ←
      if 5 ≤ nativeAsset.decimals then pow10Wide (nativeAsset.decimals - 5) else some 1
    let nativeUsd := (usdPriceScaled nativeAsset.usdPrice true).filter (· ≠ 0)
    let shellUsd := (usdPriceScaled nativeAsset.nativeUsdFloorPrice true).filter (· ≠ 0)
    let blindMinimum ←
      if 3 ≤ nativeAsset.decimals then pow10Wide (nativeAsset.decimals - 3) else some 1
    let today ← match nativeUsd, shellUsd with
      | some price, _ => (centWorth nativeUnit price).map (max · admissionFloor)
      | none, some price =>
        -- The shell's price only ever lowers the floor.
        (centWorth nativeUnit price).map fun cent => max (min cent blindMinimum) admissionFloor
      | none, none => some blindMinimum
    let nativeMinimum ← match minimums.native with
      | some published => do
          let shellCent ← match nativeUsd, shellUsd with
            | none, some price => (centWorth nativeUnit price).map (min · blindMinimum)
            | _, _ => some 0
          some (min (max published shellCent) today)
      | none => some today
    if feeAsset.isNative then some (max charged nativeMinimum)
    else
      let nativePrice ← nativeUsd
      let feeUsd ← (usdPriceScaled feeAsset.usdPrice false).filter (· ≠ 0)
      let feeUnit ← pow10Wide feeAsset.decimals
      let convert := fun native => do
        let priced ← wide (native * nativePrice)
        let numerator ← wide (priced * feeUnit)
        let denominator ← wide (nativeUnit * feeUsd)
        ceilDivWide numerator denominator
      let cents ← wide (10 ^ 6 * feeUnit)
      let centOfCoin ← ceilDivWide cents feeUsd
      let hundredth ← if 2 ≤ feeAsset.decimals then pow10Wide (feeAsset.decimals - 2) else some 1
      let doubled ← wide (centOfCoin * 2)
      let hundredth := if hundredth ≤ doubled then hundredth else 0
      let todayConverted ← convert (max charged today)
      let published := min (minimums.fee.getD 0) (max todayConverted centOfCoin)
      let converted ← convert charged
      some (max (max (max converted centOfCoin) hundredth) published)

def inBandAmountWith (charged : Nat) (feeAsset nativeAsset : AssetPricing) (minimums : Minimums) :
    Option Nat :=
  (inBandUnits charged feeAsset nativeAsset minimums).bind narrow

/-- `ParsedQuote`: one coin of the relay's in-band quote. -/
structure ParsedQuote where
  recipient : String
  isNative : Bool
  feeToken : Option String
  balance : Nat
  decimals : UInt32
  symbol : String
  usdBalance : String
  usdPrice : Option String
  nativeUsdFloorPrice : Option String
  minimumAmount : Option Nat

def ParsedQuote.pricing (row : ParsedQuote) : AssetPricing :=
  ⟨row.isNative, row.decimals, row.usdPrice, row.nativeUsdFloorPrice⟩

/-- `Charge`: how gas becomes an amount. -/
inductive Charge where
  | marked (basis : Nat)
  | published (perGas : Nat)
  deriving DecidableEq

def Charge.amount (charge : Charge) (gas : Nat) (feeRow nativeRow : ParsedQuote) : Option Nat := do
  let charged ← match charge with
    | marked basis => wide (gas * basis * 3)
    | published perGas => some (gas * perGas)
  inBandAmountWith charged feeRow.pricing nativeRow.pricing
    ⟨nativeRow.minimumAmount, if feeRow.isNative then none else feeRow.minimumAmount⟩

def Charge.basis : Charge → Nat
  | marked basis => basis
  | published perGas => perGas

def feeRowInsufficient (balance : Nat) : Option Nat → Bool
  | none => true
  | some amount => decide (balance < amount)

/-- `tier_multiplier`, as numerator and denominator. -/
def tierMultiplier : FeeTier → Nat × Nat
  | .slow => (11, 10)
  | .standard => (12, 10)
  | .rapid => (15, 10)
  | .fast => (20, 10)

def calcMaxFeePerGas (gasPrice : Nat) (tier : FeeTier) : Nat :=
  let (num, den) := tierMultiplier tier
  let raised := (wide (gasPrice * num * 200)).getD (2 ^ 256 - 1)
  max (narrowSaturating (raised / (den * 100))) 1

def arcChainIds : List UInt32 := [5042, 5042002]

def minGasPriceWei (chainId : UInt32) : Nat := if chainId ∈ arcChainIds then 20000000000 else 0

structure ChainGasPrice where
  gasPrice : Nat
  baseFee : Nat
  priorityFee : Nat
  tipMeasured : Bool

/-- `derive_chain_gas_price`, for a reading that says whether its tip was measured. -/
def deriveChainGasPrice (chainId : UInt32) (ethGasPrice baseFee priorityFee : Nat)
    (tipMeasured : Bool) : ChainGasPrice :=
  let tip := if 0 < priorityFee then priorityFee else ethGasPrice - baseFee
  let floor := minGasPriceWei chainId
  ⟨max (max ethGasPrice (saturatingAdd baseFee tip)) floor, max baseFee floor, tip, tipMeasured⟩

def resolveGasPrice (chainId : UInt32) (ethGasPrice baseFee priorityFee : Option String)
    (wantTip : Bool) : Option ChainGasPrice := do
  let eth ← ethGasPrice.bind parseUnits
  let base := (baseFee.bind parseUnits).getD 0
  let tip := (priorityFee.bind parseUnits).getD 0
  let derived := deriveChainGasPrice chainId eth base tip (wantTip && priorityFee.isSome)
  if 0 < derived.gasPrice then some derived else none

/-- `InBandPriceFormula::cap_bps` of the table in force. -/
def capBps : FeeTier → Nat
  | .slow | .standard => 15000
  | .rapid | .fast => 17500

/-- `InBandPriceFormula::cap`. -/
def inBandCap (tier : FeeTier) (baseFee tip : Nat) : Option Nat := do
  let scaled ← narrow (capBps tier * baseFee / 10000)
  narrow (scaled + tip)

/-- `InBandPriceFormula::per_gas`. -/
def inBandPerGas (tier : FeeTier) (baseFee tip : Nat) : Option Nat := do
  let cap ← inBandCap tier baseFee tip
  let numerator ← wide (cap * 11000 * 10000)
  let quotient ← ceilDivWide numerator (10000 * 10000)
  narrow quotient

def nextBaseFeeFloor (baseFee : Nat) : Nat := baseFee - baseFee / 8

/-- `gas_price_range`: what a speed bids now, and its cap. -/
def gasPriceRange (baseFee cap tip : Nat) : Nat × Nat := (min cap (saturatingAdd baseFee tip), cap)

structure FeeBundlerQuote where
  maxFeePerGas : String
  maxPriorityFeePerGas : Option String
  networkFeePerGas : Option String
  relayerFeePerGas : Option String
  inBandFeePerGas : Option String

structure AcceptedQuote where
  networkFeePerGas : Nat
  relayerFeePerGas : Nat
  inBandFeePerGas : Option Nat
  maxFeePerGas : Nat
  maxPriorityFeePerGas : Option Nat
  deriving DecidableEq

def acceptBundlerQuote (raw : Option FeeBundlerQuote) (chainGasPrice : Nat) :
    Option AcceptedQuote := do
  let raw ← raw
  let maxFee ← parseUnits raw.maxFeePerGas
  if maxFee = 0 then none
  else
    let reported := (raw.networkFeePerGas.bind parseUnits).getD 0
    let network := if 0 < reported then reported else chainGasPrice
    some ⟨network, (raw.relayerFeePerGas.bind parseUnits).getD (maxFee - network),
      (raw.inBandFeePerGas.bind parseUnits).filter (0 < ·), maxFee,
      raw.maxPriorityFeePerGas.bind parseUnits⟩

def tempoBaseFeeAtto : Nat := 20000000000

def tempoMinimumFeeTokenUnits (decimals : UInt32) : Nat :=
  match pow10Wide decimals with
  | none => maxU128
  | some unit => ((ceilDivWide unit 100).map narrowSaturating).getD maxU128

def tempoExpectedGas (deployed : Bool) (subCalls : Nat) : Nat :=
  (if deployed then 250000 else 4150000) + max subCalls 1 * 110000

def tempoReimbursement (expectedGas gasPriceAtto : Nat) (decimals : UInt32) : Nat :=
  let price := if 0 < gasPriceAtto then gasPriceAtto else tempoBaseFeeAtto
  let withMargin := (do
    let base ← attoUnitsWide (expectedGas * price) decimals
    wide (base * 2)).map narrowSaturating
  max (withMargin.getD maxU128) (tempoMinimumFeeTokenUnits decimals)

/-- `call_data_bytes`, on the data's own bytes. -/
def callDataBytes (dataHex : String) : Nat :=
  (Utf8.trimStartMatches hexMark (bytes dataHex)).length / 2

def pad32Len (length : Nat) : Nat := length + (32 - length % 32) % 32

def multisendExecuteCalldataLen (calls : List FeeCall) : Nat :=
  let packed := (calls.map fun call => 85 + callDataBytes call.data).sum
  164 + pad32Len (68 + pad32Len packed)

def inBandFeeLeg (feeToken : Option String) (recipient : String) (amount : Nat) : Option FeeCall :=
  match feeToken with
  | some token => (encodeErc20Transfer recipient amount).map fun data => ⟨token, "0", data⟩
  | none => some ⟨recipient, toString amount, "0x"⟩

def dummyEstimationCall : FeeCall :=
  ⟨"0x0000000000000000000000000000000000000004", "0",
    "0x" ++ String.ofList (List.replicate 136 '0')⟩

def isContractCall (call : FeeCall) : Bool :=
  match fromHex call.data with
  | .error _ => true
  | .ok data => !(data.isEmpty || (data.length == 68 && data.take 4 == [0xa9, 0x05, 0x9c, 0xbb]))

/-- `inner_calls_gas_floor`, on figures whose sum 128 bits hold. -/
def innerCallsGasFloor (measured : List Nat) (callCount : Nat) : Option Nat :=
  if measured.isEmpty then none
  else some ((measured.map fun gas => gas * 125 / 100 + 60000).sum + 50000 * callCount)

def measuredInnerFloor (calls : List FeeCall) (gas : List (Option String)) : Option Nat :=
  if gas.length ≠ (calls.filter isContractCall).length then none
  else do
    let measured ← gas.mapM fun figure => figure.bind parseUnits
    innerCallsGasFloor measured calls.length

def arbitrumChainIds : List UInt32 := [42161, 421614, 4663, 98866]

def opStackChainIds : List UInt32 := [10, 8453, 11155420, 84532, 1868, 57073, 42220, 5000]

def staticTotalGas (chainId : UInt32) (deployed : Bool) (innerFloor : Option Nat) : Nat :=
  let verification := if deployed then 300000 else 2000000
  let total := saturatingAdd
    (saturatingAdd verification (max 200000 (innerFloor.getD 0))) 100000
  if chainId ∈ arbitrumChainIds then saturatingAdd total 600000
  else if chainId ∈ opStackChainIds then saturatingAdd total 150000
  else total

end VelaWallet.FeePolicy
