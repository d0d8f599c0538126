import VelaWallet.Base.Floating

/-!
# A figure and its unit

A figure welded to the unit it is denominated in (`money.rs`).  The unit of a
figure changes only by a conversion that restates the digits, or fails.
-/

namespace VelaWallet.Money

open Floating (jsParseFloat toFixed)

def stripTrailingZeros (text : String) : String :=
  if '.' ∈ text.toList then
    let digits := text.toList.reverse.dropWhile (· == '0')
    String.ofList (digits.dropWhile (· == '.')).reverse
  else text

/-- `strip_zeros_regex`: the zeros at the end, and one point in front of them. -/
def stripZerosRegex (text : String) : String :=
  match text.toList.reverse with
  | '0' :: rest =>
    match rest.dropWhile (· == '0') with
    | '.' :: whole => String.ofList whole.reverse
    | digits => String.ofList digits.reverse
  | _ => text

/-- The unit of a figure: the token sent, or a currency. -/
inductive Denom where
  | token
  | fiat (code : String)
  deriving DecidableEq

namespace Denom

def isFiat : Denom → Bool
  | token => false
  | fiat _ => true

def fiatCode : Denom → Option String
  | token => none
  | fiat code => some code

end Denom

/-- Why a figure cannot be restated. -/
inductive ConvertError where
  | unpriced
  | currencyMismatch

/-- What one token is worth in a currency, a positive number. -/
structure TokenPrice where
  code : String
  perToken : Float
  priced : perToken.isFinite = true ∧ 0 < perToken

def TokenPrice.new (priceUsd usdToFiatRate : Option Float) (code : String) : Option TokenPrice := do
  let price ← priceUsd.filter fun price => price.isFinite && 0 < price
  let rate ← usdToFiatRate.filter fun rate => rate.isFinite && 0 < rate
  if priced : (price * rate).isFinite = true ∧ 0 < price * rate then
    some ⟨code, price * rate, priced⟩
  else none

/-- A figure and its unit. -/
structure DenominatedAmount where
  value : String
  denom : Denom

namespace DenominatedAmount

def token (value : String) : DenominatedAmount := ⟨value, .token⟩

def fiat (value code : String) : DenominatedAmount := ⟨value, .fiat code⟩

def isFiat (amount : DenominatedAmount) : Bool := amount.denom.isFiat

def fiatCode (amount : DenominatedAmount) : Option String := amount.denom.fiatCode

def isEmpty (amount : DenominatedAmount) : Bool := amount.value == ""

def withValue (amount : DenominatedAmount) (value : String) : DenominatedAmount :=
  { amount with value }

def asF64 (amount : DenominatedAmount) : Float :=
  jsParseFloat (if amount.value = "" then "0" else amount.value)

def convert (amount : DenominatedAmount) (target : Denom) (price : Option TokenPrice)
    (tokenDecimals fiatDecimals : Nat) : Except ConvertError DenominatedAmount :=
  if amount.denom = target then .ok amount
  -- zero and blank are the same figure in every unit
  else if ¬ 0 < amount.asF64 then .ok ⟨amount.value, target⟩
  else
    match price with
    | none => .error .unpriced
    | some price =>
      match amount.denom, target with
      | .token, .fiat code =>
        if code ≠ price.code then .error .currencyMismatch
        else .ok ⟨toFixed (amount.asF64 * price.perToken) fiatDecimals, target⟩
      | .fiat code, .token =>
        if code ≠ price.code then .error .currencyMismatch
        else .ok ⟨stripZerosRegex (toFixed (amount.asF64 / price.perToken) tokenDecimals), .token⟩
      | .fiat _, .fiat _ => .error .currencyMismatch
      | .token, .token => .ok amount

def toTokenUnits (amount : DenominatedAmount) (price : Option TokenPrice) (tokenDecimals : Nat) :
    String :=
  match amount.denom with
  | .token => amount.value
  | .fiat code =>
    match price.filter (·.code == code) with
    | none => "0"
    | some price =>
      if ¬ 0 < amount.asF64 then "0"
      else stripTrailingZeros (toFixed (amount.asF64 / price.perToken) tokenDecimals)

end DenominatedAmount

end VelaWallet.Money
