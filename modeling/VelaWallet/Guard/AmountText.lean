import VelaWallet.Guard.ApprovalDetection

/-!
# Amounts as people write them

The two directions between a raw amount in base units and its text at a token's
decimals (`approval_guard.rs`).  Out-of-range values saturate, so a huge cap
stays above every limit instead of wrapping under it.
-/

namespace VelaWallet.ApprovalGuard

open Utf8 (bytes)

def saturatingAdd (left right : Nat) : Nat := saturating (left + right)

def saturatingMul (left right : Nat) : Nat := saturating (left * right)

/-- `parse_token_amount`: digits with at most one point, thousands commas
dropped, no more precision than the token has. -/
def parseTokenAmount (human : String) (decimals : Nat) : Option Nat :=
  let cleaned := bytes (Utf8.trim (String.ofList (human.toList.filter (· ≠ ','))))
  if cleaned.isEmpty then none
  else if ¬ ∀ byte ∈ cleaned, Decimal.IsDigit byte ∨ byte = 46 then none
  else if 1 < cleaned.count 46 then none
  else
    let whole := cleaned.takeWhile (· ≠ 46)
    let frac := (cleaned.dropWhile (· ≠ 46)).drop 1
    if decimals < frac.length then none
    else
      let fracPadded := frac ++ List.replicate (decimals - frac.length) 48
      let wholeUnits := parseDecSaturating (if whole.isEmpty then [48] else whole)
      let fracUnits := parseDecSaturating (if fracPadded.isEmpty then [48] else fracPadded)
      some (saturatingAdd (saturatingMul wholeUnits (saturating (10 ^ decimals))) fracUnits)

/-- The digits with `group` before every position a multiple of `step` away from
the end, the first position apart. -/
def insertEvery (group : List Char) (step : Nat) : List Char → List Char
  | [] => []
  | [digit] => [digit]
  | digit :: next :: rest =>
    if (rest.length + 1) % step = 0 then digit :: (group ++ insertEvery group step (next :: rest))
    else digit :: insertEvery group step (next :: rest)

/-- `group_thousands`: in threes, or two-two-three for the Indian grouping. -/
def groupThousands (digits group : List Char) (indian : Bool) : List Char :=
  if digits.length ≤ 3 then digits
  else if ¬ indian then insertEvery group 3 digits
  else
    let split := digits.length - 3
    insertEvery group 2 (digits.take split) ++ group ++ digits.drop split

/-- `format_token_amount`: the amount at its decimals, at most `maxFrac` of them,
trailing zeros trimmed. -/
def formatTokenAmount (raw decimals maxFrac : Nat) (group decimal : String) (indian : Bool) :
    String :=
  let digits := (toString raw).toList
  if decimals = 0 then String.ofList (groupThousands digits group.toList indian)
  else
    let split := digits.length - decimals
    let whole := if decimals < digits.length then digits.take split else ['0']
    let frac :=
      if decimals < digits.length then digits.drop split
      else List.replicate (decimals - digits.length) '0' ++ digits
    let wholeText := groupThousands whole group.toList indian
    if frac.all (· == '0') then String.ofList wholeText
    else
      let fracText := ((frac.take maxFrac).reverse.dropWhile (· == '0')).reverse
      if fracText.isEmpty then String.ofList wholeText
      else String.ofList wholeText ++ decimal ++ String.ofList fracText

example : parseTokenAmount "1,234.5" 6 = some 1234500000 := by decide

example : formatTokenAmount 1234500000 6 6 "," "." false = "1,234.5" := by decide

theorem saturating_lt (value : Nat) : saturating value < 2 ^ 256 := by
  unfold saturating
  split
  case isTrue fits => exact fits
  case isFalse => decide

theorem parseTokenAmount_lt {human : String} {decimals amount : Nat}
    (parsed : parseTokenAmount human decimals = some amount) : amount < 2 ^ 256 := by
  unfold parseTokenAmount at parsed
  simp only [Option.ite_none_left_eq_some, Option.some.injEq] at parsed
  obtain ⟨_, _, _, _, rfl⟩ := parsed
  exact saturating_lt _

end VelaWallet.ApprovalGuard
