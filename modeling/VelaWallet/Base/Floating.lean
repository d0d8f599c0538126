import Mathlib.Algebra.Group.Nat.Defs
import VelaWallet.Base.Text

/-!
# Floating-point text

How a decimal text is read as a double and how a double is written with a fixed
number of decimals.  Both are exact up to the one rounding the standard library
makes, to the nearest with ties to even.
-/

namespace Floating

def nan : Float := Float.ofBits 0x7ff8000000000000

/-- A finite double as a whole number of steps of a power of two. -/
structure Steps where
  negative : Bool
  count : Nat
  power : Int

/-- The steps of a double, or nothing for an infinity and for no number. -/
def steps? (value : Float) : Option Steps :=
  let bits := value.toBits.toNat
  let field := bits / 2 ^ 52 % 2048
  let fraction := bits % 2 ^ 52
  if field = 2047 then none
  else some ⟨2 ^ 63 ≤ bits, if field = 0 then fraction else 2 ^ 52 + fraction,
    ((max field 1 : Nat) : Int) - 1075⟩

/-- A quotient rounded to the nearest whole number, ties to the even one. -/
def roundHalfEven (numerator denominator : Nat) : Nat :=
  let quotient := numerator / denominator
  let twice := 2 * (numerator % denominator)
  if twice < denominator then quotient
  else if denominator < twice then quotient + 1
  else quotient + quotient % 2

def floor (value : Float) : Float :=
  match steps? value with
  | none => value
  | some steps =>
    if 0 ≤ steps.power ∨ steps.count = 0 then value
    else
      let scale := 2 ^ (-steps.power).toNat
      if steps.negative then -Float.ofNat ((steps.count + scale - 1) / scale)
      else Float.ofNat (steps.count / scale)

/-- A whole number of the last place, with the point put `decimals` digits from
the end. -/
def writeFixed (units decimals : Nat) : String :=
  if decimals = 0 then toString units
  else
    let digits := Nat.toDigits 10 units
    let padded := List.replicate (decimals + 1 - digits.length) '0' ++ digits
    String.ofList (padded.take (padded.length - decimals)) ++ "." ++
      String.ofList (padded.drop (padded.length - decimals))

/-- `format!("{v:.*}", decimals)`. -/
def toFixed (value : Float) (decimals : Nat) : String :=
  match steps? value with
  | none => if value.isNaN then "NaN" else if value < 0 then "-inf" else "inf"
  | some steps =>
    (if steps.negative then "-" else "") ++
      writeFixed (roundHalfEven (steps.count * 10 ^ decimals * 2 ^ steps.power.toNat)
        (2 ^ (-steps.power).toNat)) decimals

/-- The exponent a text goes on with after its `e`, zero when no digit follows. -/
def readExponent (text : List Char) : Int :=
  let (negative, digits) := match text with
    | '-' :: rest => (true, rest)
    | '+' :: rest => (false, rest)
    | rest => (false, rest)
  let value := Nat.ofDigitChars 10 (digits.takeWhile Char.isDigit) 0
  if negative then -value else value

/-- `str::parse::<f64>` of a decimal: its digits, how many of them stand after
the point, and its exponent. -/
def ofDecimal (negative : Bool) (digits : List Char) (fraction : Nat) (exponent : Int) : Float :=
  let shift := exponent - fraction
  let magnitude := Float.ofScientific (Nat.ofDigitChars 10 digits 0) (shift < 0) shift.natAbs
  if negative then -magnitude else magnitude

/-- `js_parse_float`: the longest start of the text that reads as a decimal. -/
def jsParseFloat (text : String) : Float :=
  let trimmed := text.toList.dropWhile Utf8.isWhitespace
  let (negative, unsigned) := match trimmed with
    | '-' :: rest => (true, rest)
    | '+' :: rest => (false, rest)
    | rest => (false, rest)
  let whole := unsigned.takeWhile Char.isDigit
  let (fraction, rest) := match unsigned.dropWhile Char.isDigit with
    | '.' :: more =>
      if whole.isEmpty ∧ (more.takeWhile Char.isDigit).isEmpty then ([], '.' :: more)
      else (more.takeWhile Char.isDigit, more.dropWhile Char.isDigit)
    | rest => ([], rest)
  if whole.isEmpty ∧ fraction.isEmpty then nan
  else
    let exponent := match rest with
      | mark :: more => if mark = 'e' ∨ mark = 'E' then readExponent more else 0
      | [] => 0
    ofDecimal negative (whole ++ fraction) fraction.length exponent

example : toFixed (jsParseFloat " 5000" / jsParseFloat "7.17USD") 6 = "697.350070" := by
  decide

/-- `str::parse::<f64>`: a whole text, or one of the names of what is no number. -/
def parseF64 (text : String) : Option Float :=
  let (negative, unsigned) := match text.toList with
    | '-' :: rest => (true, rest)
    | '+' :: rest => (false, rest)
    | rest => (false, rest)
  let whole := unsigned.takeWhile Char.isDigit
  let (fraction, rest) := match unsigned.dropWhile Char.isDigit with
    | '.' :: more => (more.takeWhile Char.isDigit, more.dropWhile Char.isDigit)
    | rest => ([], rest)
  if whole.isEmpty ∧ fraction.isEmpty then
    let name := String.ofList (unsigned.map Char.toLower)
    if name = "nan" then some nan
    else if name = "inf" ∨ name = "infinity" then
      some (Float.ofBits (if negative then 0xfff0000000000000 else 0x7ff0000000000000))
    else none
  else
    match rest with
    | [] => some (ofDecimal negative (whole ++ fraction) fraction.length 0)
    | mark :: more =>
      let digits := match more with
        | '-' :: rest | '+' :: rest | rest => rest
      if (mark = 'e' ∨ mark = 'E') ∧ digits ≠ [] ∧ digits.all Char.isDigit then
        some (ofDecimal negative (whole ++ fraction) fraction.length (readExponent more))
      else none

example : parseF64 "12.5e1" = parseF64 "125." ∧ parseF64 "12.5USD" = none := by
  decide

section Order

open Float.Model

/-- Where a double stands: its kind, its exponent and its mantissa, each with its sign. -/
def place? : UnpackedFloat → Option (Int × Int × Int)
  | .notANumber => none
  | .infinity sign => some (sign.apply 2, 0, 0)
  | .zero _ => some (0, 0, 0)
  | .finite sign mantissa exponent _ => some (sign.apply 1, sign.apply exponent, sign.apply mantissa)

def Before (left right : Int × Int × Int) : Prop :=
  left.1 < right.1 ∨ left.1 = right.1 ∧
    (left.2.1 < right.2.1 ∨ left.2.1 = right.2.1 ∧ left.2.2 < right.2.2)

theorem lt_iff {left right : Float} :
    left < right ↔ ∃ before ∈ place? left.toModel.unpack, ∃ behind ∈ place? right.toModel.unpack,
      Before before behind := by
  have compared : left < right ↔ left.toModel.unpack.compare right.toModel.unpack = some .lt :=
    decide_eq_true_iff.trans beq_iff_eq
  have sign : ∀ first second : UnpackedFloat.Sign, compare first second = .lt ↔
      first.apply 1 < second.apply 1 := by
    rintro (_ | _) (_ | _) <;> decide
  rw [compared]
  generalize left.toModel.unpack = left
  generalize right.toModel.unpack = right
  rcases left with ⟨_ | _⟩ | _ | _ | ⟨_ | _, _, _, _⟩ <;>
    rcases right with ⟨_ | _⟩ | _ | _ | ⟨_ | _, _, _, _⟩ <;>
    dsimp only [UnpackedFloat.compare, place?] <;>
    simp [Before, UnpackedFloat.Sign.apply, Ordering.swap_eq_lt, Ordering.then_eq_gt, Ordering.then_eq_lt, Int.compare_eq_gt, Int.compare_eq_lt,
      Nat.compare_eq_gt, Nat.compare_eq_lt, sign]

theorem lt_irrefl (value : Float) : ¬ value < value := by
  rw [lt_iff]
  rintro ⟨before, found, behind, same, less⟩
  cases Option.mem_unique found same
  unfold Before at less
  omega

theorem lt_trans {left middle right : Float} (less : left < middle) (more : middle < right) :
    left < right := by
  rw [lt_iff] at *
  obtain ⟨before, found, between, inside, less⟩ := less
  obtain ⟨same, again, behind, last, more⟩ := more
  cases Option.mem_unique inside again
  refine ⟨before, found, behind, last, ?_⟩
  unfold Before at *
  omega

end Order

end Floating
