import Mathlib.Data.List.TakeWhile
import VelaWallet.Send.FeePolicy

/-!
# Figures and base units

A figure written from base units reads back as the same base units.  A figure a person wrote is read
exactly, but for what stands behind its last unit, which nobody looks at.
-/

namespace VelaWallet.FeePolicy

variable {characters : List Char} {decimals : Nat}

def Digits (characters : List Char) : Prop := ∀ character ∈ characters, character.isDigit = true

namespace Digits

theorem toDigits (value : Nat) : Digits (Nat.toDigits 10 value) := by
  intro character member
  exact Nat.isDigit_of_mem_toDigits (by decide) (by decide) member

theorem replicate_zero (count : Nat) : Digits (List.replicate count '0') := by
  intro character member
  rw [List.eq_of_mem_replicate member]
  rfl

theorem append {left right : List Char} (digits : Digits left) (more : Digits right) :
    Digits (left ++ right) := by
  intro character member
  exact (List.mem_append.mp member).elim (digits character) (more character)

theorem of_subset {some all : List Char} (digits : Digits all) (within : some ⊆ all) :
    Digits some := fun character member => digits character (within member)

theorem all_isDigit (digits : Digits characters) :
    characters.all Char.isDigit = true := List.all_eq_true.mpr digits

theorem all_pointless (digits : Digits characters) :
    ∀ character ∈ characters, (character != '.') = true := by
  intro character member
  rw [bne_iff_ne]
  rintro rfl
  cases digits _ member

theorem takeWhile_pointless (digits : Digits characters) :
    characters.takeWhile (· != '.') = characters := by
  rw [← List.append_nil characters, List.takeWhile_append_of_pos digits.all_pointless]
  rfl

end Digits

theorem trim_figure
    (figure : ∀ character ∈ characters, character.isDigit = true ∨ character = '.') :
    (Utf8.trim (String.ofList characters)).toList = characters := by
  rw [Utf8.trim_eq_self, String.toList_ofList]
  intro character member
  rw [String.toList_ofList] at member
  rcases figure character member with digit | rfl
  · exact Decimal.isWhitespace_of_digit digit
  · rfl

theorem toBaseUnits_whole {whole : List Char} (digits : Digits whole)
    (written : whole ≠ [])
    (fits : Nat.ofDigitChars 10 (whole ++ List.replicate decimals '0') 0 ≤ maxU128) :
    toBaseUnits (String.ofList whole) decimals =
      some (Nat.ofDigitChars 10 (whole ++ List.replicate decimals '0') 0) := by
  have trimmed := trim_figure fun character member => Or.inl (digits character member)
  unfold toBaseUnits
  simp only [trimmed, List.isEmpty_eq_false_iff.mpr written, digits.takeWhile_pointless,
    digits.all_isDigit, List.drop_of_length_le (Nat.le_succ whole.length)]
  simp [fits]

theorem toBaseUnits_pointed {whole fraction : List Char} (digits : Digits whole)
    (more : Digits fraction) (within : fraction.length ≤ decimals)
    (fits : Nat.ofDigitChars 10
      (whole ++ fraction ++ List.replicate (decimals - fraction.length) '0') 0 ≤ maxU128) :
    toBaseUnits (String.ofList (whole ++ '.' :: fraction)) decimals =
      some (Nat.ofDigitChars 10
        (whole ++ fraction ++ List.replicate (decimals - fraction.length) '0') 0) := by
  have trimmed : (Utf8.trim (String.ofList (whole ++ '.' :: fraction))).toList =
      whole ++ '.' :: fraction := by
    apply trim_figure
    intro character member
    rcases List.mem_append.mp member with inWhole | inFraction
    · exact Or.inl (digits character inWhole)
    · rcases List.mem_cons.mp inFraction with rfl | inRest
      · exact Or.inr rfl
      · exact Or.inl (more character inRest)
  have before : (whole ++ '.' :: fraction).takeWhile (· != '.') = whole := by
    rw [List.takeWhile_append_of_pos digits.all_pointless]
    simp
  have behind : (whole ++ '.' :: fraction).drop (whole.length + 1) = fraction := by
    simp [List.drop_append]
  have written : (whole ++ '.' :: fraction).isEmpty = false := by simp
  unfold toBaseUnits
  simp only [trimmed, written, before, behind, more.takeWhile_pointless,
    List.take_of_length_le within, digits.all_isDigit, more.all_isDigit, Bool.and_self, if_true,
    Bool.false_eq_true, if_false, if_pos fits]

theorem trailing_zeros (characters : List Char) :
    characters = (characters.reverse.dropWhile (· == '0')).reverse ++
      List.replicate (characters.length - (characters.reverse.dropWhile (· == '0')).reverse.length)
        '0' := by
  have zeros : characters.reverse.takeWhile (· == '0') =
      List.replicate (characters.reverse.takeWhile (· == '0')).length '0' := by
    apply List.eq_replicate_of_mem
    intro character member
    simpa using List.mem_takeWhile_imp member
  have parts := @List.takeWhile_append_dropWhile _ (· == '0') characters.reverse
  have length := congrArg List.length parts
  rw [List.length_append, List.length_reverse] at length
  have count : (characters.reverse.takeWhile (· == '0')).length =
      characters.length - (characters.reverse.dropWhile (· == '0')).reverse.length := by
    rw [List.length_reverse]
    omega
  rw [← count, ← List.reverse_replicate, ← zeros, ← List.reverse_append, parts, List.reverse_reverse]

theorem toBaseUnits_fromBaseUnits {value : Nat} (fits : value ≤ maxU128) :
    toBaseUnits (fromBaseUnits value decimals) decimals = some value := by
  have padding : Digits (List.replicate (decimals + 1 - (Nat.toDigits 10 value).length) '0' ++
      Nat.toDigits 10 value) := (Digits.replicate_zero _).append (.toDigits value)
  unfold fromBaseUnits
  split
  · next whole_only =>
      subst whole_only
      rw [Nat.toString_eq_ofList_toDigits, toBaseUnits_whole (.toDigits value) Nat.toDigits_ne_nil]
      · simp
      · simpa using fits
  · dsimp only
    have written : Nat.ofDigitChars 10 (List.replicate
        (decimals + 1 - (Nat.toDigits 10 value).length) '0' ++ Nat.toDigits 10 value) 0 = value := by
      rw [Nat.ofDigitChars_append]
      simp
    have long : decimals < (List.replicate (decimals + 1 - (Nat.toDigits 10 value).length) '0' ++
        Nat.toDigits 10 value).length := by
      rw [List.length_append, List.length_replicate]
      omega
    generalize List.replicate (decimals + 1 - (Nat.toDigits 10 value).length) '0' ++
      Nat.toDigits 10 value = padded at padding written long
    have parts := List.take_append_drop (padded.length - decimals) padded
    have fraction_length : (padded.drop (padded.length - decimals)).length = decimals := by
      rw [List.length_drop]
      omega
    have zeros := trailing_zeros (padded.drop (padded.length - decimals))
    rw [fraction_length] at zeros
    have whole_digits : Digits (padded.take (padded.length - decimals)) :=
      padding.of_subset (List.take_subset _ _)
    have whole_written : padded.take (padded.length - decimals) ≠ [] := by
      intro none_taken
      have empty := congrArg List.length none_taken
      rw [List.length_take, List.length_nil] at empty
      omega
    have fraction_digits : Digits
        ((padded.drop (padded.length - decimals)).reverse.dropWhile (· == '0')).reverse := by
      refine padding.of_subset ?_
      intro character member
      apply List.drop_subset (padded.length - decimals) padded
      rw [zeros]
      exact List.mem_append_left _ member
    have within : ((padded.drop (padded.length - decimals)).reverse.dropWhile
        (· == '0')).reverse.length ≤ decimals := by
      have lengths := congrArg List.length zeros
      rw [List.length_append, fraction_length] at lengths
      omega
    generalize ((padded.drop (padded.length - decimals)).reverse.dropWhile (· == '0')).reverse =
      fraction at zeros fraction_digits within
    generalize padded.take (padded.length - decimals) = whole at parts whole_digits whole_written
    rw [zeros, ← List.append_assoc] at parts
    have units : Nat.ofDigitChars 10
        (whole ++ fraction ++ List.replicate (decimals - fraction.length) '0') 0 = value := by
      rw [parts, written]
    split
    · next whole_units =>
        rw [List.isEmpty_iff] at whole_units
        subst whole_units
        rw [List.append_nil, List.length_nil, Nat.sub_zero] at units
        rw [toBaseUnits_whole whole_digits whole_written (units.symm ▸ fits), units]
    · have joined : String.ofList whole ++ "." ++ String.ofList fraction =
          String.ofList (whole ++ '.' :: fraction) := by
        apply String.toList_injective
        simp
      rw [joined, toBaseUnits_pointed whole_digits fraction_digits within (units.symm ▸ fits), units]

theorem toBaseUnits_zero (decimals : Nat) : toBaseUnits "0" decimals = some 0 := by
  have digits : Digits ['0'] := Digits.replicate_zero 1
  have units : Nat.ofDigitChars 10 (['0'] ++ List.replicate decimals '0') 0 = 0 := by
    rw [Nat.ofDigitChars_append, Nat.ofDigitChars_replicate_zero]
    rfl
  have read := @toBaseUnits_whole decimals ['0'] digits (List.cons_ne_nil _ _)
    (units.symm ▸ Nat.zero_le _)
  rw [units] at read
  exact read

theorem maxNativeSendable_units {balance : Nat} (fits : balance ≤ maxU128)
    (reserve : Nat) : ∃ units,
      toBaseUnits (maxNativeSendable balance reserve decimals) decimals = some units ∧
        if reserve ≤ balance then units + reserve = balance else units = 0 := by
  unfold maxNativeSendable
  by_cases swept : balance ≤ reserve
  · rw [if_pos swept]
    refine ⟨0, toBaseUnits_zero decimals, ?_⟩
    split <;> omega
  · rw [if_neg swept]
    refine ⟨balance - reserve, toBaseUnits_fromBaseUnits (by omega), ?_⟩
    split <;> omega

/-- The characters in front of the point. -/
def wholePart (amount : String) : List Char := (Utf8.trim amount).toList.takeWhile (· != '.')

/-- The characters behind it, up to a second point. -/
def fractionPart (amount : String) : List Char :=
  ((Utf8.trim amount).toList.drop ((wholePart amount).length + 1)).takeWhile (· != '.')

/-- The digits of the figure, to the last unit. -/
def unitDigits (amount : String) (decimals : Nat) : List Char :=
  wholePart amount ++ (fractionPart amount).take decimals ++
    List.replicate (decimals - ((fractionPart amount).take decimals).length) '0'

/-- A figure is of digits, and its value times `10 ^ decimals`, truncated, is `units`. -/
structure Denotes (amount : String) (decimals units : Nat) : Prop where
  whole : Digits (wholePart amount)
  fraction : Digits (fractionPart amount)
  value : units = Nat.ofDigitChars 10 (wholePart amount ++ fractionPart amount) 0 * 10 ^ decimals /
    10 ^ (fractionPart amount).length
  fits : units ≤ maxU128

theorem Digits.ofDigitChars_lt (digits : Digits characters) :
    Nat.ofDigitChars 10 characters 0 < 10 ^ characters.length := by
  induction characters with
  | nil => simp
  | cons character characters ih =>
    have range := Decimal.isDigit_range (digits character List.mem_cons_self)
    have later := ih (digits.of_subset (List.subset_cons_self _ _))
    have zero : '0'.toNat = 48 := rfl
    rw [Nat.ofDigitChars_cons, Nat.ofDigitChars_eq_ofDigitChars_zero, List.length_cons,
      Nat.pow_succ, zero, Nat.mul_zero, Nat.zero_add]
    have head := Nat.mul_le_mul_left (10 ^ characters.length)
      (show character.toNat - 48 ≤ 9 by omega)
    omega

theorem ofDigitChars_unitDigits {amount : String}
    (cut : Digits ((fractionPart amount).drop decimals)) :
    Nat.ofDigitChars 10 (unitDigits amount decimals) 0 =
      Nat.ofDigitChars 10 (wholePart amount ++ fractionPart amount) 0 * 10 ^ decimals /
        10 ^ (fractionPart amount).length := by
  have small := cut.ofDigitChars_lt
  have parts := List.take_append_drop decimals (fractionPart amount)
  have lengths := congrArg List.length parts
  rw [List.length_append] at lengths
  have kept := List.length_take_le decimals (fractionPart amount)
  have whole : Nat.ofDigitChars 10 (wholePart amount ++ fractionPart amount) 0 =
      10 ^ ((fractionPart amount).drop decimals).length * Nat.ofDigitChars 10
        (wholePart amount ++ (fractionPart amount).take decimals) 0 +
          Nat.ofDigitChars 10 ((fractionPart amount).drop decimals) 0 := by
    rw [← Nat.ofDigitChars_eq_ofDigitChars_zero, ← Nat.ofDigitChars_append, List.append_assoc, parts]
  rw [unitDigits, Nat.ofDigitChars_append, Nat.ofDigitChars_replicate_zero, whole, ← lengths]
  generalize Nat.ofDigitChars 10 (wholePart amount ++ (fractionPart amount).take decimals) 0 = units
  by_cases short : (fractionPart amount).length ≤ decimals
  · rw [List.drop_of_length_le short, List.take_of_length_le short]
    have shift : 10 ^ decimals =
        10 ^ (decimals - (fractionPart amount).length) * 10 ^ (fractionPart amount).length := by
      rw [← Nat.pow_add, Nat.sub_add_cancel short]
    simp only [List.length_nil, Nat.pow_zero, Nat.one_mul, Nat.ofDigitChars_nil, Nat.add_zero]
    rw [shift, ← Nat.mul_assoc, Nat.mul_div_cancel _ (Nat.pow_pos (by decide)), Nat.mul_comm]
  · have filled : ((fractionPart amount).take decimals).length = decimals :=
      List.length_take_of_le (Nat.le_of_not_le short)
    rw [filled, Nat.sub_self, Nat.pow_zero, Nat.one_mul, Nat.pow_add, Nat.mul_comm (10 ^ decimals),
      Nat.mul_div_mul_right _ _ (Nat.pow_pos (by decide)),
      Nat.mul_add_div (Nat.pow_pos (by decide)), Nat.div_eq_of_lt small, Nat.add_zero]

theorem toBaseUnits_iff {amount : String} {units : Nat} :
    toBaseUnits amount decimals = some units ↔
      Digits (wholePart amount) ∧ Digits ((fractionPart amount).take decimals) ∧
        Nat.ofDigitChars 10 (unitDigits amount decimals) 0 = units ∧ units ≤ maxU128 := by
  have digits : ∀ characters : List Char, characters.all Char.isDigit = true ↔ Digits characters :=
    fun _ => List.all_eq_true
  unfold toBaseUnits
  dsimp only
  split
  case isTrue blank =>
    have nothing := List.isEmpty_iff.mp blank
    simp [unitDigits, fractionPart, wholePart, nothing, Nat.ofDigitChars_replicate_zero, Digits]
    rintro rfl
    exact Nat.zero_le _
  case isFalse =>
    rw [Option.ite_none_right_eq_some, Option.ite_none_right_eq_some, Bool.and_eq_true, digits,
      digits, and_assoc, Option.some.injEq]
    constructor
    · rintro ⟨whole, kept, fits, units⟩
      exact ⟨whole, kept, units, units ▸ fits⟩
    · rintro ⟨whole, kept, units, fits⟩
      exact ⟨whole, kept, units ▸ fits, units⟩

/-- The two conversions undo each other, and what may be sent and what is held back make up the
balance.  A written figure is read as what it denotes just when nothing but digits stands behind its
last unit, or it is refused for another reason. -/
theorem baseUnits_exact_iff (amount : String) (decimals : Nat) :
    (∀ value ≤ maxU128, toBaseUnits (fromBaseUnits value decimals) decimals = some value) ∧
    (∀ balance ≤ maxU128, ∀ reserve, ∃ units,
      toBaseUnits (maxNativeSendable balance reserve decimals) decimals = some units ∧
        if reserve ≤ balance then units + reserve = balance else units = 0) ∧
    ((∀ units, toBaseUnits amount decimals = some units ↔ Denotes amount decimals units) ↔
      (Digits (wholePart amount) → Digits ((fractionPart amount).take decimals) →
        Nat.ofDigitChars 10 (unitDigits amount decimals) 0 ≤ maxU128 →
          Digits ((fractionPart amount).drop decimals))) := by
  refine ⟨fun value => toBaseUnits_fromBaseUnits, fun balance => maxNativeSendable_units, ?_⟩
  constructor
  · intro exact whole kept fits
    have denoted := (exact _).mp (toBaseUnits_iff.mpr ⟨whole, kept, rfl, fits⟩)
    exact denoted.fraction.of_subset (List.drop_subset _ _)
  · intro clean units
    rw [toBaseUnits_iff]
    constructor
    · rintro ⟨whole, kept, rfl, fits⟩
      have cut := clean whole kept fits
      have fraction := kept.append cut
      rw [List.take_append_drop] at fraction
      exact ⟨whole, fraction, ofDigitChars_unitDigits cut, fits⟩
    · intro denoted
      have cut := denoted.fraction.of_subset (List.drop_subset decimals _)
      refine ⟨denoted.whole, denoted.fraction.of_subset (List.take_subset _ _), ?_, denoted.fits⟩
      rw [ofDigitChars_unitDigits cut, denoted.value]

/-- Letters behind the last unit mint it all the same. -/
theorem baseUnits_tail_unread : ¬ ∀ (amount : String) (decimals units : Nat),
    toBaseUnits amount decimals = some units → Denotes amount decimals units := by
  intro exact
  have denoted := exact "1.5x" 1 15 (by decide)
  have digit := denoted.fraction 'x' (by decide)
  cases digit

end VelaWallet.FeePolicy
