import VelaWallet.Base.Bytes
import VelaWallet.Base.Text

/-!
# Hexadecimal digits

Reading and writing base sixteen at the level of ASCII digits.  `fromStrRadix16`
follows the standard library's integer reader, which takes one leading `+`
before its digits; the lemmas below separate the pairs it reads as two digits
from those it reads behind that sign.
-/

namespace Hex

open Utf8 (toAsciiLowercase asciiLower)

variable {value : Nat} {byte high low : UInt8}

/-- The byte of the `+` sign. -/
def plus : UInt8 := 43

/-- `char::to_digit(16)`. -/
def digitValue? (byte : UInt8) : Option Nat :=
  let code := byte.toNat
  if 48 ≤ code ∧ code ≤ 57 then some (code - 48)
  else if 97 ≤ code ∧ code ≤ 102 then some (code - 87)
  else if 65 ≤ code ∧ code ≤ 70 then some (code - 55)
  else none

/-- The lower-case digit of a value below sixteen. -/
def digit (value : Nat) : UInt8 :=
  if value < 10 then UInt8.ofNat (value + 48) else UInt8.ofNat (value + 87)

/-- `u8::is_ascii_hexdigit`. -/
def IsDigit (byte : UInt8) : Prop := (digitValue? byte).isSome

instance (byte : UInt8) : Decidable (IsDigit byte) :=
  inferInstanceAs (Decidable ((digitValue? byte).isSome = true))

/-- The number a row of hex digits spells. -/
def natOf? (digits : List UInt8) : Option Nat :=
  digits.foldlM (fun value byte => (digitValue? byte).map (value * 16 + ·)) 0

/-- `u8::from_str_radix(text, 16)`. -/
def fromStrRadix16 (text : List UInt8) : Option UInt8 :=
  let digits := match text with
    | first :: rest => if first = plus then rest else first :: rest
    | [] => []
  if digits.isEmpty then none
  else (natOf? digits).bind fun value =>
    if value < 256 then some (UInt8.ofNat value) else none

/-- The two lower-case digits of a byte. -/
def pair (byte : UInt8) : List UInt8 := [digit (byte.toNat / 16), digit (byte.toNat % 16)]

/-- Two lower-case digits for every byte. -/
def spell (bytes : List UInt8) : List UInt8 := bytes.flatMap pair

theorem digitValue?_lt (read : digitValue? byte = some value) :
    value < 16 := by
  unfold digitValue? at read
  simp only at read
  split at read
  · cases read; omega
  · split at read
    · cases read; omega
    · split at read
      · cases read; omega
      · cases read

theorem digit_toNat (small : value < 16) :
    (digit value).toNat = if value < 10 then value + 48 else value + 87 := by
  unfold digit
  split <;> simp only [UInt8.toNat_ofNat'] <;> omega

@[simp] theorem digitValue?_digit (small : value < 16) :
    digitValue? (digit value) = some value := by
  have code := digit_toNat small
  unfold digitValue?
  simp only [code]
  split
  case isTrue low =>
    rw [if_pos (by omega)]
    simp
  case isFalse high =>
    rw [if_neg (by omega), if_pos (by omega)]
    simp

theorem asciiLower_of_digitValue?
    (read : digitValue? byte = some value) : asciiLower byte = digit value := by
  have small := digitValue?_lt read
  apply UInt8.toNat_inj.mp
  rw [digit_toNat small]
  unfold digitValue? at read
  simp only at read
  unfold asciiLower
  split at read
  · cases read
    rw [if_neg (by omega), if_pos (by omega)]
    omega
  · split at read
    · cases read
      rw [if_neg (by omega), if_neg (by omega)]
      omega
    · split at read
      · cases read
        rw [if_pos (by omega), if_neg (by omega), UInt8.toNat_add]
        simp only [UInt8.toNat_ofNat]
        omega
      · cases read

theorem digitValue?_asciiLower (byte : UInt8) :
    digitValue? (asciiLower byte) = digitValue? byte := by
  unfold asciiLower
  split
  case isFalse => rfl
  case isTrue upper =>
    have shifted : (byte + 32).toNat = byte.toNat + 32 := by
      rw [UInt8.toNat_add]
      simp only [UInt8.toNat_ofNat]
      omega
    unfold digitValue?
    simp only [shifted]
    rw [if_neg (by omega), if_neg (by omega : ¬ (48 ≤ byte.toNat ∧ byte.toNat ≤ 57)),
      if_neg (by omega : ¬ (97 ≤ byte.toNat ∧ byte.toNat ≤ 102))]
    by_cases inside : byte.toNat ≤ 70
    · rw [if_pos (by omega), if_pos (by omega)]
      congr 1
    · rw [if_neg (by omega), if_neg (by omega), if_neg (by omega)]

@[simp] theorem digitValue?_plus : digitValue? plus = none := by decide

theorem digit_ne_plus (small : value < 16) : digit value ≠ plus := by
  intro equality
  have read := digitValue?_digit small
  rw [equality, digitValue?_plus] at read
  cases read

theorem asciiLower_plus : asciiLower plus = plus := by decide

theorem digitValue?_visible
    (read : digitValue? byte = some value) : 32 < byte.toNat ∧ byte.toNat < 128 := by
  unfold digitValue? at read
  simp only at read
  split at read
  · omega
  · split at read
    · omega
    · split at read
      · omega
      · cases read

@[simp] theorem natOf?_pair (high low : UInt8) :
    natOf? [high, low] = (digitValue? high).bind fun top =>
      (digitValue? low).map fun bottom => top * 16 + bottom := by
  cases digitHigh : digitValue? high with
  | none => simp [natOf?, digitHigh]
  | some => cases digitLow : digitValue? low <;> simp [natOf?, digitHigh, digitLow]

theorem fromStrRadix16_digits (unsigned : high ≠ plus) :
    fromStrRadix16 [high, low] = some byte ↔
      digitValue? high = some (byte.toNat / 16) ∧
        digitValue? low = some (byte.toNat % 16) := by
  have byteBound := byte.toNat_lt
  simp only [fromStrRadix16, unsigned, if_false, List.isEmpty_cons, Bool.false_eq_true,
    natOf?_pair]
  cases digitHigh : digitValue? high with
  | none => simp
  | some =>
    have topBound := digitValue?_lt digitHigh
    cases digitLow : digitValue? low with
    | none => simp
    | some =>
      have bottomBound := digitValue?_lt digitLow
      simp only [Option.bind_some, Option.map_some]
      rw [if_pos (by omega)]
      simp only [Option.some.injEq]
      constructor
      · rintro rfl
        simp only [UInt8.toNat_ofNat']
        omega
      · intro ⟨topEq, bottomEq⟩
        apply UInt8.toNat_inj.mp
        simp only [UInt8.toNat_ofNat']
        omega

theorem fromStrRadix16_plus :
    fromStrRadix16 [plus, low] = some byte ↔ digitValue? low = some byte.toNat := by
  have single : natOf? [low] = digitValue? low := by
    cases digitLow : digitValue? low <;> simp [natOf?, digitLow]
  simp only [fromStrRadix16, if_true, List.isEmpty_cons, Bool.false_eq_true, if_false, single]
  cases digitLow : digitValue? low with
  | none => simp
  | some =>
    have bottomBound := digitValue?_lt digitLow
    simp only [Option.bind_some]
    rw [if_pos (by omega)]
    simp only [Option.some.injEq]
    constructor
    · rintro rfl
      simp only [UInt8.toNat_ofNat']
      omega
    · intro bottomEq
      apply UInt8.toNat_inj.mp
      simp only [UInt8.toNat_ofNat']
      omega

@[simp] theorem fromStrRadix16_pair (byte : UInt8) : fromStrRadix16 (pair byte) = some byte := by
  have bound := byte.toNat_lt
  have high : byte.toNat / 16 < 16 := by omega
  have low : byte.toNat % 16 < 16 := by omega
  rw [pair, fromStrRadix16_digits (digit_ne_plus high)]
  exact ⟨digitValue?_digit high, digitValue?_digit low⟩

theorem lower_pair (read : fromStrRadix16 [high, low] = some byte)
    (unsigned : high ≠ plus) : toAsciiLowercase [high, low] = pair byte := by
  obtain ⟨highRead, lowRead⟩ := (fromStrRadix16_digits unsigned).mp read
  simp only [toAsciiLowercase, List.map_cons, List.map_nil, pair,
    asciiLower_of_digitValue? highRead, asciiLower_of_digitValue? lowRead]

theorem pair_visible (read : fromStrRadix16 [high, low] = some byte) :
    (32 < high.toNat ∧ high.toNat < 128) ∧ (32 < low.toNat ∧ low.toNat < 128) := by
  by_cases signed : high = plus
  · subst signed
    exact ⟨by decide, digitValue?_visible (fromStrRadix16_plus.mp read)⟩
  · obtain ⟨highRead, lowRead⟩ := (fromStrRadix16_digits signed).mp read
    exact ⟨digitValue?_visible highRead, digitValue?_visible lowRead⟩

theorem foldlM_natOf? (digits : List UInt8) (value : Nat) :
    digits.foldlM (fun value byte => (digitValue? byte).map (value * 16 + ·)) value =
      (natOf? digits).map (value * 16 ^ digits.length + ·) := by
  induction digits generalizing value with
  | nil => simp [natOf?]
  | cons byte digits ih =>
    simp only [natOf?, List.foldlM_cons, List.length_cons]
    cases digitByte : digitValue? byte with
    | none => simp
    | some top =>
      simp only [Option.map_some, Option.bind_eq_bind, Option.bind_some]
      rw [ih, ih (0 * 16 + top)]
      cases natOf? digits with
      | none => simp
      | some =>
        simp only [Option.map_some, Option.some.injEq]
        ring

theorem natOf?_append (left right : List UInt8) :
    natOf? (left ++ right) = (natOf? left).bind fun top =>
      (natOf? right).map (top * 16 ^ right.length + ·) := by
  simp only [natOf?, List.foldlM_append, Option.bind_eq_bind]
  congr 1
  funext top
  exact foldlM_natOf? right top

@[simp] theorem spell_length (bytes : List UInt8) : (spell bytes).length = 2 * bytes.length := by
  induction bytes with
  | nil => rfl
  | cons byte bytes ih =>
    rw [show spell (byte :: bytes) = pair byte ++ spell bytes from rfl, List.length_append, ih,
      List.length_cons]
    simp only [pair, List.length_cons, List.length_nil]
    omega

theorem natOf?_spell (bytes : List UInt8) : natOf? (spell bytes) = some (Bytes.beNat bytes) := by
  induction bytes with
  | nil => rfl
  | cons byte bytes ih =>
    have bound := byte.toNat_lt
    have high : byte.toNat / 16 < 16 := by omega
    have low : byte.toNat % 16 < 16 := by omega
    rw [show spell (byte :: bytes) = pair byte ++ spell bytes from rfl, natOf?_append, ih,
      pair, natOf?_pair, digitValue?_digit high, digitValue?_digit low, Bytes.beNat_cons,
      spell_length, Nat.pow_mul]
    simp only [Option.bind_some, Option.map_some, Option.some.injEq]
    congr 2
    omega

theorem digitValue?_digitChar (small : value < 16) :
    digitValue? (UInt8.ofNat (Nat.digitChar value).toNat) = some value := by
  have all : ∀ value < 16, digitValue? (UInt8.ofNat (Nat.digitChar value).toNat) = some value := by
    decide
  exact all value small

theorem natOf?_toDigits (value : Nat) :
    natOf? ((Nat.toDigits 16 value).map fun character => UInt8.ofNat character.toNat) =
      some value := by
  induction value using Nat.strongRecOn with
  | ind value ih =>
    by_cases small : value < 16
    · rw [Nat.toDigits_of_lt_base small, List.map_cons, List.map_nil]
      simp [natOf?, digitValue?_digitChar small]
    · have low : value % 16 < 16 := Nat.mod_lt _ (by decide)
      rw [Nat.toDigits_of_base_le (by decide) (by omega), List.map_append, natOf?_append,
        ih (value / 16) (by omega), List.map_cons, List.map_nil]
      simp only [natOf?, List.foldlM_cons, List.foldlM_nil, digitValue?_digitChar low]
      simp
      omega

theorem natOf?_toAsciiLowercase (digits : List UInt8) :
    natOf? (toAsciiLowercase digits) = natOf? digits := by
  have general : ∀ value,
      (toAsciiLowercase digits).foldlM
          (fun value byte => (digitValue? byte).map (value * 16 + ·)) value =
        digits.foldlM (fun value byte => (digitValue? byte).map (value * 16 + ·)) value := by
    induction digits with
    | nil => intro; rfl
    | cons _ _ ih =>
      intro value
      simp only [toAsciiLowercase, List.map_cons, List.foldlM_cons, digitValue?_asciiLower]
      congr 1
      funext next
      exact ih next
  exact general 0

theorem asciiLower_eq_plus : asciiLower byte = plus ↔ byte = plus := by
  constructor
  · intro lowered
    by_contra other
    unfold asciiLower at lowered
    split at lowered
    case isTrue upper =>
      have code := congrArg UInt8.toNat lowered
      rw [UInt8.toNat_add] at code
      simp only [plus, UInt8.toNat_ofNat] at code
      omega
    case isFalse => exact other lowered
  · rintro rfl
    exact asciiLower_plus

theorem fromStrRadix16_toAsciiLowercase (text : List UInt8) :
    fromStrRadix16 (toAsciiLowercase text) = fromStrRadix16 text := by
  cases text with
  | nil => rfl
  | cons first rest =>
    have restRead := natOf?_toAsciiLowercase rest
    have wholeRead := natOf?_toAsciiLowercase (first :: rest)
    have lowered : toAsciiLowercase (first :: rest) =
        asciiLower first :: toAsciiLowercase rest := rfl
    have blank : (toAsciiLowercase rest).isEmpty = rest.isEmpty := by
      cases rest <;> rfl
    rw [lowered] at wholeRead ⊢
    by_cases signed : first = plus
    · subst signed
      simp only [fromStrRadix16, asciiLower_plus, if_true, blank, restRead]
    · have unsigned : asciiLower first ≠ plus := fun equal => signed (asciiLower_eq_plus.mp equal)
      simp only [fromStrRadix16, signed, unsigned, if_false, List.isEmpty_cons, wholeRead]

theorem lower_pair_eq {high' low' : UInt8} (read : fromStrRadix16 [high, low] = some byte)
    (read' : fromStrRadix16 [high', low'] = some byte)
    (signs : (high == plus) = (high' == plus)) :
    toAsciiLowercase [high, low] = toAsciiLowercase [high', low'] := by
  by_cases signed : high = plus
  · have signed' : high' = plus := by simpa [signed] using signs.symm
    subst signed signed'
    have lowRead := asciiLower_of_digitValue? (fromStrRadix16_plus.mp read)
    have lowRead' := asciiLower_of_digitValue? (fromStrRadix16_plus.mp read')
    simp only [toAsciiLowercase, List.map_cons, List.map_nil, lowRead, lowRead']
  · have signed' : high' ≠ plus := by
      intro equal
      simp [signed, equal] at signs
    rw [lower_pair read signed, lower_pair read' signed']

theorem spell_append (left right : List UInt8) :
    spell (left ++ right) = spell left ++ spell right := by
  simp [spell]

theorem pair_injective {left right : UInt8} (equal : pair left = pair right) : left = right := by
  have read := fromStrRadix16_pair left
  rw [equal, fromStrRadix16_pair] at read
  exact (Option.some.inj read).symm

theorem spell_injective {left right : List UInt8} (equal : spell left = spell right) :
    left = right := by
  induction left generalizing right with
  | nil =>
    cases right with
    | nil => rfl
    | cons => simp [spell, pair] at equal
  | cons byte left ih =>
    cases right with
    | nil => simp [spell, pair] at equal
    | cons other right =>
      have split : pair byte ++ spell left = pair other ++ spell right := equal
      obtain ⟨heads, tails⟩ := List.append_inj split rfl
      rw [pair_injective heads, ih tails]

theorem spell_digits {bytes : List UInt8} (member : byte ∈ spell bytes) :
    IsDigit byte := by
  obtain ⟨source, _, inPair⟩ := List.mem_flatMap.mp member
  have bound := source.toNat_lt
  simp only [pair, List.mem_cons, List.not_mem_nil, or_false] at inPair
  rcases inPair with rfl | rfl
  · simp [IsDigit, digitValue?_digit (show source.toNat / 16 < 16 by omega)]
  · simp [IsDigit, digitValue?_digit (show source.toNat % 16 < 16 by omega)]

theorem plus_not_mem_spell (bytes : List UInt8) : plus ∉ spell bytes := by
  intro member
  have digit := spell_digits member
  rw [IsDigit, digitValue?_plus] at digit
  cases digit

end Hex
