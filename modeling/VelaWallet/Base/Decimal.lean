import VelaWallet.Base.Hex

/-!
# Decimal digits

Numbers as rows of ASCII decimal digits, and the two integer readers of the
code: the standard library's `u128` reader, which takes a leading `+`, and the
big-integer reader, which skips underscores and reads an empty text as zero.
-/

namespace Decimal

open Utf8 (bytes)

variable {value : Nat}

def IsDigit (byte : UInt8) : Prop := 48 ≤ byte.toNat ∧ byte.toNat ≤ 57

instance (byte : UInt8) : Decidable (IsDigit byte) :=
  inferInstanceAs (Decidable (48 ≤ byte.toNat ∧ byte.toNat ≤ 57))

/-- The number a row of decimal digits spells. -/
def natOf? (digits : List UInt8) : Option Nat :=
  digits.foldlM (fun value byte =>
    if IsDigit byte then some (value * 10 + (byte.toNat - 48)) else none) 0

/-- `str::parse::<u128>`: one optional `+`, then decimal digits, in range. -/
def parseU128 (text : List UInt8) : Option Nat :=
  let digits := match text with
    | first :: rest => if first = Hex.plus then rest else first :: rest
    | [] => []
  if digits.isEmpty then none
  else (natOf? digits).bind fun value => if value < 2 ^ 128 then some value else none

/-- `U256::from_str_radix(text, 10)`: underscores are skipped, no digit at all is
zero, and the value must fit. -/
def fromStrRadix10 (text : List UInt8) : Option Nat :=
  (natOf? (text.filter (· ≠ 95))).bind fun value => if value < 2 ^ 256 then some value else none

theorem fromStrRadix10_lt {text : List UInt8}
    (read : fromStrRadix10 text = some value) : value < 2 ^ 256 := by
  obtain ⟨found, _, kept⟩ := Option.bind_eq_some_iff.mp read
  split at kept
  case isTrue fits =>
    cases kept
    exact fits
  case isFalse => cases kept

theorem bytes_ofList_ascii {characters : List Char}
    (ascii : ∀ character ∈ characters, character.toNat < 128) :
    bytes (String.ofList characters) = characters.map fun character => UInt8.ofNat character.toNat := by
  rw [Utf8.bytes_ofList]
  induction characters with
  | nil => rfl
  | cons character _ ih =>
    rw [List.flatMap_cons, Utf8.utf8EncodeChar_of_lt (ascii character List.mem_cons_self),
      ih fun other member => ascii other (List.mem_cons_of_mem _ member)]
    rfl

theorem isDigit_range {character : Char} (isDigit : character.isDigit = true) :
    48 ≤ character.toNat ∧ character.toNat ≤ 57 := by
  simp only [Char.isDigit, Bool.and_eq_true, decide_eq_true_eq] at isDigit
  exact ⟨UInt32.le_iff_toNat_le.mp isDigit.1, UInt32.le_iff_toNat_le.mp isDigit.2⟩

theorem isWhitespace_of_digit {character : Char} (digit : character.isDigit = true) :
    Utf8.isWhitespace character = false := by
  have range := isDigit_range digit
  simp only [Utf8.isWhitespace]
  simp
  omega

theorem bytes_toString (value : Nat) :
    bytes (toString value) =
      (Nat.toDigits 10 value).map fun character => UInt8.ofNat character.toNat := by
  rw [Nat.toString_eq_ofList_toDigits]
  apply bytes_ofList_ascii
  intro character member
  have range := isDigit_range (Nat.isDigit_of_mem_toDigits (by decide) (by decide) member)
  omega

theorem foldlM_digits {characters : List Char}
    (digits : ∀ character ∈ characters, character.isDigit = true) (start : Nat) :
    (characters.map fun character => UInt8.ofNat character.toNat).foldlM
        (fun value byte => if IsDigit byte then some (value * 10 + (byte.toNat - 48)) else none)
        start =
      some (Nat.ofDigitChars 10 characters start) := by
  induction characters generalizing start with
  | nil => simp
  | cons character _ ih =>
    have range := isDigit_range (digits character List.mem_cons_self)
    have code : (UInt8.ofNat character.toNat).toNat = character.toNat := by
      simp only [UInt8.toNat_ofNat']
      omega
    have isDigit : IsDigit (UInt8.ofNat character.toNat) := by
      rw [IsDigit, code]
      exact range
    simp only [List.map_cons, List.foldlM_cons, isDigit, if_true, Option.bind_eq_bind,
      Option.bind_some, code]
    rw [ih fun other member => digits other (List.mem_cons_of_mem _ member),
      Nat.ofDigitChars_cons, Nat.mul_comm]
    rfl

theorem natOf?_toString (value : Nat) : natOf? (bytes (toString value)) = some value := by
  rw [bytes_toString, natOf?, foldlM_digits fun character member =>
    Nat.isDigit_of_mem_toDigits (by decide) (by decide) member, Nat.ofDigitChars_ten_toDigits]

theorem digits_toString {value : Nat} {byte : UInt8} (member : byte ∈ bytes (toString value)) :
    IsDigit byte := by
  rw [bytes_toString] at member
  obtain ⟨character, inDigits, rfl⟩ := List.mem_map.mp member
  have range := isDigit_range (Nat.isDigit_of_mem_toDigits (by decide) (by decide) inDigits)
  rw [IsDigit, UInt8.toNat_ofNat']
  omega

theorem trim_toString (value : Nat) : Utf8.trim (toString value) = toString value := by
  apply Utf8.trim_eq_self_of_bytes
  intro byte member
  have digit := digits_toString member
  rw [IsDigit] at digit
  omega

theorem toString_ne_nil (value : Nat) : bytes (toString value) ≠ [] := by
  rw [bytes_toString]
  simp [Nat.toDigits_ne_nil]

theorem fromStrRadix10_toString (fits : value < 2 ^ 256) :
    fromStrRadix10 (bytes (toString value)) = some value := by
  have kept : (bytes (toString value)).filter (· ≠ 95) = bytes (toString value) := by
    apply List.filter_eq_self.mpr
    intro byte member
    have digit := digits_toString member
    simp only [IsDigit] at digit
    simp only [decide_eq_true_eq]
    rintro rfl
    exact absurd digit.2 (by decide)
  rw [fromStrRadix10, kept, natOf?_toString]
  simp only [Option.bind_some]
  rw [if_pos fits]

theorem parseU128_toString (fits : value < 2 ^ 128) :
    parseU128 (bytes (toString value)) = some value := by
  have read := natOf?_toString value
  have nonempty := toString_ne_nil value
  have digits := fun byte => @digits_toString value byte
  generalize bytes (toString value) = text at read nonempty digits
  cases text with
  | nil => exact (nonempty rfl).elim
  | cons first =>
    have unsigned : first ≠ Hex.plus := by
      have := digits first List.mem_cons_self
      rintro rfl
      exact absurd this (by decide)
    simp only [parseU128, unsigned, if_false, List.isEmpty_cons, Bool.false_eq_true, read,
      Option.bind_some, if_pos fits]

end Decimal
