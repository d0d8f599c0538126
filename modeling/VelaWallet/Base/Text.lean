import Mathlib.Tactic.Common

/-!
# UTF-8 text

A text is handled by the code at two levels: its characters (trimming) and its
UTF-8 bytes (lengths, slices and hex digits).  The byte level is the one slices
and indices refer to, so it is the one the readers below are stated over.
-/

namespace Utf8

variable {mark text : List UInt8}

def bytes (text : String) : List UInt8 := text.toList.flatMap String.utf8EncodeChar

/-- The text whose characters are the given ASCII bytes. -/
def ofAscii (text : List UInt8) : String :=
  String.ofList (text.map fun byte => Char.ofNat byte.toNat)

/-- What holds of all bytes of a text is decided along the text, not over every byte there is. -/
instance (priority := high) decidableAllBytes {p : UInt8 → Prop} [DecidablePred p]
    (text : List UInt8) : Decidable (∀ byte ∈ text, p byte) := List.decidableBAll p text

def IsAscii (text : List UInt8) : Prop := ∀ byte ∈ text, byte.toNat < 128

instance (text : List UInt8) : Decidable (IsAscii text) :=
  inferInstanceAs (Decidable (∀ byte ∈ text, byte.toNat < 128))

/-- `u8::to_ascii_lowercase`. -/
def asciiLower (byte : UInt8) : UInt8 :=
  if 65 ≤ byte.toNat ∧ byte.toNat ≤ 90 then byte + 32 else byte

/-- `str::to_ascii_lowercase`, on the bytes of the text. -/
def toAsciiLowercase (text : List UInt8) : List UInt8 := text.map asciiLower

/-- `str::eq_ignore_ascii_case`, on the bytes of the texts. -/
def eqIgnoreAsciiCase (left right : List UInt8) : Bool :=
  toAsciiLowercase left == toAsciiLowercase right

/-- `str::strip_prefix(..).unwrap_or(..)`: the text without one leading `mark`. -/
def stripPrefix (mark text : List UInt8) : List UInt8 :=
  if mark.isPrefixOf text then text.drop mark.length else text

/-- `str::trim_start_matches`: the text without any leading copies of `mark`.
The text is at most `fuel` bytes long. -/
def trimStartMatchesWithin (mark : List UInt8) : Nat → List UInt8 → List UInt8
  | 0, text => text
  | fuel + 1, text =>
    if mark.isPrefixOf text then trimStartMatchesWithin mark fuel (text.drop mark.length)
    else text

def trimStartMatches (mark text : List UInt8) : List UInt8 :=
  trimStartMatchesWithin mark text.length text

/-- Unicode `White_Space`, as `char::is_whitespace` has it. -/
def isWhitespace (character : Char) : Bool :=
  let code := character.toNat
  (9 ≤ code && code ≤ 13) || code == 0x20 || code == 0x85 || code == 0xA0 ||
    code == 0x1680 || (0x2000 ≤ code && code ≤ 0x200A) || code == 0x2028 ||
    code == 0x2029 || code == 0x202F || code == 0x205F || code == 0x3000

def trim (text : String) : String :=
  String.ofList
    (((text.toList.dropWhile isWhitespace).reverse.dropWhile isWhitespace).reverse)

/-- `str::is_char_boundary`: the index is an end of the text or the first byte
of a character. -/
def IsCharBoundary (text : List UInt8) (index : Nat) : Prop :=
  index = text.length ∨ ∃ byte, text[index]? = some byte ∧ byte.toNat / 64 ≠ 2

instance (text : List UInt8) (index : Nat) : Decidable (IsCharBoundary text index) :=
  match found : text[index]? with
  | none => decidable_of_iff (index = text.length) (by simp [IsCharBoundary, found])
  | some byte =>
    decidable_of_iff (index = text.length ∨ byte.toNat / 64 ≠ 2)
      (by simp [IsCharBoundary, found])

/-- The fault of a slice that cuts a character or leaves the text. -/
inductive SlicePanic where
  | outsideBoundary
  deriving DecidableEq

/-- `&text[start..stop]`. -/
def slice (text : List UInt8) (start stop : Nat) : Except SlicePanic (List UInt8) :=
  if start ≤ stop ∧ stop ≤ text.length ∧ IsCharBoundary text start ∧ IsCharBoundary text stop then
    .ok ((text.drop start).take (stop - start))
  else .error .outsideBoundary

/-- The Unicode case table of the standard library.  Only its ASCII part is
fixed: there it is the ASCII lower-casing. -/
class CaseTable where
  toLowercase : String → String
  toLowercase_ascii : ∀ text, IsAscii (bytes text) →
    bytes (toLowercase text) = toAsciiLowercase (bytes text)

export CaseTable (toLowercase)

theorem mem_of_mem_stripPrefix {byte : UInt8}
    (member : byte ∈ stripPrefix mark text) : byte ∈ text := by
  unfold stripPrefix at member
  split at member
  · exact List.mem_of_mem_drop member
  · exact member

theorem utf8EncodeChar_of_lt {character : Char} (small : character.toNat < 128) :
    String.utf8EncodeChar character = [UInt8.ofNat character.toNat] := by
  have bound : character.val.toNat ≤ 127 := Nat.le_of_lt_succ small
  unfold String.utf8EncodeChar
  simp only [bound, if_true]
  rfl

theorem exists_high_byte {character : Char} (large : 128 ≤ character.toNat) :
    ∃ byte ∈ String.utf8EncodeChar character, 128 ≤ byte.toNat := by
  have bound : ¬ character.val.toNat ≤ 127 := by
    rw [Char.toNat_val]
    omega
  unfold String.utf8EncodeChar
  simp only [bound, if_false]
  split
  · exact ⟨_, List.mem_cons_self, by simp only [UInt8.toNat_ofNat']; omega⟩
  · split
    · exact ⟨_, List.mem_cons_self, by simp only [UInt8.toNat_ofNat']; omega⟩
    · exact ⟨_, List.mem_cons_self, by simp only [UInt8.toNat_ofNat']; omega⟩

theorem toNat_ofNat_of_lt {code : Nat} (small : code < 128) : (Char.ofNat code).toNat = code := by
  have valid : code.isValidChar := Or.inl (by omega)
  rw [Char.ofNat, dif_pos valid]
  rfl

theorem bytes_append (left right : String) : bytes (left ++ right) = bytes left ++ bytes right := by
  simp [bytes]

theorem bytes_ofList (characters : List Char) :
    bytes (String.ofList characters) = characters.flatMap String.utf8EncodeChar := by
  simp [bytes]

@[simp] theorem bytes_ofAscii (ascii : IsAscii text) :
    bytes (ofAscii text) = text := by
  rw [ofAscii, bytes_ofList]
  induction text with
  | nil => rfl
  | cons byte text ih =>
    have small : byte.toNat < 128 := ascii byte List.mem_cons_self
    have tailAscii : IsAscii text := fun other member =>
      ascii other (List.mem_cons_of_mem _ member)
    have code := toNat_ofNat_of_lt small
    simp only [List.map_cons, List.flatMap_cons, ih tailAscii]
    rw [utf8EncodeChar_of_lt (by omega), code]
    simp

theorem toList_eq_of_ascii {text : String} (ascii : IsAscii (bytes text)) :
    text.toList = (bytes text).map fun byte => Char.ofNat byte.toNat := by
  unfold bytes at ascii ⊢
  generalize text.toList = characters at ascii ⊢
  induction characters with
  | nil => rfl
  | cons character characters ih =>
    rw [List.flatMap_cons] at ascii ⊢
    have tailAscii : IsAscii (characters.flatMap String.utf8EncodeChar) :=
      fun byte member => ascii byte (List.mem_append_right _ member)
    have small : character.toNat < 128 := by
      by_contra large
      obtain ⟨byte, member, high⟩ := exists_high_byte (Nat.le_of_not_lt large)
      have := ascii byte (List.mem_append_left _ member)
      omega
    rw [List.map_append, ← ih tailAscii, utf8EncodeChar_of_lt small,
      List.map_cons, List.map_nil, List.singleton_append]
    congr 1
    have code : (UInt8.ofNat character.toNat).toNat = character.toNat := by
      simp only [UInt8.toNat_ofNat']
      omega
    rw [code]
    exact (Char.ofNat_toNat character).symm

theorem dropWhile_eq_self {characters : List Char} {drop : Char → Bool}
    (kept : ∀ character ∈ characters, drop character = false) :
    characters.dropWhile drop = characters := by
  cases characters with
  | nil => rfl
  | cons character =>
    rw [List.dropWhile_cons, kept character List.mem_cons_self]
    rfl

theorem trim_eq_self {text : String}
    (solid : ∀ character ∈ text.toList, isWhitespace character = false) :
    trim text = text := by
  have reversed : ∀ character ∈ text.toList.reverse, isWhitespace character = false :=
    fun character member => solid character (List.mem_reverse.mp member)
  rw [trim, dropWhile_eq_self solid, dropWhile_eq_self reversed, List.reverse_reverse,
    String.ofList_toList]

theorem trim_eq_self_of_bytes {text : String}
    (visible : ∀ byte ∈ bytes text, 32 < byte.toNat ∧ byte.toNat < 128) :
    trim text = text := by
  have ascii : IsAscii (bytes text) := fun byte member => (visible byte member).2
  apply trim_eq_self
  rw [toList_eq_of_ascii ascii]
  intro character member
  obtain ⟨byte, byteMember, rfl⟩ := List.mem_map.mp member
  have range := visible byte byteMember
  have code := toNat_ofNat_of_lt range.2
  simp only [isWhitespace, code]
  simp
  omega

theorem isCharBoundary_of_ascii {index : Nat} (ascii : IsAscii text)
    (inside : index ≤ text.length) : IsCharBoundary text index := by
  rcases Nat.eq_or_lt_of_le inside with atEnd | before
  · exact Or.inl atEnd
  · refine Or.inr ⟨text[index], List.getElem?_eq_getElem before, ?_⟩
    have := ascii text[index] (List.getElem_mem before)
    omega

theorem slice_ok {start stop : Nat} (ascii : IsAscii text)
    (ordered : start ≤ stop) (inside : stop ≤ text.length) :
    slice text start stop = .ok ((text.drop start).take (stop - start)) := by
  have startBoundary := isCharBoundary_of_ascii ascii (Nat.le_trans ordered inside)
  have stopBoundary := isCharBoundary_of_ascii ascii inside
  rw [slice, if_pos ⟨ordered, inside, startBoundary, stopBoundary⟩]

@[simp] theorem asciiLower_asciiLower (byte : UInt8) :
    asciiLower (asciiLower byte) = asciiLower byte := by
  unfold asciiLower
  split
  case isTrue upper =>
    have shifted : (byte + 32).toNat = byte.toNat + 32 := by
      rw [UInt8.toNat_add]
      simp only [UInt8.toNat_ofNat]
      omega
    rw [if_neg (by omega)]
  case isFalse => rfl

theorem eqIgnoreAsciiCase_iff (left right : List UInt8) :
    eqIgnoreAsciiCase left right = true ↔
      toAsciiLowercase left = toAsciiLowercase right := by
  simp [eqIgnoreAsciiCase]

@[simp] theorem eqIgnoreAsciiCase_refl (text : List UInt8) :
    eqIgnoreAsciiCase text text = true := by simp [eqIgnoreAsciiCase]

theorem isAscii_toAsciiLowercase (ascii : IsAscii text) :
    IsAscii (toAsciiLowercase text) := by
  intro byte member
  obtain ⟨source, inText, rfl⟩ := List.mem_map.mp member
  have small := ascii source inText
  unfold asciiLower
  split
  case isTrue upper =>
    rw [UInt8.toNat_add]
    simp only [UInt8.toNat_ofNat]
    omega
  case isFalse => exact small

@[reducible] def asciiCaseTable : CaseTable where
  toLowercase text := if IsAscii (bytes text) then ofAscii (toAsciiLowercase (bytes text)) else text
  toLowercase_ascii text ascii := by
    simp only [ascii, if_true]
    exact bytes_ofAscii (isAscii_toAsciiLowercase ascii)

theorem trimStartMatchesWithin_eq_self (different : mark.isPrefixOf text = false) (fuel : Nat) :
    trimStartMatchesWithin mark fuel text = text := by
  cases fuel with
  | zero => rfl
  | succ => simp [trimStartMatchesWithin, different]

/-- Nothing is trimmed from the start of a text that does not open with the
mark. -/
theorem trimStartMatches_eq_self
    (different : mark.isPrefixOf text = false) : trimStartMatches mark text = text :=
  trimStartMatchesWithin_eq_self different text.length

theorem trimStartMatches_eq_stripPrefix (marked : mark ≠ [])
    (once : mark.isPrefixOf (stripPrefix mark text) = false) :
    trimStartMatches mark text = stripPrefix mark text := by
  by_cases isMarked : mark.isPrefixOf text = true
  · have stripped : stripPrefix mark text = text.drop mark.length := by
      simp [stripPrefix, isMarked]
    rw [stripped] at once ⊢
    cases text with
    | nil =>
      cases mark with
      | nil => exact (marked rfl).elim
      | cons => cases isMarked
    | cons _ text =>
      rw [trimStartMatches, List.length_cons, trimStartMatchesWithin, if_pos isMarked]
      exact trimStartMatchesWithin_eq_self once text.length
  · have unmarked : mark.isPrefixOf text = false := Bool.eq_false_iff.mpr isMarked
    rw [trimStartMatches_eq_self unmarked, stripPrefix, if_neg isMarked]

end Utf8
