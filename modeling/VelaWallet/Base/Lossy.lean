import VelaWallet.Base.Text

/-!
# Bytes that may be no text

A byte string is read as a text with a replacement character for every sequence that is not UTF-8;
a text is cut by byte offsets only where characters begin.
-/

namespace Utf8

def decodeChar? (text : List UInt8) : Option Char := text.toByteArray.utf8DecodeChar? 0

/-- The second bytes that may follow the first byte of a character of three bytes or four. -/
def maySecond (first second : UInt8) : Bool :=
  let (low, high) :=
    if first = 0xE0 then (0xA0, 0xBF)
    else if first = 0xED then (0x80, 0x9F)
    else if first = 0xF0 then (0x90, 0xBF)
    else if first = 0xF4 then (0x80, 0x8F)
    else (0x80, 0xBF)
  0xE0 ≤ first.toNat ∧ first.toNat ≤ 0xF4 ∧ low ≤ second.toNat ∧ second.toNat ≤ high

/-- The length of the broken sequence a byte string opens with: what could still have become a
character, and one byte at least. -/
def brokenLength : List UInt8 → Nat
  | first :: second :: rest =>
    if maySecond first second then
      match rest with
      | third :: _ => if 0xF0 ≤ first.toNat ∧ third.toNat / 64 = 2 then 3 else 2
      | [] => 2
    else 1
  | _ => 1

/-- The loop of `String::from_utf8_lossy`; every round takes a byte at least, so `rounds` bounds
them. -/
def lossyChars : (rounds : Nat) → List UInt8 → List Char
  | 0, _ => []
  | rounds + 1, text =>
    if text.isEmpty then []
    else
      match decodeChar? text with
      | some character =>
        character ::
          lossyChars rounds (text.drop (String.utf8EncodeChar character).length)
      | none => Char.ofNat 0xFFFD :: lossyChars rounds (text.drop (brokenLength text))

def fromUtf8Lossy (text : List UInt8) : String := String.ofList (lossyChars text.length text)

/-- The characters of a text before and behind a byte offset, where a character begins there. -/
def splitAtByte : (index : Nat) → List Char → Option (List Char × List Char)
  | 0, text => some ([], text)
  | _ + 1, [] => none
  | index + 1, character :: text =>
    let width := (String.utf8EncodeChar character).length
    if width ≤ index + 1 then
      (splitAtByte (index + 1 - width) text).map fun halves =>
        (character :: halves.1, halves.2)
    else none

/-- `str::get` with a range: nothing unless both ends begin a character or end the text. -/
def get? (text : String) (start stop : Nat) : Option String := do
  let (before, _) ← splitAtByte stop text.toList
  let (_, part) ← splitAtByte start before
  return String.ofList part

/-- The first place where a byte string holds another. -/
def find? (needle : List UInt8) : List UInt8 → Option Nat
  | [] => if needle.isEmpty then some 0 else none
  | byte :: text =>
    if needle.isPrefixOf (byte :: text) then some 0 else (find? needle text).map (· + 1)

theorem utf8EncodeChar_length_pos (character : Char) :
    0 < (String.utf8EncodeChar character).length := by
  rw [String.length_utf8EncodeChar]
  exact Char.utf8Size_pos character

theorem decodeChar?_encode (character : Char) (rest : List UInt8) :
    decodeChar? (String.utf8EncodeChar character ++ rest) = some character := by
  rw [decodeChar?, List.toByteArray_append]
  exact ByteArray.utf8DecodeChar?_utf8EncodeChar_append

theorem lossyChars_encoded {rounds : Nat} {characters : List Char}
    (enough : (characters.flatMap String.utf8EncodeChar).length ≤ rounds) :
    lossyChars rounds (characters.flatMap String.utf8EncodeChar) = characters := by
  induction characters generalizing rounds with
  | nil => cases rounds <;> rfl
  | cons character characters ih =>
    have wide := utf8EncodeChar_length_pos character
    rw [List.flatMap_cons] at enough ⊢
    rw [List.length_append] at enough
    cases rounds with
    | zero => omega
    | succ =>
      have filled : (String.utf8EncodeChar character ++
          characters.flatMap String.utf8EncodeChar).isEmpty = false := by
        rw [List.isEmpty_eq_false_iff, ← List.length_pos_iff, List.length_append]
        omega
      rw [lossyChars, filled, decodeChar?_encode]
      simp only [Bool.false_eq_true, if_false]
      rw [List.drop_left, ih (by omega)]

theorem fromUtf8Lossy_bytes (text : String) : fromUtf8Lossy (bytes text) = text := by
  rw [fromUtf8Lossy, bytes, lossyChars_encoded (Nat.le_refl _), String.ofList_toList]

theorem splitAtByte_append (before after : List Char) :
    splitAtByte (before.flatMap String.utf8EncodeChar).length (before ++ after) =
      some (before, after) := by
  induction before with
  | nil => cases after <;> rfl
  | cons character before ih =>
    have wide := utf8EncodeChar_length_pos character
    rw [List.flatMap_cons, List.length_append, List.cons_append]
    obtain ⟨index, total⟩ : ∃ index, (String.utf8EncodeChar character).length +
        (before.flatMap String.utf8EncodeChar).length = index + 1 := ⟨_, (by omega :
          _ = ((String.utf8EncodeChar character).length +
            (before.flatMap String.utf8EncodeChar).length - 1) + 1)⟩
    rw [total, splitAtByte]
    have rest : index + 1 - (String.utf8EncodeChar character).length =
        (before.flatMap String.utf8EncodeChar).length := by omega
    simp only [rest, ih]
    rw [if_pos (by omega)]
    rfl

theorem get?_append (before part after : String) :
    get? (before ++ part ++ after) (bytes before).length
      ((bytes before).length + (bytes part).length) = some part := by
  have outer := splitAtByte_append (before.toList ++ part.toList) after.toList
  have inner := splitAtByte_append before.toList part.toList
  rw [List.flatMap_append, List.length_append] at outer
  rw [get?, String.toList_append, String.toList_append, bytes, bytes, outer]
  simp only [Option.bind_eq_bind, Option.bind_some, inner]
  simp

theorem high_of_mem_encode {character : Char} (large : 128 ≤ character.toNat) {byte : UInt8}
    (member : byte ∈ String.utf8EncodeChar character) : 128 ≤ byte.toNat := by
  have bound : ¬ character.val.toNat ≤ 127 := by
    rw [Char.toNat_val]
    omega
  unfold String.utf8EncodeChar at member
  simp only [bound, if_false] at member
  split at member
  · simp only [List.mem_cons, List.not_mem_nil, or_false] at member
    rcases member with rfl | rfl <;> simp only [UInt8.toNat_ofNat'] <;> omega
  · split at member
    · simp only [List.mem_cons, List.not_mem_nil, or_false] at member
      rcases member with rfl | rfl | rfl <;> simp only [UInt8.toNat_ofNat'] <;> omega
    · simp only [List.mem_cons, List.not_mem_nil, or_false] at member
      rcases member with rfl | rfl | rfl | rfl <;> simp only [UInt8.toNat_ofNat'] <;> omega

theorem text_behind {front rest : List UInt8} (ascii : IsAscii front) {text : String}
    (layout : bytes text = front ++ rest) : ∃ after, rest = bytes after := by
  induction front generalizing text with
  | nil => exact ⟨text, layout.symm⟩
  | cons byte front ih =>
    have small : byte.toNat < 128 := ascii byte List.mem_cons_self
    have spelled : String.utf8EncodeChar (Char.ofNat byte.toNat) = [byte] := by
      rw [utf8EncodeChar_of_lt (by rw [toNat_ofNat_of_lt small]; exact small),
        toNat_ofNat_of_lt small, UInt8.ofNat_toNat]
    unfold bytes at layout
    cases read : text.toList with
    | nil =>
      rw [read] at layout
      cases layout
    | cons character characters =>
      rw [read, List.flatMap_cons] at layout
      have opened := decodeChar?_encode character (characters.flatMap String.utf8EncodeChar)
      rw [layout, List.cons_append, ← List.singleton_append, ← spelled, decodeChar?_encode]
        at opened
      rw [← Option.some.inj opened, spelled, List.singleton_append, List.cons_append]
        at layout
      have behind : bytes (String.ofList characters) = front ++ rest := by
        rw [bytes_ofList]
        exact (List.cons.inj layout).2
      exact ih (fun other member => ascii other (List.mem_cons_of_mem _ member)) behind

theorem text_before {front : List UInt8} {last : UInt8} (small : last.toNat < 128) {text : String}
    (layout : bytes text = front ++ [last]) : ∃ before, front = bytes before := by
  unfold bytes at layout
  rcases List.eq_nil_or_concat text.toList with empty | ⟨characters, character, split⟩
  · rw [empty] at layout
    exact absurd (congrArg List.length layout) (by simp)
  · rw [split, List.concat_eq_append, List.flatMap_append, List.flatMap_singleton] at layout
    by_cases ascii : character.toNat < 128
    · rw [utf8EncodeChar_of_lt ascii] at layout
      refine ⟨String.ofList characters, ?_⟩
      rw [bytes_ofList]
      exact (List.append_inj_left' layout rfl).symm
    · have wide := utf8EncodeChar_length_pos character
      have ends := congrArg List.getLast? layout
      rw [List.getLast?_append, List.getLast?_concat,
        List.getLast?_eq_some_getLast (List.length_pos_iff.mp wide), Option.some_or] at ends
      have high := high_of_mem_encode (Nat.le_of_not_lt ascii)
        (List.getLast_mem (List.length_pos_iff.mp wide))
      rw [Option.some.inj ends] at high
      omega

end Utf8
