import VelaWallet.Base.Text

/-!
# Cutting texts at marks

The standard library's ways to cut a text, over its characters, and the text that
bytes which may not be UTF-8 are read as.
-/

namespace Chars

variable {first : Char} {line text : List Char}

/-- `str::split_once`: around the first copy of the mark. -/
def splitOnce (mark : List Char) : List Char → Option (List Char × List Char)
  | [] => if mark = [] then some ([], []) else none
  | letter :: text =>
    if mark.isPrefixOf (letter :: text) then some ([], (letter :: text).drop mark.length)
    else (splitOnce mark text).map fun (before, after) => (letter :: before, after)

/-- `str::rsplit_once`: around the last copy of a one-character mark. -/
def rsplitOnce (mark : Char) (text : List Char) : Option (List Char × List Char) :=
  if mark ∈ text then
    let after := (text.reverse.takeWhile (· != mark)).reverse
    some (text.take (text.length - after.length - 1), after)
  else none

/-- `str::split` at every copy of a two-character mark, up to `fuel` copies. -/
def splitPairsWithin (first second : Char) : Nat → List Char → List (List Char)
  | 0, text => [text]
  | fuel + 1, text =>
    match splitOnce [first, second] text with
    | some (before, after) => before :: splitPairsWithin first second fuel after
    | none => [text]

/-- `str::split` at every copy of a two-character mark. -/
def splitPairs (first second : Char) (text : List Char) : List (List Char) :=
  splitPairsWithin first second text.length text

/-- `str::to_ascii_lowercase`. -/
def lower (text : List Char) : List Char := text.map Char.toLower

def trim (text : List Char) : List Char :=
  ((text.dropWhile Utf8.isWhitespace).reverse.dropWhile Utf8.isWhitespace).reverse

@[simp] theorem splitOnce_nil (mark : List Char) :
    splitOnce mark [] = if mark = [] then some ([], []) else none := rfl

theorem splitOnce_cons (mark : List Char) (letter : Char) (text : List Char) :
    splitOnce mark (letter :: text) =
      if mark.isPrefixOf (letter :: text) then some ([], (letter :: text).drop mark.length)
      else (splitOnce mark text).map fun (before, after) => (letter :: before, after) := rfl

theorem splitOnce_absent (absent : first ∉ text)
    (rest : List Char) : splitOnce (first :: rest) text = none := by
  induction text with
  | nil => simp
  | cons letter _ ih =>
    have different : ¬ first = letter := fun same => absent (same ▸ List.mem_cons_self)
    rw [splitOnce_cons, ih fun member => absent (List.mem_cons_of_mem _ member)]
    simp [List.isPrefixOf, different]

theorem splitOnce_pair (absent : first ∉ line) (second : Char) (rest : List Char) :
    splitOnce [first, second] (line ++ first :: second :: rest) = some (line, rest) := by
  induction line with
  | nil => simp [splitOnce_cons, List.isPrefixOf]
  | cons letter _ ih =>
    have different : ¬ first = letter := fun same => absent (same ▸ List.mem_cons_self)
    rw [List.cons_append, splitOnce_cons, ih fun member => absent (List.mem_cons_of_mem _ member)]
    simp [List.isPrefixOf, different]

theorem splitOnce_append (absent : first ∉ line) (mark rest : List Char) :
    splitOnce (first :: mark) (line ++ (first :: mark) ++ rest) = some (line, rest) := by
  induction line with
  | nil =>
    have begins : (first :: mark).isPrefixOf (first :: (mark ++ rest)) = true :=
      List.isPrefixOf_iff_prefix.mpr (List.prefix_append (first :: mark) rest)
    simp [splitOnce_cons, begins]
  | cons letter _ ih =>
    have different : ¬ first = letter := fun same => absent (same ▸ List.mem_cons_self)
    rw [List.cons_append, List.cons_append, splitOnce_cons,
      ih fun member => absent (List.mem_cons_of_mem _ member)]
    simp [List.isPrefixOf, different]

theorem splitOnce_some {mark : Char} {before after : List Char}
    (cut : splitOnce [mark] text = some (before, after)) :
    text = before ++ mark :: after ∧ mark ∉ before := by
  induction text generalizing before with
  | nil => cases cut
  | cons letter _ ih =>
    rw [splitOnce_cons] at cut
    split at cut
    · next begins =>
        cases cut
        have same : mark = letter := by simpa [List.isPrefixOf] using begins
        rw [same]
        exact ⟨rfl, List.not_mem_nil⟩
    · next begins =>
        obtain ⟨⟨earlier, _⟩, found, same⟩ := Option.map_eq_some_iff.mp cut
        cases same
        obtain ⟨rfl, absent⟩ := ih found
        refine ⟨rfl, ?_⟩
        intro member
        rcases List.mem_cons.mp member with rfl | member
        · simp [List.isPrefixOf] at begins
        · exact absent member

theorem splitOnce_none {mark : Char} (uncut : splitOnce [mark] text = none) :
    mark ∉ text := by
  induction text with
  | nil => exact List.not_mem_nil
  | cons _ _ ih =>
    rw [splitOnce_cons] at uncut
    split at uncut
    · cases uncut
    · next begins =>
        intro member
        rcases List.mem_cons.mp member with rfl | member
        · simp [List.isPrefixOf] at begins
        · exact ih (Option.map_eq_none_iff.mp uncut) member

def joinPairs (first second : Char) : List (List Char) → List Char
  | [] => []
  | [line] => line
  | line :: lines => line ++ first :: second :: joinPairs first second lines

theorem splitPairsWithin_join (second : Char)
    {lines : List (List Char)} (absent : ∀ other ∈ line :: lines, first ∉ other) {fuel : Nat}
    (enough : lines.length ≤ fuel) :
    splitPairsWithin first second fuel (joinPairs first second (line :: lines)) = line :: lines := by
  induction lines generalizing line fuel with
  | nil =>
    cases fuel with
    | zero => rfl
    | succ =>
      rw [joinPairs, splitPairsWithin, splitOnce_absent (absent line List.mem_cons_self)]
  | cons _ _ ih =>
    cases fuel with
    | zero => cases enough
    | succ =>
      rw [joinPairs, splitPairsWithin, splitOnce_pair (absent line List.mem_cons_self)]
      · dsimp only
        rw [ih (fun other member => absent other (List.mem_cons_of_mem _ member))
          (Nat.le_of_succ_le_succ enough)]
      · exact nofun

theorem joinPairs_length (first second : Char) (line : List Char) (lines : List (List Char)) :
    lines.length ≤ (joinPairs first second (line :: lines)).length := by
  induction lines generalizing line with
  | nil => exact Nat.zero_le _
  | cons next _ ih =>
    have rest := ih next
    rw [joinPairs]
    · simp only [List.length_append, List.length_cons]
      omega
    · exact nofun

theorem splitPairs_join (second : Char)
    {lines : List (List Char)} (absent : ∀ other ∈ line :: lines, first ∉ other) :
    splitPairs first second (joinPairs first second (line :: lines)) = line :: lines :=
  splitPairsWithin_join second absent (joinPairs_length first second line lines)

def isContinuation (byte : UInt8) : Bool := 0x80 ≤ byte && byte ≤ 0xBF

/-- The second bytes a three-byte character's first byte allows. -/
def fitsThird (first second : UInt8) : Bool :=
  if first = 0xE0 then 0xA0 ≤ second && second ≤ 0xBF
  else if first = 0xED then 0x80 ≤ second && second ≤ 0x9F
  else isContinuation second

/-- The second bytes a four-byte character's first byte allows. -/
def fitsFourth (first second : UInt8) : Bool :=
  if first = 0xF0 then 0x90 ≤ second && second ≤ 0xBF
  else if first = 0xF4 then 0x80 ≤ second && second ≤ 0x8F
  else isContinuation second

/-- The low six bits of a continuation byte. -/
def sixBits (byte : UInt8) : Nat := byte.toNat % 64

def replacement : Char := Char.ofNat 0xFFFD

/-- `String::from_utf8_lossy`: every longest beginning of a character that is not
finished is read as one replacement character. -/
def fromUtf8Lossy : List UInt8 → List Char
  | [] => []
  | first :: rest =>
    if first < 0x80 then Char.ofNat first.toNat :: fromUtf8Lossy rest
    else if 0xC2 ≤ first && first ≤ 0xDF then
      match rest with
      | second :: rest' =>
        if isContinuation second then
          Char.ofNat (first.toNat % 32 * 64 + sixBits second) :: fromUtf8Lossy rest'
        else replacement :: fromUtf8Lossy (second :: rest')
      | [] => [replacement]
    else if 0xE0 ≤ first && first ≤ 0xEF then
      match rest with
      | second :: third :: rest' =>
        if fitsThird first second then
          if isContinuation third then
            Char.ofNat (first.toNat % 16 * 4096 + sixBits second * 64 + sixBits third) ::
              fromUtf8Lossy rest'
          else replacement :: fromUtf8Lossy (third :: rest')
        else replacement :: fromUtf8Lossy (second :: third :: rest')
      | [second] =>
        if fitsThird first second then [replacement]
        else replacement :: fromUtf8Lossy [second]
      | [] => [replacement]
    else if 0xF0 ≤ first && first ≤ 0xF4 then
      match rest with
      | second :: third :: fourth :: rest' =>
        if fitsFourth first second then
          if isContinuation third then
            if isContinuation fourth then
              Char.ofNat (first.toNat % 8 * 262144 + sixBits second * 4096 +
                sixBits third * 64 + sixBits fourth) :: fromUtf8Lossy rest'
            else replacement :: fromUtf8Lossy (fourth :: rest')
          else replacement :: fromUtf8Lossy (third :: fourth :: rest')
        else replacement :: fromUtf8Lossy (second :: third :: fourth :: rest')
      | [second, third] =>
        if fitsFourth first second then
          if isContinuation third then [replacement]
          else replacement :: fromUtf8Lossy [third]
        else replacement :: fromUtf8Lossy [second, third]
      | [second] =>
        if fitsFourth first second then [replacement]
        else replacement :: fromUtf8Lossy [second]
      | [] => [replacement]
    else replacement :: fromUtf8Lossy rest

theorem fromUtf8Lossy_ascii {bytes : List UInt8} (ascii : ∀ byte ∈ bytes, byte < 0x80) :
    fromUtf8Lossy bytes = bytes.map fun byte => Char.ofNat byte.toNat := by
  induction bytes with
  | nil => rfl
  | cons byte _ ih =>
    rw [fromUtf8Lossy.eq_def]
    simp only [if_pos (ascii byte List.mem_cons_self), List.map_cons]
    rw [ih fun other member => ascii other (List.mem_cons_of_mem _ member)]

theorem fromUtf8Lossy_map (ascii : ∀ letter ∈ text, letter.toNat < 0x80) :
    fromUtf8Lossy (text.map fun letter => UInt8.ofNat letter.toNat) = text := by
  have small : ∀ letter ∈ text, (UInt8.ofNat letter.toNat).toNat = letter.toNat := by
    intro letter member
    have := ascii letter member
    rw [UInt8.toNat_ofNat']
    omega
  rw [fromUtf8Lossy_ascii, List.map_map]
  · conv_rhs => rw [← List.map_id text]
    refine List.map_congr_left fun letter member => ?_
    simp only [Function.comp, small letter member, id]
    exact Char.ofNat_toNat letter
  · intro byte member
    obtain ⟨letter, inText, rfl⟩ := List.mem_map.mp member
    rw [UInt8.lt_iff_toNat_lt, small letter inText]
    exact ascii letter inText

/-- A text whose bytes come in valid UTF-8 is read as it is. -/
example : fromUtf8Lossy (Utf8.bytes "é€𝄞") = "é€𝄞".toList := by decide +kernel

example : fromUtf8Lossy [0x61, 0xE2, 0x82, 0x62, 0xFF] = "a\uFFFDb\uFFFD".toList := by decide

end Chars
