import VelaWallet.Base.Chars

/-!
# Typed amounts

What a person typed into an amount field, as the text the core can read
(`l10n/amount_text.rs`).  A text is the list of its characters.
-/

namespace VelaWallet.AmountText

inductive NumberPreset where
  | commaDot
  | dotComma
  | spaceComma
  | indian

structure Separators where
  group : Char
  decimal : Char

def NumberPreset.separators : NumberPreset → Separators
  | commaDot | indian => ⟨',', '.'⟩
  | dotComma => ⟨'.', ','⟩
  | spaceComma => ⟨' ', ','⟩

/-- How the edit reached the field. -/
inductive Entry where
  | typed
  | pasted
  | unknown

def isMark (letter : Char) : Bool := letter == '.' || letter == ','

/-- The value of a digit the field reads beside the ASCII ones. -/
def digitOf (code : Nat) : Option Nat :=
  if 0x0660 ≤ code ∧ code ≤ 0x0669 then some (code - 0x0660)
  else if 0x06F0 ≤ code ∧ code ≤ 0x06F9 then some (code - 0x06F0)
  else if 0xFF10 ≤ code ∧ code ≤ 0xFF19 then some (code - 0xFF10)
  else none

/-- `plain`: one character, as the ASCII an amount is written with. -/
def plain (letter : Char) : Char :=
  match digitOf letter.toNat with
  | some digit => Nat.digitChar digit
  | none =>
    match letter with
    | '٫' | '．' | '。' => '.'
    | '，' => ','
    | other => other

/-- What a run of letters behind a digit is followed by: a digit, with a sign before it or
without. -/
def endsInDigit : List Char → Bool
  | [] => false
  | [digit] => digit.isDigit
  | sign :: digit :: _ => ((sign == '-' || sign == '+') && digit.isDigit) || sign.isDigit

/-- Letters stand between two digits, for a reading of what a letter is. -/
def lettersBetweenDigits (letter : Char → Bool) : List Char → Bool
  | [] => false
  | start :: rest =>
    (start.isDigit && !(rest.takeWhile letter).isEmpty && endsInDigit (rest.dropWhile letter)) ||
      lettersBetweenDigits letter rest

def letterBetweenDigits (raw : List Char) : Bool := lettersBetweenDigits Char.isAlpha raw

def isDigits (group : List Char) : Bool := !group.isEmpty && group.all Char.isDigit

/-- `grouping_only`: every comma of a whole number separates thousands or lakhs. -/
def groupingOnly (text : List Char) : Bool :=
  match text.splitOn ',' with
  | [] => false
  | first :: rest =>
    !rest.isEmpty && isDigits first && rest.all isDigits && first.head? != some '0' &&
      ((decide (first.length ≤ 3) && rest.all fun group => group.length == 3) ||
        (decide (first.length ≤ 2) && (rest.getLast?.all fun last => last.length == 3) &&
          rest.dropLast.all fun group => group.length == 2))

/-- How many digits a text starts with. -/
def leadingDigits (text : List Char) : Nat := (text.takeWhile Char.isDigit).length

/-- A text without the groups of exactly three digits it starts with, and their number. -/
def skipGroups (group : Char) : List Char → Nat × List Char
  | mark :: first :: second :: third :: rest =>
    if mark = group ∧ leadingDigits (first :: second :: third :: rest) = 3 then
      ((skipGroups group rest).1 + 1, (skipGroups group rest).2)
    else (0, mark :: first :: second :: third :: rest)
  | text => (0, text)

/-- `grouped`: a figure grouped by `group`, with a part behind `decimal` or at least two groups. -/
def grouped (text : List Char) (group decimal : Char) : Bool :=
  let lead := leadingDigits text
  if lead = 0 ∨ 3 < lead ∨ text.head? = some '0' then false
  else
    match skipGroups group (text.drop lead) with
    | (groups, []) => 2 ≤ groups
    | (groups, mark :: rest) =>
      1 ≤ groups && mark == decimal && 1 ≤ leadingDigits rest &&
        leadingDigits rest == rest.length

/-- `str::replacen(mark, by, 1)` -/
def replaceOnce (mark : Char) (replacement : List Char) : List Char → List Char
  | [] => []
  | letter :: rest =>
    if letter = mark then replacement ++ rest
    else letter :: replaceOnce mark replacement rest

def oneSpelling (whole : List Char) (pointed : Bool) : List Char :=
  let trimmed := whole.dropWhile (· == '0')
  if trimmed.isEmpty && (pointed || !whole.isEmpty) then ['0'] else trimmed

/-- The digits and the marks of a text, in ASCII. -/
def figureText (raw : List Char) : List Char :=
  (raw.map plain).filter fun letter => letter.isDigit || isMark letter

def isPasted (raw : List Char) (entry : Entry) (previous : Option (List Char)) : Bool :=
  match entry with
  | .typed => false
  | .pasted => true
  | .unknown => previous.all fun before => before.length + 1 < raw.length

/-- The text is the one before with one comma typed into it. -/
def isKeystroke (text : List Char) (previous : Option (List Char)) : Bool :=
  previous.any fun before =>
    text.length == before.length + 1 && replaceOnce ',' [] text == before

def commaIsDecimal (text : List Char) (preset : NumberPreset) (previous : Option (List Char)) :
    Bool :=
  (preset.separators.decimal == ',' || isKeystroke text previous) && !text.contains '.'

/-- A comma of the text is neither its decimal mark nor grouping. -/
def commaUnread (text : List Char) (preset : NumberPreset) (previous : Option (List Char)) : Bool :=
  !commaIsDecimal text preset previous && !isKeystroke text previous && text.contains ',' &&
    !text.contains '.' && !groupingOnly text

/-- The text around its decimal marks: the whole part, and what stands behind each mark. -/
def parts (text : List Char) (preset : NumberPreset) (previous : Option (List Char)) :
    List (List Char) :=
  let dotted := if commaIsDecimal text preset previous then replaceOnce ',' ['.'] text else text
  (dotted.filter (· != ',')).splitOn '.'

/-- The figure of a whole part and what stands behind each mark. -/
def figureOf : List (List Char) → List Char
  | [] => []
  | [whole] => oneSpelling whole false
  | whole :: rest => oneSpelling whole true ++ '.' :: rest.flatten

/-- `clean`: the cleaned figure, or nothing for a paste with no reading as one figure. -/
def clean (raw : List Char) (preset : NumberPreset) (entry : Entry)
    (previous : Option (List Char)) : Option (List Char) :=
  let pasted := isPasted raw entry previous
  if pasted && letterBetweenDigits raw then none
  else
    let text := figureText raw
    if pasted && grouped text ',' '.' then some (text.filter (· != ','))
    else if pasted && grouped text '.' ',' then
      some (replaceOnce ',' ['.'] (text.filter (· != '.')))
    else if commaUnread text preset previous then none
    else if pasted && commaIsDecimal text preset previous && 1 < text.count ',' then none
    else if pasted && 2 < (parts text preset previous).length then none
    else some (figureOf (parts text preset previous))

def lenUtf16 (letter : Char) : Nat := if letter.toNat < 0x10000 then 1 else 2

/-- `caret_after_clean`: where the caret belongs in the cleaned text, having been at `caret` in the
raw one.  Positions in the raw text are UTF-16 code units. -/
def caretAfterClean (raw cleaned : List Char) (caret : Nat) : Nat := walk raw 0 0
where
  /-- The walk along the raw text, `units` in, with `kept` characters met again. -/
  walk : List Char → Nat → Nat → Nat
    | [], _, kept => kept
    | letter :: rest, units, kept =>
      if caret ≤ units then kept
      else
        match cleaned[kept]? with
        | none => kept
        | some next =>
          let passed := units + lenUtf16 letter
          if plain letter = next ∨ (isMark (plain letter) && isMark next) then
            walk rest passed (kept + 1)
          else if kept = 0 ∧ isMark (plain letter) ∧ next = '0' ∧ (cleaned[1]?).any isMark then
            walk rest passed 2
          else walk rest passed kept

example : clean "1,234.56".toList .commaDot .pasted none = some "1234.56".toList := by decide

example : clean "1.5e-7".toList .commaDot .unknown (some []) = none := by decide

end VelaWallet.AmountText
