import VelaWallet.L10n.KeySoundness

/-!
# Pasted amounts

Which edits are read as a paste, and which pastes are refused.
-/

namespace VelaWallet.AmountText

open FeePolicy (Digits)

variable {text : List Char}

/-- The groups of a figure, with the mark before each. -/
def joined (group : Char) (groups : List (List Char)) : List Char := groups.flatMap (group :: ·)

/-- A figure of a lead, of groups of three digits behind it, and of a tail. -/
structure Grouped (text : List Char) (group decimal : Char) (lead : List Char)
    (groups : List (List Char)) (tail : List Char) : Prop where
  same : text = lead ++ (joined group groups ++ tail)
  whole : Whole lead
  unled : lead.head? ≠ some '0'
  short : lead.length ≤ 3
  some : groups ≠ []
  threes : ∀ digits ∈ groups, Digits digits ∧ digits.length = 3
  ends : tail = [] ∧ 2 ≤ groups.length ∨ ∃ digits, tail = decimal :: digits ∧ Digits digits

theorem takeWhile_digits (text : List Char) : Digits (text.takeWhile Char.isDigit) :=
  fun _ member => List.mem_takeWhile_imp member

theorem skipGroups_groups (group : Char) (text : List Char) :
    ∃ groups : List (List Char), groups.length = (skipGroups group text).1 ∧
      text = joined group groups ++ (skipGroups group text).2 ∧
      ∀ digits ∈ groups, Digits digits ∧ digits.length = 3 := by
  induction text using skipGroups.induct group with
  | case1 _ first second third rest isGroup ih =>
    obtain ⟨rfl, three⟩ := isGroup
    obtain ⟨groups, count, same, threes⟩ := ih
    have digits : Digits [first, second, third] := by
      have leading := takeWhile_digits (first :: second :: third :: rest)
      have taken := List.takeWhile_prefix (l := first :: second :: third :: rest) Char.isDigit
      have start : (first :: second :: third :: rest).takeWhile Char.isDigit =
          [first, second, third] := by
        rw [List.prefix_iff_eq_take.mp taken]
        rw [leadingDigits] at three
        rw [three]
        rfl
      rw [start] at leading
      exact leading
    rw [skipGroups, if_pos ⟨rfl, three⟩]
    refine ⟨[first, second, third] :: groups, ?_, ?_, ?_⟩
    · rw [List.length_cons, count]
    · rw [joined, List.flatMap_cons, ← joined]
      simp only [List.cons_append, List.nil_append]
      rw [← same]
    · exact List.forall_mem_cons.mpr ⟨⟨digits, rfl⟩, threes⟩
  | case2 _ _ _ _ _ notGroup =>
    rw [skipGroups, if_neg notGroup]
    exact ⟨[], rfl, rfl, fun _ member => absurd member List.not_mem_nil⟩
  | case3 _ short =>
    refine ⟨[], ?_⟩
    unfold skipGroups
    split
    · next mark first second third rest => exact absurd rfl (short mark first second third rest)
    · exact ⟨rfl, rfl, fun _ member => absurd member List.not_mem_nil⟩

theorem grouped_parts {group decimal : Char} (isGrouped : grouped text group decimal = true) :
    ∃ lead groups tail, Grouped text group decimal lead groups tail := by
  unfold grouped at isGrouped
  dsimp only at isGrouped
  split at isGrouped
  · cases isGrouped
  · next bounds =>
      rw [not_or, not_or] at bounds
      obtain ⟨some, short, unled⟩ := bounds
      have lead : text.takeWhile Char.isDigit = text.take (leadingDigits text) :=
        List.prefix_iff_eq_take.mp (List.takeWhile_prefix _)
      have digits := takeWhile_digits text
      rw [lead] at digits
      obtain ⟨groups, count, same, threes⟩ := skipGroups_groups group (text.drop (leadingDigits text))
      have size : (text.take (leadingDigits text)).length = leadingDigits text := by
        rw [← lead]
        rfl
      have written : text.take (leadingDigits text) ≠ [] := by
        intro none
        rw [none] at size
        exact some size.symm
      have first : (text.take (leadingDigits text)).head? ≠ Option.some '0' := by
        rw [List.head?_take, if_neg some]
        exact unled
      have whole : text = text.take (leadingDigits text) ++ (joined group groups ++
          (skipGroups group (text.drop (leadingDigits text))).2) := by
        rw [← same, List.take_append_drop]
      generalize skipGroups group (text.drop (leadingDigits text)) = skipped at count whole isGrouped
      obtain ⟨number, tail⟩ := skipped
      dsimp only at count whole isGrouped
      refine ⟨_, groups, tail, whole, ⟨digits, written, .inr first⟩, first, ?_, ?_, threes, ?_⟩
      · rw [size]
        exact Nat.le_of_not_lt short
      · cases tail with
        | nil | cons =>
          rintro rfl
          rw [← count] at isGrouped
          cases isGrouped
      · cases tail with
        | nil => exact .inl ⟨rfl, by rw [count]; exact of_decide_eq_true isGrouped⟩
        | cons _ rest =>
          simp only [Bool.and_eq_true, beq_iff_eq] at isGrouped
          obtain ⟨⟨⟨_, isDecimal⟩, _⟩, all⟩ := isGrouped
          have behind : rest.takeWhile Char.isDigit = rest := by
            rw [List.prefix_iff_eq_take.mp (List.takeWhile_prefix Char.isDigit (l := rest))]
            rw [leadingDigits] at all
            rw [all, List.take_length]
          refine .inr ⟨rest, by rw [isDecimal], ?_⟩
          rw [← behind]
          exact takeWhile_digits rest

namespace Grouped

variable {text : List Char} {group decimal : Char} {lead : List Char}
  {groups : List (List Char)} {tail : List Char}

theorem mem_joined {letter : Char} (member : letter ∈ joined group groups) :
    letter = group ∨ letter ∈ groups.flatten := by
  rw [joined, List.mem_flatMap] at member
  obtain ⟨digits, inGroups, inGroup⟩ := member
  rcases List.mem_cons.mp inGroup with same | inDigits
  · exact .inl same
  · exact .inr (List.mem_flatten_of_mem inGroups inDigits)

theorem flatten_digits (parts : Grouped text group decimal lead groups tail) :
    Digits groups.flatten := by
  intro letter member
  obtain ⟨digits, inGroups, inDigits⟩ := List.mem_flatten.mp member
  exact (parts.threes digits inGroups).1 letter inDigits

theorem mark_mem (parts : Grouped text group decimal lead groups tail) : group ∈ text := by
  obtain ⟨first, rest, rfl⟩ := List.exists_cons_of_ne_nil parts.some
  rw [parts.same, joined, List.flatMap_cons]
  simp

theorem filter_joined (isMark : group.isDigit = false)
    (threes : ∀ digits ∈ groups, Digits digits ∧ digits.length = 3) :
    (joined group groups).filter (· != group) = groups.flatten := by
  induction groups with
  | nil => rfl
  | cons first _ ih =>
    have ⟨⟨digits, _⟩, rest⟩ := List.forall_mem_cons.mp threes
    have absent : group ∉ first := by
      intro member
      rw [digits group member] at isMark
      cases isMark
    rw [joined, List.flatMap_cons, ← joined, List.filter_append, ih rest,
      List.filter_cons_of_neg (by simp), filter_absent absent, List.flatten_cons]

section

variable (parts : Grouped text group decimal lead groups tail)
include parts

theorem filter_group
    (isMark : group.isDigit = false) (apart : group ≠ decimal) :
    text.filter (· != group) = lead ++ groups.flatten ++ tail := by
  have before : group ∉ lead := by
    intro member
    rw [parts.whole.digits group member] at isMark
    cases isMark
  have behind : group ∉ tail := by
    rcases parts.ends with ⟨rfl, _⟩ | ⟨digits, rfl, all⟩
    · exact List.not_mem_nil
    · intro member
      rcases List.mem_cons.mp member with same | inDigits
      · exact apart same
      · rw [all group inDigits] at isMark
        cases isMark
  rw [parts.same, List.filter_append, List.filter_append, filter_absent before,
    filter_absent behind, filter_joined isMark parts.threes, List.append_assoc]

theorem whole_digits :
    Whole (lead ++ groups.flatten) := by
  refine ⟨parts.whole.digits.append parts.flatten_digits, ?_, .inr ?_⟩
  · intro none
    exact parts.whole.written (List.append_eq_nil_iff.mp none).1
  · have first := parts.unled
    rw [List.head?_append, List.head?_eq_some_head parts.whole.written]
    rw [List.head?_eq_some_head parts.whole.written] at first
    exact first

theorem head_behind
    (isMark : group.isDigit = false) : (text.dropWhile Char.isDigit).head? = Option.some group := by
  obtain ⟨first, rest, rfl⟩ := List.exists_cons_of_ne_nil parts.some
  rw [parts.same, List.dropWhile_append_of_pos parts.whole.digits, joined, List.flatMap_cons,
    List.cons_append, List.cons_append, List.dropWhile_cons_of_neg (by rw [isMark]; decide)]
  rfl

end

end Grouped

theorem grouped_one (commas : grouped text ',' '.' = true) :
    grouped text '.' ',' = false := by
  rw [Bool.eq_false_iff]
  intro points
  obtain ⟨_, _, _, byComma⟩ := grouped_parts commas
  obtain ⟨_, _, _, byPoint⟩ := grouped_parts points
  have first := byComma.head_behind rfl
  rw [byPoint.head_behind rfl] at first
  cases first

theorem splitOn_joined {mark : Char} {groups : List (List Char)}
    (absent : ∀ digits ∈ groups, mark ∉ digits) :
    ∀ {lead : List Char}, mark ∉ lead →
      (lead ++ joined mark groups).splitOn mark = lead :: groups := by
  induction groups with
  | nil =>
    intro lead free
    rw [joined, List.flatMap_nil, List.append_nil, List.splitOn_eq_singleton free]
  | cons _ _ ih =>
    intro lead free
    have ⟨notFirst, notRest⟩ := List.forall_mem_cons.mp absent
    rw [joined, List.flatMap_cons, ← joined, List.cons_append,
      List.splitOn_append_cons_self_of_not_mem free, ih notRest notFirst]

theorem grouped_groupingOnly (commas : grouped text ',' '.' = true)
    (pointless : '.' ∉ text) : groupingOnly text = true := by
  obtain ⟨lead, groups, tail, parts⟩ := grouped_parts commas
  rcases parts.ends with ⟨rfl, two⟩ | ⟨digits, rfl, _⟩
  · have split : text.splitOn ',' = lead :: groups := by
      rw [parts.same, List.append_nil]
      exact splitOn_joined (fun digits member => no_comma (parts.threes digits member).1)
        (no_comma parts.whole.digits)
    have first : isDigits lead = true := by
      rw [isDigits, parts.whole.digits.all_isDigit, List.isEmpty_eq_false_iff.mpr parts.whole.written]
      rfl
    have rest : groups.all isDigits = true := by
      rw [List.all_eq_true]
      intro digits member
      have ⟨all, three⟩ := parts.threes digits member
      rw [isDigits, FeePolicy.Digits.all_isDigit all, Bool.and_true, Bool.not_eq_true',
        List.isEmpty_eq_false_iff]
      rintro rfl
      cases three
    have threes : (groups.all fun group => group.length == 3) = true := by
      rw [List.all_eq_true]
      exact fun digits member => beq_iff_eq.mpr (parts.threes digits member).2
    have unled : (lead.head? != some '0') = true := bne_iff_ne.mpr parts.unled
    rw [groupingOnly, split]
    dsimp only
    rw [first, rest, unled, threes, List.isEmpty_eq_false_iff.mpr parts.some,
      decide_eq_true parts.short]
    rfl
  · apply absurd _ pointless
    rw [parts.same]
    simp

variable {raw : List Char} {preset : NumberPreset} {entry : Entry} {previous : Option (List Char)}

def marksRefused (text : List Char) (preset : NumberPreset) (previous : Option (List Char)) :
    Bool :=
  !grouped text ',' '.' && !grouped text '.' ',' &&
    (commaUnread text preset previous ||
      (commaIsDecimal text preset previous && decide (1 < text.count ',')) ||
      decide (2 < (parts text preset previous).length))

theorem clean_typed (typed : isPasted raw entry previous = false) :
    clean raw preset entry previous =
      if commaUnread (figureText raw) preset previous then none
      else some (figureOf (parts (figureText raw) preset previous)) := by
  simp only [clean, typed, Bool.false_and, Bool.false_eq_true, if_false]

theorem clean_pasted (pasted : isPasted raw entry previous = true) :
    clean raw preset entry previous =
      if letterBetweenDigits raw || marksRefused (figureText raw) preset previous then none
      else if grouped (figureText raw) ',' '.' then some ((figureText raw).filter (· != ','))
      else if grouped (figureText raw) '.' ',' then
        some (replaceOnce ',' ['.'] ((figureText raw).filter (· != '.')))
      else some (figureOf (parts (figureText raw) preset previous)) := by
  simp only [clean, pasted, Bool.true_and, marksRefused]
  generalize figureText raw = text
  rcases Bool.eq_false_or_eq_true (letterBetweenDigits raw) with letter | letter
  · simp [letter]
  rcases Bool.eq_false_or_eq_true (grouped text ',' '.') with commas | commas
  · simp [letter, commas]
  rcases Bool.eq_false_or_eq_true (grouped text '.' ',') with points | points
  · simp [letter, commas, points]
  rcases Bool.eq_false_or_eq_true (commaUnread text preset previous) with unread | unread
  · simp [letter, commas, points, unread]
  simp only [letter, commas, points, unread, Bool.false_or, Bool.not_false, Bool.true_and,
    Bool.false_eq_true, if_false, Bool.or_eq_true]
  split
  · next two => rw [if_pos (.inl two)]
  · next one =>
      split
      · next more => rw [if_pos (.inr more)]
      · next few => rw [if_neg (not_or.mpr ⟨one, few⟩)]

theorem clean_pasted_none (pasted : isPasted raw entry previous = true) :
    clean raw preset entry previous = none ↔
      letterBetweenDigits raw = true ∨ marksRefused (figureText raw) preset previous = true := by
  rw [clean_pasted pasted, ← Bool.or_eq_true]
  split
  · next refused => exact iff_of_true rfl refused
  · next read =>
      apply iff_of_false _ read
      split
      · exact Option.some_ne_none _
      · split
        · exact Option.some_ne_none _
        · exact Option.some_ne_none _

variable {text : List Char}

theorem point_of_not_decimal (decimal : commaIsDecimal text preset previous = true) :
    '.' ∉ text := by
  rw [commaIsDecimal, Bool.and_eq_true, Bool.not_eq_true'] at decimal
  intro member
  rw [List.contains_iff_mem.mpr member] at decimal
  cases decimal.2

theorem not_decimal_of_point (point : '.' ∈ text) :
    commaIsDecimal text preset previous = false := by
  rw [Bool.eq_false_iff]
  exact fun decimal => point_of_not_decimal decimal point

theorem figureOf_grouped (commas : grouped text ',' '.' = true) :
    figureOf ((text.filter (· != ',')).splitOn '.') = text.filter (· != ',') := by
  obtain ⟨lead, groups, tail, parts⟩ := grouped_parts commas
  have whole := parts.whole_digits
  rw [parts.filter_group rfl (by decide)]
  rcases parts.ends with ⟨rfl, _⟩ | ⟨digits, rfl, all⟩
  · rw [List.append_nil, List.splitOn_eq_singleton (no_point whole.digits), figureOf, whole.one]
  · rw [split_one whole.digits all, figureOf_pair, whole.one]

theorem figureOf_cons {whole : List Char} {rest : List (List Char)} (some : rest ≠ []) :
    ∃ behind, figureOf (whole :: rest) = oneSpelling whole true ++ '.' :: behind := by
  obtain ⟨first, more, rfl⟩ := List.exists_cons_of_ne_nil some
  exact ⟨_, rfl⟩

theorem mem_figureOf (point : '.' ∈ text) : '.' ∈ figureOf (text.splitOn '.') := by
  obtain ⟨before, behind, rfl, free⟩ := List.eq_append_cons_of_mem point
  obtain ⟨rest, same⟩ := @figureOf_cons before _ (List.splitOn_ne_nil '.' behind)
  rw [List.splitOn_append_cons_self_of_not_mem free, same]
  simp

theorem mem_replaceOnce (comma : ',' ∈ text) : '.' ∈ replaceOnce ',' ['.'] text := by
  induction text with
  | nil => cases comma
  | cons _ _ ih =>
    rw [replaceOnce]
    split
    · exact List.mem_cons_self
    · next differs =>
        apply List.mem_cons_of_mem
        exact ih (List.mem_of_ne_of_mem (Ne.symm differs) comma)

theorem decimal_reading_differs (commas : grouped text ',' '.' = true)
    (decimal : commaIsDecimal text preset previous = true) :
    figureOf (parts text preset previous) ≠ text.filter (· != ',') := by
  obtain ⟨_, _, _, byComma⟩ := grouped_parts commas
  have pointed : '.' ∈ figureOf (parts text preset previous) := by
    rw [parts, if_pos decimal]
    apply mem_figureOf
    rw [List.mem_filter]
    exact ⟨mem_replaceOnce byComma.mark_mem, rfl⟩
  intro same
  rw [same] at pointed
  exact point_of_not_decimal decimal (List.mem_filter.mp pointed).1

theorem replaceOnce_append {mark : Char} {front : List Char} (absent : mark ∉ front)
    (replacement tail : List Char) :
    replaceOnce mark replacement (front ++ tail) = front ++ replaceOnce mark replacement tail := by
  induction front with
  | nil => rfl
  | cons _ _ ih =>
    have ⟨differs, free⟩ := not_or.mp (List.mem_cons.not.mp absent)
    rw [List.cons_append, replaceOnce, if_neg (Ne.symm differs), ih free, List.cons_append]

theorem point_reading_differs (points : grouped text '.' ',' = true) :
    figureOf (parts text preset previous) ≠
      replaceOnce ',' ['.'] (text.filter (· != '.')) := by
  obtain ⟨lead, groups, tail, byPoint⟩ := grouped_parts points
  have typed : (figureOf (parts text preset previous))[lead.length]? = some '.' := by
    obtain ⟨first, rest, rfl⟩ := List.exists_cons_of_ne_nil byPoint.some
    have front : text.filter (· != ',') = lead ++ '.' ::
        ((first ++ joined '.' rest ++ tail).filter (· != ',')) := by
      rw [byPoint.same, joined, List.flatMap_cons, ← joined, List.filter_append,
        filter_absent (no_comma byPoint.whole.digits), List.cons_append, List.cons_append,
        List.filter_cons_of_pos (by decide)]
    obtain ⟨behind, same⟩ := @figureOf_cons lead _ (List.splitOn_ne_nil '.'
      ((first ++ joined '.' rest ++ tail).filter (· != ',')))
    rw [parts, not_decimal_of_point byPoint.mark_mem]
    simp only [Bool.false_eq_true, if_false]
    rw [front, List.splitOn_append_cons_self_of_not_mem (no_point byPoint.whole.digits), same,
      byPoint.whole.one, List.getElem?_append_right (Nat.le_refl _), Nat.sub_self]
    rfl
  have pasted : ∃ digit, (replaceOnce ',' ['.'] (text.filter (· != '.')))[lead.length]? =
      some digit ∧ digit.isDigit = true := by
    have free : ',' ∉ lead ++ groups.flatten := no_comma byPoint.whole_digits.digits
    obtain ⟨first, rest, rfl⟩ := List.exists_cons_of_ne_nil byPoint.some
    obtain ⟨digits, three⟩ := byPoint.threes first List.mem_cons_self
    cases first with
    | nil => cases three
    | cons digit =>
      refine ⟨digit, ?_, digits digit List.mem_cons_self⟩
      rw [byPoint.filter_group rfl (by decide), replaceOnce_append free, List.append_assoc,
        List.getElem?_append_right (Nat.le_refl _), Nat.sub_self]
      rfl
  intro same
  obtain ⟨digit, at_lead, isDigit⟩ := pasted
  rw [← same, typed] at at_lead
  cases at_lead
  cases isDigit

/-- The typed reading of a text is its reading as a paste. -/
def readsAlike (raw : List Char) (preset : NumberPreset) (previous : Option (List Char)) : Bool :=
  commaUnread (figureText raw) preset previous ||
    (!letterBetweenDigits raw && !marksRefused (figureText raw) preset previous &&
      !grouped (figureText raw) '.' ',' &&
      !(grouped (figureText raw) ',' '.' && commaIsDecimal (figureText raw) preset previous))

theorem marksRefused_of_unread (unread : commaUnread text preset previous = true) :
    marksRefused text preset previous = true := by
  have parts := unread
  simp only [commaUnread, Bool.and_eq_true, Bool.not_eq_true'] at parts
  obtain ⟨⟨_, free⟩, notGrouping⟩ := parts
  have pointless : '.' ∉ text := by
    rw [← List.contains_iff_mem, free]
    exact Bool.false_ne_true
  have commas : grouped text ',' '.' = false := by
    rw [Bool.eq_false_iff]
    intro commas
    rw [grouped_groupingOnly commas pointless] at notGrouping
    cases notGrouping
  have points : grouped text '.' ',' = false := by
    rw [Bool.eq_false_iff]
    intro points
    obtain ⟨_, _, _, byPoint⟩ := grouped_parts points
    exact pointless byPoint.mark_mem
  rw [marksRefused, commas, points, unread]
  rfl

/-- An edit of unknown origin is read as a paste exactly where it is longer than one key makes it,
or where the readings agree. -/
theorem clean_unknown_iff :
    clean raw preset .unknown previous = clean raw preset .pasted previous ↔
      isPasted raw .unknown previous = true ∨ readsAlike raw preset previous = true := by
  rcases Bool.eq_false_or_eq_true (isPasted raw .unknown previous) with pasted | typed
  · have knownPaste : isPasted raw .pasted previous = true := rfl
    rw [clean_pasted pasted, clean_pasted knownPaste]
    exact iff_of_true rfl (.inl pasted)
  have notPasted : ¬isPasted raw .unknown previous = true := by
    rw [typed]
    exact Bool.false_ne_true
  have paste := @clean_pasted raw preset .pasted previous rfl
  rw [clean_typed typed, paste, or_iff_right notPasted, readsAlike]
  generalize figureText raw = text
  rcases Bool.eq_false_or_eq_true (commaUnread text preset previous) with unread | read
  · rw [marksRefused_of_unread unread]
    simp [unread]
  rcases Bool.eq_false_or_eq_true (letterBetweenDigits raw) with letter | letter
  · simp [letter, read]
  rcases Bool.eq_false_or_eq_true (marksRefused text preset previous) with refused | kept
  · simp [letter, read, refused]
  rcases Bool.eq_false_or_eq_true (grouped text ',' '.') with commas | commas
  · rcases Bool.eq_false_or_eq_true (commaIsDecimal text preset previous) with decimal | decimal
    · have differs := decimal_reading_differs commas decimal
      simp [letter, read, kept, commas, decimal, differs]
    · have same : figureOf (parts text preset previous) = text.filter (· != ',') := by
        rw [parts, decimal]
        exact figureOf_grouped commas
      simp [letter, read, kept, commas, decimal, same, grouped_one commas]
  rcases Bool.eq_false_or_eq_true (grouped text '.' ',') with points | points
  · have differs := @point_reading_differs preset previous text points
    simp [letter, read, kept, commas, points, differs]
  · simp [letter, read, kept, commas, points]

/-- How many decimal marks a text has once its grouping is taken out. -/
def decimalMarks (text : List Char) (preset : NumberPreset) (previous : Option (List Char)) : Nat :=
  if grouped text ',' '.' then text.count '.'
  else if grouped text '.' ',' then text.count ','
  else if text.contains '.' then text.count '.'
  else if commaIsDecimal text preset previous then text.count ','
  else 0

/-- What the edits of a text come to: an edit of unknown origin that is not one key is a paste; a
paste reads the same once written plainly, and is refused where letters stand between two of its
digits or where it has a second decimal mark. -/
structure ReadAsOne (letter : Char → Bool) (raw : List Char) (preset : NumberPreset)
    (previous : Option (List Char)) : Prop where
  unknown : (∀ before position key, previous = some before → raw ≠ keyed before position key) →
    clean raw preset .unknown previous = clean raw preset .pasted previous
  plainly : clean (raw.map plain) preset .pasted previous = clean raw preset .pasted previous
  lettered : lettersBetweenDigits letter (raw.map plain) = true →
    clean raw preset .pasted previous = none
  marked : 1 < decimalMarks (figureText raw) preset previous →
    clean raw preset .pasted previous = none

structure PlainlyOne (letter : Char → Bool) (raw : List Char) (preset : NumberPreset)
    (previous : Option (List Char)) : Prop where
  unknown : (∃ before position key, previous = some before ∧ raw = keyed before position key) ∨
    isPasted raw .unknown previous = true ∨ readsAlike raw preset previous = true
  plainly : letterBetweenDigits (raw.map plain) = letterBetweenDigits raw ∨
    marksRefused (figureText raw) preset previous = true
  lettered : lettersBetweenDigits letter (raw.map plain) = true →
    letterBetweenDigits raw = true ∨ marksRefused (figureText raw) preset previous = true

theorem isDigit_of_digitOf {code digit : Nat} (read : digitOf code = some digit) :
    (Nat.digitChar digit).isDigit = true := by
  have small : digit < 10 := by
    unfold digitOf at read
    split at read
    · have same := Option.some.inj read
      omega
    · split at read
      · have same := Option.some.inj read
        omega
      · split at read
        · have same := Option.some.inj read
          omega
        · cases read
  rw [Nat.isDigit_digitChar]
  exact decide_eq_true small

theorem plain_cases (letter : Char) :
    (plain letter).isDigit = true ∨ isMark (plain letter) = true ∨ plain letter = letter := by
  unfold plain
  cases read : digitOf letter.toNat with
  | some => exact .inl (isDigit_of_digitOf read)
  | none =>
    dsimp only
    split
    · exact .inr (.inl rfl)
    · exact .inr (.inl rfl)
    · exact .inr (.inl rfl)
    · exact .inr (.inl rfl)
    · exact .inr (.inr rfl)

theorem plain_plain (letter : Char) : plain (plain letter) = plain letter := by
  rcases plain_cases letter with digit | mark | same
  · exact plain_ascii (Written.ascii (.inl digit))
  · exact plain_ascii (Written.ascii (.inr mark))
  · rw [same]
    exact same

theorem figureText_plain (raw : List Char) : figureText (raw.map plain) = figureText raw := by
  rw [figureText, figureText, List.map_map]
  congr 1
  apply List.map_congr_left
  exact fun letter _ => plain_plain letter

theorem Grouped.count_decimal {group decimal : Char} {lead : List Char}
    {groups : List (List Char)} {tail : List Char}
    (parts : Grouped text group decimal lead groups tail) (isMark : decimal.isDigit = false)
    (apart : group ≠ decimal) : text.count decimal ≤ 1 := by
  have absent {digits : List Char} (all : Digits digits) : digits.count decimal = 0 := by
    rw [List.count_eq_zero]
    intro member
    rw [all decimal member] at isMark
    cases isMark
  have middle : (joined group groups).count decimal = 0 := by
    rw [List.count_eq_zero]
    intro member
    rcases mem_joined member with same | inGroups
    · exact apart same.symm
    · rw [parts.flatten_digits decimal inGroups] at isMark
      cases isMark
  rw [parts.same, List.count_append, List.count_append, absent parts.whole.digits, middle]
  rcases parts.ends with ⟨rfl, _⟩ | ⟨digits, rfl, all⟩
  · exact Nat.zero_le 1
  · rw [List.count_cons_self, absent all]

theorem length_splitOn (mark : Char) (text : List Char) :
    (text.splitOn mark).length = text.count mark + 1 := by
  induction text with
  | nil => rfl
  | cons _ _ ih =>
    rw [List.splitOn_cons_eq_if_modifyHead, List.count_cons]
    split
    · rw [List.length_cons, ih]
    · rw [List.length_modifyHead, ih, Nat.add_zero]

theorem marksRefused_of_marks (more : 1 < decimalMarks text preset previous) :
    marksRefused text preset previous = true := by
  unfold decimalMarks at more
  split at more
  · next commas =>
      obtain ⟨_, _, _, byComma⟩ := grouped_parts commas
      have few := byComma.count_decimal rfl (by decide)
      omega
  · next commas =>
      rw [Bool.not_eq_true] at commas
      split at more
      · next points =>
          obtain ⟨_, _, _, byPoint⟩ := grouped_parts points
          have few := byPoint.count_decimal rfl (by decide)
          omega
      · next points =>
          rw [Bool.not_eq_true] at points
          rw [marksRefused, commas, points]
          split at more
          · next pointed =>
              have pieces : 2 < (parts text preset previous).length := by
                rw [parts, not_decimal_of_point (List.contains_iff_mem.mp pointed)]
                simp only [Bool.false_eq_true, if_false]
                rw [length_splitOn, List.count_filter (by decide)]
                omega
              rw [decide_eq_true pieces]
              simp
          · split at more
            · next decimal =>
                rw [decimal, decide_eq_true more]
                simp
            · cases more

/-- The edits of a text come to one reading exactly where the condition holds. -/
theorem readAsOne_iff (letter : Char → Bool) (raw : List Char) (preset : NumberPreset)
    (previous : Option (List Char)) :
    ReadAsOne letter raw preset previous ↔ PlainlyOne letter raw preset previous := by
  have same : figureText (raw.map plain) = figureText raw := figureText_plain raw
  have plainPaste := @clean_pasted (raw.map plain) preset .pasted previous rfl
  have paste := @clean_pasted raw preset .pasted previous rfl
  have refusal := @clean_pasted_none raw preset .pasted previous rfl
  have plainRefusal := @clean_pasted_none (raw.map plain) preset .pasted previous rfl
  rw [same] at plainPaste plainRefusal
  constructor
  · intro one
    refine ⟨?_, ?_, fun run => refusal.mp (one.lettered run)⟩
    · by_cases inserted : ∃ before position key, previous = some before ∧
          raw = keyed before position key
      · exact .inl inserted
      · refine .inr (clean_unknown_iff.mp (one.unknown ?_))
        intro before position key known typed
        exact inserted ⟨before, position, key, known, typed⟩
    · rw [or_iff_not_imp_right, Bool.not_eq_true]
      intro kept
      rw [← one.plainly, plainRefusal, kept] at refusal
      simp only [Bool.false_eq_true, or_false] at refusal
      exact Bool.eq_iff_iff.mpr refusal
  · intro condition
    refine ⟨?_, ?_, fun run => refusal.mpr (condition.lettered run), ?_⟩
    · intro notInserted
      apply clean_unknown_iff.mpr
      apply condition.unknown.resolve_left
      rintro ⟨before, position, key, known, typed⟩
      exact notInserted before position key known typed
    · rw [plainPaste, paste]
      rcases condition.plainly with alike | refused
      · rw [alike]
      · rw [refused, Bool.or_true, Bool.or_true]
    · intro more
      exact refusal.mpr (.inr (marksRefused_of_marks more))

/-- An exponent pasted over a figure of eight digits is read as typed, and one in Arabic digits is
read even as a paste. -/
theorem exponent_salvaged :
    (clean "1.5e-7".toList .commaDot .unknown (some "12345678".toList) = some "1.57".toList ∧
      ¬ReadAsOne Char.isAlpha "1.5e-7".toList .commaDot (some "12345678".toList)) ∧
    clean "١e٥".toList .commaDot .pasted none = some "15".toList ∧
      ¬ReadAsOne Char.isAlpha "١e٥".toList .commaDot none := by
  have typed : clean "1.5e-7".toList .commaDot .unknown (some "12345678".toList) =
      some "1.57".toList := by decide
  have pasted : clean "1.5e-7".toList .commaDot .pasted (some "12345678".toList) = none := by
    decide
  have arabic : clean "١e٥".toList .commaDot .pasted none = some "15".toList := by decide
  refine ⟨⟨typed, fun one => ?_⟩, arabic, fun one => ?_⟩
  · have same := one.unknown fun before position key known inserted => by
      cases known
      have length := congrArg List.length inserted
      rw [keyed_length] at length
      cases length
    rw [typed, pasted] at same
    cases same
  · have refused := one.lettered (by decide)
    rw [arabic] at refused
    cases refused

end VelaWallet.AmountText
