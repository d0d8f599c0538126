import VelaWallet.L10n.PasteSoundness

/-!
# One spelling

Every figure the amount field keeps is dot-decimal, with no zero in front of another digit
and a digit in front of its point, and cleaning it once more changes nothing.
-/

namespace VelaWallet.AmountText

open FeePolicy (Digits)

variable {text raw : List Char} {preset : NumberPreset} {entry : Entry}
  {previous : Option (List Char)}

theorem oneSpelling_whole {pointed : Bool} (digits : Digits text)
    (some : (pointed || !text.isEmpty) = true) : Whole (oneSpelling text pointed) := by
  rw [oneSpelling, some, Bool.and_true]
  split
  · exact ⟨Digits.replicate_zero 1, List.cons_ne_nil _ _, .inl rfl⟩
  · next written =>
      refine ⟨digits.of_subset (List.dropWhile_suffix _).subset, by simpa using written, .inr ?_⟩
      intro zero
      have first := List.head?_dropWhile_not (· == '0') text
      rw [zero] at first
      cases first

theorem figureOf_figure {parts : List (List Char)} (digits : ∀ part ∈ parts, Digits part) :
    Figure (figureOf parts) := by
  cases parts with
  | nil => exact .empty
  | cons whole rest =>
    have first := digits whole List.mem_cons_self
    cases rest with
    | nil =>
      cases whole with
      | nil => exact .empty
      | cons => exact .whole (oneSpelling_whole first rfl)
    | cons =>
      refine .pointed (oneSpelling_whole first rfl) ?_
      intro letter member
      obtain ⟨part, behind, inPart⟩ := List.mem_flatten.mp member
      exact digits part (List.mem_cons_of_mem _ behind) letter inPart

theorem splitOn_digits (written : ∀ letter ∈ text, letter.isDigit = true ∨ letter = '.') :
    ∀ part ∈ text.splitOn '.', Digits part := by
  induction text with
  | nil => simp [Digits]
  | cons letter text ih =>
    have later := ih fun other member => written other (List.mem_cons_of_mem _ member)
    rw [List.splitOn_cons_eq_if_modifyHead]
    split
    · exact List.forall_mem_cons.mpr ⟨fun _ none => absurd none List.not_mem_nil, later⟩
    · next mark =>
        have digit := (written letter List.mem_cons_self).resolve_right (by simpa using mark)
        cases split : text.splitOn '.' with
        | nil => exact absurd split (List.splitOn_ne_nil _ _)
        | cons head rest =>
          rw [split] at later
          obtain ⟨first, others⟩ := List.forall_mem_cons.mp later
          exact List.forall_mem_cons.mpr ⟨List.forall_mem_cons.mpr ⟨digit, first⟩, others⟩

theorem mem_of_replaceOnce {mark letter : Char} {replacement : List Char}
    (member : letter ∈ replaceOnce mark replacement text) :
    letter ∈ replacement ∨ letter ∈ text := by
  induction text with
  | nil => cases member
  | cons first text ih =>
    rw [replaceOnce] at member
    split at member
    · exact (List.mem_append.mp member).imp_right (List.mem_cons_of_mem _)
    · rcases List.mem_cons.mp member with rfl | later
      · exact .inr List.mem_cons_self
      · exact (ih later).imp_right (List.mem_cons_of_mem _)

theorem figureOf_parts (raw : List Char) (preset : NumberPreset) (previous : Option (List Char)) :
    Figure (figureOf (parts (figureText raw) preset previous)) := by
  apply figureOf_figure
  apply splitOn_digits
  intro letter member
  obtain ⟨among, other⟩ := List.mem_filter.mp member
  have written : letter = '.' ∨ letter ∈ figureText raw := by
    split at among
    · exact (mem_of_replaceOnce among).imp_left List.mem_singleton.mp
    · exact .inr among
  rcases written with point | inText
  · exact .inr point
  · have shape : Written letter := Bool.or_eq_true_iff.mp (List.mem_filter.mp inText).2
    exact shape.imp_right fun mark => (isMark_iff.mp mark).resolve_right (by simpa using other)

/-- Digits, and nothing behind them or a part behind a point. -/
theorem Whole.figure {whole tail : List Char} (spelled : Whole whole)
    (ends : tail = [] ∨ ∃ digits, tail = '.' :: digits ∧ Digits digits) :
    Figure (whole ++ tail) := by
  rcases ends with rfl | ⟨digits, rfl, all⟩
  · rw [List.append_nil]
    exact .whole spelled
  · exact .pointed spelled all

theorem grouped_comma_figure (commas : grouped text ',' '.' = true) :
    Figure (text.filter (· != ',')) := by
  obtain ⟨lead, groups, tail, parts⟩ := grouped_parts commas
  rw [parts.filter_group rfl (by decide)]
  exact parts.whole_digits.figure (parts.ends.imp_left And.left)

theorem grouped_point_figure (points : grouped text '.' ',' = true) :
    Figure (replaceOnce ',' ['.'] (text.filter (· != '.'))) := by
  obtain ⟨lead, groups, tail, parts⟩ := grouped_parts points
  have whole := parts.whole_digits
  rw [parts.filter_group rfl (by decide), replaceOnce_append (no_comma whole.digits)]
  apply whole.figure
  rcases parts.ends with ⟨rfl, _⟩ | ⟨digits, rfl, all⟩
  · exact .inl rfl
  · exact .inr ⟨digits, rfl, all⟩

theorem figure_of_clean (kept : clean raw preset entry previous = some text) : Figure text := by
  cases pasted : isPasted raw entry previous with
  | false =>
    rw [clean_typed pasted] at kept
    split at kept
    · cases kept
    · cases kept
      exact figureOf_parts raw preset previous
  | true =>
    rw [clean_pasted pasted] at kept
    split at kept
    · cases kept
    split at kept
    · next commas =>
        cases kept
        exact grouped_comma_figure commas
    split at kept
    · next points =>
        cases kept
        exact grouped_point_figure points
    · cases kept
      exact figureOf_parts raw preset previous

theorem lettersBetweenDigits_none {isLetter : Char → Bool}
    (none : ∀ letter ∈ text, isLetter letter = false) :
    lettersBetweenDigits isLetter text = false := by
  induction text with
  | nil => rfl
  | cons start rest ih =>
    obtain ⟨_, later⟩ := List.forall_mem_cons.mp none
    have behind : rest.takeWhile isLetter = [] := by
      cases rest with
      | nil => rfl
      | cons next => exact List.takeWhile_cons_of_neg (by simp [later next List.mem_cons_self])
    rw [lettersBetweenDigits, behind, ih later]
    simp

theorem Written.not_alpha {letter : Char} (written : Written letter) : letter.isAlpha = false := by
  have low : ∀ code < 64, (Char.ofNat code).isAlpha = false := by decide +kernel
  have small : letter.toNat < 64 := by
    rcases written with digit | mark
    · have range := Decimal.isDigit_range digit
      omega
    · rcases isMark_iff.mp mark with rfl | rfl
      · decide
      · decide
  simpa using low letter.toNat small

namespace Figure

variable (figure : Figure text)
include figure

theorem commaless : ',' ∉ text := by
  cases figure with
  | empty => exact List.not_mem_nil
  | whole spelled => exact no_comma spelled.digits
  | pointed spelled digits => exact figure_commaless spelled.digits digits

theorem one_point : (text.splitOn '.').length ≤ 2 := by
  cases figure with
  | empty => decide
  | whole spelled =>
    rw [List.splitOn_eq_singleton (no_point spelled.digits)]
    exact Nat.le_succ 1
  | pointed spelled digits => rw [split_one spelled.digits digits]; exact Nat.le_refl 2

theorem figureOf_splitOn : figureOf (text.splitOn '.') = text := by
  cases figure with
  | empty => rfl
  | whole spelled =>
    rw [List.splitOn_eq_singleton (no_point spelled.digits)]
    exact spelled.one false
  | pointed spelled digits => rw [split_one spelled.digits digits, figureOf_pair, spelled.one]

theorem ungrouped {decimal : Char} {group : Char} (marks : group = ',' ∨ group = '.' ∧ decimal = ',') :
    grouped text group decimal = false := by
  rw [Bool.eq_false_iff]
  intro isGrouped
  obtain ⟨lead, groups, tail, parts⟩ := grouped_parts isGrouped
  rcases marks with rfl | ⟨rfl, rfl⟩
  · exact figure.commaless parts.mark_mem
  rcases parts.ends with ⟨rfl, two⟩ | ⟨digits, rfl, _⟩
  · have few := figure.one_point
    rw [parts.same, List.append_nil, splitOn_joined
      (fun digits member => no_point (parts.threes digits member).1) (no_point parts.whole.digits),
      List.length_cons] at few
    omega
  · exact figure.commaless (by rw [parts.same]; simp)

theorem clean_self (preset : NumberPreset) (entry : Entry) (previous : Option (List Char)) :
    clean text preset entry previous = some text := by
  have commaless := figure.commaless
  have same := figureText_written figure.written
  have whole : AmountText.parts text preset previous = text.splitOn '.' := by
    simp only [AmountText.parts, replaceOnce_absent commaless, ite_self, filter_absent commaless]
  have unread : commaUnread text preset previous = false := by
    simp [commaUnread, commaless]
  cases pasted : isPasted text entry previous with
  | false => rw [clean_typed pasted, same, unread, whole, figure.figureOf_splitOn]; rfl
  | true =>
    have letters : letterBetweenDigits text = false :=
      lettersBetweenDigits_none fun letter member => (figure.written letter member).not_alpha
    have refused : marksRefused text preset previous = false := by
      simp [marksRefused, unread, whole, List.count_eq_zero.mpr commaless, figure.one_point]
    rw [clean_pasted pasted, same, letters, refused, figure.ungrouped (.inl rfl),
      figure.ungrouped (.inr ⟨rfl, rfl⟩), whole, figure.figureOf_splitOn]
    rfl

end Figure

/-- What the field keeps of an edit is a figure in its one spelling, and no further edit that
leaves the text alone changes it, however it is entered and whatever the preset. -/
theorem clean_spelled (kept : clean raw preset entry previous = some text) :
    Figure text ∧ ∀ preset entry previous, clean text preset entry previous = some text :=
  ⟨figure_of_clean kept, (figure_of_clean kept).clean_self⟩

theorem clean_spelled_sample : Figure "1234.50".toList ∧
    ∀ preset entry previous, clean "1234.50".toList preset entry previous = some "1234.50".toList :=
  clean_spelled (show clean "$1.234,50".toList .commaDot .pasted none = _ by decide)

end VelaWallet.AmountText
