import VelaWallet.L10n.AmountText
import VelaWallet.Send.BaseUnits

/-!
# One key in an amount field

What a single key typed into a figure does to the figure and to the caret.
-/

namespace VelaWallet.AmountText

open FeePolicy (Digits)

variable {letter : Char} {entry : Entry} {figure text whole : List Char}
  {previous : Option (List Char)} {cleaned : List Char}

structure Whole (text : List Char) : Prop where
  digits : Digits text
  written : text ≠ []
  unled : text = ['0'] ∨ text.head? ≠ some '0'

/-- A dot-decimal figure in its one spelling. -/
inductive Figure : List Char → Prop where
  | empty : Figure []
  | whole {whole : List Char} (spelled : Whole whole) : Figure whole
  | pointed {whole rest : List Char} (spelled : Whole whole) (digits : Digits rest) :
      Figure (whole ++ '.' :: rest)

def Written (letter : Char) : Prop := letter.isDigit = true ∨ isMark letter = true

theorem isMark_iff : isMark letter = true ↔ letter = '.' ∨ letter = ',' := by
  simp [isMark]

theorem Written.ascii (written : Written letter) : letter.toNat < 128 := by
  rcases written with digit | mark
  · have range := Decimal.isDigit_range digit
    omega
  · rcases isMark_iff.mp mark with rfl | rfl
    · decide
    · decide

theorem digit_ne_mark (digit : letter.isDigit = true) : isMark letter = false := by
  rw [Bool.eq_false_iff]
  intro mark
  rcases isMark_iff.mp mark with rfl | rfl
  · cases digit
  · cases digit

theorem no_point (digits : Digits text) : '.' ∉ text :=
  fun member => nomatch digits '.' member

theorem no_comma (digits : Digits text) : ',' ∉ text :=
  fun member => nomatch digits ',' member

theorem Figure.written (figure : Figure text) :
    ∀ letter ∈ text, Written letter := by
  cases figure with
  | empty => exact fun _ member => nomatch member
  | whole spelled => exact fun letter member => .inl (spelled.digits letter member)
  | pointed spelled digits =>
    intro letter member
    rcases List.mem_append.mp member with inWhole | behind
    · exact .inl (spelled.digits letter inWhole)
    · rcases List.mem_cons.mp behind with rfl | inRest
      · exact .inr rfl
      · exact .inl (digits letter inRest)

theorem Figure.parts (figure : Figure text) (pointed : '.' ∈ text) :
    ∃ whole rest, text = whole ++ '.' :: rest ∧ Whole whole ∧ Digits rest := by
  cases figure with
  | empty => cases pointed
  | whole spelled => exact absurd pointed (no_point spelled.digits)
  | pointed spelled digits => exact ⟨_, _, rfl, spelled, digits⟩

theorem plain_ascii (ascii : letter.toNat < 128) : plain letter = letter := by
  have none : digitOf letter.toNat = none := by
    rw [digitOf, if_neg (by omega), if_neg (by omega), if_neg (by omega)]
  unfold plain
  rw [none]
  dsimp only
  split
  · exact absurd ascii (by decide)
  · exact absurd ascii (by decide)
  · exact absurd ascii (by decide)
  · exact absurd ascii (by decide)
  · rfl

@[simp] theorem figureText_append (left right : List Char) :
    figureText (left ++ right) = figureText left ++ figureText right := by
  simp [figureText]

theorem figureText_cons (letter : Char) (text : List Char) :
    figureText (letter :: text) =
      if (plain letter).isDigit || isMark (plain letter) then plain letter :: figureText text
      else figureText text := by
  simp [figureText, List.filter_cons]

theorem figureText_written (written : ∀ letter ∈ text, Written letter) :
    figureText text = text := by
  induction text with
  | nil => rfl
  | cons letter _ ih =>
    have first := written letter List.mem_cons_self
    have kept : ((plain letter).isDigit || isMark (plain letter)) = true := by
      rw [plain_ascii first.ascii, Bool.or_eq_true]
      exact first
    rw [figureText_cons, if_pos kept, plain_ascii first.ascii,
      ih fun other member => written other (List.mem_cons_of_mem _ member)]

/-- The text once a key is typed into it. -/
def keyed (figure : List Char) (position : Nat) (key : Char) : List Char :=
  figure.take position ++ key :: figure.drop position

/-- The edit is one key typed into the figure. -/
def Typing (entry : Entry) (previous : Option (List Char)) (figure : List Char) : Prop :=
  entry = .typed ∨ entry = .unknown ∧ previous = some figure

theorem keyed_length (position : Nat) (key : Char) :
    (keyed figure position key).length = figure.length + 1 := by
  have parts := congrArg List.length (List.take_append_drop position figure)
  rw [List.length_append] at parts
  rw [keyed, List.length_append, List.length_cons]
  omega

theorem Typing.not_pasted (typing : Typing entry previous figure) (position : Nat) (key : Char) :
    isPasted (keyed figure position key) entry previous = false := by
  rcases typing with rfl | ⟨rfl, rfl⟩
  · rfl
  · rw [isPasted, Option.all_some, keyed_length]
    exact decide_eq_false (Nat.lt_irrefl _)

theorem figureText_keyed (written : ∀ letter ∈ figure, Written letter)
    (position : Nat) (key : Char) :
    figureText (keyed figure position key) =
      if (plain key).isDigit || isMark (plain key) then keyed figure position (plain key)
      else figure := by
  rw [keyed, figureText_append, figureText_cons,
    figureText_written fun letter member => written letter (List.mem_of_mem_take member),
    figureText_written fun letter member => written letter (List.mem_of_mem_drop member)]
  split
  · rfl
  · exact List.take_append_drop position figure

theorem replaceOnce_absent {mark : Char} (absent : mark ∉ text)
    (replacement : List Char) : replaceOnce mark replacement text = text := by
  induction text with
  | nil => rfl
  | cons letter _ ih =>
    have differs : letter ≠ mark := fun same => absent (same ▸ List.mem_cons_self)
    rw [replaceOnce, if_neg differs, ih fun member => absent (List.mem_cons_of_mem _ member)]

theorem filter_absent {mark : Char} (absent : mark ∉ text) :
    text.filter (· != mark) = text := by
  rw [List.filter_eq_self]
  intro letter member
  rw [bne_iff_ne]
  exact fun same => absent (same ▸ member)

theorem clean_pointed {raw : List Char}
    (preset : NumberPreset) (typed : isPasted raw entry previous = false)
    (pointed : '.' ∈ figureText raw) :
    clean raw preset entry previous =
      some (figureOf (((figureText raw).filter (· != ',')).splitOn '.')) := by
  have held : (figureText raw).contains '.' = true := List.contains_iff_mem.mpr pointed
  have point : commaIsDecimal (figureText raw) preset previous = false := by
    rw [commaIsDecimal, held, Bool.not_true, Bool.and_false]
  have read : commaUnread (figureText raw) preset previous = false := by
    rw [commaUnread, held, Bool.not_true, Bool.and_false, Bool.false_and]
  simp only [clean, typed, Bool.false_and, Bool.false_eq_true, if_false, read, parts, point]

theorem clean_commaless {raw : List Char}
    (preset : NumberPreset) (typed : isPasted raw entry previous = false)
    (commaless : ',' ∉ figureText raw) :
    clean raw preset entry previous = some (figureOf ((figureText raw).splitOn '.')) := by
  have none : (figureText raw).contains ',' = false := by
    rw [Bool.eq_false_iff, ne_eq, List.contains_iff_mem]
    exact commaless
  have read : commaUnread (figureText raw) preset previous = false := by
    rw [commaUnread, none, Bool.and_false, Bool.false_and, Bool.false_and]
  simp only [clean, typed, Bool.false_and, Bool.false_eq_true, if_false, read, parts,
    replaceOnce_absent commaless, ite_self, filter_absent commaless]

theorem Whole.one {whole : List Char} (spelled : Whole whole) (pointed : Bool) :
    oneSpelling whole pointed = whole := by
  rcases spelled.unled with rfl | unled
  · cases pointed with
    | true => rfl
    | false => rfl
  · cases whole with
    | nil => exact absurd rfl spelled.written
    | cons first =>
      have nonzero : (first == '0') = false := by
        rw [beq_eq_false_iff_ne]
        exact fun zero => unled (congrArg some zero)
      simp [oneSpelling, nonzero]

theorem split_two {first second rest : List Char} (left : Digits first) (middle : Digits second)
    (right : Digits rest) :
    (first ++ '.' :: (second ++ '.' :: rest)).splitOn '.' = [first, second, rest] := by
  rw [List.splitOn_append_cons_self_of_not_mem (no_point left),
    List.splitOn_append_cons_self_of_not_mem (no_point middle),
    List.splitOn_eq_singleton (no_point right)]

theorem split_one {rest : List Char} (digits : Digits whole) (more : Digits rest) :
    (whole ++ '.' :: rest).splitOn '.' = [whole, rest] := by
  rw [List.splitOn_append_cons_self_of_not_mem (no_point digits),
    List.splitOn_eq_singleton (no_point more)]

theorem figureOf_pair (whole rest : List Char) :
    figureOf [whole, rest] = oneSpelling whole true ++ '.' :: rest := by
  simp [figureOf]

theorem figureOf_triple (whole middle rest : List Char) :
    figureOf [whole, middle, rest] = oneSpelling whole true ++ '.' :: (middle ++ rest) := by
  simp [figureOf]

variable {whole rest : List Char} {entry : Entry} {previous : Option (List Char)}
  {position : Nat} {key : Char}

theorem figure_commaless (digits : Digits whole) (more : Digits rest) :
    ',' ∉ whole ++ '.' :: rest := by
  intro member
  rcases List.mem_append.mp member with inWhole | behind
  · exact no_comma digits inWhole
  · rcases List.mem_cons.mp behind with point | inRest
    · cases point
    · exact no_comma more inRest

theorem mem_keyed (member : letter ∈ figure) (position : Nat)
    (key : Char) : letter ∈ keyed figure position key := by
  rw [keyed, List.mem_append, List.mem_cons]
  rw [← List.take_append_drop position figure, List.mem_append] at member
  rcases member with before | behind
  · exact .inl before
  · exact .inr (.inr behind)

theorem clean_stray (spelled : Whole whole) (digits : Digits rest)
    (typing : Typing entry previous (whole ++ '.' :: rest)) (preset : NumberPreset)
    (stray : (plain key).isDigit = false) (pointless : plain key ≠ '.') :
    clean (keyed (whole ++ '.' :: rest) position key) preset entry previous =
      some (whole ++ '.' :: rest) := by
  have figure : Figure (whole ++ '.' :: rest) := .pointed spelled digits
  have point : '.' ∈ whole ++ '.' :: rest := List.mem_append_right _ List.mem_cons_self
  have commaless := figure_commaless spelled.digits digits
  have kept : (figureText (keyed (whole ++ '.' :: rest) position key)).filter (· != ',') =
      whole ++ '.' :: rest := by
    rw [figureText_keyed figure.written, stray, Bool.false_or]
    split
    · next mark =>
        have comma : plain key = ',' := (isMark_iff.mp mark).resolve_left pointless
        rw [comma, keyed, List.filter_append, List.filter_cons_of_neg (by decide),
          ← List.filter_append, List.take_append_drop, filter_absent commaless]
    · exact filter_absent commaless
  have pointed : '.' ∈ figureText (keyed (whole ++ '.' :: rest) position key) := by
    rw [figureText_keyed figure.written]
    split
    · exact mem_keyed point position _
    · exact point
  rw [clean_pointed preset (typing.not_pasted position key) pointed, kept,
    split_one spelled.digits digits, figureOf_pair, spelled.one]

theorem keyed_behind (whole rest : List Char) (count : Nat) (key : Char) :
    keyed (whole ++ '.' :: rest) (whole.length + 1 + count) key =
      whole ++ '.' :: keyed rest count key := by
  rw [keyed, keyed, Nat.add_assoc, List.take_length_add_append, List.drop_length_add_append,
    Nat.add_comm 1 count, List.take_succ_cons, List.drop_succ_cons, List.append_assoc,
    List.cons_append]

theorem clean_point (spelled : Whole whole) (digits : Digits rest)
    (typing : Typing entry previous (whole ++ '.' :: rest)) (preset : NumberPreset)
    (within : position ≤ (whole ++ '.' :: rest).length) (point : plain key = '.') :
    clean (keyed (whole ++ '.' :: rest) position key) preset entry previous =
      some (if position ≤ whole.length then
        oneSpelling (whole.take position) true ++ '.' :: (whole.drop position ++ rest)
      else whole ++ '.' :: rest) := by
  have figure : Figure (whole ++ '.' :: rest) := .pointed spelled digits
  have held : '.' ∈ whole ++ '.' :: rest := List.mem_append_right _ List.mem_cons_self
  have commaless := figure_commaless spelled.digits digits
  have text : figureText (keyed (whole ++ '.' :: rest) position key) =
      keyed (whole ++ '.' :: rest) position '.' := by
    rw [figureText_keyed figure.written, point]
    rfl
  have free : ',' ∉ keyed (whole ++ '.' :: rest) position '.' := by
    rw [keyed, List.mem_append, List.mem_cons]
    rintro (before | comma | behind)
    · exact commaless (List.mem_of_mem_take before)
    · cases comma
    · exact commaless (List.mem_of_mem_drop behind)
  have pointed : '.' ∈ figureText (keyed (whole ++ '.' :: rest) position key) := by
    rw [text]
    exact mem_keyed held position _
  rw [clean_pointed preset (typing.not_pasted position key) pointed, text, filter_absent free]
  congr 1
  split
  · next early =>
      have pieces : keyed (whole ++ '.' :: rest) position '.' =
          whole.take position ++ '.' :: (whole.drop position ++ '.' :: rest) := by
        rw [keyed, List.take_append_of_le_length early, List.drop_append_of_le_length early]
      rw [pieces, split_two (spelled.digits.of_subset (List.take_subset _ _))
        (spelled.digits.of_subset (List.drop_subset _ _)) digits]
      exact figureOf_triple _ _ _
  · next =>
      obtain ⟨count, rfl⟩ : ∃ count, position = whole.length + 1 + count :=
        ⟨position - (whole.length + 1), by omega⟩
      rw [keyed_behind, keyed, split_two spelled.digits (digits.of_subset (List.take_subset _ _))
        (digits.of_subset (List.drop_subset _ _)), figureOf_triple, spelled.one,
        List.take_append_drop]

theorem oneSpelling_nil : oneSpelling [] true = ['0'] := rfl

theorem Whole.start (spelled : Whole whole) {count : Nat} (some : count ≠ 0)
    (short : count < whole.length) : Whole (whole.take count) := by
  have digits : Digits (whole.take count) := spelled.digits.of_subset (List.take_subset _ _)
  cases whole with
  | nil => cases short
  | cons =>
    obtain ⟨less, rfl⟩ := Nat.exists_eq_succ_of_ne_zero some
    rw [List.take_succ_cons] at digits ⊢
    refine ⟨digits, List.cons_ne_nil _ _, .inr ?_⟩
    rcases spelled.unled with only | unled
    · cases only
      cases short with
      | step more => cases more
    · exact unled

/-- A point leaves the figure as it is exactly where it does not come before the decimal mark. -/
theorem clean_point_iff (spelled : Whole whole) (digits : Digits rest)
    (typing : Typing entry previous (whole ++ '.' :: rest)) (preset : NumberPreset)
    (within : position ≤ (whole ++ '.' :: rest).length) (point : plain key = '.') :
    clean (keyed (whole ++ '.' :: rest) position key) preset entry previous =
      some (whole ++ '.' :: rest) ↔ whole.length ≤ position := by
  rw [clean_point spelled digits typing preset within point, Option.some.injEq]
  rcases Nat.lt_trichotomy position whole.length with early | at_mark | late
  · rw [if_pos early.le]
    apply iff_of_false _ early.not_ge
    intro same
    by_cases first : position = 0
    · rw [first, List.take_zero, oneSpelling_nil, List.drop_zero] at same
      have lengths := congrArg List.length same
      simp at lengths
      omega
    · rw [(spelled.start first early).one] at same
      have whole_parts := List.take_append_drop position whole
      nth_rewrite 3 [← whole_parts] at same
      rw [List.append_assoc, List.append_cancel_left_eq, List.drop_eq_getElem_cons early] at same
      have digit := spelled.digits _ (List.getElem_mem early)
      rw [← (List.cons.inj same).1] at digit
      cases digit
  · rw [if_pos at_mark.le, at_mark, List.take_length, List.drop_length, spelled.one, List.nil_append]
    exact iff_of_true rfl (Nat.le_refl _)
  · rw [if_neg late.not_ge]
    exact iff_of_true rfl late.le

theorem lenUtf16_pos (letter : Char) : 0 < lenUtf16 letter := by
  rw [lenUtf16]
  split
  · decide
  · decide

theorem lenUtf16_written (written : Written letter) : lenUtf16 letter = 1 := by
  have ascii := written.ascii
  rw [lenUtf16, if_pos (by omega)]

theorem walk_start {caret : Nat} (more : List Char) :
    ∀ {start : List Char} {units kept : Nat} (_ : ∀ letter ∈ start, Written letter)
      (_ : units + start.length ≤ caret) (_ : start <+: cleaned.drop kept),
      caretAfterClean.walk cleaned caret (start ++ more) units kept =
        caretAfterClean.walk cleaned caret more (units + start.length) (kept + start.length) := by
  intro start
  induction start with
  | nil => exact fun _ _ _ => rfl
  | cons letter start ih =>
    intro units kept written behind held
    rw [List.length_cons] at behind
    have first := written letter List.mem_cons_self
    have next : cleaned[kept]? = some letter := by
      obtain ⟨tail, same⟩ := held
      rw [List.cons_append] at same
      rw [← List.head?_drop, ← same]
      rfl
    have tail : start <+: cleaned.drop (kept + 1) := by
      obtain ⟨tail, same⟩ := held
      exact ⟨tail, by rw [← List.tail_drop, ← same]; rfl⟩
    rw [List.cons_append, caretAfterClean.walk, if_neg (by omega), next]
    dsimp only
    rw [plain_ascii first.ascii, if_pos (.inl rfl), lenUtf16_written first,
      ih (fun other member => written other (List.mem_cons_of_mem _ member)) (by omega) tail,
      List.length_cons]
    congr 1 <;> omega

theorem walk_reached {caret units : Nat} (reached : caret ≤ units)
    (raw : List Char) (kept : Nat) : caretAfterClean.walk cleaned caret raw units kept = kept := by
  cases raw with
  | nil => rfl
  | cons => rw [caretAfterClean.walk, if_pos reached]

theorem caret_keyed (written : ∀ letter ∈ figure, Written letter)
    (within : position ≤ figure.length) (held : figure.take position <+: cleaned) :
    caretAfterClean (keyed figure position key) cleaned (position + lenUtf16 key) =
      match cleaned[position]? with
      | none => position
      | some next =>
        if plain key = next ∨ (isMark (plain key) && isMark next) then position + 1
        else if position = 0 ∧ isMark (plain key) ∧ next = '0' ∧ (cleaned[1]?).any isMark then 2
        else position := by
  have size : (figure.take position).length = position := List.length_take_of_le within
  have start := @walk_start cleaned (position + lenUtf16 key) (key :: figure.drop position) _ 0 0
    (fun letter member => written letter (List.mem_of_mem_take member))
    (by rw [size]; omega)
    (by rw [List.drop_zero]; exact held)
  rw [size, Nat.zero_add] at start
  have more := lenUtf16_pos key
  rw [caretAfterClean, keyed, start, caretAfterClean.walk, if_neg (by omega)]
  cases cleaned[position]? with
  | none => rfl
  | some =>
    dsimp only
    split
    · exact walk_reached (Nat.le_refl _) _ _
    · split
      · exact walk_reached (Nat.le_refl _) _ _
      · exact walk_reached (Nat.le_refl _) _ _

/-- A stray key moves the caret exactly where a mark stands right before the figure's, or before
its only zero. -/
theorem caret_stray (spelled : Whole whole) (digits : Digits rest)
    (within : position ≤ (whole ++ '.' :: rest).length) (stray : (plain key).isDigit = false) :
    caretAfterClean (keyed (whole ++ '.' :: rest) position key) (whole ++ '.' :: rest)
        (position + lenUtf16 key) = position ↔
      (isMark (plain key) = true →
        position ≠ whole.length ∧ ¬(position = 0 ∧ whole = ['0'])) := by
  have figure : Figure (whole ++ '.' :: rest) := .pointed spelled digits
  rw [caret_keyed figure.written within (List.take_prefix _ _)]
  have other {next : Char} (digit : next.isDigit = true) :
      ¬(plain key = next ∨ (isMark (plain key) && isMark next) = true) := by
    rintro (same | marks)
    · rw [same, digit] at stray
      cases stray
    · rw [digit_ne_mark digit, Bool.and_false] at marks
      cases marks
  rcases Nat.lt_trichotomy position whole.length with early | rfl | late
  · have next : (whole ++ '.' :: rest)[position]? = some whole[position] := by
      rw [List.getElem?_append_left early, List.getElem?_eq_getElem early]
    have digit := spelled.digits _ (List.getElem_mem early)
    rw [next]
    dsimp only
    rw [if_neg (other digit)]
    split
    · next moved =>
        obtain ⟨start, mark, zero, pointed⟩ := moved
        subst start
        apply iff_of_false (by decide)
        intro kept
        apply (kept mark).2
        refine ⟨rfl, ?_⟩
        rcases spelled.unled with only | unled
        · exact only
        · rw [List.head?_eq_getElem?, List.getElem?_eq_getElem early] at unled
          exact absurd (congrArg some zero) unled
    · next stays =>
        apply iff_of_true rfl
        intro mark
        refine ⟨Nat.ne_of_lt early, ?_⟩
        rintro ⟨rfl, rfl⟩
        exact stays ⟨rfl, mark, rfl, rfl⟩
  · have next : (whole ++ '.' :: rest)[whole.length]? = some '.' := by
      rw [List.getElem?_append_right (Nat.le_refl _), Nat.sub_self, List.getElem?_cons_zero]
    rw [next]
    dsimp only
    cases mark : isMark (plain key) with
    | true =>
      rw [if_pos (.inr (by decide))]
      exact iff_of_false (Nat.succ_ne_self _) fun kept => (kept rfl).1 rfl
    | false =>
      have unpointed : plain key ≠ '.' := by
        intro point
        rw [point] at mark
        cases mark
      rw [if_neg (by simp [unpointed]), if_neg fun moved => nomatch moved.2.1]
      exact iff_of_true rfl fun marked => nomatch marked
  · have digit {next : Char} (at_position : (whole ++ '.' :: rest)[position]? = some next) :
        next.isDigit = true := by
      obtain ⟨count, rfl⟩ : ∃ count, position = whole.length + (count + 1) :=
        ⟨position - whole.length - 1, by omega⟩
      rw [List.getElem?_append_right (Nat.le_add_right _ _), Nat.add_sub_cancel_left,
        List.getElem?_cons_succ] at at_position
      exact digits next (List.mem_of_getElem? at_position)
    have started : position ≠ 0 := Nat.ne_zero_of_lt late
    apply iff_of_true _ fun _ => ⟨Nat.ne_of_gt late, fun none => started none.1⟩
    cases at_position : (whole ++ '.' :: rest)[position]? with
    | none => rfl
    | some =>
      dsimp only
      rw [if_neg (other (digit at_position)), if_neg fun moved => started moved.1]

/-- A text without the zeros that lead another digit. -/
def withoutLeadingZeros : List Char → List Char
  | first :: next :: rest =>
    if first = '0' ∧ next.isDigit = true then withoutLeadingZeros (next :: rest)
    else first :: next :: rest
  | text => text

theorem withoutLeadingZeros_of_unled
    (unled : text.head? = some '0' → ∀ next ∈ text[1]?, next.isDigit = false) :
    withoutLeadingZeros text = text := by
  unfold withoutLeadingZeros
  split
  · next next _ =>
      rw [if_neg]
      rintro ⟨rfl, digit⟩
      rw [unled rfl next rfl] at digit
      cases digit
  · rfl

theorem withoutLeadingZeros_zero {next : Char} (digit : next.isDigit = true) (rest : List Char) :
    withoutLeadingZeros ('0' :: next :: rest) = withoutLeadingZeros (next :: rest) := by
  rw [withoutLeadingZeros, if_pos ⟨rfl, digit⟩]

theorem oneSpelling_unled {first : Char} (nonzero : first ≠ '0') (whole : List Char)
    (pointed : Bool) : oneSpelling (first :: whole) pointed = first :: whole := by
  rw [oneSpelling, List.dropWhile_cons_of_neg (by simpa using nonzero)]
  rfl

theorem oneSpelling_zero (next : Char) (whole : List Char) (pointed : Bool) :
    oneSpelling ('0' :: next :: whole) pointed = oneSpelling (next :: whole) pointed := by
  rw [oneSpelling, oneSpelling, List.dropWhile_cons_of_pos (by decide)]
  rfl

theorem oneSpelling_append {tail : List Char} (digits : Digits whole) (written : whole ≠ [])
    (undigited : ∀ next ∈ tail.head?, next.isDigit = false) (pointed : Bool) :
    oneSpelling whole pointed ++ tail = withoutLeadingZeros (whole ++ tail) := by
  induction whole with
  | nil => exact absurd rfl written
  | cons first whole ih =>
    have more : Digits whole := digits.of_subset (List.subset_cons_self _ _)
    by_cases zero : first = '0'
    · subst zero
      cases whole with
      | nil =>
        rw [List.singleton_append, withoutLeadingZeros_of_unled]
        · cases pointed with
          | true => rfl
          | false => rfl
        · intro _ next behind
          rw [List.getElem?_cons_succ, ← List.head?_eq_getElem?] at behind
          exact undigited next behind
      | cons next =>
        rw [oneSpelling_zero, ih more (List.cons_ne_nil _ _)]
        exact (withoutLeadingZeros_zero (more next List.mem_cons_self) _).symm
    · rw [oneSpelling_unled zero, withoutLeadingZeros_of_unled]
      exact fun led => absurd (Option.some.inj led) zero

theorem figureOf_digits (digits : Digits whole) (written : whole ≠ []) :
    figureOf (whole.splitOn '.') = withoutLeadingZeros whole := by
  have spelled := @oneSpelling_append whole [] digits written (fun _ none => nomatch none) false
  rw [List.append_nil, List.append_nil] at spelled
  rw [List.splitOn_eq_singleton (no_point digits)]
  exact spelled

theorem figureOf_point {rest : List Char} (digits : Digits whole) (written : whole ≠ [])
    (more : Digits rest) :
    figureOf ((whole ++ '.' :: rest).splitOn '.') = withoutLeadingZeros (whole ++ '.' :: rest) := by
  rw [split_one digits more, figureOf_pair]
  apply oneSpelling_append digits written
  intro next first
  cases first
  rfl

theorem Figure.unled (canonical : Figure figure)
    (led : figure.head? = some '0') : ∀ next ∈ figure[1]?, next.isDigit = false := by
  have single {whole : List Char} (spelled : Whole whole) (first : whole.head? = some '0') :
      whole = ['0'] := spelled.unled.resolve_right fun other => other first
  intro next behind
  cases canonical with
  | empty => cases led
  | whole spelled =>
    rw [single spelled led] at behind
    cases behind
  | @pointed whole rest spelled digits =>
    have first : whole.head? = some '0' := by
      rw [List.head?_append, List.head?_eq_some_head spelled.written] at led
      rw [List.head?_eq_some_head spelled.written]
      exact led
    rw [single spelled first] at behind
    cases behind
    rfl

theorem digits_keyed (digits : Digits figure) {digit : Char}
    (isDigit : digit.isDigit = true) (position : Nat) : Digits (keyed figure position digit) := by
  intro letter member
  rw [keyed, List.mem_append, List.mem_cons] at member
  rcases member with before | rfl | behind
  · exact digits letter (List.mem_of_mem_take before)
  · exact isDigit
  · exact digits letter (List.mem_of_mem_drop behind)

theorem keyed_ne_nil (figure : List Char) (position : Nat) (key : Char) :
    keyed figure position key ≠ [] := by
  intro none
  have length := @keyed_length figure position key
  rw [none] at length
  cases length

theorem clean_digit (canonical : Figure figure)
    (typing : Typing entry previous figure) (preset : NumberPreset)
    (digit : (plain key).isDigit = true) :
    clean (keyed figure position key) preset entry previous =
      some (withoutLeadingZeros (keyed figure position (plain key))) := by
  have text : figureText (keyed figure position key) = keyed figure position (plain key) := by
    rw [figureText_keyed canonical.written, digit, Bool.true_or, if_pos rfl]
  have commaless : ',' ∉ keyed figure position (plain key) := by
    rw [keyed, List.mem_append, List.mem_cons]
    have free : ',' ∉ figure := by
      cases canonical with
      | empty => exact List.not_mem_nil
      | whole spelled => exact no_comma spelled.digits
      | pointed spelled digits => exact figure_commaless spelled.digits digits
    rintro (before | comma | behind)
    · exact free (List.mem_of_mem_take before)
    · rw [← comma] at digit
      cases digit
    · exact free (List.mem_of_mem_drop behind)
  rw [← text] at commaless
  rw [clean_commaless preset (typing.not_pasted position key) commaless, text]
  congr 1
  cases canonical with
  | empty =>
    exact figureOf_digits (digits_keyed (fun _ member => absurd member List.not_mem_nil) digit position)
      (keyed_ne_nil _ _ _)
  | whole spelled =>
    exact figureOf_digits (digits_keyed spelled.digits digit position) (keyed_ne_nil _ _ _)
  | @pointed whole rest spelled digits =>
    by_cases early : position ≤ whole.length
    · have pieces : keyed (whole ++ '.' :: rest) position (plain key) =
          keyed whole position (plain key) ++ '.' :: rest := by
        rw [keyed, keyed, List.take_append_of_le_length early,
          List.drop_append_of_le_length early, List.append_assoc, List.cons_append]
      rw [pieces]
      exact figureOf_point (digits_keyed spelled.digits digit position) (keyed_ne_nil _ _ _)
        digits
    · obtain ⟨count, rfl⟩ : ∃ count, position = whole.length + 1 + count :=
        ⟨position - (whole.length + 1), by omega⟩
      rw [keyed_behind]
      exact figureOf_point spelled.digits spelled.written (digits_keyed digits digit count)

/-- Where the caret stands behind a digit: before as many characters as stood behind the key. -/
theorem caret_digit (canonical : Figure figure)
    (within : position ≤ figure.length) (digit : (plain key).isDigit = true)
    (nonzero : plain key ≠ '0') :
    caretAfterClean (keyed figure position key)
        (withoutLeadingZeros (keyed figure position (plain key))) (position + lenUtf16 key) +
      (figure.length - position) =
        (withoutLeadingZeros (keyed figure position (plain key))).length := by
  have after : position + 1 + (figure.length - position) =
      (keyed figure position (plain key)).length := by
    rw [keyed_length]
    omega
  by_cases replaced : position = 1 ∧ figure.head? = some '0'
  · -- the key replaces the zero before it
    obtain ⟨rfl, led⟩ := replaced
    obtain ⟨more, rfl⟩ : ∃ more, figure = '0' :: more := by
      cases figure with
      | nil => cases led
      | cons _ more => exact ⟨more, by rw [Option.some.inj led]⟩
    have text (key : Char) : keyed ('0' :: more) 1 key = '0' :: key :: more := rfl
    have kept : withoutLeadingZeros (plain key :: more) = plain key :: more :=
      withoutLeadingZeros_of_unled fun first => absurd (Option.some.inj first) nonzero
    rw [text, text, withoutLeadingZeros_zero digit, kept]
    have walked : caretAfterClean ('0' :: key :: more) (plain key :: more) (1 + lenUtf16 key) =
        1 := by
      have zero : plain '0' = '0' := rfl
      have size : lenUtf16 '0' = 1 := rfl
      have longer := lenUtf16_pos key
      rw [caretAfterClean, caretAfterClean.walk, if_neg (by omega), List.getElem?_cons_zero]
      dsimp only
      rw [zero, if_neg (by simp [nonzero.symm, isMark]), if_neg (fun moved => nomatch moved.2.1),
        size, caretAfterClean.walk, if_neg (by omega), List.getElem?_cons_zero]
      dsimp only
      rw [if_pos (.inl rfl), walk_reached (by omega)]
    rw [walked]
    simp
    omega
  · have same : withoutLeadingZeros (keyed figure position (plain key)) =
        keyed figure position (plain key) := by
      apply withoutLeadingZeros_of_unled
      intro led next behind
      match position with
      | 0 => exact absurd (Option.some.inj led) nonzero
      | 1 =>
        cases figure with
        | nil => exact absurd (Option.some.inj led) nonzero
        | cons => exact absurd ⟨rfl, led⟩ replaced
      | position + 2 =>
        match figure with
        | [] => cases within
        | [_] => simp at within
        | first :: second :: more => exact canonical.unled led next behind
    have start : figure.take position <+: keyed figure position (plain key) := List.prefix_append _ _
    have at_position : (keyed figure position (plain key))[position]? = some (plain key) := by
      have size : (figure.take position).length = position := List.length_take_of_le within
      rw [keyed, List.getElem?_append_right (Nat.le_of_eq size), size, Nat.sub_self]
      rfl
    rw [same, caret_keyed canonical.written within start, at_position]
    dsimp only
    rw [if_pos (.inl rfl), after]

/-- What a key in a figure comes to: a stray one moves neither the figure nor the caret, where the
figure has its decimal mark, and a digit other than zero is kept at its place, with the caret
directly after it. -/
structure KeyInPlace (figure : List Char) (position : Nat) (key : Char) (preset : NumberPreset)
    (entry : Entry) (previous : Option (List Char)) : Prop where
  stray : '.' ∈ figure → (plain key).isDigit = false →
    clean (keyed figure position key) preset entry previous = some figure ∧
      caretAfterClean (keyed figure position key) figure (position + lenUtf16 key) = position
  digit : (plain key).isDigit = true → plain key ≠ '0' →
    ∃ cleaned, clean (keyed figure position key) preset entry previous = some cleaned ∧
      cleaned = withoutLeadingZeros (keyed figure position (plain key)) ∧
      caretAfterClean (keyed figure position key) cleaned (position + lenUtf16 key) +
        (figure.length - position) = cleaned.length

/-- The key is no mark where a mark takes the place of the figure's own: a point before it, any
mark directly before it, or any mark before the only zero of the whole part. -/
def Clear (figure : List Char) (position : Nat) (key : Char) : Prop :=
  '.' ∈ figure → isMark (plain key) = true →
    position ≠ figure.idxOf '.' ∧ (plain key = '.' → figure.idxOf '.' ≤ position) ∧
      ¬(position = 0 ∧ figure.take 2 = ['0', '.'])

theorem idxOf_point (digits : Digits whole) (rest : List Char) :
    (whole ++ '.' :: rest).idxOf '.' = whole.length := by
  rw [List.idxOf_append, if_neg (no_point digits), List.idxOf_cons_self, Nat.zero_add]

theorem take_zero_point (spelled : Whole whole) (rest : List Char) :
    (whole ++ '.' :: rest).take 2 = ['0', '.'] ↔ whole = ['0'] := by
  constructor
  · intro same
    match whole with
    | [] => exact absurd rfl spelled.written
    | [first] => rw [(List.cons.inj same).1]
    | first :: second :: more =>
      have point : second = '.' := (List.cons.inj (List.cons.inj same).2).1
      have digit := spelled.digits second (List.mem_cons_of_mem _ List.mem_cons_self)
      rw [point] at digit
      cases digit
  · rintro rfl
    rfl

/-- One key stays in its place exactly where it is clear of the figure's mark. -/
theorem keyInPlace_iff {figure : List Char} (canonical : Figure figure)
    (within : position ≤ figure.length) (typing : Typing entry previous figure)
    (preset : NumberPreset) (key : Char) :
    KeyInPlace figure position key preset entry previous ↔ Clear figure position key := by
  have digit : (plain key).isDigit = true → plain key ≠ '0' →
      ∃ cleaned, clean (keyed figure position key) preset entry previous = some cleaned ∧
        cleaned = withoutLeadingZeros (keyed figure position (plain key)) ∧
        caretAfterClean (keyed figure position key) cleaned (position + lenUtf16 key) +
          (figure.length - position) = cleaned.length := fun digit nonzero =>
    ⟨_, clean_digit canonical typing preset digit, rfl,
      caret_digit canonical within digit nonzero⟩
  constructor
  · intro kept point mark
    obtain ⟨whole, rest, rfl, spelled, digits⟩ := canonical.parts point
    have stray : (plain key).isDigit = false := by
      rw [Bool.eq_false_iff]
      intro isDigit
      rw [digit_ne_mark isDigit] at mark
      cases mark
    have ⟨same, caret⟩ := kept.stray point stray
    have ⟨apart, unzeroed⟩ := (caret_stray spelled digits within stray).mp caret mark
    rw [idxOf_point spelled.digits, take_zero_point spelled]
    refine ⟨apart, ?_, unzeroed⟩
    intro isPoint
    exact (clean_point_iff spelled digits typing preset within isPoint).mp same
  · intro clear
    refine ⟨fun point stray => ?_, digit⟩
    obtain ⟨whole, rest, rfl, spelled, digits⟩ := canonical.parts point
    have clear := clear point
    rw [idxOf_point spelled.digits, take_zero_point spelled] at clear
    constructor
    · by_cases isPoint : plain key = '.'
      · have mark : isMark (plain key) = true := isMark_iff.mpr (.inl isPoint)
        exact (clean_point_iff spelled digits typing preset within isPoint).mpr
          ((clear mark).2.1 isPoint)
      · exact clean_stray spelled digits typing preset stray isPoint
    · rw [caret_stray spelled digits within stray]
      exact fun mark => ⟨(clear mark).1, (clear mark).2.2⟩

theorem figure_twelve : Figure "12.5".toList := by
  have whole : Whole ['1', '2'] := ⟨List.all_eq_true.mp rfl, by decide, .inr (by decide)⟩
  have rest : Digits ['5'] := List.all_eq_true.mp rfl
  exact .pointed whole rest

theorem keyInPlace_letter : KeyInPlace "12.5".toList 1 'x' .commaDot .typed none :=
  (keyInPlace_iff figure_twelve (by decide) (.inl rfl) .commaDot 'x').mpr
    fun _ mark => nomatch mark

/-- A point typed before the decimal mark of `12.5` takes its place. -/
theorem point_moves_figure :
    Figure "12.5".toList ∧
      clean (keyed "12.5".toList 1 '.') .commaDot .typed (some "12.5".toList) =
        some "1.25".toList ∧
      ¬KeyInPlace "12.5".toList 1 '.' .commaDot .typed (some "12.5".toList) := by
  have moved : clean (keyed "12.5".toList 1 '.') .commaDot .typed (some "12.5".toList) =
      some "1.25".toList := by decide
  refine ⟨figure_twelve, moved, fun kept => ?_⟩
  have same := (kept.stray (by decide) (by decide)).1
  rw [moved] at same
  cases same

end VelaWallet.AmountText
