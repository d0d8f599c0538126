import Mathlib.Data.List.Forall2

/-!
# Texts alike up to characters nobody looks for

Two texts with the same known characters in the same places, and runs of foreign ones
between them where the other has such a run.  A test that looks for known characters alone
decides both the same.
-/

/-- The texts have the known characters in common; a run of foreign ones stands for another. -/
inductive Blurred {α : Type} (known : α → Bool) : List α → List α → Prop
  | nil : Blurred known [] []
  | same {letter : α} {left right : List α} (rest : Blurred known left right) :
      Blurred known (letter :: left) (letter :: right)
  | foreign {piece other left right : List α} (some_left : piece ≠ []) (some_right : other ≠ [])
      (unknown_left : ∀ letter ∈ piece, known letter = false)
      (unknown_right : ∀ letter ∈ other, known letter = false)
      (rest : Blurred known left right) : Blurred known (piece ++ left) (other ++ right)

namespace Blurred

variable {α : Type} {known : α → Bool} {left right word : List α}

section

variable (blurred : Blurred known left right)
include blurred

theorem symm : Blurred known right left := by
  induction blurred with
  | nil => exact .nil
  | same _ ih => exact .same ih
  | foreign some_left some_right unknown_left unknown_right _ ih =>
    exact .foreign some_right some_left unknown_right unknown_left ih

theorem append {more others : List α}
    (after : Blurred known more others) : Blurred known (left ++ more) (right ++ others) := by
  induction blurred with
  | nil => exact after
  | same _ ih => exact .same ih
  | foreign some_left some_right unknown_left unknown_right _ ih =>
    rw [List.append_assoc, List.append_assoc]
    exact .foreign some_left some_right unknown_left unknown_right ih

theorem reverse :
    Blurred known left.reverse right.reverse := by
  induction blurred with
  | nil => exact .nil
  | same _ ih =>
    rw [List.reverse_cons, List.reverse_cons]
    exact ih.append (.same .nil)
  | @foreign piece other _ _ some_left some_right unknown_left unknown_right _ ih =>
    rw [List.reverse_append, List.reverse_append]
    apply ih.append
    have last := @foreign _ known piece.reverse other.reverse [] [] (by simpa using some_left)
      (by simpa using some_right) (by simpa using unknown_left) (by simpa using unknown_right) .nil
    simpa using last

end

theorem nil_right (blurred : Blurred known [] right) : right = [] := by
  generalize empty : ([] : List α) = text at blurred
  cases blurred with
  | nil => rfl
  | same => cases empty
  | foreign some_left =>
    exact absurd (List.append_eq_nil_iff.mp empty.symm).1 some_left

theorem cons {letter : α} (known_letter : known letter = true)
    (blurred : Blurred known (letter :: left) right) :
    ∃ rest, right = letter :: rest ∧ Blurred known left rest := by
  generalize begun : letter :: left = text at blurred
  cases blurred with
  | nil => cases begun
  | same rest =>
    cases begun
    exact ⟨_, rfl, rest⟩
  | @foreign piece _ _ _ some_left _ unknown_left =>
    cases piece with
    | nil => exact absurd rfl some_left
    | cons =>
      cases begun
      rw [unknown_left letter List.mem_cons_self] at known_letter
      cases known_letter

section

variable (known_word : word.all known = true)
include known_word

theorem word_append {rest : List α} (blurred : Blurred known (word ++ rest) right) :
    ∃ others, right = word ++ others ∧ Blurred known rest others := by
  induction word generalizing right with
  | nil => exact ⟨right, rfl, blurred⟩
  | cons _ _ ih =>
    rw [List.all_cons, Bool.and_eq_true] at known_word
    obtain ⟨_, rfl, begun⟩ := blurred.cons known_word.1
    obtain ⟨others, rfl, after⟩ := ih known_word.2 begun
    exact ⟨others, rfl, after⟩

theorem prefix_iff
    (blurred : Blurred known left right) : word <+: left ↔ word <+: right := by
  constructor
  · rintro ⟨rest, rfl⟩
    obtain ⟨others, rfl, _⟩ := blurred.word_append known_word
    exact List.prefix_append _ _
  · rintro ⟨rest, rfl⟩
    obtain ⟨others, rfl, _⟩ := blurred.symm.word_append known_word
    exact List.prefix_append _ _

theorem suffix_iff
    (blurred : Blurred known left right) : word <:+ left ↔ word <:+ right := by
  rw [← List.reverse_prefix, ← List.reverse_prefix]
  exact blurred.reverse.prefix_iff (by simpa using known_word)

theorem eq_word
    (blurred : Blurred known word right) : right = word := by
  have blurred : Blurred known (word ++ []) right := by simpa using blurred
  obtain ⟨others, rfl, after⟩ := blurred.word_append known_word
  rw [after.nil_right, List.append_nil]

theorem eq_iff
    (blurred : Blurred known left right) : left = word ↔ right = word := by
  constructor
  · rintro rfl
    exact blurred.eq_word known_word
  · rintro rfl
    exact blurred.symm.eq_word known_word

end

theorem drop_head {letter : α} (known_letter : known letter = true)
    (blurred : Blurred known left right) (begins : [letter] <+: left) :
    Blurred known (left.drop 1) (right.drop 1) := by
  obtain ⟨rest, rfl⟩ := begins
  obtain ⟨others, rfl, after⟩ := blurred.cons known_letter
  exact after

theorem drop_last {letter : α} (known_letter : known letter = true)
    (blurred : Blurred known left right) (ends : [letter] <:+ left) :
    Blurred known left.dropLast right.dropLast := by
  have begins : [letter] <+: left.reverse := by
    rw [← List.reverse_prefix] at ends
    exact ends
  have dropped := (blurred.reverse.drop_head known_letter begins).reverse
  simpa using dropped

/-- A test that only known characters pass is passed by all of both texts or by neither's. -/
theorem all_eq {test : α → Bool} (known_only : ∀ letter, test letter = true → known letter = true)
    (blurred : Blurred known left right) : left.all test = right.all test := by
  have fails : ∀ {piece : List α}, piece ≠ [] → (∀ letter ∈ piece, known letter = false) →
      piece.all test = false := by
    intro piece some_letter unknown
    obtain ⟨letter, member⟩ := List.exists_mem_of_ne_nil piece some_letter
    rw [List.all_eq_false]
    refine ⟨letter, member, ?_⟩
    intro passes
    have contradiction := known_only letter passes
    rw [unknown letter member] at contradiction
    cases contradiction
  induction blurred with
  | nil => rfl
  | same _ ih => rw [List.all_cons, List.all_cons, ih]
  | foreign some_left some_right unknown_left unknown_right =>
    rw [List.all_append, List.all_append, fails some_left unknown_left,
      fails some_right unknown_right]
    rfl

theorem eq_of_all {test : α → Bool} (known_only : ∀ letter, test letter = true → known letter = true)
    (blurred : Blurred known left right) (passes : left.all test = true) : right = left := by
  apply blurred.eq_word
  rw [List.all_eq_true] at passes ⊢
  intro letter member
  exact known_only letter (passes letter member)

theorem splitOn_append {mark : α} [BEq α] [LawfulBEq α] {piece : List α} (absent : mark ∉ piece)
    (text : List α) : (piece ++ text).splitOn mark = (text.splitOn mark).modifyHead (piece ++ ·) := by
  induction piece with
  | nil =>
    rw [List.nil_append]
    cases text.splitOn mark <;> rfl
  | cons letter _ ih =>
    have differs : ¬ letter = mark := by
      rintro rfl
      exact absent List.mem_cons_self
    rw [List.cons_append, List.splitOn_cons_eq_if_modifyHead, if_neg (by simpa using differs),
      ih fun member => absent (List.mem_cons_of_mem _ member), List.modifyHead_modifyHead]
    rfl

theorem forall₂_modifyHead {lefts rights : List (List α)} {first second : List α → List α}
    (pieces : List.Forall₂ (Blurred known) lefts rights)
    (heads : ∀ left right, Blurred known left right → Blurred known (first left) (second right)) :
    List.Forall₂ (Blurred known) (lefts.modifyHead first) (rights.modifyHead second) := by
  cases pieces with
  | nil => exact .nil
  | cons head tail => exact .cons (heads _ _ head) tail

theorem splitOn {mark : α} [BEq α] [LawfulBEq α] (known_mark : known mark = true)
    (blurred : Blurred known left right) :
    List.Forall₂ (Blurred known) (left.splitOn mark) (right.splitOn mark) := by
  have absent : ∀ {piece : List α}, (∀ letter ∈ piece, known letter = false) → mark ∉ piece := by
    intro piece unknown member
    have contradiction := unknown mark member
    rw [known_mark] at contradiction
    cases contradiction
  induction blurred with
  | nil =>
    rw [List.splitOn_nil]
    exact .cons .nil .nil
  | @same letter left right _ ih =>
    rw [List.splitOn_cons_eq_if_modifyHead, List.splitOn_cons_eq_if_modifyHead]
    by_cases here : (letter == mark) = true
    · rw [if_pos here, if_pos here]
      exact .cons .nil ih
    · rw [if_neg here, if_neg here]
      apply forall₂_modifyHead ih
      intro left right blurred
      exact .same blurred
  | foreign some_left some_right unknown_left unknown_right _ ih =>
    rw [splitOn_append (absent unknown_left), splitOn_append (absent unknown_right)]
    apply forall₂_modifyHead ih
    intro left right blurred
    exact .foreign some_left some_right unknown_left unknown_right blurred

end Blurred
