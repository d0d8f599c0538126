import Mathlib.Data.List.DropRight
import Mathlib.Tactic.Common

/-!
# Lists

Partial maps over lists, and the last elements a bounded queue keeps.
-/

namespace PartialMap

variable {α β : Type} {images : List β}

theorem exists_source {f : α → Option β} {items : List α}
    (mapped : items.mapM f = some images) {image : β} (member : image ∈ images) :
    ∃ item ∈ items, f item = some image := by
  induction items generalizing images with
  | nil =>
    cases mapped
    cases member
  | cons item _ ih =>
    simp only [List.mapM_cons, Option.bind_eq_bind, Option.bind_eq_some_iff] at mapped
    obtain ⟨head, headEq, tail, tailEq, equality⟩ := mapped
    cases equality
    rcases List.mem_cons.mp member with rfl | inTail
    · exact ⟨item, List.mem_cons_self, headEq⟩
    · obtain ⟨source, sourceMember, sourceEq⟩ := ih tailEq inTail
      exact ⟨source, List.mem_cons_of_mem _ sourceMember, sourceEq⟩

theorem exists_image {f : α → Option β} {items : List α}
    (mapped : items.mapM f = some images) {item : α} (member : item ∈ items) :
    ∃ image ∈ images, f item = some image := by
  induction items generalizing images with
  | nil => cases member
  | cons _ _ ih =>
    simp only [List.mapM_cons, Option.bind_eq_bind, Option.bind_eq_some_iff] at mapped
    obtain ⟨image, headEq, tail, tailEq, equality⟩ := mapped
    cases equality
    rcases List.mem_cons.mp member with rfl | inTail
    · exact ⟨image, List.mem_cons_self, headEq⟩
    · obtain ⟨source, sourceMember, sourceEq⟩ := ih tailEq inTail
      exact ⟨source, List.mem_cons_of_mem _ sourceMember, sourceEq⟩

theorem forall₂ {f : α → Option β} {items : List α}
    (mapped : items.mapM f = some images) :
    List.Forall₂ (fun item image => f item = some image) items images := by
  induction items generalizing images with
  | nil =>
    cases mapped
    exact .nil
  | cons _ _ ih =>
    simp only [List.mapM_cons, Option.bind_eq_bind, Option.bind_eq_some_iff] at mapped
    obtain ⟨head, headEq, tail, tailEq, equality⟩ := mapped
    cases equality
    exact .cons headEq (ih tailEq)

theorem forall₂_join {γ : Type} {relates : α → β → Prop} {others : γ → β → Prop}
    {joined : α → γ → Prop}
    (join : ∀ item image other, relates item image → others other image → joined item other)
    {items : List α} {rows : List γ} (first : List.Forall₂ relates items images)
    (second : List.Forall₂ others rows images) : List.Forall₂ joined items rows := by
  induction first generalizing rows with
  | nil =>
    cases second
    exact .nil
  | cons head _ ih =>
    cases second with
    | cons head' tail' => exact .cons (join _ _ _ head head') (ih tail')

end PartialMap

namespace BoundedQueue

variable {α : Type} {items : List α} {bound : Nat}

theorem length_rtake : (items.rtake bound).length = min items.length bound := by
  rw [List.rtake, List.length_drop]
  omega

theorem rtake_concat_of_full (positive : 0 < bound) (full : bound ≤ (items.rtake bound).length)
    (item : α) : (items ++ [item]).rtake bound = (items.rtake bound).drop 1 ++ [item] := by
  rw [length_rtake] at full
  obtain ⟨rest, rfl⟩ : ∃ rest, bound = rest + 1 := ⟨bound - 1, by omega⟩
  rw [List.rtake_concat_succ, List.rtake, List.rtake, List.drop_drop]
  congr 2
  omega

theorem rtake_concat_of_room (room : (items.rtake bound).length < bound) (item : α) :
    (items ++ [item]).rtake bound = items.rtake bound ++ [item] := by
  rw [length_rtake] at room
  have all : items.length + 1 ≤ bound := by omega
  rw [List.rtake, List.rtake, List.length_append, List.length_singleton,
    Nat.sub_eq_zero_of_le all, Nat.sub_eq_zero_of_le (by omega), List.drop_zero, List.drop_zero]

theorem mem_rtake {earlier later : List α} {item : α} (recent : later.length < bound) :
    item ∈ (earlier ++ item :: later).rtake bound := by
  rw [List.rtake, List.length_append, List.length_cons]
  rw [List.drop_append_of_le_length (by omega)]
  exact List.mem_append_right _ List.mem_cons_self

end BoundedQueue
