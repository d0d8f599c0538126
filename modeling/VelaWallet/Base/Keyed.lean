import Mathlib.Order.Defs.Unbundled
import Mathlib.Tactic.Common

/-!
# Keyed lists

A map as the list of its keys and values in key order: what a key holds after each operation.
-/

namespace Keyed

variable {Key Value : Type} [DecidableEq Key]

def get? (key : Key) : List (Key × Value) → Option Value
  | [] => none
  | (name, value) :: rest => if name = key then some value else get? key rest

/-- The value under a key replaced, or a new one placed in key order. -/
def set [LT Key] [DecidableLT Key] (key : Key) (value : Value) :
    List (Key × Value) → List (Key × Value)
  | [] => [(key, value)]
  | (name, old) :: rest =>
    if name = key then (key, value) :: rest
    else if key < name then (key, value) :: (name, old) :: rest
    else (name, old) :: set key value rest

def erase (key : Key) : List (Key × Value) → List (Key × Value)
  | [] => []
  | (name, value) :: rest => if name = key then erase key rest else (name, value) :: erase key rest

def mapValues {Other : Type} (change : Key → Value → Other) (entries : List (Key × Value)) :
    List (Key × Other) :=
  entries.map fun entry => (entry.1, change entry.1 entry.2)

theorem get?_cons (key : Key) (head : Key × Value) (rest : List (Key × Value)) :
    get? key (head :: rest) = if head.1 = key then some head.2 else get? key rest := rfl

theorem erase_cons (key : Key) (head : Key × Value) (rest : List (Key × Value)) :
    erase key (head :: rest) = if head.1 = key then erase key rest else head :: erase key rest :=
  rfl

section Order

variable [LT Key] [DecidableLT Key]

theorem set_nil (key : Key) (value : Value) : set key value [] = [(key, value)] := rfl

theorem set_cons (key : Key) (value : Value) (head : Key × Value) (rest : List (Key × Value)) :
    set key value (head :: rest) =
      if head.1 = key then (key, value) :: rest
      else if key < head.1 then (key, value) :: head :: rest
      else head :: set key value rest := rfl

@[simp] theorem get?_set_self (key : Key) (value : Value) (entries : List (Key × Value)) :
    get? key (set key value entries) = some value := by
  induction entries with
  | nil => rw [set_nil, get?_cons, if_pos rfl]
  | cons _ _ ih =>
    rw [set_cons]
    split
    · simp [get?_cons]
    · next different =>
        split
        · simp [get?_cons]
        · simp [get?_cons, different, ih]

theorem get?_set_other {key other : Key} (different : key ≠ other) (value : Value)
    (entries : List (Key × Value)) : get? other (set key value entries) = get? other entries := by
  induction entries with
  | nil => simp [set_nil, get?_cons, different]
  | cons _ _ ih =>
    rw [set_cons]
    split
    · next same => simp [get?_cons, different, same]
    · split
      · simp [get?_cons, different]
      · simp [get?_cons, ih]

theorem get?_set (key other : Key) (value : Value) (entries : List (Key × Value)) :
    get? other (set key value entries) = if key = other then some value else get? other entries := by
  split
  · next same =>
      subst same
      exact get?_set_self key value entries
  · next different => exact get?_set_other different value entries

end Order

@[simp] theorem get?_erase_self (key : Key) (entries : List (Key × Value)) :
    get? key (erase key entries) = none := by
  induction entries with
  | nil => rfl
  | cons _ _ ih =>
    rw [erase_cons]
    split
    · exact ih
    · next different => simp [get?_cons, different, ih]

theorem get?_erase_other {key other : Key} (different : key ≠ other)
    (entries : List (Key × Value)) : get? other (erase key entries) = get? other entries := by
  induction entries with
  | nil => rfl
  | cons _ _ ih =>
    rw [erase_cons]
    split
    · next same => simp [get?_cons, same, different, ih]
    · simp [get?_cons, ih]

theorem get?_mapValues {Other : Type} (change : Key → Value → Other) (key : Key)
    (entries : List (Key × Value)) :
    get? key (mapValues change entries) = (get? key entries).map (change key) := by
  induction entries with
  | nil => rfl
  | cons _ _ ih =>
    simp only [mapValues, List.map_cons, get?_cons] at ih ⊢
    split
    · next same => rw [same]; rfl
    · exact ih

section Sorted

variable [LT Key] {entries : List (Key × Value)}

/-- The keys stand in order, each once. -/
def Sorted (entries : List (Key × Value)) : Prop := entries.Pairwise (·.1 < ·.1)

omit [LT Key] in
theorem erase_sublist (key : Key) (entries : List (Key × Value)) :
    (erase key entries).Sublist entries := by
  induction entries with
  | nil => exact .slnil
  | cons _ _ ih =>
    rw [erase_cons]
    split
    · exact ih.cons _
    · exact ih.cons_cons _

theorem Sorted.erase (sorted : Sorted entries) (key : Key) : Sorted (Keyed.erase key entries) :=
  List.Pairwise.sublist (erase_sublist key entries) sorted

omit [DecidableEq Key] in
theorem Sorted.mapValues {Other : Type} (sorted : Sorted entries) (change : Key → Value → Other) :
    Sorted (Keyed.mapValues change entries) :=
  List.pairwise_map.mpr sorted

variable [DecidableLT Key]

theorem mem_set {key : Key} {value : Value} {entry : Key × Value}
    (member : entry ∈ set key value entries) : entry.1 = key ∨ entry ∈ entries := by
  induction entries with
  | nil =>
    rw [set_nil, List.mem_singleton] at member
    exact .inl (congrArg Prod.fst member)
  | cons _ _ ih =>
    rw [set_cons] at member
    split at member
    · rcases List.mem_cons.mp member with rfl | inside
      · exact .inl rfl
      · exact .inr (List.mem_cons_of_mem _ inside)
    · split at member
      · rcases List.mem_cons.mp member with rfl | inside
        · exact .inl rfl
        · exact .inr inside
      · rcases List.mem_cons.mp member with rfl | inside
        · exact .inr List.mem_cons_self
        · exact (ih inside).imp_right (List.mem_cons_of_mem _)

variable [IsStrictTotalOrder Key (· < ·)]

theorem Sorted.set (sorted : Sorted entries) (key : Key) (value : Value) :
    Sorted (Keyed.set key value entries) := by
  induction entries with
  | nil => exact List.pairwise_singleton _ _
  | cons head _ ih =>
    obtain ⟨above, sorted_rest⟩ := List.pairwise_cons.mp sorted
    rw [set_cons]
    split
    · next same =>
        refine List.pairwise_cons.mpr ⟨?_, sorted_rest⟩
        intro entry member
        rw [← same]
        exact above entry member
    · next different =>
        split
        · next below =>
            refine List.pairwise_cons.mpr ⟨?_, sorted⟩
            intro entry member
            rcases List.mem_cons.mp member with rfl | inside
            · exact below
            · exact trans_of (· < ·) below (above entry inside)
        · next not_below =>
            refine List.pairwise_cons.mpr ⟨?_, ih sorted_rest⟩
            intro entry member
            rcases mem_set member with same | inside
            · rw [same]
              rcases trichotomous_of (· < ·) head.1 key with less | equal | more
              · exact less
              · exact absurd equal different
              · exact absurd more not_below
            · exact above entry inside

omit [DecidableLT Key] in
theorem Sorted.flatMap {Out : Type} (sorted : Sorted entries) (key : Key)
    {give : Key × Value → List Out} (others : ∀ entry, entry.1 ≠ key → give entry = []) :
    entries.flatMap give = ((get? key entries).map fun value => give (key, value)).getD [] := by
  induction entries with
  | nil => rfl
  | cons head rest ih =>
    obtain ⟨above, sorted_rest⟩ := List.pairwise_cons.mp sorted
    rw [List.flatMap_cons, get?_cons]
    by_cases same : head.1 = key
    · have nothing : rest.flatMap give = [] := by
        rw [List.flatMap_eq_nil_iff]
        intro entry member
        apply others
        intro equal
        have less := above entry member
        rw [same, equal] at less
        exact irrefl_of (· < ·) key less
      rw [if_pos same, nothing, List.append_nil, ← same]
      rfl
    · rw [if_neg same, others head same, List.nil_append]
      exact ih sorted_rest

end Sorted

end Keyed
