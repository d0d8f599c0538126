import Mathlib.Tactic.Common

/-!
# Fallible steps

Sequencing of computations that may fail, one step at a time: what a successful
run says about its first step and about the rest.
-/

namespace Fallible

variable {ε α β : Type} {images : List β} {items : List α}

def require (condition : Prop) [Decidable condition] (error : ε) : Except ε Unit :=
  if condition then .ok () else .error error

/-- The value of a lookup, or the given error. -/
def orFail (found : Option α) (error : ε) : Except ε α :=
  match found with
  | some value => .ok value
  | none => .error error

theorem bind_ok {first : Except ε α} {rest : α → Except ε β} {result : β} :
    (first >>= rest) = .ok result ↔ ∃ value, first = .ok value ∧ rest value = .ok result := by
  cases first with
  | error =>
    constructor
    · intro impossible
      cases impossible
    · intro ⟨_, impossible, _⟩
      cases impossible
  | ok value =>
    constructor
    · intro rest
      exact ⟨value, rfl, rest⟩
    · intro ⟨_, equality, rest⟩
      cases equality
      exact rest

theorem pure_ok {value result : α} :
    (pure value : Except ε α) = .ok result ↔ value = result := by
  constructor
  · intro equality
    exact Except.ok.inj equality
  · rintro rfl
    rfl

@[simp] theorem require_ok {condition : Prop} [Decidable condition] {error : ε} {result : Unit} :
    require condition error = .ok result ↔ condition := by
  unfold require
  split <;> simp [*]

@[simp] theorem orFail_ok {found : Option α} {error : ε} {value : α} :
    orFail found error = .ok value ↔ found = some value := by
  cases found <;> simp [orFail]

theorem exists_ok {result : Except ε α} (fine : result.isOk = true) :
    ∃ value, result = .ok value := by
  cases result with
  | ok value => exact ⟨value, rfl⟩
  | error => cases fine

theorem mapM_ok {f : α → Except ε β} :
    items.mapM f = .ok images ↔ List.Forall₂ (fun item image => f item = .ok image) items images := by
  induction items generalizing images with
  | nil =>
    rw [List.mapM_nil, pure_ok]
    constructor
    · rintro rfl
      exact .nil
    · intro related
      cases related
      rfl
  | cons _ _ ih =>
    rw [List.mapM_cons, bind_ok]
    constructor
    · intro ⟨image, head, rest⟩
      obtain ⟨tail, tailMapped, equality⟩ := bind_ok.mp rest
      obtain rfl := pure_ok.mp equality
      exact .cons head (ih.mp tailMapped)
    · intro related
      cases related with
      | cons head tail => exact ⟨_, head, bind_ok.mpr ⟨_, ih.mpr tail, rfl⟩⟩

theorem mapM_concat_ok {f : α → Except ε β} {last : α} :
    (items ++ [last]).mapM f = .ok images ↔
      ∃ early late, items.mapM f = .ok early ∧ f last = .ok late ∧ images = early ++ [late] := by
  rw [List.mapM_append, bind_ok]
  simp only [List.mapM_cons, List.mapM_nil, pure_bind]
  constructor
  · intro ⟨early, mapped, rest⟩
    obtain ⟨lates, lastMapped, rest⟩ := bind_ok.mp rest
    obtain ⟨late, single, lastMapped⟩ := bind_ok.mp lastMapped
    obtain rfl := pure_ok.mp lastMapped
    exact ⟨early, late, mapped, single, (pure_ok.mp rest).symm⟩
  · rintro ⟨early, late, mapped, single, rfl⟩
    refine ⟨early, mapped, bind_ok.mpr ⟨[late], ?_, rfl⟩⟩
    exact bind_ok.mpr ⟨late, single, rfl⟩

theorem forall₂_source {relates : α → β → Prop}
    (related : List.Forall₂ relates items images) {item : α} (member : item ∈ items) :
    ∃ image ∈ images, relates item image := by
  induction related with
  | nil => cases member
  | cons head _ ih =>
    rcases List.mem_cons.mp member with rfl | inTail
    · exact ⟨_, List.mem_cons_self, head⟩
    · obtain ⟨image, inside, held⟩ := ih inTail
      exact ⟨image, List.mem_cons_of_mem _ inside, held⟩

/-- Elements related through a witness each are related through the list of
witnesses. -/
theorem forall₂_exists {γ : Type} {relates : α → γ → Prop} {image : γ → β} :
    List.Forall₂ (fun item result => ∃ witness, relates item witness ∧ result = image witness)
        items images ↔
      ∃ witnesses, List.Forall₂ relates items witnesses ∧ images = witnesses.map image := by
  constructor
  · intro related
    induction related with
    | nil => exact ⟨[], .nil, rfl⟩
    | cons head _ ih =>
      obtain ⟨witness, related, rfl⟩ := head
      obtain ⟨witnesses, allRelated, rfl⟩ := ih
      exact ⟨witness :: witnesses, .cons related allRelated, rfl⟩
  · intro ⟨witnesses, related, shown⟩
    subst shown
    induction related with
    | nil => exact .nil
    | cons head _ ih => exact .cons ⟨_, head, rfl⟩ ih

end Fallible
