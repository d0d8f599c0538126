import Mathlib.Data.List.Induction
import Mathlib.Data.List.Nodup
import Mathlib.Tactic.Common

/-!
# Lists with one row a key

A list whose rows have keys is collapsed to the first row of each key, while a position in
it is followed: the loop takes one row at a time, drops those whose key it has, and moves
the position it follows.
-/

namespace FirstSeen

variable {Row Key : Type} [DecidableEq Key] (key : Row → Key)

variable {bound first index slot : Nat} {row : Row}

def place (slot : Nat) (row : Row) (gathered : List Row × Nat) : List Row × Nat :=
  match gathered.1.findIdx? fun held => key held = key row with
  | some first =>
    (gathered.1, if slot = gathered.2 then first
      else if slot < gathered.2 then gathered.2 - 1 else gathered.2)
  | none => (gathered.1 ++ [row], gathered.2)

/-- The rows from a slot on, one at a time. -/
def followFrom : Nat → List Row → List Row × Nat → List Row × Nat
  | _, [], gathered => gathered
  | slot, row :: rows, gathered => followFrom (slot + 1) rows (place key slot row gathered)

/-- The rows kept, and where the position followed went. -/
def follow (rows : List Row) (index : Nat) : List Row × Nat := followFrom key 0 rows ([], index)

/-- A row whose key an earlier row has. -/
def isTwin (rows : List Row) (slot : Nat) : Bool :=
  rows[slot]?.any fun row => ((rows.take slot).map key).contains (key row)

/-- How many of the first rows are twins. -/
def twins (rows : List Row) (bound : Nat) : Nat := (List.range bound).countP (isTwin key rows)

def firsts (rows : List Row) : List Row := (follow key rows 0).1

variable {key}

theorem followFrom_append (slot : Nat) (rows more : List Row) (gathered : List Row × Nat) :
    followFrom key slot (rows ++ more) gathered =
      followFrom key (slot + rows.length) more (followFrom key slot rows gathered) := by
  induction rows generalizing slot gathered with
  | nil => rfl
  | cons _ _ ih =>
    rw [List.cons_append, followFrom, ih, followFrom, List.length_cons, Nat.add_right_comm,
      Nat.add_assoc]

theorem follow_concat (rows : List Row) (row : Row) (index : Nat) :
    follow key (rows ++ [row]) index = place key rows.length row (follow key rows index) := by
  rw [follow, followFrom_append, Nat.zero_add]
  rfl

theorem place_fst (slot slot' : Nat) (row : Row) {left right : List Row × Nat}
    (same : left.1 = right.1) : (place key slot row left).1 = (place key slot' row right).1 := by
  unfold place
  rw [same]
  split <;> rfl

theorem follow_fst (key : Row → Key) (rows : List Row) (index : Nat) : (follow key rows index).1 = firsts key rows := by
  induction rows using List.reverseRecOn with
  | nil => rfl
  | append_singleton _ _ ih =>
    rw [firsts, follow_concat, follow_concat]
    exact place_fst _ _ _ ih

theorem findIdx?_eq_none_iff (rows : List Row) (row : Row) :
    (rows.findIdx? fun held => key held = key row) = none ↔ key row ∉ rows.map key := by
  simp [List.findIdx?_eq_none_iff, List.mem_map]

variable {rows : List Row}

theorem firsts_concat_none (fresh : key row ∉ (firsts key rows).map key) :
    firsts key (rows ++ [row]) = firsts key rows ++ [row] := by
  rw [firsts, follow_concat, place, follow_fst]
  rw [(findIdx?_eq_none_iff _ _).mpr fresh]

theorem firsts_concat_some (held : key row ∈ (firsts key rows).map key) :
    firsts key (rows ++ [row]) = firsts key rows := by
  rw [firsts, follow_concat, place, follow_fst]
  cases found : (firsts key rows).findIdx? fun held => key held = key row with
  | none => exact absurd held ((findIdx?_eq_none_iff _ _).mp found)
  | some => rfl

omit [DecidableEq Key] in
theorem eraseDups_concat_of_mem [BEq Key] [LawfulBEq Key] {keys : List Key} {last : Key} (inside : last ∈ keys) :
    (keys ++ [last]).eraseDups = keys.eraseDups := by
  rw [List.eraseDups_append]
  simp [List.removeAll, inside]

omit [DecidableEq Key] in
theorem eraseDups_concat_of_not_mem [BEq Key] [LawfulBEq Key] {keys : List Key} {last : Key} (fresh : last ∉ keys) :
    (keys ++ [last]).eraseDups = keys.eraseDups ++ [last] := by
  rw [List.eraseDups_append]
  simp [List.removeAll, fresh, List.eraseDups_cons]

theorem firsts_map [BEq Key] [LawfulBEq Key] (rows : List Row) :
    (firsts key rows).map key = (rows.map key).eraseDups := by
  induction rows using List.reverseRecOn with
  | nil => rfl
  | append_singleton rows row ih =>
    rw [List.map_append, List.map_singleton]
    by_cases inside : key row ∈ rows.map key
    · have held : key row ∈ (firsts key rows).map key := by
        rw [ih]
        exact List.mem_eraseDups.mpr inside
      rw [firsts_concat_some held, eraseDups_concat_of_mem inside, ih]
    · have fresh : key row ∉ (firsts key rows).map key := by
        rw [ih]
        exact fun held => inside (List.mem_eraseDups.mp held)
      rw [firsts_concat_none fresh, eraseDups_concat_of_not_mem inside, List.map_append, ih,
        List.map_singleton]

theorem mem_firsts_map {seen : Key} : seen ∈ (firsts key rows).map key ↔ seen ∈ rows.map key := by
  rw [firsts_map, List.mem_eraseDups]

theorem firsts_twin (twin : key row ∈ rows.map key) :
    firsts key (rows ++ [row]) = firsts key rows :=
  firsts_concat_some (mem_firsts_map.mpr twin)

theorem firsts_fresh (fresh : key row ∉ rows.map key) :
    firsts key (rows ++ [row]) = firsts key rows ++ [row] :=
  firsts_concat_none fun held => fresh (mem_firsts_map.mp held)

theorem firsts_nodup (rows : List Row) : ((firsts key rows).map key).Nodup := by
  induction rows using List.reverseRecOn with
  | nil => exact List.nodup_nil
  | append_singleton rows row ih =>
    by_cases twin : key row ∈ rows.map key
    · rw [firsts_twin twin]
      exact ih
    · rw [firsts_fresh twin, List.map_append, List.map_singleton]
      apply List.Nodup.append ih (List.nodup_singleton _)
      intro seen held last
      rw [List.mem_singleton.mp last] at held
      exact twin (mem_firsts_map.mp held)

theorem firsts_sublist (rows : List Row) : (firsts key rows).Sublist rows := by
  induction rows using List.reverseRecOn with
  | nil => exact List.Sublist.refl _
  | append_singleton rows row ih =>
    by_cases twin : key row ∈ rows.map key
    · rw [firsts_twin twin]
      exact ih.trans (List.sublist_append_left _ _)
    · rw [firsts_fresh twin]
      exact ih.append_right _

theorem firsts_of_nodup (nodup : (rows.map key).Nodup) : firsts key rows = rows := by
  induction rows using List.reverseRecOn with
  | nil => rfl
  | append_singleton rows row ih =>
    rw [List.map_append, List.map_singleton, List.nodup_append] at nodup
    have fresh : key row ∉ rows.map key := fun member =>
      nodup.2.2 _ member _ (List.mem_singleton_self _) rfl
    rw [firsts_fresh fresh, ih nodup.1]

theorem firsts_filter (rows : List Row) (gone : Key) :
    firsts key (rows.filter fun row => key row ≠ gone) =
      (firsts key rows).filter fun row => key row ≠ gone := by
  induction rows using List.reverseRecOn with
  | nil => rfl
  | append_singleton rows row ih =>
    by_cases here : key row = gone
    · have dropped : (rows ++ [row]).filter (fun row => key row ≠ gone) =
          rows.filter fun row => key row ≠ gone := by simp [here]
      rw [dropped, ih]
      by_cases twin : key row ∈ rows.map key
      · rw [firsts_twin twin]
      · rw [firsts_fresh twin, List.filter_append]
        simp [here]
    · have kept : (rows ++ [row]).filter (fun row => key row ≠ gone) =
          rows.filter (fun row => key row ≠ gone) ++ [row] := by simp [here]
      have among : key row ∈ (rows.filter fun row => key row ≠ gone).map key ↔
          key row ∈ rows.map key := by
        simp only [List.mem_map, List.mem_filter, decide_eq_true_eq]
        constructor
        · rintro ⟨other, ⟨member, _⟩, same⟩
          exact ⟨other, member, same⟩
        · rintro ⟨other, member, same⟩
          exact ⟨other, ⟨member, same ▸ here⟩, same⟩
      rw [kept]
      by_cases twin : key row ∈ rows.map key
      · rw [firsts_twin twin, firsts_twin (among.mpr twin), ih]
      · rw [firsts_fresh twin, firsts_fresh fun inside => twin (among.mp inside), ih,
          List.filter_append]
        simp [here]

/-- Without the row at a position, a list with one row a key is the rows of the other keys. -/
theorem eraseIdx_of_nodup (nodup : (rows.map key).Nodup) (here : rows[index]? = some row) :
    rows.eraseIdx index = rows.filter fun other => key other ≠ key row := by
  induction rows generalizing index with
  | nil => cases here
  | cons head rows ih =>
    rw [List.map_cons, List.nodup_cons] at nodup
    cases index with
    | zero =>
      obtain rfl := Option.some.inj here
      have others : ∀ other ∈ rows, key other ≠ key head := fun other member same =>
        nodup.1 (same ▸ List.mem_map_of_mem member)
      rw [List.eraseIdx_cons_zero, List.filter_cons_of_neg (by simp)]
      exact (List.filter_eq_self.mpr fun other member => by simpa using others other member).symm
    | succ =>
      rw [List.getElem?_cons_succ] at here
      have other : key head ≠ key row := fun same =>
        nodup.1 (same ▸ List.mem_map_of_mem (List.mem_of_getElem? here))
      rw [List.eraseIdx_cons_succ, ih nodup.2 here, List.filter_cons_of_pos (by simpa using other)]

theorem firsts_inj {left right : Nat} (inside : left < (firsts key rows).length)
    (same : (firsts key rows)[left]?.map key = (firsts key rows)[right]?.map key) :
    left = right := by
  rw [← List.getElem?_map, ← List.getElem?_map] at same
  exact (List.getElem?_inj (by simpa using inside) (firsts_nodup rows)).mp same

theorem isTwin_append {rows more : List Row} (inside : slot < rows.length) :
    isTwin key (rows ++ more) slot = isTwin key rows slot := by
  rw [isTwin, isTwin, List.getElem?_append_left inside,
    List.take_append_of_le_length (Nat.le_of_lt inside)]

theorem isTwin_concat (key : Row → Key) (rows : List Row) (row : Row) :
    isTwin key (rows ++ [row]) rows.length = (rows.map key).contains (key row) := by
  simp [isTwin]

theorem isTwin_lt (twin : isTwin key rows slot = true) : slot < rows.length := by
  by_contra outside
  rw [isTwin, List.getElem?_eq_none (Nat.le_of_not_lt outside)] at twin
  cases twin

theorem twins_succ (rows : List Row) (bound : Nat) :
    twins key rows (bound + 1) = twins key rows bound + (isTwin key rows bound).toNat := by
  rw [twins, List.range_succ, List.countP_append, twins, List.countP_singleton]
  cases isTwin key rows bound <;> rfl

theorem twins_append {rows more : List Row} (inside : bound ≤ rows.length) :
    twins key (rows ++ more) bound = twins key rows bound := by
  apply List.countP_congr
  intro slot member
  rw [isTwin_append (Nat.lt_of_lt_of_le (List.mem_range.mp member) inside)]

theorem twins_mono (key : Row → Key) (rows : List Row) {less more : Nat} (le : less ≤ more) :
    twins key rows less ≤ twins key rows more := by
  induction le with
  | refl => exact Nat.le_refl _
  | step _ ih =>
    rw [twins_succ]
    exact Nat.le_add_right_of_le ih

theorem twins_concat (key : Row → Key) (rows : List Row) (row : Row) :
    twins key (rows ++ [row]) rows.length = twins key rows rows.length :=
  twins_append (Nat.le_refl _)

theorem twins_lt (twin : isTwin key rows slot = true)
    (before : slot < bound) : twins key rows slot < twins key rows bound := by
  have counted := twins_mono key rows (Nat.succ_le_of_lt before)
  rw [Nat.succ_eq_add_one, twins_succ, twin] at counted
  exact counted

theorem twins_eq {less more : Nat} (le : less ≤ more)
    (clear : ∀ slot, less ≤ slot → slot < more → isTwin key rows slot = false) :
    twins key rows more = twins key rows less := by
  induction le with
  | refl => rfl
  | @step more le ih =>
    rw [twins_succ, clear more le (Nat.lt_succ_self _), ih fun slot low high =>
      clear slot low (Nat.lt_succ_of_lt high)]
    rfl

theorem twins_eq_zero :
    twins key rows bound = 0 ↔ ∀ slot < bound, isTwin key rows slot = false := by
  simp [twins, List.countP_eq_zero]

theorem firsts_length (key : Row → Key) (rows : List Row) :
    (firsts key rows).length + twins key rows rows.length = rows.length := by
  induction rows using List.reverseRecOn with
  | nil => rfl
  | append_singleton rows row ih =>
    rw [List.length_append, List.length_singleton, twins_succ, twins_append (Nat.le_refl _),
      isTwin_concat]
    by_cases twin : key row ∈ rows.map key
    · rw [firsts_twin twin, List.contains_iff_mem.mpr twin]
      simp only [Bool.toNat_true]
      omega
    · have fresh : (rows.map key).contains (key row) = false := by simpa using twin
      rw [firsts_fresh twin, fresh, List.length_append, List.length_singleton]
      simp only [Bool.toNat_false]
      omega

theorem firsts_getElem?_concat {kept : Row} (found : (firsts key rows)[first]? = some kept) :
    (firsts key (rows ++ [row]))[first]? = some kept := by
  by_cases twin : key row ∈ rows.map key
  · rw [firsts_twin twin]
    exact found
  · rw [firsts_fresh twin, List.getElem?_append_left (List.getElem?_eq_some_iff.mp found).1]
    exact found

structure Position (key : Row → Key) (rows : List Row) (slot first : Nat) : Prop where
  kept : ∃ held row, (firsts key rows)[first]? = some held ∧ rows[slot]? = some row ∧
    key held = key row
  le : first + twins key rows (slot + 1) ≤ slot
  eq : isTwin key rows slot = false → first + twins key rows slot = slot

theorem Position.concat (position : Position key rows slot first)
    (row : Row) : Position key (rows ++ [row]) slot first := by
  obtain ⟨held, here, found, at_, same⟩ := position.kept
  have inside : slot < rows.length := (List.getElem?_eq_some_iff.mp at_).1
  constructor
  · exact ⟨held, here, firsts_getElem?_concat found,
      by rw [List.getElem?_append_left inside, at_], same⟩
  · rw [twins_append (Nat.succ_le_of_lt inside)]
    exact position.le
  · rw [isTwin_append inside, twins_append (Nat.le_of_lt inside)]
    exact position.eq

theorem exists_position {slot : Nat} (inside : slot < rows.length) :
    ∃ first, Position key rows slot first := by
  induction rows using List.reverseRecOn with
  | nil => cases inside
  | append_singleton rows row ih =>
    rw [List.length_append, List.length_singleton] at inside
    rcases Nat.lt_succ_iff_lt_or_eq.mp inside with earlier | rfl
    · obtain ⟨first, position⟩ := ih earlier
      exact ⟨first, position.concat row⟩
    · have counted := firsts_length key rows
      by_cases twin : key row ∈ rows.map key
      · obtain ⟨held, member, same⟩ := List.mem_map.mp (mem_firsts_map.mpr twin)
        obtain ⟨first, small, here⟩ := List.mem_iff_getElem.mp member
        refine ⟨first, ⟨held, row, ?_, by simp, same⟩, ?_, ?_⟩
        · rw [firsts_twin twin, List.getElem?_eq_getElem small, here]
        · rw [twins_succ, twins_append (Nat.le_refl _), isTwin_concat,
            List.contains_iff_mem.mpr twin]
          simp only [Bool.toNat_true]
          omega
        · rw [isTwin_concat, List.contains_iff_mem.mpr twin]
          exact nofun
      · have fresh : (rows.map key).contains (key row) = false := by simpa using twin
        refine ⟨(firsts key rows).length, ⟨row, row, ?_, by simp, rfl⟩, ?_, ?_⟩
        · rw [firsts_fresh twin]
          simp
        · rw [twins_succ, twins_append (Nat.le_refl _), isTwin_concat, fresh]
          simp only [Bool.toNat_false]
          omega
        · intro _
          rw [twins_append (Nat.le_refl _)]
          exact counted

/-- The first twin that, with the twins before it, reaches a position. -/
structure Meets (key : Row → Key) (rows : List Row) (index slot : Nat) : Prop where
  twin : isTwin key rows slot = true
  reaches : index ≤ slot + twins key rows slot
  first : ∀ earlier < slot, isTwin key rows earlier = true →
    earlier + twins key rows earlier < index

/-- Where the loop takes a position: back by the twins before it, to the row kept in the place
of the twin it meets, or back only by the twins before one that passes it. -/
inductive Follows (key : Row → Key) (rows : List Row) (index : Nat) : Nat → Prop
  | clear (before : ∀ slot, isTwin key rows slot = true → slot + twins key rows slot < index) :
      Follows key rows index (index - twins key rows rows.length)
  | caught {slot first : Nat} (meets : Meets key rows index slot)
      (here : slot + twins key rows slot = index) (position : Position key rows slot first) :
      Follows key rows index first
  | passed {slot : Nat} (meets : Meets key rows index slot)
      (beyond : index < slot + twins key rows slot) :
      Follows key rows index (index - twins key rows slot)

theorem Meets.concat (meets : Meets key rows index slot)
    (row : Row) : Meets key (rows ++ [row]) index slot := by
  have inside := isTwin_lt meets.twin
  constructor
  · rw [isTwin_append inside]
    exact meets.twin
  · rw [twins_append (Nat.le_of_lt inside)]
    exact meets.reaches
  · intro earlier before twin
    have within := Nat.lt_trans before inside
    rw [isTwin_append within] at twin
    rw [twins_append (Nat.le_of_lt within)]
    exact meets.first earlier before twin

theorem Meets.last (twin : key row ∈ rows.map key)
    (before : ∀ slot, isTwin key rows slot = true → slot + twins key rows slot < index)
    (reaches : index ≤ rows.length + twins key rows rows.length) :
    Meets key (rows ++ [row]) index rows.length := by
  constructor
  · rw [isTwin_concat]
    exact List.contains_iff_mem.mpr twin
  · rw [twins_append (Nat.le_refl _)]
    exact reaches
  · intro earlier inside twin
    rw [isTwin_append inside] at twin
    rw [twins_append (Nat.le_of_lt inside)]
    exact before earlier twin

theorem place_fresh (slot : Nat) (gathered : List Row × Nat)
    (fresh : key row ∉ gathered.1.map key) : (place key slot row gathered).2 = gathered.2 := by
  rw [place, (findIdx?_eq_none_iff _ _).mpr fresh]

theorem place_twin (slot : Nat) (gathered : List Row × Nat) (held : key row ∈ gathered.1.map key) :
    ∃ first held, gathered.1[first]? = some held ∧ key held = key row ∧
      (place key slot row gathered).2 =
        if slot = gathered.2 then first
        else if slot < gathered.2 then gathered.2 - 1 else gathered.2 := by
  cases found : gathered.1.findIdx? fun held => key held = key row with
  | none => exact absurd held ((findIdx?_eq_none_iff _ _).mp found)
  | some first =>
    obtain ⟨small, same, _⟩ := List.findIdx?_eq_some_iff_getElem.mp found
    refine ⟨first, _, List.getElem?_eq_getElem small, by simpa using same, ?_⟩
    rw [place, found]

theorem Follows.place_clear (twin : key row ∈ rows.map key)
    (before : ∀ slot, isTwin key rows slot = true → slot + twins key rows slot < index) :
    Follows key (rows ++ [row]) index
      (place key rows.length row (firsts key rows, index - twins key rows rows.length)).2 := by
  have concat := isTwin_concat key rows row
  rw [List.contains_iff_mem.mpr twin] at concat
  obtain ⟨first, held, found, same, moved⟩ := place_twin rows.length
    (firsts key rows, index - twins key rows rows.length) (mem_firsts_map.mpr twin)
  rw [moved]
  dsimp only at found ⊢
  have counted := twins_concat key rows row
  have nonempty : 0 < rows.length := by
    rw [← List.length_map key]
    exact List.length_pos_of_mem twin
  by_cases reaches : index ≤ rows.length + twins key rows rows.length
  · have meets := Meets.last twin before reaches
    by_cases here : rows.length + twins key rows rows.length = index
    · rw [if_pos (by omega)]
      apply Follows.caught meets (by rw [counted, here])
      have small := (List.getElem?_eq_some_iff.mp found).1
      have whole := firsts_length key rows
      refine ⟨⟨held, row, firsts_getElem?_concat found, by simp, same⟩, ?_, ?_⟩
      · rw [twins_succ, counted, concat]
        simp only [Bool.toNat_true]
        omega
      · rw [concat]
        exact nofun
    · rw [if_neg (by omega), if_neg (by omega), ← counted]
      exact .passed meets (by rw [counted]; omega)
  · have all : twins key (rows ++ [row]) (rows ++ [row]).length =
        twins key rows rows.length + 1 := by
      rw [List.length_append, List.length_singleton, twins_succ, counted, concat]
      rfl
    rw [if_neg (by omega), if_pos (by omega)]
    have clear : ∀ slot, isTwin key (rows ++ [row]) slot = true →
        slot + twins key (rows ++ [row]) slot < index := by
      intro slot among
      have inside := isTwin_lt among
      rw [List.length_append, List.length_singleton] at inside
      rcases Nat.lt_succ_iff_lt_or_eq.mp inside with earlier | rfl
      · rw [isTwin_append earlier] at among
        rw [twins_append (Nat.le_of_lt earlier)]
        exact before slot among
      · rw [counted]
        omega
    have result := Follows.clear clear
    rw [all] at result
    rwa [Nat.sub_sub]

theorem place_low {gathered : List Row × Nat} (low : gathered.2 < slot)
    : (place key slot row gathered).2 = gathered.2 := by
  by_cases held : key row ∈ gathered.1.map key
  · obtain ⟨first, _, _, _, moved⟩ := place_twin slot gathered held
    rw [moved, if_neg (by omega), if_neg (by omega)]
  · exact place_fresh slot gathered held

theorem follows (key : Row → Key) (rows : List Row) (index : Nat) : Follows key rows index (follow key rows index).2 := by
  induction rows using List.reverseRecOn with
  | nil => exact .clear fun slot twin => absurd (isTwin_lt twin) (Nat.not_lt_zero _)
  | append_singleton rows row ih =>
    rw [follow_concat]
    have kept := follow_fst key rows index
    generalize gathered : follow key rows index = state at ih kept ⊢
    obtain ⟨firsts', moved⟩ := state
    simp only at ih kept
    subst kept
    cases ih with
    | clear before =>
      by_cases twin : key row ∈ rows.map key
      · exact .place_clear twin before
      · have fresh : (rows.map key).contains (key row) = false := by simpa using twin
        rw [place_fresh rows.length (firsts key rows, index - twins key rows rows.length)
          fun held => twin (mem_firsts_map.mp held)]
        have all : twins key (rows ++ [row]) (rows ++ [row]).length =
            twins key rows rows.length := by
          rw [List.length_append, List.length_singleton, twins_succ,
            twins_append (Nat.le_refl _), isTwin_concat, fresh]
          rfl
        simp only
        rw [← all]
        apply Follows.clear
        intro slot among
        have inside := isTwin_lt among
        rw [List.length_append, List.length_singleton] at inside
        rcases Nat.lt_succ_iff_lt_or_eq.mp inside with earlier | rfl
        · rw [isTwin_append earlier] at among
          rw [twins_append (Nat.le_of_lt earlier)]
          exact before slot among
        · rw [isTwin_concat, fresh] at among
          cases among
    | @caught slot first meets here position =>
      have inside := isTwin_lt meets.twin
      have small := position.le
      rw [place_low (by simp only; omega)]
      apply Follows.caught (meets.concat row) ?_ (position.concat row)
      rw [twins_append (Nat.le_of_lt inside)]
      exact here
    | @passed slot meets beyond =>
      have inside := isTwin_lt meets.twin
      have counted : twins key (rows ++ [row]) slot = twins key rows slot :=
        twins_append (Nat.le_of_lt inside)
      rw [place_low (by simp only; omega), ← counted]
      apply Follows.passed (meets.concat row)
      rw [counted]
      exact beyond

variable (key)

def select (rows : List Row) (index : Nat) : Option Row :=
  let gathered := follow key rows index
  gathered.1[if gathered.2 < gathered.1.length then gathered.2 else 0]?

def wanted (rows : List Row) (index : Nat) : Option Row :=
  rows[if index < rows.length then index else 0]?

/-- When the loop takes a position to the row it is meant for: no twin meets it but a later
row; or one meets it in the very slot, and is of the key wanted; or one passes it, the first
row's key is wanted and the position is past the end of the rows kept. -/
def Finds (rows : List Row) (index : Nat) : Prop :=
  ∀ slot, Meets key rows index slot → index < slot ∨
    slot + twins key rows slot = index ∧ rows[slot]?.map key = (wanted rows index).map key ∨
    index < slot + twins key rows slot ∧ rows[0]?.map key = (wanted rows index).map key ∧
      rows.length - twins key rows rows.length ≤ index - twins key rows slot

variable {key}

theorem Meets.unique {left right : Nat} (meets : Meets key rows index left)
    (other : Meets key rows index right) : left = right := by
  rcases Nat.lt_trichotomy left right with less | same | more
  · exact absurd (other.first left less meets.twin) (Nat.not_lt.mpr meets.reaches)
  · exact same
  · exact absurd (meets.first right more other.twin) (Nat.not_lt.mpr other.reaches)

theorem isTwin_pos (twin : isTwin key rows slot = true) : 0 < slot := by
  cases slot with
  | zero => simp [isTwin] at twin
  | succ slot => exact Nat.succ_pos slot

theorem Position.map (position : Position key rows slot first) :
    (firsts key rows)[first]?.map key = rows[slot]?.map key := by
  obtain ⟨held, row, found, here, same⟩ := position.kept
  rw [found, here, Option.map_some, Option.map_some, same]

theorem firsts_zero (nonempty : 0 < rows.length) :
    (firsts key rows)[0]?.map key = rows[0]?.map key := by
  obtain ⟨first, position⟩ := @exists_position _ _ _ key _ _ nonempty
  have zero : first = 0 := Nat.le_zero.mp (Nat.le_trans (Nat.le_add_right _ _) position.le)
  rw [← zero, position.map]
  rw [zero]

theorem firsts_pos (nonempty : 0 < rows.length) : 0 < (firsts key rows).length := by
  obtain ⟨first, position⟩ := @exists_position _ _ _ key _ _ nonempty
  obtain ⟨held, _, found, _⟩ := position.kept
  exact Nat.lt_of_le_of_lt (Nat.zero_le _) (List.getElem?_eq_some_iff.mp found).1

theorem select_of_lt (inside : (follow key rows index).2 < (firsts key rows).length) :
    select key rows index = (firsts key rows)[(follow key rows index).2]? := by
  rw [select]
  simp only [follow_fst, if_pos inside]

theorem select_of_le (nonempty : 0 < rows.length)
    (outside : (firsts key rows).length ≤ (follow key rows index).2) :
    (select key rows index).map key = rows[0]?.map key := by
  rw [select]
  simp only [follow_fst, if_neg (Nat.not_lt.mpr outside), firsts_zero nonempty]

theorem wanted_of_lt (inside : index < rows.length) : wanted rows index = rows[index]? := by
  rw [wanted, if_pos inside]

theorem wanted_of_le (outside : rows.length ≤ index) : wanted rows index = rows[0]? := by
  rw [wanted, if_neg (Nat.not_lt.mpr outside)]

theorem select_fresh (inside : index < rows.length) (fresh : isTwin key rows index = false)
    (moved : (follow key rows index).2 = index - twins key rows index) :
    (select key rows index).map key = (wanted rows index).map key := by
  obtain ⟨first, position⟩ := @exists_position _ _ _ key _ _ inside
  have here : first = (follow key rows index).2 := by
    have := position.eq fresh
    omega
  obtain ⟨held, _, found, _⟩ := position.kept
  rw [here] at found
  rw [select_of_lt (List.getElem?_eq_some_iff.mp found).1, wanted_of_lt inside, ← here,
    position.map]

theorem select_beyond (nonempty : 0 < rows.length)
    (outside : rows.length ≤ index) (counted : bound ≤ rows.length)
    (moved : (follow key rows index).2 = index - twins key rows bound) :
    (select key rows index).map key = (wanted rows index).map key := by
  have whole := firsts_length key rows
  have fewer := twins_mono key rows counted
  rw [wanted_of_le outside, select_of_le nonempty (by omega)]

theorem select_caught (position : Position key rows slot
    (follow key rows index).2) : (select key rows index).map key = rows[slot]?.map key := by
  obtain ⟨held, _, found, _⟩ := position.kept
  rw [select_of_lt (List.getElem?_eq_some_iff.mp found).1, position.map]

/-- A position that a twin passed does not find a row of a later slot, but where it falls off
the end. -/
theorem select_passed (meets : Meets key rows index slot)
    (before : slot ≤ index) (moved : (follow key rows index).2 = index - twins key rows slot)
    (inside : (follow key rows index).2 < (firsts key rows).length) :
    (select key rows index).map key ≠ (wanted rows index).map key := by
  have whole := firsts_length key rows
  have fewer := twins_mono key rows (Nat.le_of_lt (isTwin_lt meets.twin))
  have within : index < rows.length := by omega
  obtain ⟨first, position⟩ := @exists_position _ _ _ key _ _ within
  have counted := twins_lt meets.twin (Nat.lt_add_one_of_le before)
  have small := position.le
  rw [select_of_lt inside, wanted_of_lt within, ← position.map]
  intro same
  have := firsts_inj inside same
  omega

theorem select_iff (nonempty : 0 < rows.length) :
    (select key rows index).map key = (wanted rows index).map key ↔ Finds key rows index := by
  have followed := follows key rows index
  generalize target : (follow key rows index).2 = moved at followed
  cases followed with
  | clear before =>
    have finds : Finds key rows index := fun slot meets =>
      absurd (before slot meets.twin) (Nat.not_lt.mpr meets.reaches)
    refine iff_of_true ?_ finds
    by_cases inside : index < rows.length
    · have clear : ∀ slot, index ≤ slot → slot < rows.length → isTwin key rows slot = false := by
        intro slot late _
        by_contra twin
        have := before slot (by simpa using twin)
        omega
      rw [twins_eq (Nat.le_of_lt inside) clear] at target
      exact select_fresh inside (clear index (Nat.le_refl _) inside) target
    · exact select_beyond nonempty (Nat.le_of_not_lt inside) (Nat.le_refl _) target
  | @caught slot first meets here position =>
    rw [← target] at position
    rw [select_caught position]
    constructor
    · intro same other others
      obtain rfl := meets.unique others
      exact .inr (.inl ⟨here, same⟩)
    · intro finds
      rcases finds slot meets with late | ⟨_, same⟩ | ⟨beyond, _⟩
      · omega
      · exact same
      · omega
  | @passed slot meets beyond =>
    have inside := isTwin_lt meets.twin
    by_cases late : index < slot
    · have finds : Finds key rows index := by
        intro other others
        obtain rfl := meets.unique others
        exact .inl late
      refine iff_of_true ?_ finds
      have clear : ∀ earlier, index ≤ earlier → earlier < slot →
          isTwin key rows earlier = false := by
        intro earlier low high
        by_contra twin
        have := meets.first earlier high (by simpa using twin)
        omega
      rw [twins_eq (Nat.le_of_lt late) clear] at target
      exact select_fresh (Nat.lt_trans late inside) (clear index (Nat.le_refl _) late) target
    · have whole := firsts_length key rows
      by_cases short : (follow key rows index).2 < (firsts key rows).length
      · apply iff_of_false (select_passed meets (Nat.le_of_not_lt late) target short)
        intro finds
        rcases finds slot meets with early | ⟨here, _⟩ | ⟨_, _, long⟩
        · exact late early
        · omega
        · omega
      · rw [select_of_le nonempty (Nat.le_of_not_lt short)]
        constructor
        · intro same other others
          obtain rfl := meets.unique others
          exact .inr (.inr ⟨beyond, same, by omega⟩)
        · intro finds
          rcases finds slot meets with early | ⟨here, _⟩ | ⟨_, same, _⟩
          · exact absurd early late
          · omega
          · exact same

/-- A position among the rows kept, followed through the rows once more, finds its own row
exactly when no row up to it is a twin. -/
theorem select_again (inside : index < (firsts key rows).length) :
    (select key rows index).map key = (firsts key rows)[index]?.map key ↔
      ∀ slot ≤ index, isTwin key rows slot = false := by
  have followed := follows key rows index
  generalize target : (follow key rows index).2 = moved at followed
  have stays : ∀ bound, (follow key rows index).2 = index - twins key rows bound →
      ((select key rows index).map key = (firsts key rows)[index]?.map key ↔
        index - twins key rows bound = index) := by
    intro bound moves
    have within : (follow key rows index).2 < (firsts key rows).length := by omega
    rw [select_of_lt within, ← moves]
    constructor
    · exact firsts_inj within
    · intro same
      rw [same]
  cases followed with
  | clear before =>
    rw [stays _ target]
    constructor
    · intro same slot low
      by_contra twin
      have twin : isTwin key rows slot = true := by simpa using twin
      have := twins_lt twin (isTwin_lt twin)
      have := before slot twin
      omega
    · intro clear
      rw [twins_eq_zero.mpr, Nat.sub_zero]
      intro slot _
      by_contra twin
      have twin : isTwin key rows slot = true := by simpa using twin
      have small := before slot twin
      rw [clear slot (by omega)] at twin
      cases twin
  | @caught slot first meets here position =>
    have small := position.le
    have counted := twins_lt meets.twin (Nat.lt_add_one slot)
    rw [← target] at position
    obtain ⟨held, _, found, _⟩ := position.kept
    have within := (List.getElem?_eq_some_iff.mp found).1
    have low : slot ≤ index := by omega
    rw [select_of_lt within]
    apply iff_of_false
    · intro same
      have := firsts_inj within same
      omega
    · intro clear
      have twin := meets.twin
      rw [clear slot low] at twin
      cases twin
  | @passed slot meets beyond =>
    have positive := isTwin_pos meets.twin
    rw [stays _ target]
    constructor
    · intro same earlier low
      by_contra twin
      have twin : isTwin key rows earlier = true := by simpa using twin
      rcases Nat.lt_or_ge earlier slot with before | after
      · have := twins_lt twin before
        have := meets.first earlier before twin
        omega
      · omega
    · intro clear
      rw [twins_eq_zero.mpr, Nat.sub_zero]
      intro earlier before
      by_contra twin
      have twin : isTwin key rows earlier = true := by simpa using twin
      have small := meets.first earlier before twin
      rw [clear earlier (by omega)] at twin
      cases twin

end FirstSeen
