import Mathlib.Data.List.Nodup
import Mathlib.Data.List.Induction

/-!
# Rows gathered by key

A list is gathered one row at a time into one group a key, each group in the order its rows came,
the groups in the order of their first rows.
-/

namespace Grouping

variable {Row Key : Type} [DecidableEq Key] (key : Row → Key)

variable {row : Row}

/-- Rows of one key: the first, and those behind it. -/
structure Bunch (Row : Type) where
  first : Row
  rest : List Row

namespace Bunch

def rows (group : Bunch Row) : List Row := group.first :: group.rest

def add (row : Row) (group : Bunch Row) : Bunch Row := ⟨group.first, group.rest ++ [row]⟩

@[simp] theorem add_first (row : Row) (group : Bunch Row) : (group.add row).first = group.first :=
  rfl

@[simp] theorem add_rows (row : Row) (group : Bunch Row) :
    (group.add row).rows = group.rows ++ [row] := rfl

end Bunch

/-- The row joins the first group of its key, or opens one behind the others. -/
def put : List (Bunch Row) → Row → List (Bunch Row)
  | [], row => [⟨row, []⟩]
  | group :: groups, row =>
    if key group.first = key row then group.add row :: groups else group :: put groups row

def groups (rows : List Row) : List (Bunch Row) := rows.foldl (put key) []

def keys (gathered : List (Bunch Row)) : List Key := gathered.map fun group => key group.first

/-- The groups gather the rows: each has all rows of its key, no two have one key, and every row
is in one. -/
structure Gathers (rows : List Row) (gathered : List (Bunch Row)) : Prop where
  whole : ∀ group ∈ gathered, group.rows = rows.filter fun row => key row = key group.first
  apart : (keys key gathered).Nodup
  covered : ∀ row ∈ rows, key row ∈ keys key gathered

variable {key}

theorem groups_concat (rows : List Row) (row : Row) :
    groups key (rows ++ [row]) = put key (groups key rows) row := List.foldl_concat ..

theorem put_new {gathered : List (Bunch Row)} (fresh : key row ∉ keys key gathered) :
    put key gathered row = gathered ++ [⟨row, []⟩] := by
  induction gathered with
  | nil => rfl
  | cons group _ ih =>
    simp only [keys, List.map_cons, List.mem_cons, not_or] at fresh
    have other : ¬ key group.first = key row := fun same => fresh.1 same.symm
    rw [put, if_neg other, ih fresh.2, List.cons_append]

theorem put_known {gathered : List (Bunch Row)} (apart : (keys key gathered).Nodup)
    (known : key row ∈ keys key gathered) :
    put key gathered row = gathered.map fun group =>
      if key group.first = key row then group.add row else group := by
  induction gathered with
  | nil => cases known
  | cons group gathered ih =>
    simp only [keys, List.map_cons, List.nodup_cons] at apart
    by_cases same : key group.first = key row
    · have others : ∀ other ∈ gathered, ¬ key other.first = key row := by
        intro other member equal
        apply apart.1
        rw [same, ← equal]
        exact List.mem_map_of_mem member
      rw [put, if_pos same, List.map_cons, if_pos same]
      congr 1
      have unmoved : (gathered.map fun other =>
          if key other.first = key row then other.add row else other) = gathered.map id :=
        List.map_congr_left fun other member => if_neg (others other member)
      rw [unmoved, List.map_id]
    · have later : key row ∈ keys key gathered := by
        simp only [keys, List.map_cons, List.mem_cons] at known
        exact known.resolve_left fun equal => same equal.symm
      rw [put, if_neg same, List.map_cons, if_neg same, ih apart.2 later]

theorem keys_extended (gathered : List (Bunch Row)) (row : Row) :
    keys key (gathered.map fun group =>
      if key group.first = key row then group.add row else group) = keys key gathered := by
  simp only [keys, List.map_map]
  apply List.map_congr_left
  intro group _
  simp only [Function.comp_apply]
  split <;> rfl

theorem Gathers.put {rows : List Row} {gathered : List (Bunch Row)}
    (gathers : Gathers key rows gathered) :
    Gathers key (rows ++ [row]) (Grouping.put key gathered row) := by
  by_cases known : key row ∈ keys key gathered
  · rw [put_known gathers.apart known]
    constructor
    case whole =>
      intro extended member
      have ⟨group, inside, same⟩ := List.mem_map.mp member
      rw [← same, List.filter_append]
      by_cases equal : key group.first = key row
      · simp [gathers.whole group inside, equal]
      · have apart : ¬ key row = key group.first := fun same => equal same.symm
        simp [if_neg equal, gathers.whole group inside, apart]
    case apart =>
      rw [keys_extended]
      exact gathers.apart
    case covered =>
      intro other member
      rw [keys_extended]
      rcases List.mem_append.mp member with earlier | last
      · exact gathers.covered other earlier
      · rw [List.mem_singleton.mp last]
        exact known
  · rw [put_new known]
    constructor
    case whole =>
      intro group member
      rw [List.filter_append]
      rcases List.mem_append.mp member with earlier | last
      · have apart : ¬ key row = key group.first := by
          intro same
          apply known
          rw [same]
          exact List.mem_map_of_mem earlier
        simp [gathers.whole group earlier, apart]
      · rw [List.mem_singleton.mp last]
        have none_earlier : (rows.filter fun other => key other = key row) = [] := by
          rw [List.filter_eq_nil_iff]
          intro other inside equal
          apply known
          rw [← of_decide_eq_true equal]
          exact gathers.covered other inside
        simp [none_earlier, Bunch.rows]
    case apart =>
      simp only [keys, List.map_append, List.map_cons, List.map_nil]
      exact List.nodup_append_comm.mp (List.nodup_cons.mpr ⟨known, gathers.apart⟩)
    case covered =>
      intro other member
      simp only [keys, List.map_append, List.map_cons, List.map_nil, List.mem_append,
        List.mem_singleton]
      rcases List.mem_append.mp member with earlier | last
      · exact Or.inl (gathers.covered other earlier)
      · exact Or.inr (by rw [List.mem_singleton.mp last])

theorem gathers_groups (key : Row → Key) (rows : List Row) :
    Gathers key rows (groups key rows) := by
  induction rows using List.reverseRecOn with
  | nil =>
    constructor
    case whole =>
      intro group member
      cases member
    case apart => exact List.nodup_nil
    case covered =>
      intro row member
      cases member
  | append_singleton _ _ ih =>
    rw [groups_concat]
    exact ih.put

theorem foldl_summary {Summary : Type} {of : Bunch Row → Summary}
    {add : List Summary → Row → List Summary}
    (put_of : ∀ gathered row, add (gathered.map of) row = (put key gathered row).map of)
    (rows : List Row) : rows.foldl add [] = (groups key rows).map of := by
  induction rows using List.reverseRecOn with
  | nil => rfl
  | append_singleton rows row ih =>
    rw [List.foldl_concat, ih, groups_concat]
    exact put_of (groups key rows) row

end Grouping
