import Mathlib.Data.List.Perm.Basic
import Mathlib.Order.MinMax

/-!
# Columns of ragged rows

Rows of different lengths are read column by column.  The rows that are still
present in a column are exactly those that are long enough.
-/

namespace List

variable {α : Type*}

/-- The entries that the rows have at `index`. -/
def column (rows : List (List α)) (index : Nat) : List α :=
  rows.filterMap (·[index]?)

/-- The number of columns that are not empty. -/
def width (rows : List (List α)) : Nat :=
  rows.foldr (fun row rest => max row.length rest) 0

theorem lt_width_iff {rows : List (List α)} {index : Nat} :
    index < width rows ↔ ∃ row ∈ rows, index < row.length := by
  induction rows with
  | nil => simp [width]
  | cons row rows ih =>
      have unfolded : width (row :: rows) = max row.length (width rows) := rfl
      rw [unfolded, lt_max_iff, ih]
      simp

theorem column_eq_nil_iff {rows : List (List α)} {index : Nat} :
    column rows index = [] ↔ width rows ≤ index := by
  rw [← not_lt, lt_width_iff, column, filterMap_eq_nil_iff]
  simp

/-- Two nested passes may be exchanged. -/
theorem flatMap_flatMap_perm {β γ : Type*} (rows : List α) (columns : List β)
    (yield : α → β → List γ) :
    (rows.flatMap fun row => columns.flatMap (yield row)) ~
      columns.flatMap fun column => rows.flatMap (yield · column) := by
  induction rows with
  | nil => simp
  | cons row rows ih =>
      simp only [flatMap_cons]
      exact (ih.append_left _).trans (flatMap_append_perm columns _ _)

theorem flatMap_range_getElem? {row : List α} {count : Nat} (within : row.length ≤ count) :
    ((range count).flatMap fun index => row[index]?.toList) = row := by
  induction row generalizing count with
  | nil => simp
  | cons entry row ih =>
      cases count with
      | zero => cases within
      | succ count =>
          rw [range_succ_eq_map, flatMap_cons, flatMap_map]
          exact congrArg (entry :: ·) (ih (Nat.le_of_succ_le_succ within))

/-- Reading all columns reads every entry once. -/
theorem flatMap_column_perm {rows : List (List α)} {count : Nat}
    (within : ∀ row ∈ rows, row.length ≤ count) :
    (range count).flatMap (column rows) ~ rows.flatten := by
  have byRow : rows.flatten = rows.flatMap fun row =>
      (range count).flatMap fun index => row[index]?.toList := by
    rw [← flatMap_id]
    apply flatMap_congr
    exact fun row member => (flatMap_range_getElem? (within row member)).symm
  have byColumn : column rows = fun index => rows.flatMap fun row => row[index]?.toList :=
    funext fun index => filterMap_eq_flatMap_toList _ rows
  rw [byRow, byColumn]
  exact (flatMap_flatMap_perm ..).symm

end List
