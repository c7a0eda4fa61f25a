import Mathlib.Algebra.BigOperators.Group.List.Basic
import Mathlib.Algebra.GroupWithZero.Nat
import Mathlib.Data.List.Forall2
import Mathlib.Data.List.Perm.Basic

/-!
# Positions in growing lists

Histories grow at the end, so an entry keeps its position and a new entry is
found at the former length.  Pools lose entries by position, which changes
nothing about the other entries but their order.
-/

namespace List

variable {α : Type*}

theorem getElem?_concat_eq_some {items : List α} {last item : α} {index : Nat} :
    (items ++ [last])[index]? = some item ↔
      items[index]? = some item ∨ index = items.length ∧ last = item := by
  rcases Nat.lt_trichotomy index items.length with before | rfl | after
  · rw [getElem?_append_left before]
    simp [Nat.ne_of_lt before]
  · simp
  · have noItem : items[index]? = none := getElem?_eq_none (Nat.le_of_lt after)
    have outside : (items ++ [last])[index]? = none :=
      getElem?_eq_none (by rw [length_append, length_singleton]; omega)
    simp [noItem, outside, Nat.ne_of_gt after]

theorem IsPrefix.getElem?_eq_some {first second : List α} {item : α} {index : Nat}
    (isPrefix : first <+: second) (found : first[index]? = some item) :
    second[index]? = some item := by
  obtain ⟨rest, rfl⟩ := isPrefix
  obtain ⟨bound, -⟩ := getElem?_eq_some_iff.mp found
  rw [getElem?_append_left bound, found]

/-- An entry that is erased by its position comes first in some order. -/
theorem perm_cons_eraseIdx {items : List α} {item : α} {index : Nat}
    (found : items[index]? = some item) :
    items.Perm (item :: items.eraseIdx index) := by
  obtain ⟨bound, rfl⟩ := getElem?_eq_some_iff.mp found
  exact (getElem_cons_eraseIdx_perm bound).symm

theorem Forall₂.of_getElem? {β : Type*} {R : α → β → Prop} {first : List α} {second : List β}
    (related : Forall₂ R first second) {index : Nat} {a : α} {b : β}
    (firstEq : first[index]? = some a) (secondEq : second[index]? = some b) : R a b := by
  obtain ⟨firstBound, rfl⟩ := getElem?_eq_some_iff.mp firstEq
  obtain ⟨secondBound, rfl⟩ := getElem?_eq_some_iff.mp secondEq
  exact related.get firstBound secondBound

/-- Related entries leave two lists together. -/
theorem Forall₂.eraseIdx {β : Type*} {R : α → β → Prop} {first : List α} {second : List β}
    (related : Forall₂ R first second) (index : Nat) :
    Forall₂ R (first.eraseIdx index) (second.eraseIdx index) := by
  induction related generalizing index with
  | nil => exact .nil
  | cons head tail ih =>
      cases index with
      | zero => exact tail
      | succ index => exact .cons head (ih index)

theorem set_eq_self_of_getElem? {items : List α} {item : α} {index : Nat}
    (found : items[index]? = some item) : items.set index item = items := by
  obtain ⟨bound, rfl⟩ := getElem?_eq_some_iff.mp found
  exact set_getElem_self bound

theorem modify_eq_set_of_getElem? {items : List α} {item : α} {index : Nat}
    (found : items[index]? = some item) (change : α → α) :
    items.modify index change = items.set index (change item) := by
  obtain ⟨bound, rfl⟩ := getElem?_eq_some_iff.mp found
  apply ext_getElem?
  intro other
  rw [getElem?_modify, getElem?_set]
  by_cases same : index = other
  · subst same
    simp [bound]
  · simp [same]

/-- Replacing one entry changes a total by that entry alone. -/
theorem sum_map_set {items : List α} {item : α} {index : Nat}
    (found : items[index]? = some item) (replacement : α) (weight : α → Nat) :
    ((items.set index replacement).map weight).sum + weight item =
      (items.map weight).sum + weight replacement := by
  induction items generalizing index with
  | nil => cases found
  | cons first items ih =>
      cases index with
      | zero =>
          cases found
          simp only [set_cons_zero, map_cons, sum_cons]
          omega
      | succ index =>
          have rest := ih (by simpa using found)
          simp only [set_cons_succ, map_cons, sum_cons]
          omega

/-- Replacing one entry by one that yields more adds what it yields to the rest. -/
theorem flatMap_set_perm {β : Type*} {items : List α} {item replacement : α} {index : Nat}
    {yield : α → List β} {extra : List β} (found : items[index]? = some item)
    (grows : yield replacement = yield item ++ extra) :
    (items.set index replacement).flatMap yield ~ items.flatMap yield ++ extra := by
  induction items generalizing index with
  | nil => cases found
  | cons first items ih =>
      cases index with
      | zero =>
          cases found
          simp only [set_cons_zero, flatMap_cons, grows, append_assoc]
          exact perm_append_comm.append_left _
      | succ index =>
          have rest := ih (by simpa using found)
          simp only [set_cons_succ, flatMap_cons, append_assoc]
          exact rest.append_left _

/-- Remove the entry at `index` by moving the last entry into its place. -/
def swapRemove (items : List α) (index : Nat) : List α :=
  match items.getLast? with
  | none => []
  | some last => (items.set index last).dropLast

theorem map_swapRemove {β : Type*} (convert : α → β) (items : List α) (index : Nat) :
    (items.swapRemove index).map convert = (items.map convert).swapRemove index := by
  rcases eq_nil_or_concat items with rfl | ⟨init, last, rfl⟩
  · rfl
  · rw [concat_eq_append, map_append, swapRemove, swapRemove, map_singleton,
      getLast?_concat, getLast?_concat]
    simp only [map_dropLast, map_set, map_append, map_singleton]

/-- The entries after the removed one, with the last of them moved to the front. -/
def lastFirst (items : List α) : List α :=
  items.getLast?.toList ++ items.dropLast

theorem lastFirst_perm (items : List α) : items.lastFirst.Perm items := by
  rcases eq_nil_or_concat items with rfl | ⟨init, last, rfl⟩
  · exact Perm.nil
  · rw [concat_eq_append, lastFirst, getLast?_concat, dropLast_concat]
    exact (perm_append_singleton last init).symm

theorem length_lastFirst (items : List α) : items.lastFirst.length = items.length :=
  (lastFirst_perm items).length_eq

/-- A removal keeps what comes before and permutes what comes after. -/
theorem swapRemove_append_cons (front : List α) (removed : α) (rest : List α) :
    (front ++ removed :: rest).swapRemove front.length = front ++ rest.lastFirst := by
  rcases eq_nil_or_concat rest with rfl | ⟨init, last, rfl⟩
  · rw [swapRemove, getLast?_concat]
    simp [lastFirst]
  · have shape : front ++ removed :: (init ++ [last]) = front ++ removed :: init ++ [last] := by
      simp
    have replaced : (front ++ removed :: init ++ [last]).set front.length last =
        front ++ last :: init ++ [last] := by simp
    rw [concat_eq_append, shape, swapRemove, getLast?_concat]
    change ((front ++ removed :: init ++ [last]).set front.length last).dropLast = _
    rw [replaced, dropLast_concat, lastFirst, getLast?_concat, dropLast_concat]
    rfl

theorem swapRemove_perm {items : List α} {index : Nat} {item : α}
    (found : items[index]? = some item) :
    items.Perm (item :: items.swapRemove index) := by
  obtain ⟨bound, rfl⟩ := getElem?_eq_some_iff.mp found
  have split : items = items.take index ++ items[index] :: items.drop (index + 1) := by
    simp
  have lengthEq : (items.take index).length = index := length_take_of_le (Nat.le_of_lt bound)
  have removed := swapRemove_append_cons (items.take index) items[index]
    (items.drop (index + 1))
  rw [← split, lengthEq] at removed
  rw [removed]
  calc items = items.take index ++ items[index] :: items.drop (index + 1) := split
    _ ~ items[index] :: (items.take index ++ items.drop (index + 1)) := perm_middle
    _ ~ items[index] :: (items.take index ++ (items.drop (index + 1)).lastFirst) :=
      ((lastFirst_perm _).symm.append_left _).cons _

/-- What a list of positions selects from a list, if nothing is selected anywhere else. -/
theorem filterMap_getElem?_perm {β : Type*} {items : List α} {positions : List Nat}
    {select : α → Option β} (nodup : positions.Nodup)
    (within : ∀ position ∈ positions, position < items.length)
    (elsewhere : ∀ position item, items[position]? = some item → position ∉ positions →
      select item = none) :
    (positions.filterMap fun position => items[position]?.bind select) ~
      items.filterMap select := by
  let selected : Nat → Option β := fun position => items[position]?.bind select
  have lookups : (range items.length).map (fun position => items[position]?) =
      items.map some := by
    apply ext_getElem?
    intro position
    rw [getElem?_map, getElem?_map]
    by_cases bound : position < items.length
    · rw [getElem?_range bound, getElem?_eq_getElem bound]
      simp
    · rw [getElem?_eq_none (by rw [length_range]; omega), getElem?_eq_none (by omega)]
      rfl
  have whole : items.filterMap select = (range items.length).filterMap selected := by
    have composed := congrArg (filterMap fun entry => entry.bind select) lookups
    rw [filterMap_map, filterMap_map] at composed
    exact composed.symm
  have onlyPositions : (range items.length).filterMap selected =
      ((range items.length).filter (· ∈ positions)).filterMap selected := by
    rw [filterMap_filter]
    apply filterMap_congr
    intro position member
    by_cases inPositions : position ∈ positions
    · simp [inPositions]
    · have bound := mem_range.mp member
      have found := getElem?_eq_getElem bound
      simp [selected, inPositions, found, elsewhere position _ found inPositions]
  have samePositions : positions ~ (range items.length).filter (· ∈ positions) := by
    apply (perm_ext_iff_of_nodup nodup (nodup_range.filter _)).mpr
    intro position
    rw [mem_filter, mem_range, decide_eq_true_eq]
    exact ⟨fun member => ⟨within position member, member⟩, fun both => both.2⟩
  rw [whole, onlyPositions]
  exact samePositions.filterMap selected

/-- What is selected from a list is known if every entry selects the value at its position. -/
theorem map_filterMap_eq {β γ : Type*} {items : List α} {values : List γ}
    {select : α → Option β} {value : β → γ} (lengthEq : items.length = values.length)
    (selects : ∀ (position : Nat) (item : α) (expected : γ), items[position]? = some item →
      values[position]? = some expected →
        ∃ selected, select item = some selected ∧ value selected = expected) :
    (items.filterMap select).map value = values := by
  induction items generalizing values with
  | nil => exact (length_eq_zero_iff.mp lengthEq.symm).symm
  | cons item items ih =>
      cases values with
      | nil => cases lengthEq
      | cons expected values =>
          obtain ⟨selected, selectedEq, valueEq⟩ := selects 0 item expected rfl rfl
          rw [filterMap_cons_some selectedEq, map_cons, valueEq,
            ih (Nat.succ.inj lengthEq) fun position item expected found expectedAt =>
              selects (position + 1) item expected found expectedAt]

end List
