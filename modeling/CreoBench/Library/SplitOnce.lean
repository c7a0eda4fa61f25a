import Mathlib.Data.List.Basic

/-!
# Splitting a list at one separator

A list is split at the first or at the last occurrence of a separator.  Both splits are
determined by the list that is put together again and by the side on which no
separator is left.
-/

namespace List

variable {α : Type*} [DecidableEq α] {separator : α} {list before after : List α}

/-- The parts before and after the first separator. -/
def splitOnce (separator : α) : List α → Option (List α × List α)
  | [] => none
  | head :: tail =>
      if head = separator then some ([], tail)
      else (splitOnce separator tail).map fun parts => (head :: parts.1, parts.2)

/-- The parts before and after the last separator. -/
def rsplitOnce (separator : α) (list : List α) : Option (List α × List α) :=
  (splitOnce separator list.reverse).map fun parts => (parts.2.reverse, parts.1.reverse)

theorem splitOnce_eq_some_iff :
    splitOnce separator list = some (before, after) ↔
      list = before ++ separator :: after ∧ separator ∉ before := by
  induction list generalizing before with
  | nil => simp [splitOnce]
  | cons head tail ih =>
      by_cases atHead : head = separator
      · subst atHead
        cases before with
        | nil => simp [splitOnce, eq_comm]
        | cons first rest =>
            simp only [splitOnce, if_true, Option.some.injEq, Prod.mk.injEq, nil_eq,
              reduceCtorEq, false_and, cons_append, cons.injEq, mem_cons, not_or, false_iff]
            rintro ⟨⟨rfl, -⟩, differs, -⟩
            exact differs rfl
      · simp only [splitOnce, if_neg atHead, Option.map_eq_some_iff, Prod.exists, Prod.mk.injEq]
        constructor
        · rintro ⟨rest, _, found, rfl, rfl⟩
          obtain ⟨rfl, absent⟩ := ih.mp found
          exact ⟨rfl, by simp [Ne.symm atHead, absent]⟩
        · rintro ⟨tailEq, absent⟩
          cases before with
          | nil =>
              cases tailEq
              exact absurd rfl atHead
          | cons first rest =>
              cases tailEq
              exact ⟨rest, after, ih.mpr ⟨rfl, fun member => absent (mem_cons_of_mem _ member)⟩,
                rfl, rfl⟩

theorem splitOnce_eq_none_iff : splitOnce separator list = none ↔ separator ∉ list := by
  induction list with
  | nil => simp [splitOnce]
  | cons head tail ih =>
      by_cases atHead : head = separator
      · simp [splitOnce, atHead]
      · simp [splitOnce, atHead, ih, Ne.symm atHead]

theorem rsplitOnce_eq_some_iff :
    rsplitOnce separator list = some (before, after) ↔
      list = before ++ separator :: after ∧ separator ∉ after := by
  simp only [rsplitOnce, Option.map_eq_some_iff, Prod.exists, Prod.mk.injEq,
    splitOnce_eq_some_iff]
  constructor
  · rintro ⟨front, back, ⟨reversed, absent⟩, rfl, rfl⟩
    rw [reverse_eq_iff] at reversed
    exact ⟨by simpa using reversed, by simpa using absent⟩
  · rintro ⟨rfl, absent⟩
    exact ⟨after.reverse, before.reverse, ⟨by simp, by simpa using absent⟩, by simp, by simp⟩

theorem rsplitOnce_eq_none_iff : rsplitOnce separator list = none ↔ separator ∉ list := by
  rw [rsplitOnce, Option.map_eq_none_iff, splitOnce_eq_none_iff, mem_reverse]

end List
