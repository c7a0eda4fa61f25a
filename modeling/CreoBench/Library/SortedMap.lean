import Mathlib.Order.Lattice

/-!
# Finite maps as sorted association lists

A map is the list of its entries in strictly increasing key order, so equal maps
have equal representations and iteration is the list itself.
-/

/-- A finite map with its entries in key order. -/
structure SortedMap (Key Value : Type*) [LinearOrder Key] where
  entries : List (Key × Value)
  sorted : entries.Pairwise fun first second => first.1 < second.1

namespace SortedMap

variable {Key Value : Type*} [LinearOrder Key]

@[ext]
theorem ext {first second : SortedMap Key Value}
    (entriesEq : first.entries = second.entries) : first = second := by
  cases first
  cases second
  simpa using entriesEq

instance [DecidableEq Value] : DecidableEq (SortedMap Key Value) := fun first second =>
  decidable_of_iff (first.entries = second.entries)
    ⟨ext, fun equal => congrArg entries equal⟩

def empty : SortedMap Key Value := ⟨[], List.Pairwise.nil⟩

/-- Insert into a sorted entry list, replacing the value of an equal key. -/
def insertEntry (key : Key) (value : Value) : List (Key × Value) → List (Key × Value)
  | [] => [(key, value)]
  | entry :: entries =>
      if key < entry.1 then (key, value) :: entry :: entries
      else if entry.1 < key then entry :: insertEntry key value entries
      else (key, value) :: entries

theorem mem_insertEntry {key : Key} {value : Value} {entries : List (Key × Value)}
    {entry : Key × Value} (member : entry ∈ insertEntry key value entries) :
    entry = (key, value) ∨ entry ∈ entries := by
  induction entries with
  | nil => simpa [insertEntry] using member
  | cons head tail ih =>
      unfold insertEntry at member
      split_ifs at member with before after
      · simpa using member
      · rcases List.mem_cons.mp member with rfl | inserted
        · exact .inr List.mem_cons_self
        · rcases ih inserted with equal | old
          · exact .inl equal
          · exact .inr (List.mem_cons_of_mem _ old)
      · rcases List.mem_cons.mp member with equal | old
        · exact .inl equal
        · exact .inr (List.mem_cons_of_mem _ old)

theorem insertEntry_sorted (key : Key) (value : Value) {entries : List (Key × Value)}
    (sorted : entries.Pairwise fun first second => first.1 < second.1) :
    (insertEntry key value entries).Pairwise fun first second => first.1 < second.1 := by
  induction sorted with
  | nil => exact List.pairwise_singleton _ _
  | @cons head tail headBelow tailSorted ih =>
      unfold insertEntry
      split_ifs with before after
      · refine List.Pairwise.cons ?_ (List.Pairwise.cons headBelow tailSorted)
        intro entry member
        rcases List.mem_cons.mp member with rfl | inTail
        · exact before
        · exact lt_trans before (headBelow entry inTail)
      · refine List.Pairwise.cons ?_ ih
        intro entry member
        rcases mem_insertEntry member with rfl | old
        · exact after
        · exact headBelow entry old
      · have sameKey : head.1 = key :=
          le_antisymm (not_lt.mp before) (not_lt.mp after)
        exact List.Pairwise.cons (fun entry member => sameKey ▸ headBelow entry member)
          tailSorted

def insert (map : SortedMap Key Value) (key : Key) (value : Value) :
    SortedMap Key Value :=
  ⟨insertEntry key value map.entries, insertEntry_sorted key value map.sorted⟩

/-- Insert entries one after the other, so that the last of equal keys wins. -/
def ofEntries (entries : List (Key × Value)) : SortedMap Key Value :=
  entries.foldl (fun map entry => map.insert entry.1 entry.2) empty

theorem mem_ofEntries {entries : List (Key × Value)} {entry : Key × Value}
    (member : entry ∈ (ofEntries entries).entries) : entry ∈ entries := by
  have mem_foldl : ∀ (entries : List (Key × Value)) (map : SortedMap Key Value),
      entry ∈ (entries.foldl (fun map entry => map.insert entry.1 entry.2) map).entries →
        entry ∈ map.entries ∨ entry ∈ entries := by
    intro entries
    induction entries with
    | nil => exact fun map member => .inl member
    | cons head tail ih =>
        intro map member
        rcases ih (map.insert head.1 head.2) member with inserted | inTail
        · rcases mem_insertEntry inserted with rfl | old
          · exact .inr List.mem_cons_self
          · exact .inl old
        · exact .inr (List.mem_cons_of_mem _ inTail)
  rcases mem_foldl entries empty member with inEmpty | inEntries
  · cases inEmpty
  · exact inEntries

/-- Inserting changes the value of its own key only. -/
theorem find?_insertEntry (key other : Key) (value : Value) (entries : List (Key × Value)) :
    (insertEntry key value entries).find? (fun entry => entry.1 = other) =
      if key = other then some (key, value)
      else entries.find? fun entry => entry.1 = other := by
  induction entries with
  | nil => by_cases same : key = other <;> simp [insertEntry, same]
  | cons head tail ih =>
      unfold insertEntry
      by_cases before : key < head.1
      · rw [if_pos before]
        by_cases same : key = other <;> simp [same]
      rw [if_neg before]
      by_cases after : head.1 < key
      · rw [if_pos after, List.find?_cons, List.find?_cons, ih]
        by_cases same : key = other
        · have differs : head.1 ≠ other := same ▸ after.ne
          simp [same, differs]
        · simp [same]
      · have headKey : head.1 = key := le_antisymm (not_lt.mp before) (not_lt.mp after)
        rw [if_neg after]
        by_cases same : key = other <;> simp [headKey, same]

/-- Of equal keys the last one is found. -/
theorem find?_ofEntries_concat (entries : List (Key × Value)) (key other : Key)
    (value : Value) :
    (ofEntries (entries ++ [(key, value)])).entries.find? (fun entry => entry.1 = other) =
      if key = other then some (key, value)
      else (ofEntries entries).entries.find? fun entry => entry.1 = other := by
  rw [ofEntries, List.foldl_append]
  exact find?_insertEntry key other value _

/-- A key above all others is inserted at the end. -/
theorem insertEntry_of_above {key : Key} {value : Value} {entries : List (Key × Value)}
    (above : ∀ entry ∈ entries, entry.1 < key) :
    insertEntry key value entries = entries ++ [(key, value)] := by
  induction entries with
  | nil => rfl
  | cons head tail ih =>
      have headBelow := above head List.mem_cons_self
      have tailBelow : ∀ entry ∈ tail, entry.1 < key := fun entry member =>
        above entry (List.mem_cons_of_mem _ member)
      rw [insertEntry, if_neg (not_lt_of_gt headBelow), if_pos headBelow, ih tailBelow]
      rfl

private theorem foldl_insert_entries (entries : List (Key × Value))
    (map : SortedMap Key Value)
    (sorted : (map.entries ++ entries).Pairwise fun first second =>
      first.1 < second.1) :
    (entries.foldl (fun map entry => map.insert entry.1 entry.2) map).entries =
      map.entries ++ entries := by
  induction entries generalizing map with
  | nil => simp
  | cons head tail ih =>
      have above : ∀ entry ∈ map.entries, entry.1 < head.1 := fun entry member =>
        (List.pairwise_append.mp sorted).2.2 entry member head List.mem_cons_self
      have inserted : (map.insert head.1 head.2).entries = map.entries ++ [head] :=
        insertEntry_of_above above
      rw [List.foldl_cons, ih, inserted, List.append_assoc, List.singleton_append]
      rw [inserted, List.append_assoc]
      exact sorted

/-- A map is rebuilt from its entries. -/
@[simp]
theorem ofEntries_entries (map : SortedMap Key Value) : ofEntries map.entries = map :=
  ext (foldl_insert_entries map.entries empty map.sorted)

end SortedMap
