/-
Finite tables: every key has at most one value. A table is seen through `get?`,
and each operation is described by what it does to `get?`.
-/

namespace ActionDirectory

/-- Pairs of a key and its value, no two of them with one key. -/
structure Table (Key Value : Type) where
  entries : List (Key × Value)
  distinct : (entries.map Prod.fst).Nodup

namespace Table

variable {Key Value : Type} [DecidableEq Key]

/-! ### Operations -/

def empty : Table Key Value :=
  ⟨[], List.nodup_nil⟩

instance : EmptyCollection (Table Key Value) :=
  ⟨empty⟩

/-- The value of the first pair with the key. -/
def search (key : Key) : List (Key × Value) → Option Value
  | [] => none
  | entry :: rest => if entry.1 = key then some entry.2 else search key rest

/-- The value under a key. -/
def get? (table : Table Key Value) (key : Key) : Option Value :=
  search key table.entries

/-- A key is in the table if it has a value. -/
def contains (table : Table Key Value) (key : Key) : Bool :=
  (table.get? key).isSome

def erase (table : Table Key Value) (key : Key) : Table Key Value where
  entries := table.entries.filter fun entry => entry.1 ≠ key
  distinct := List.Nodup.sublist (List.Sublist.map _ List.filter_sublist) table.distinct

/-- The table with a value under a key, in place of a former one. -/
def insert (table : Table Key Value) (key : Key) (value : Value) : Table Key Value where
  entries := (key, value) :: (table.erase key).entries
  distinct := by
    rw [List.map_cons, List.nodup_cons]
    refine ⟨fun member => ?_, (table.erase key).distinct⟩
    obtain ⟨entry, present, same⟩ := List.mem_map.1 member
    exact absurd same (of_decide_eq_true (List.mem_filter.1 present).2)

omit [DecidableEq Key] in
def size (table : Table Key Value) : Nat :=
  table.entries.length

omit [DecidableEq Key] in
def values (table : Table Key Value) : List Value :=
  table.entries.map Prod.snd

/-! ### The view of each operation -/

theorem search_eq_some_of_mem {entries : List (Key × Value)} {key : Key} {value : Value}
    (distinct : (entries.map Prod.fst).Nodup) (member : (key, value) ∈ entries) :
    search key entries = some value := by
  induction entries with
  | nil => cases member
  | cons entry rest inductionHypothesis =>
    rw [List.map_cons, List.nodup_cons] at distinct
    rcases List.mem_cons.1 member with head | tail
    · rw [← head]
      exact if_pos rfl
    · have other : entry.1 ≠ key := fun same =>
        distinct.1 (same ▸ List.mem_map.2 ⟨(key, value), tail, rfl⟩)
      rw [search, if_neg other]
      exact inductionHypothesis distinct.2 tail

theorem mem_of_search_eq_some {entries : List (Key × Value)} {key : Key} {value : Value}
    (found : search key entries = some value) : (key, value) ∈ entries := by
  induction entries with
  | nil => cases found
  | cons entry rest inductionHypothesis =>
    rw [search] at found
    split at found
    next same =>
      cases found
      rw [← same]
      exact List.mem_cons_self
    next => exact List.mem_cons_of_mem _ (inductionHypothesis found)

/-- A value stands under a key exactly if the pair is an entry. -/
theorem get?_eq_some_iff {table : Table Key Value} {key : Key} {value : Value} :
    table.get? key = some value ↔ (key, value) ∈ table.entries :=
  ⟨mem_of_search_eq_some, search_eq_some_of_mem table.distinct⟩

theorem search_filter_ne (entries : List (Key × Value)) (erased key : Key) :
    search key (entries.filter fun entry => entry.1 ≠ erased) =
      if key = erased then none else search key entries := by
  induction entries with
  | nil => simp [search]
  | cons entry rest inductionHypothesis =>
    by_cases removed : entry.1 = erased
    · rw [List.filter_cons_of_neg (by simpa using removed), inductionHypothesis]
      split
      · rfl
      next other =>
        exact (if_neg fun same : entry.1 = key => other (same.symm.trans removed)).symm
    · rw [List.filter_cons_of_pos (by simpa using removed), search, search, inductionHypothesis]
      by_cases found : entry.1 = key
      · rw [if_pos found, if_pos found, if_neg fun same => removed (found.trans same)]
      · rw [if_neg found, if_neg found]

/-- Erasing a key takes its value away and no other. -/
theorem get?_erase (table : Table Key Value) (erased key : Key) :
    (table.erase erased).get? key = if key = erased then none else table.get? key :=
  search_filter_ne table.entries erased key

/-- Inserting sets the value of one key and leaves the others alone. -/
theorem get?_insert (table : Table Key Value) (inserted key : Key) (value : Value) :
    (table.insert inserted value).get? key =
      if key = inserted then some value else table.get? key := by
  show search key ((inserted, value) :: (table.erase inserted).entries) = _
  rw [search]
  split
  next same => rw [if_pos same.symm]
  next other =>
    rw [if_neg fun same => other same.symm]
    exact (get?_erase table inserted key).trans (if_neg fun same => other same.symm)

end Table

end ActionDirectory
