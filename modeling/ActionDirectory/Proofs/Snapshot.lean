/-
The list of all entries. It ascends strictly by identifiers and holds exactly what
stands under some identifier. So the order in which the table lists its entries does
not matter: two registries with equal actions under all identifiers list the same
actions.
-/

import ActionDirectory.Proofs.Reflection
import Mathlib.Data.List.Nodup

namespace ActionDirectory

/-! ### Sorting -/

theorem Action.isLE_order_iff (first second : Action) :
    (first.order second).isLE = true ↔ first.id.value ≤ second.id.value := by
  rw [order]
  exact Std.isLE_compare

theorem Action.isLE_order_trans (first second third : Action)
    (less : (first.order second).isLE = true) (lessThird : (second.order third).isLE = true) :
    (first.order third).isLE = true := by
  rw [isLE_order_iff] at less lessThird ⊢
  exact Int.le_trans less lessThird

theorem Action.isLE_order_total (first second : Action) :
    ((first.order second).isLE || (second.order first).isLE) = true := by
  rw [Bool.or_eq_true, isLE_order_iff, isLE_order_iff]
  exact Int.le_total _ _

/-- Whatever has an action is sorted by the identifiers of the actions. -/
theorem Action.ascends_mergeSort {Item : Type} (action : Item → Action) (items : List Item) :
    (items.mergeSort fun first second => ((action first).order (action second)).isLE).Pairwise
      fun first second => (action first).id.value ≤ (action second).id.value := by
  have sorted := List.pairwise_mergeSort
    (fun first second third => isLE_order_trans (action first) (action second) (action third))
    (fun first second => isLE_order_total (action first) (action second)) items
  exact sorted.imp fun less => (isLE_order_iff _ _).1 less

section Ascent

variable {actions others : List Action}
  (ascends : actions.Pairwise fun first second => first.id.value < second.id.value)

include ascends

theorem nodup_ids_of_ascends : (actions.map Action.id).Nodup :=
  List.pairwise_map.2 (ascends.imp Id.ne_of_lt)

theorem nodup_of_ascends : actions.Nodup :=
  List.Nodup.of_map Action.id (nodup_ids_of_ascends ascends)

/-- Actions can be arranged in one strictly ascending order only. -/
theorem eq_of_perm_of_ascends
    (othersAscend : others.Pairwise fun first second => first.id.value < second.id.value)
    (arrangement : actions.Perm others) : actions = others := by
  refine List.Perm.eq_of_pairwise ?_ ascends othersAscend arrangement
  intro first second _ _ less greater
  exact absurd greater (Int.lt_asymm less)

end Ascent

namespace Store

theorem ascending_perm (listed : List Entry) : (ascending listed).Perm listed :=
  List.mergeSort_perm _ _

theorem ascending_ascends (listed : List Entry) :
    (ascending listed).Pairwise fun first second => first.id.value ≤ second.id.value :=
  Action.ascends_mergeSort Entry.action listed

end Store

/-! ### The entries of a registry -/

namespace Registry.Reflects

variable {registry : Registry} {history : List Action}

theorem keys_eq (reflects : registry.Reflects history) :
    registry.store.byId.values.map Entry.id = registry.store.byId.entries.map Prod.fst := by
  rw [Table.values, List.map_map]
  refine List.map_congr_left fun pair member => ?_
  exact (reflects.mem_of_lookup (Table.get?_eq_some_iff.2 member)).2

theorem entries_perm (registry : Registry) :
    registry.entries.Perm registry.store.byId.values :=
  Store.ascending_perm _

theorem mem_entries_iff (reflects : registry.Reflects history) {entry : Entry} :
    entry ∈ registry.entries ↔ registry.lookup entry.id = some entry := by
  rw [(entries_perm registry).mem_iff]
  constructor
  · intro member
    obtain ⟨⟨key, _⟩, present, rfl⟩ := List.mem_map.1 member
    have found : registry.lookup key = some _ := Table.get?_eq_some_iff.2 present
    rwa [(reflects.mem_of_lookup found).2]
  · intro found
    exact List.mem_map.2 ⟨(entry.id, entry), Table.get?_eq_some_iff.1 found, rfl⟩

/-- The entries ascend strictly by their identifiers. -/
theorem entries_ascend (reflects : registry.Reflects history) :
    registry.entries.Pairwise fun first second => first.id.value < second.id.value := by
  have distinct : registry.entries.Pairwise fun first second => first.id ≠ second.id := by
    refine List.pairwise_map.1 (((entries_perm registry).map Entry.id).nodup_iff.2 ?_)
    rw [reflects.keys_eq]
    exact registry.store.byId.distinct
  have sorted := Store.ascending_ascends registry.store.byId.values
  refine (sorted.and distinct).imp fun both => ?_
  have ne : _ ≠ _ := fun same => both.2 (Id.ext_value same)
  exact Int.lt_iff_le_and_ne.2 ⟨both.1, ne⟩

theorem actions_ascend (reflects : registry.Reflects history) :
    (registry.entries.map Entry.action).Pairwise fun first second =>
      first.id.value < second.id.value :=
  List.pairwise_map.2 reflects.entries_ascend

theorem mem_actions_iff (reflects : registry.Reflects history) {action : Action} :
    action ∈ registry.entries.map Entry.action ↔
      (registry.lookup action.id).map Entry.action = some action := by
  rw [List.mem_map, Option.map_eq_some_iff]
  constructor
  · rintro ⟨entry, member, rfl⟩
    exact ⟨entry, reflects.mem_entries_iff.1 member, rfl⟩
  · rintro ⟨entry, found, rfl⟩
    exact ⟨entry, reflects.mem_entries_iff.2 found, rfl⟩

/-- The actions under all identifiers decide the list of all actions. -/
theorem actions_congr {left right : Registry} {leftHistory rightHistory : List Action}
    (leftReflects : left.Reflects leftHistory) (rightReflects : right.Reflects rightHistory)
    (same : ∀ id, (left.lookup id).map Entry.action = (right.lookup id).map Entry.action) :
    left.entries.map Entry.action = right.entries.map Entry.action := by
  have leftAscends := leftReflects.actions_ascend
  have rightAscends := rightReflects.actions_ascend
  refine eq_of_perm_of_ascends leftAscends rightAscends ?_
  rw [List.perm_ext_iff_of_nodup (nodup_of_ascends leftAscends) (nodup_of_ascends rightAscends)]
  intro action
  rw [leftReflects.mem_actions_iff, rightReflects.mem_actions_iff, same]

end Registry.Reflects

end ActionDirectory
