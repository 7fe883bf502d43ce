/-
Rebuilding a registry from the list of its actions. The list repeats no identifier, so it fills a
registry under any settings, and what identifiers lead to is the same in both. What names lead to
need not be the same: the list ascends by identifiers, whatever the order of the writes was, and the
rebuilt registry takes the place in the list for the order of the writes. So a name leads to the
action of the greatest identifier there, and it leads somewhere if any registered action has it.
-/

import ActionDirectory.Proofs.Decoding
import ActionDirectory.Proofs.Filling
import ActionDirectory.Proofs.Listing

namespace ActionDirectory

variable {history actions : List Action} {action : Action} {name : String}

/-! ### Histories that ascend -/

/-- In a list that ascends by identifiers the last action of a kind is the one of the greatest
identifier. -/
theorem latest_map_action_eq_some_iff_of_ascends {kind : Action → Prop} [DecidablePred kind]
    (ascends : actions.Pairwise fun first second => first.id.value < second.id.value) :
    (latest actions kind).map Entry.action = some action ↔
      action ∈ actions ∧ kind action ∧
        ∀ other ∈ actions, kind other → other.id.value ≤ action.id.value := by
  rcases absent_or_split actions kind with absent | ⟨before, last, after, rfl, concerned, others⟩
  · rw [latest_eq_none absent]
    refine iff_of_false nofun ?_
    rintro ⟨member, concerned, -⟩
    exact absent action member concerned
  · have below : ∀ earlier ∈ before, earlier.id.value < last.id.value := fun earlier member =>
      (List.pairwise_append.1 ascends).2.2 earlier member last List.mem_cons_self
    have member : last ∈ before ++ last :: after := List.mem_append_right _ List.mem_cons_self
    rw [latest_of_split concerned others, Option.map_some, Option.some_inj]
    constructor
    · rintro rfl
      refine ⟨member, concerned, fun other otherMember otherConcerned => ?_⟩
      rcases List.mem_append.1 otherMember with earlier | later
      · exact Int.le_of_lt (below other earlier)
      · rcases List.mem_cons.1 later with rfl | later
        · exact Int.le_refl _
        · exact absurd otherConcerned (others other later)
    · rintro ⟨actionMember, actionConcerned, greatest⟩
      rcases List.mem_append.1 actionMember with earlier | later
      · exact absurd (greatest last member concerned) (Int.not_le.2 (below action earlier))
      · rcases List.mem_cons.1 later with rfl | later
        · rfl
        · exact absurd actionConcerned (others action later)

/-- Where no identifier is repeated a name leads to its last write. -/
theorem holder?_of_nodup (distinct : (history.map Action.id).Nodup) (name : String) :
    holder? history name = lastNamed history name := by
  rcases absent_or_split history fun action => action.name? = some name with
    absent | ⟨before, last, after, rfl, named, others⟩
  · rw [holder?_eq_none absent, lastNamed, latest_eq_none absent]
  · rw [holder?_of_kept named others (ids_ne_of_nodup distinct).2]
    exact (latest_of_split named others).symm

namespace Registry

/-! ### What a rebuilt registry answers -/

variable {registry rebuilt : Registry}

/-- Of the registered actions with a name it is the one of the greatest identifier. -/
structure Greatest (registry : Registry) (name : String) (action : Action) : Prop where
  held : registry.Holds action
  named : action.name = name
  above : ∀ other, registry.Holds other → other.name = name → other.id.value ≤ action.id.value

/-- A registry answers as another one does about identifiers. A name leads to the action of the
greatest identifier among those of the other registry with the name, and nowhere only if there is
none. -/
structure Restores (rebuilt registry : Registry) : Prop where
  under : ∀ id, rebuilt.actionUnder id = registry.actionUnder id
  size : rebuilt.size = registry.size
  contains : ∀ id, rebuilt.contains id = registry.contains id
  listed : rebuilt.entries.map Entry.action = registry.entries.map Entry.action
  find : ∀ name, name ≠ "" → ∀ action,
    (rebuilt.find name).map Entry.action = some action ↔ registry.Greatest name action
  absent : ∀ name, name ≠ "" →
    (rebuilt.find name = none ↔ ∀ action, registry.Holds action → action.name ≠ name)
  found : ∀ name entry, registry.find name = some entry →
    ∃ found, rebuilt.find name = some found ∧ found.action.name = name

theorem Reflects.holds_iff_listed (reflects : registry.Reflects history) :
    registry.Holds action ↔ action ∈ registry.entries.map Entry.action :=
  reflects.mem_actions_iff.symm

/-- Whatever was written before, a registry that the list of actions was written to one by one
restores the registry that gave the list. -/
theorem Reflects.restores (reflects : registry.Reflects history)
    (reflectsList : rebuilt.Reflects (registry.entries.map Entry.action)) :
    rebuilt.Restores registry := by
  have ascends := reflects.actions_ascend
  have distinct := nodup_ids_of_ascends ascends
  have under : ∀ id, rebuilt.actionUnder id = registry.actionUnder id := fun id => by
    refine Option.ext fun action => ?_
    rw [reflects.actionUnder_eq_some_iff, reflects.holds_iff_listed, actionUnder,
      reflectsList.lookup, lastUnder, latest_map_action_eq_some_iff_of_ascends ascends]
    refine and_congr_right fun _ => and_iff_left_of_imp ?_
    rintro rfl other - same
    rw [same]
  have listed := reflectsList.actions_congr reflects under
  have find : ∀ name, name ≠ "" → ∀ action,
      (rebuilt.find name).map Entry.action = some action ↔ registry.Greatest name action := by
    intro name nonempty action
    rw [reflectsList.find, holder?_of_nodup distinct, lastNamed,
      latest_map_action_eq_some_iff_of_ascends ascends]
    simp only [Action.name?_iff_of_ne_empty nonempty, ← reflects.holds_iff_listed]
    constructor
    · rintro ⟨held, named, above⟩
      exact ⟨held, named, above⟩
    · rintro ⟨held, named, above⟩
      exact ⟨held, named, above⟩
  have absent : ∀ name, name ≠ "" →
      (rebuilt.find name = none ↔ ∀ action, registry.Holds action → action.name ≠ name) := by
    intro name nonempty
    rw [reflectsList.find, holder?_of_nodup distinct, lastNamed, latest_eq_none_iff]
    simp only [Action.name?_iff_of_ne_empty nonempty, ← reflects.holds_iff_listed, ne_eq]
  refine ⟨under, ?_, fun id => ?_, listed, find, absent, fun name entry leads => ?_⟩
  · rw [← length_entries, ← length_entries, ← List.length_map Entry.action, listed,
      List.length_map]
  · rw [contains_eq_isSome, contains_eq_isSome, under]
  · obtain ⟨named, nonempty⟩ := Action.name?_eq_some_iff.1 (reflects.name_of_find leads)
    have somewhere : rebuilt.find name ≠ none := fun nowhere =>
      (absent name nonempty).1 nowhere entry.action (reflects.holds_of_find leads) named
    obtain ⟨found, leadsTo⟩ := Option.ne_none_iff_exists'.1 somewhere
    exact ⟨found, leadsTo, (Action.name?_eq_some_iff.1 (reflectsList.name_of_find leadsTo)).1⟩

end Registry

/-! ### The rule -/

/-- The list of the actions of a reachable registry fills a registry under any settings, and leaves
the record of as many actions. The rebuilt registry answers alike about identifiers, lists the same
actions, and finds every name that was found before. Where actions share a name it leads to the one
of the greatest identifier. -/
theorem registry_is_rebuilt_from_list {registry : Registry} (reachable : registry.Reachable)
    (settings : Settings) :
    ∃ rebuilt, Registry.ofTable (registry.entries.map Entry.action) settings =
        .ok (rebuilt, .seeded registry.size) ∧
      rebuilt.Restores registry := by
  obtain ⟨history, reflects⟩ := reachable.exists_reflects
  have distinct := nodup_ids_of_ascends reflects.actions_ascend
  have filled := Registry.ofTable_eq_ok settings distinct
  rw [Registry.size_registerAll settings distinct, List.length_map, Registry.length_entries]
    at filled
  exact ⟨_, filled, reflects.restores (Registry.Made.filled filled).reflects⟩

/-- A name leads to the action that took it over, which does not have the greatest identifier; the
rebuilt registry does not know of this. -/
theorem registry_is_rebuilt_from_list_of_shared_name :
    let registry := (Registry.empty {}).after [.register ⟨{ value := 7 }, "copy"⟩,
      .register ⟨{ value := 3 }, "move"⟩, .register ⟨{ value := -2 }, "copy"⟩]
    registry.Reachable ∧
      registry.find "copy" = some ⟨2, ⟨{ value := -2 }, "copy"⟩⟩ ∧
      ∃ rebuilt, Registry.ofTable (registry.entries.map Entry.action) { policy := .reject } =
          .ok (rebuilt, .seeded registry.size) ∧
        (rebuilt.find "copy").map Entry.action = some ⟨{ value := 7 }, "copy"⟩ := by
  intro registry
  have reachable : registry.Reachable := ⟨_, [], _, .empty {}, rfl⟩
  have reflects : registry.Reflects [⟨{ value := 7 }, "copy"⟩, ⟨{ value := 3 }, "move"⟩,
      ⟨{ value := -2 }, "copy"⟩] :=
    (Registry.Reflects.empty {}).after _
  obtain ⟨rebuilt, filled, restores⟩ :=
    registry_is_rebuilt_from_list reachable { policy := .reject }
  refine ⟨reachable, ?_, rebuilt, filled, (restores.find "copy" (by decide) _).2 ⟨?_, rfl, ?_⟩⟩
  · rw [reflects.find]
    decide
  · rw [Registry.Holds, Registry.actionUnder, reflects.lookup]
    decide
  · intro other held _
    obtain ⟨entry, found, rfl⟩ := Option.map_eq_some_iff.1 held
    have member := (reflects.mem_of_lookup found).1
    revert member
    generalize entry.action = other
    revert other
    decide

end ActionDirectory
