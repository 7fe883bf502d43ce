/-
The identifiers against the history of writes. Under an identifier stands the last
write, all ways to ask for it agree, and the number of entries is the number of
identifiers in the history. So a call never takes an identifier away, and it adds one
exactly if it writes under an identifier that the history does not know.
-/

import ActionDirectory.Proofs.Handles
import Mathlib.Data.Finset.Card

namespace ActionDirectory

variable {origin registry : Registry} {seed history : List Action}

/-! ### The number of entries -/

theorem Table.mem_keys_iff {Key Value : Type} [DecidableEq Key] {table : Table Key Value}
    {key : Key} : key ∈ table.entries.map Prod.fst ↔ table.get? key ≠ none := by
  rw [Option.ne_none_iff_exists']
  constructor
  · intro member
    obtain ⟨⟨_, value⟩, present, rfl⟩ := List.mem_map.1 member
    exact ⟨value, Table.get?_eq_some_iff.2 present⟩
  · rintro ⟨value, found⟩
    exact List.mem_map.2 ⟨(key, value), Table.get?_eq_some_iff.1 found, rfl⟩

theorem Table.size_eq_card {Key Value : Type} [DecidableEq Key] (table : Table Key Value) :
    table.size = (table.entries.map Prod.fst).toFinset.card := by
  rw [List.toFinset_card_of_nodup table.distinct, List.length_map]
  rfl

/-- Inserting adds a key exactly if nothing stands under the key yet. -/
theorem Table.size_insert {Key Value : Type} [DecidableEq Key] (table : Table Key Value)
    (key : Key) (value : Value) :
    (table.insert key value).size =
      if table.get? key = none then table.size + 1 else table.size := by
  have keys : ((table.insert key value).entries.map Prod.fst).toFinset =
      Insert.insert key (table.entries.map Prod.fst).toFinset := by
    ext other
    rw [Finset.mem_insert, List.mem_toFinset, List.mem_toFinset, Table.mem_keys_iff,
      Table.mem_keys_iff, Table.get?_insert]
    by_cases same : other = key
    · rw [if_pos same]
      exact iff_of_true (Option.some_ne_none value) (Or.inl same)
    · rw [if_neg same, or_iff_right same]
  rw [size_eq_card, keys, size_eq_card]
  split
  next free =>
    exact Finset.card_insert_of_notMem fun known =>
      Table.mem_keys_iff.1 (List.mem_toFinset.1 known) free
  next taken =>
    rw [Finset.insert_eq_of_mem (List.mem_toFinset.2 (Table.mem_keys_iff.2 taken))]

/-- A write adds an entry exactly if its identifier is free. -/
theorem Registry.size_register (registry : Registry) (action : Action) :
    (registry.register action).registry.size =
      if registry.lookup action.id = none then registry.size + 1 else registry.size :=
  Table.size_insert registry.store.byId action.id ⟨registry.serial, action⟩

namespace Registry.Reflects

theorem lookup_ne_none_iff (reflects : registry.Reflects history) (id : Id) :
    registry.lookup id ≠ none ↔ id ∈ history.map Action.id := by
  rw [Ne, reflects.lookup_eq_none_iff]
  push Not
  exact List.mem_map.symm

/-- The number of entries is the number of identifiers in the history. -/
theorem size_eq (reflects : registry.Reflects history) :
    registry.size = (history.map Action.id).toFinset.card := by
  have keys : (registry.store.byId.entries.map Prod.fst).toFinset =
      (history.map Action.id).toFinset := by
    ext id
    rw [List.mem_toFinset, List.mem_toFinset, Table.mem_keys_iff]
    exact reflects.lookup_ne_none_iff id
  exact (Table.size_eq_card registry.store.byId).trans (congrArg Finset.card keys)

theorem contains_iff (reflects : registry.Reflects history) (id : Id) :
    registry.contains id = true ↔ id ∈ history.map Action.id := by
  rw [← reflects.lookup_ne_none_iff, Registry.contains, Option.isSome_iff_ne_none]

theorem isEmpty_iff (reflects : registry.Reflects history) :
    registry.isEmpty = true ↔ history = [] := by
  rw [isEmpty, decide_eq_true_iff, reflects.size_eq, Finset.card_eq_zero,
    List.toFinset_eq_empty_iff, List.map_eq_nil_iff]

/-- A write adds an identifier exactly if the history does not know it. -/
theorem size_register (reflects : registry.Reflects history) (action : Action) :
    (registry.register action).registry.size =
      if action.id ∈ history.map Action.id then registry.size else registry.size + 1 := by
  rw [Registry.size_register, ← ite_not]
  exact if_congr (reflects.lookup_ne_none_iff action.id) rfl rfl

end Registry.Reflects

/-! ### The rule -/

/-- Under an identifier stands its last write. The number of entries is the number of identifiers
written, and it grows by one exactly with a write under a new one; none is ever lost. This is so
behind all uses of all handles of a registry, and which writes count is told by the history
itself. -/
theorem lookup_decided_by_history (made : Registry.Made origin seed) (uses : List Use)
    {handle : Nat}
    (seen : ((Handles.ofRegistry origin).after uses).view? handle = some registry) :
    let history :=
      Registry.chronicle origin.settings seed ((Handles.ofRegistry origin).calls uses)
    (∀ id,
        ((∀ action ∈ history, action.id ≠ id) →
          registry.lookup id = none ∧ registry.require id = .error (.unknownId id) ∧
            registry.contains id = false) ∧
        ∀ before last after, history = before ++ last :: after → last.id = id →
          (∀ action ∈ after, action.id ≠ id) →
            registry.lookup id = some ⟨before.length, last⟩ ∧
              registry.require id = .ok ⟨before.length, last⟩ ∧ registry.contains id = true) ∧
      registry.size = (history.map Action.id).toFinset.card ∧
      (registry.isEmpty = true ↔ history = []) ∧
      ∀ call,
        let admitted := Registry.admitted? origin.settings history call
        let behind := (registry.perform call).registry
        registry.written? call = admitted ∧
          (∀ id, registry.contains id = true → behind.contains id = true) ∧
          behind.size =
            match admitted with
            | some action =>
              if action.id ∈ history.map Action.id then registry.size else registry.size + 1
            | none => registry.size := by
  intro history
  have reflects : registry.Reflects history := Handles.reflects_chronicle made.reflects seen
  refine ⟨fun id => ⟨fun absent => ?_, ?_⟩, reflects.size_eq, reflects.isEmpty_iff, ?_⟩
  · have missing : registry.lookup id = none := (reflects.lookup_eq_none_iff id).2 absent
    simp only [Registry.require, Registry.contains, missing, Option.isSome_none, and_self]
  · intro before last after split under others
    have found : registry.lookup id = some ⟨before.length, last⟩ := by
      rw [reflects.lookup, split]
      exact latest_of_split under others
    simp only [Registry.require, Registry.contains, found, Option.isSome_some, and_self]
  · intro call admitted behind
    have same : registry.written? call = admitted := by
      rw [reflects.written?_eq, Handles.settings_of_view seen]
    refine ⟨same, fun id known => ?_, ?_⟩
    · rw [(reflects.perform call).contains_iff, List.map_append]
      exact List.mem_append_left _ ((reflects.contains_iff id).1 known)
    · show (registry.perform call).registry.size = _
      rw [Registry.registry_perform, same]
      cases admitted with
      | none => rfl
      | some action => exact reflects.size_register action

/-- A write that the policy refuses does not count, and neither do reads. -/
theorem lookup_decided_by_history_of_refused_write :
    ∃ origin registry,
      Registry.Made origin [⟨{ value := 1 }, "copy"⟩, ⟨{ value := -2 }, ""⟩] ∧
      ((Handles.ofRegistry origin).after
        [.clone 0, .call 1 (.tryRegister ⟨{ value := 7 }, "skip"⟩), .call 0 .isEmpty,
          .call 1 (.register ⟨{ value := -2 }, "late"⟩),
          .call 0 (.tryRegister ⟨{ value := 1 }, "other"⟩)]).view? 1 = some registry ∧
      registry.lookup { value := 1 } = some ⟨0, ⟨{ value := 1 }, "copy"⟩⟩ ∧
      registry.require { value := -2 } = .ok ⟨3, ⟨{ value := -2 }, "late"⟩⟩ ∧
      registry.require { value := 8 } = .error (.unknownId { value := 8 }) ∧
      registry.size = 3 := by
  have made := @Registry.Made.filled [⟨{ value := 1 }, "copy"⟩, ⟨{ value := -2 }, ""⟩]
    { policy := .reject } _ _ rfl
  have decided := @lookup_decided_by_history _ _ _ made
    [.clone 0, .call 1 (.tryRegister ⟨{ value := 7 }, "skip"⟩), .call 0 .isEmpty,
      .call 1 (.register ⟨{ value := -2 }, "late"⟩),
      .call 0 (.tryRegister ⟨{ value := 1 }, "other"⟩)] 1 rfl
  obtain ⟨found, size, -⟩ := decided
  refine ⟨_, _, made, rfl, ?_, ?_, ?_, ?_⟩
  · exact ((found { value := 1 }).2 [] ⟨{ value := 1 }, "copy"⟩
      [⟨{ value := -2 }, ""⟩, ⟨{ value := 7 }, "skip"⟩, ⟨{ value := -2 }, "late"⟩] (by decide) rfl
      (by decide)).1
  · exact ((found { value := -2 }).2
      [⟨{ value := 1 }, "copy"⟩, ⟨{ value := -2 }, ""⟩, ⟨{ value := 7 }, "skip"⟩]
      ⟨{ value := -2 }, "late"⟩ [] (by decide) rfl (by decide)).2.1
  · exact ((found { value := 8 }).1 (by decide)).2.1
  · exact size.trans (by decide)

end ActionDirectory
