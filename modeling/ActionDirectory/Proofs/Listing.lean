/-
The list of all entries is canonical. A table may list its entries in any order, and a sort may
leave entries of equal rank in any order; but every identifier stands once in the table, and it is
the one of the entry that it leads to, so only one arrangement of the entries ascends. What is
listed is decided by what the identifiers lead to, and a list that was handed out stays as it is.
-/

import ActionDirectory.Proofs.Identifiers
import ActionDirectory.Proofs.Instances
import ActionDirectory.Proofs.Snapshot

namespace ActionDirectory

/-! ### One arrangement -/

namespace Registry

variable {registry : Registry} {history : List Action}

namespace Reflects

/-- A registered entry is the only listed one of its identifier. -/
theorem eq_of_mem_entries (reflects : registry.Reflects history) {first second : Entry}
    (firstListed : first ∈ registry.entries) (secondListed : second ∈ registry.entries)
    (same : first.id = second.id) : first = second := by
  rw [reflects.mem_entries_iff] at firstListed secondListed
  rw [same, secondListed] at firstListed
  exact (Option.some.inj firstListed).symm

/-- Whatever order the table lists its entries in, and however equal ranks are sorted, only one
arrangement ascends. -/
theorem eq_entries_of_ascends (reflects : registry.Reflects history) {arranged : List Entry}
    (arrangement : arranged.Perm registry.store.byId.values)
    (ascends : arranged.Pairwise fun first second => first.id.value ≤ second.id.value) :
    arranged = registry.entries := by
  have same : arranged.Perm registry.entries := arrangement.trans (entries_perm registry).symm
  have sorted : registry.entries.Pairwise fun first second => first.id.value ≤ second.id.value :=
    reflects.entries_ascend.imp Int.le_of_lt
  refine List.Perm.eq_of_pairwise ?_ ascends sorted same
  intro first second firstIn secondIn le ge
  exact reflects.eq_of_mem_entries (same.mem_iff.1 firstIn) secondIn
    (Id.ext_value (Int.le_antisymm le ge))

theorem lookup_eq_some_iff_listed (reflects : registry.Reflects history) {id : Id} {entry : Entry} :
    registry.lookup id = some entry ↔ entry ∈ registry.entries ∧ entry.id = id := by
  constructor
  · intro found
    have own : entry.id = id := (reflects.mem_of_lookup found).2
    exact ⟨reflects.mem_entries_iff.2 (own ▸ found), own⟩
  · rintro ⟨listed, rfl⟩
    exact reflects.mem_entries_iff.1 listed

end Reflects

theorem length_entries (registry : Registry) : registry.entries.length = registry.size := by
  rw [(Reflects.entries_perm registry).length_eq, Table.values, List.length_map]
  rfl

end Registry

/-! ### Lists that were handed out -/

/-- Whoever asks for the list that an earlier step gave gets it as it was given. -/
theorem Session.answer_snapshot {session : Session} {number : Nat} {actions : List Action}
    (given : session.outputs[number]? = some (.snapshot actions)) (steps : List (Option Step)) :
    (session.run (steps ++ [some (.snapshot number)])).getLast?.map Report.answer =
      some (.actions actions) := by
  refine answer_of_output (fun later given => ?_) given steps
  have known : later.snapshot? number = some actions := by
    rw [snapshot?, given]
  simp only [effect, known]

theorem Session.output_entries (session : Session) :
    (session.advance (some (.call .entries))).1.outputs[session.outputs.size]? =
      some (.snapshot (session.registry.entries.map Entry.action)) :=
  Array.getElem?_push_size

/-! ### The rule -/

/-- However the table of a reachable registry lists its entries and however equal ranks are sorted,
the list of all entries is the same. Its identifiers ascend strictly, its length is the number of
entries, and an entry of an identifier is listed exactly if the identifier leads to it. Registries
whose identifiers lead to equal actions list equal actions, whatever their histories are. A session
that asked for the list is shown the same list later, whatever steps come in between. -/
theorem listing_is_canonical {registry : Registry} (reachable : registry.Reachable) :
    (∀ listed : List Entry, listed.Perm registry.store.byId.values →
        Store.ascending listed = registry.entries ∧
          ∀ arranged : List Entry, arranged.Perm listed →
            (arranged.Pairwise fun first second => first.id.value ≤ second.id.value) →
              arranged = registry.entries) ∧
      (registry.entries.Pairwise fun first second => first.id.value < second.id.value) ∧
      registry.entries.length = registry.size ∧
      (∀ id entry, registry.lookup id = some entry ↔ entry ∈ registry.entries ∧ entry.id = id) ∧
      (∀ other : Registry, other.Reachable →
        (∀ id, other.actionUnder id = registry.actionUnder id) →
          other.entries.map Entry.action = registry.entries.map Entry.action) ∧
      ∀ session : Session, session.registry = registry →
        let asked := session.advance (some (.call .entries))
        asked.2.answer = .actions (registry.entries.map Entry.action) ∧
          ∀ steps, (asked.1.run (steps ++ [some (.snapshot session.outputs.size)])).getLast?.map
              Report.answer = some (.actions (registry.entries.map Entry.action)) := by
  obtain ⟨history, reflects⟩ := reachable.exists_reflects
  refine ⟨fun listed listing => ⟨?_, fun arranged arrangement ascends => ?_⟩,
    reflects.entries_ascend, registry.length_entries,
    fun id entry => reflects.lookup_eq_some_iff_listed, fun other otherReachable same => ?_, ?_⟩
  · exact reflects.eq_entries_of_ascends ((Store.ascending_perm listed).trans listing)
      (Store.ascending_ascends listed)
  · exact reflects.eq_entries_of_ascends (arrangement.trans listing) ascends
  · obtain ⟨otherHistory, otherReflects⟩ := otherReachable.exists_reflects
    exact otherReflects.actions_congr reflects same
  · rintro session rfl asked
    exact ⟨rfl, Session.answer_snapshot session.output_entries⟩

/-- Two histories lead to equal actions under all identifiers, and a list that was asked for is
shown unchanged after one of its actions was replaced. -/
theorem listing_is_canonical_of_two_histories :
    let first := (Registry.empty {}).after [.register ⟨{ value := 7 }, "skip"⟩,
      .register ⟨{ value := -2 }, "copy"⟩]
    let second := (Registry.empty { policy := .reject }).after [.register ⟨{ value := -2 }, "copy"⟩,
      .register ⟨{ value := 7 }, ""⟩, .register ⟨{ value := 7 }, "skip"⟩]
    first.Reachable ∧ second.Reachable ∧
      second.entries.map Entry.action = first.entries.map Entry.action ∧
      [⟨1, ⟨{ value := -2 }, "copy"⟩⟩, ⟨0, ⟨{ value := 7 }, "skip"⟩⟩] = first.entries ∧
      (Session.run (Session.advance ⟨first, false, #[]⟩ (some (.call .entries))).1
        ([some (.call (.register ⟨{ value := 7 }, "late"⟩))] ++ [some (.snapshot 0)])).getLast?.map
          Report.answer = some (.actions (first.entries.map Entry.action)) := by
  intro first second
  have reachable : first.Reachable := ⟨_, [], _, .empty {}, rfl⟩
  have otherReachable : second.Reachable := ⟨_, [], _, .empty { policy := .reject }, rfl⟩
  obtain ⟨arranged, -, -, -, alike, shown⟩ := listing_is_canonical reachable
  refine ⟨reachable, otherReachable, alike second otherReachable fun id => ?_, ?_,
    (shown ⟨first, false, #[]⟩ rfl).2 _⟩
  · simp only [first, second, Registry.after, List.foldl_cons, List.foldl_nil, Registry.perform,
      Registry.wrote, Registry.actionUnder, Registry.lookup_register]
    by_cases skipped : id = { value := 7 }
    · subst skipped
      rfl
    · simp only [if_neg skipped]
      split <;> rfl
  · exact (arranged [⟨0, ⟨{ value := 7 }, "skip"⟩⟩, ⟨1, ⟨{ value := -2 }, "copy"⟩⟩] (by decide)).2 _
      (by decide) (by decide)

end ActionDirectory
