/-
A registry and its history. `Reflects` relates a registry to a history through both
tables of the store at once: what identifiers lead to, and what names lead to. A new
registry reflects the table that it was filled with, and a call keeps the relation
while the history grows by what the call writes. So a registry behind any run of
calls reflects the history of the run, and its answers can be read off the history.

The history can be told in two ways. The one looks at the replies: every write counts
but the refused ones. The other, `chronicle`, does not look at a registry at all: a
guarded write is refused where the policy rejects and the history so far knows the
identifier. The two tell the same history.
-/

import ActionDirectory.Proofs.History
import ActionDirectory.Registry.Handle
import ActionDirectory.Registry.Shared
import ActionDirectory.Registry.Workload

namespace ActionDirectory

namespace Registry

variable {registry : Registry} {action : Action}

/-! ### What a call does to a registry -/

theorem lookup_register (registry : Registry) (action : Action) (id : Id) :
    (registry.register action).registry.lookup id =
      if id = action.id then some ⟨registry.serial, action⟩ else registry.lookup id :=
  Store.lookup_insert registry.store ⟨registry.serial, action⟩ id

/-- A guarded registration is refused if the policy rejects and the identifier is taken, and is a
plain registration otherwise. -/
theorem tryRegister_cases (registry : Registry) (action : Action) :
    (∃ existing, registry.settings.policy = .reject ∧
        registry.lookup action.id = some existing ∧
        registry.tryRegister action =
          .error (.duplicateId action.id existing.action.rendered)) ∨
      ((registry.settings.policy = .replace ∨ registry.lookup action.id = none) ∧
        registry.tryRegister action = .ok (registry.register action)) := by
  cases policy : registry.settings.policy with
  | replace =>
    refine Or.inr ⟨Or.inl rfl, ?_⟩
    simp only [tryRegister, policy]
    rfl
  | reject =>
    cases taken : registry.lookup action.id with
    | none =>
      refine Or.inr ⟨Or.inr rfl, ?_⟩
      simp only [tryRegister, policy, taken]
      rfl
    | some existing =>
      refine Or.inl ⟨existing, rfl, rfl, ?_⟩
      simp only [tryRegister, policy, taken]
      rfl

/-- The action that a call writes. A refused call writes none, and neither does one that only
reads. -/
def written? (registry : Registry) (call : Call) : Option Action :=
  match call, (registry.perform call).reply with
  | .register action, _ => some action
  | .tryRegister _, .failed _ => none
  | .tryRegister action, _ => some action
  | _, _ => none

/-- The actions that calls write, in their order. -/
def written (registry : Registry) : List Call → List Action
  | [] => []
  | call :: rest => (registry.written? call).toList ++ (registry.perform call).registry.written rest

/-- A call does what a plain registration of the action does that it writes, or it writes nothing,
and then it changes nothing and leaves no record. -/
theorem perform_cases (registry : Registry) (call : Call) :
    (∃ action, registry.written? call = some action ∧
        registry.perform call = wrote (registry.register action)) ∨
      (registry.written? call = none ∧ (registry.perform call).registry = registry ∧
        (registry.perform call).records = []) := by
  cases call with
  | register action => exact Or.inl ⟨action, rfl, rfl⟩
  | tryRegister action =>
    rcases registry.tryRegister_cases action with ⟨existing, -, -, refused⟩ | ⟨-, accepted⟩
    · refine Or.inr ?_
      simp only [written?, perform, refused, and_self]
    · refine Or.inl ⟨action, ?_, ?_⟩
      all_goals simp only [written?, perform, accepted, wrote]
  | require id =>
    refine Or.inr ⟨by simp only [written?], ?_⟩
    cases required : registry.require id <;> simp only [perform, required, and_self]
  | lookup | find | contains | isEmpty | settings | entries => exact Or.inr ⟨rfl, rfl, rfl⟩

/-- The registry behind a call is the one behind what the call writes. -/
theorem registry_perform (registry : Registry) (call : Call) :
    (registry.perform call).registry =
      match registry.written? call with
      | some action => (registry.register action).registry
      | none => registry := by
  rcases registry.perform_cases call with ⟨action, written, performed⟩ | ⟨silent, unchanged, -⟩
  · rw [written, performed]
    rfl
  · rw [silent, unchanged]

theorem settings_perform (registry : Registry) (call : Call) :
    (registry.perform call).registry.settings = registry.settings := by
  rw [registry_perform]
  split <;> rfl

theorem after_cons (registry : Registry) (call : Call) (rest : List Call) :
    registry.after (call :: rest) = (registry.perform call).registry.after rest :=
  rfl

theorem after_append (registry : Registry) (first second : List Call) :
    registry.after (first ++ second) = (registry.after first).after second :=
  List.foldl_append

theorem settings_after (registry : Registry) (calls : List Call) :
    (registry.after calls).settings = registry.settings := by
  induction calls generalizing registry with
  | nil => rfl
  | cons call rest inductionHypothesis =>
    rw [after_cons, inductionHypothesis, settings_perform]

theorem written_append (registry : Registry) (first second : List Call) :
    registry.written (first ++ second) =
      registry.written first ++ (registry.after first).written second := by
  induction first generalizing registry with
  | nil => rfl
  | cons call rest inductionHypothesis =>
    rw [List.cons_append, written, inductionHypothesis, written, List.append_assoc]
    rfl

/-! ### Reflecting a history -/

/-- The registry answers by the history: an identifier leads to the last write under it, a name
to the identifier of its holder, and the next write has the next position. -/
structure Reflects (registry : Registry) (history : List Action) : Prop where
  serial : registry.serial = history.length
  lookup : ∀ id, registry.lookup id = lastUnder history id
  owner : ∀ name, registry.store.owner? name = (holder? history name).map Entry.id

namespace Reflects

variable {history : List Action}

theorem find (reflects : registry.Reflects history) (name : String) :
    registry.find name = holder? history name := by
  show (registry.store.owner? name).bind registry.lookup = _
  rw [reflects.owner]
  cases leads : holder? history name with
  | none => rfl
  | some entry =>
    show registry.lookup entry.id = some entry
    rw [reflects.lookup]
    exact (holder?_eq_some_iff.1 leads).2

theorem lookup_of_find (reflects : registry.Reflects history) {name : String} {entry : Entry}
    (found : registry.find name = some entry) : registry.lookup entry.id = some entry := by
  rw [reflects.find] at found
  rw [reflects.lookup]
  exact (holder?_eq_some_iff.1 found).2

theorem empty (settings : Settings) : (Registry.empty settings).Reflects [] where
  serial := rfl
  lookup _ := rfl
  owner _ := rfl

/-- Where the replaced write has the name, the name led to it exactly if it led to its
identifier. -/
theorem released_iff (reflects : registry.Reflects history) (id : Id) (name : String) :
    ((registry.lookup id).bind Entry.name? = some name ∧
        registry.store.owner? name = some id) ↔
      ∃ entry, holder? history name = some entry ∧ entry.id = id := by
  rw [reflects.owner, Option.map_eq_some_iff]
  constructor
  · rintro ⟨-, leads⟩
    exact leads
  · rintro ⟨entry, leads, rfl⟩
    refine ⟨?_, entry, leads, rfl⟩
    obtain ⟨named, current⟩ := holder?_eq_some_iff.1 leads
    rw [reflects.lookup, current]
    exact kind_of_latest named

/-- A write appends to the history. -/
theorem register (reflects : registry.Reflects history) (action : Action) :
    (registry.register action).registry.Reflects (history ++ [action]) where
  serial := by
    rw [List.length_append, ← reflects.serial]
    rfl
  lookup id := by
    rw [lookup_register, lastUnder, latest_concat, reflects.serial, reflects.lookup]
    exact if_congr eq_comm rfl rfl
  owner name := by
    refine (Store.owner?_insert registry.store ⟨registry.serial, action⟩ name).trans ?_
    show (if action.name? = some name then some action.id
      else if (registry.lookup action.id).bind Entry.name? = some name ∧
        registry.store.owner? name = some action.id then none
      else registry.store.owner? name) = _
    by_cases named : action.name? = some name
    · rw [if_pos named, holder?_concat_of_named history named]
      rfl
    · rw [if_neg named, holder?_concat_of_not_named history named,
        if_congr (reflects.released_iff action.id name) rfl rfl, reflects.owner]
      cases leads : holder? history name with
      | none => simp
      | some entry =>
        by_cases same : action.id = entry.id
        · simp [same]
        · simp [same, Ne.symm same]

/-- A call appends to the history what it writes. -/
theorem perform (reflects : registry.Reflects history) (call : Call) :
    (registry.perform call).registry.Reflects (history ++ (registry.written? call).toList) := by
  rw [registry_perform]
  cases registry.written? call with
  | none =>
    rw [Option.toList_none, List.append_nil]
    exact reflects
  | some action => exact reflects.register action

/-- A run of calls appends to the history what the calls write. -/
theorem after (reflects : registry.Reflects history) (calls : List Call) :
    (registry.after calls).Reflects (history ++ registry.written calls) := by
  induction calls generalizing registry history with
  | nil =>
    rw [written, List.append_nil]
    exact reflects
  | cons call rest inductionHypothesis =>
    rw [after_cons, written, ← List.append_assoc]
    exact inductionHypothesis (reflects.perform call)

theorem registerAll (reflects : registry.Reflects history) (actions : List Action) :
    (Workload.registerAll registry actions).Reflects (history ++ actions) := by
  induction actions generalizing registry history with
  | nil =>
    rw [List.append_nil]
    exact reflects
  | cons action rest inductionHypothesis =>
    rw [← List.singleton_append, ← List.append_assoc]
    exact inductionHypothesis (reflects.register action)

end Reflects

/-! ### The history without the replies -/

/-- The action that a call adds to a history. A guarded write adds none if the policy rejects and
the history knows the identifier. -/
def admitted? (settings : Settings) (history : List Action) : Call → Option Action
  | .register action => some action
  | .tryRegister action =>
    if settings.policy = .reject ∧ ∃ earlier ∈ history, earlier.id = action.id then none
    else some action
  | _ => none

/-- The history that calls make of a history. -/
def chronicle (settings : Settings) (history : List Action) : List Call → List Action
  | [] => history
  | call :: rest => chronicle settings (history ++ (admitted? settings history call).toList) rest

namespace Reflects

variable {history : List Action}

theorem lookup_eq_none_iff (reflects : registry.Reflects history) (id : Id) :
    registry.lookup id = none ↔ ∀ action ∈ history, action.id ≠ id := by
  rw [reflects.lookup]
  exact latest_eq_none_iff

/-- A registered action is part of the history, and stands under its own identifier. -/
theorem mem_of_lookup (reflects : registry.Reflects history) {id : Id} {entry : Entry}
    (registered : registry.lookup id = some entry) :
    entry.action ∈ history ∧ entry.id = id := by
  rw [reflects.lookup] at registered
  obtain ⟨before, after, rfl, -, same, -⟩ := split_of_latest registered
  exact ⟨List.mem_append_right _ List.mem_cons_self, same⟩

theorem written?_eq (reflects : registry.Reflects history) (call : Call) :
    registry.written? call = admitted? registry.settings history call := by
  cases call with
  | tryRegister action =>
    rcases registry.tryRegister_cases action with
      ⟨existing, rejects, taken, refused⟩ | ⟨free, accepted⟩
    · obtain ⟨member, same⟩ := reflects.mem_of_lookup taken
      rw [admitted?, if_pos ⟨rejects, existing.action, member, same⟩]
      simp only [written?, Registry.perform, refused]
    · have admits : ¬ (registry.settings.policy = .reject ∧
          ∃ earlier ∈ history, earlier.id = action.id) := by
        rintro ⟨rejects, earlier, member, same⟩
        rcases free with replaces | absent
        · rw [replaces] at rejects
          cases rejects
        · exact (reflects.lookup_eq_none_iff action.id).1 absent earlier member same
      rw [admitted?, if_neg admits]
      simp only [written?, Registry.perform, accepted, wrote]
  | require id =>
    simp only [written?, admitted?]
  | register | lookup | find | contains | isEmpty | settings | entries => rfl

/-- The writes that were not refused are those that the history itself admits. -/
theorem chronicle_eq (reflects : registry.Reflects history) (calls : List Call) :
    chronicle registry.settings history calls = history ++ registry.written calls := by
  induction calls generalizing registry history with
  | nil => rw [written, chronicle, List.append_nil]
  | cons call rest inductionHypothesis =>
    rw [chronicle, ← reflects.written?_eq, ← settings_perform registry call,
      inductionHypothesis (reflects.perform call), written, List.append_assoc]

end Reflects

/-! ### New registries -/

/-- A registry that nothing was done with yet, and the actions that it was filled with. -/
inductive Made : Registry → List Action → Prop where
  | empty (settings : Settings) : Made (Registry.empty settings) []
  | filled {table : List Action} {settings : Settings} {registry : Registry} {record : Record}
      (successful : ofTable table settings = .ok (registry, record)) : Made registry table

/-- Filling a registry registers the actions one by one. -/
theorem eq_registerAll_of_extend {registry filled : Registry} {table : List Action}
    (successful : registry.extend table = .ok filled) :
    filled = Workload.registerAll registry table := by
  induction table generalizing registry with
  | nil =>
    cases successful
    rfl
  | cons action rest inductionHypothesis =>
    rw [extend] at successful
    split at successful
    next => cases successful
    next => exact inductionHypothesis successful

/-- A new registry is an empty one in which the actions were registered one by one. -/
theorem Made.exists_eq_registerAll {seed : List Action} (made : Made registry seed) :
    ∃ settings, registry = Workload.registerAll (Registry.empty settings) seed := by
  cases made with
  | empty settings => exact ⟨settings, rfl⟩
  | @filled _ settings _ _ successful =>
    rw [ofTable] at successful
    split at successful
    next filled extended =>
      cases successful
      exact ⟨settings, eq_registerAll_of_extend extended⟩
    next => cases successful

theorem Made.reflects {seed : List Action} (made : Made registry seed) :
    registry.Reflects seed := by
  obtain ⟨settings, rfl⟩ := made.exists_eq_registerAll
  exact (Reflects.empty settings).registerAll seed

/-- A table without a repeated identifier fills a registry that knows none of them. -/
theorem Reflects.extend_eq_ok {history table : List Action} (reflects : registry.Reflects history)
    (distinct : ((history ++ table).map Action.id).Nodup) :
    registry.extend table = .ok (Workload.registerAll registry table) := by
  induction table generalizing registry history with
  | nil => rfl
  | cons action rest inductionHypothesis =>
    have free : registry.lookup action.id = none := by
      rw [reflects.lookup_eq_none_iff]
      intro earlier member same
      rw [List.map_append, List.nodup_append] at distinct
      exact distinct.2.2 earlier.id (List.mem_map_of_mem member) action.id List.mem_cons_self same
    rw [← List.singleton_append, ← List.append_assoc] at distinct
    rw [extend, free]
    exact inductionHypothesis (reflects.register action) distinct

theorem ofTable_eq_ok {table : List Action} (settings : Settings)
    (distinct : (table.map Action.id).Nodup) :
    ofTable table settings =
      .ok (Workload.registerAll (Registry.empty settings) table,
        .seeded (Workload.registerAll (Registry.empty settings) table).size) := by
  rw [ofTable, (Reflects.empty settings).extend_eq_ok distinct]

/-- The shared registry comes about in every environment, and it is filled with the catalog. -/
theorem exists_shared (environment : Environment) :
    ∃ origin records, shared environment = .ok (origin, records) ∧ Made origin Catalog.actions := by
  obtain ⟨settings, records, laid⟩ :
      ∃ settings records, Settings.ofEnvironment environment = (settings, records) := ⟨_, _, rfl⟩
  obtain ⟨origin, record, filled⟩ :
      ∃ origin record, ofTable Catalog.actions settings = .ok (origin, record) :=
    ⟨_, _, ofTable_eq_ok settings Catalog.nodup_ids⟩
  refine ⟨origin, records ++ [record], ?_, .filled filled⟩
  -- The table is made a variable, for otherwise Lean evaluates the catalog.
  delta shared
  generalize Catalog.actions = table at filled ⊢
  rw [laid]
  simp only [filled]

/-- A registry that calls make of a new one. -/
def Reachable (registry : Registry) : Prop :=
  ∃ origin seed calls, Made origin seed ∧ registry = origin.after calls

theorem Reachable.exists_reflects (reachable : registry.Reachable) :
    ∃ history, registry.Reflects history := by
  obtain ⟨origin, seed, calls, made, rfl⟩ := reachable
  exact ⟨_, made.reflects.after calls⟩

end Registry

end ActionDirectory
