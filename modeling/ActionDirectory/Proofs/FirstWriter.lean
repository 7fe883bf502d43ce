/-
Registries that reject duplicates. As long as nothing is registered plainly, an identifier
belongs to the first action that is offered under it, which is the one of the table that
the registry was filled with if there is one there. Whoever offers another one is refused
and told of the owner, and the owner stays for good. It does not matter which threads the
offers come from, for any order of them is such a run.

No entry is ever replaced in such a run, so no identifier occurs twice in the history.
This is why the name index is complete here, which it is not in general: a name leads to
the last one that was accepted of the actions with the name, and nowhere only if no
registered action has it.
-/

import ActionDirectory.Proofs.Interleaving
import ActionDirectory.Proofs.NameIndex
import Mathlib.Data.List.Nodup

namespace ActionDirectory

variable {origin registry : Registry} {seed history : List Action} {name : String}

/-! ### Offers -/

/-- The action that a call offers to a registry. -/
def Call.offered? : Call → Option Action
  | .register action | .tryRegister action => some action
  | _ => none

/-- The actions that calls offer, accepted or not, in their order. -/
def offers (calls : List Call) : List Action :=
  calls.filterMap Call.offered?

theorem offers_cons (call : Call) (rest : List Call) :
    offers (call :: rest) = call.offered?.toList ++ offers rest := by
  rw [offers, List.filterMap_cons]
  cases call.offered? <;> rfl

/-- The first action under an identifier. -/
def firstUnder (actions : List Action) (id : Id) : Option Action :=
  actions.find? fun action => action.id = id

theorem firstUnder_append (first second : List Action) (id : Id) :
    firstUnder (first ++ second) id = (firstUnder first id).or (firstUnder second id) :=
  List.find?_append

theorem firstUnder_singleton (action : Action) (id : Id) :
    firstUnder [action] id = if action.id = id then some action else none := by
  rw [firstUnder, List.find?_singleton]
  exact if_congr decide_eq_true_iff rfl rfl

theorem firstUnder_eq_none_iff {actions : List Action} {id : Id} :
    firstUnder actions id = none ↔ ∀ action ∈ actions, action.id ≠ id := by
  simp [firstUnder]

theorem firstUnder_of_split {before after : List Action} {first : Action}
    (others : ∀ action ∈ before, action.id ≠ first.id) :
    firstUnder (before ++ first :: after) first.id = some first := by
  rw [firstUnder_append, firstUnder_eq_none_iff.2 others, Option.none_or, firstUnder,
    List.find?_cons_of_pos (by exact decide_eq_true rfl)]

/-! ### Histories without a repeated identifier -/

theorem ids_ne_of_nodup {before after : List Action} {action : Action}
    (distinct : ((before ++ action :: after).map Action.id).Nodup) :
    (∀ earlier ∈ before, earlier.id ≠ action.id) ∧ ∀ later ∈ after, later.id ≠ action.id := by
  rw [List.map_append, List.map_cons, List.perm_middle.nodup_iff, List.nodup_cons,
    List.mem_append] at distinct
  refine ⟨fun earlier member same => distinct.1 (Or.inl ?_),
    fun later member same => distinct.1 (Or.inr ?_)⟩
  · exact List.mem_map.2 ⟨earlier, member, same⟩
  · exact List.mem_map.2 ⟨later, member, same⟩

theorem nodup_ids_concat {action : Action} (distinct : (history.map Action.id).Nodup)
    (fresh : ∀ earlier ∈ history, earlier.id ≠ action.id) :
    ((history ++ [action]).map Action.id).Nodup := by
  rw [List.map_append, List.nodup_append]
  refine ⟨distinct, List.nodup_singleton _, fun id member other new => ?_⟩
  obtain ⟨earlier, known, rfl⟩ := List.mem_map.1 member
  rw [List.mem_singleton.1 new]
  exact fresh earlier known

/-- Where no identifier is repeated the last action under one is also the first. -/
theorem lastUnder_map_action_of_nodup (distinct : (history.map Action.id).Nodup) (id : Id) :
    (lastUnder history id).map Entry.action = firstUnder history id := by
  rcases absent_or_split history fun action => action.id = id with
    absent | ⟨before, last, after, rfl, rfl, others⟩
  · rw [lastUnder, latest_eq_none absent, firstUnder_eq_none_iff.2 absent]
    rfl
  · have found : lastUnder (before ++ last :: after) last.id = some ⟨before.length, last⟩ :=
      latest_of_split rfl others
    rw [found, firstUnder_of_split (ids_ne_of_nodup distinct).1]
    rfl

theorem not_forfeited_of_nodup (distinct : (history.map Action.id).Nodup) :
    ¬ Forfeited history name := by
  rintro ⟨before, last, after, rfl, -, -, later, member, same⟩
  exact (ids_ne_of_nodup distinct).2 later member same

namespace Registry

/-- A write under a free identifier does not repeat one. -/
theorem Reflects.nodup_concat (reflects : registry.Reflects history)
    (distinct : (history.map Action.id).Nodup) {action : Action}
    (free : registry.lookup action.id = none) :
    ((history ++ [action]).map Action.id).Nodup :=
  nodup_ids_concat distinct ((reflects.lookup_eq_none_iff action.id).1 free)

/-- A table that fills a registry repeats no identifier. -/
theorem Reflects.nodup_of_extend (reflects : registry.Reflects history)
    (distinct : (history.map Action.id).Nodup) {table : List Action} {filled : Registry}
    (successful : registry.extend table = .ok filled) :
    ((history ++ table).map Action.id).Nodup := by
  induction table generalizing registry history with
  | nil =>
    rw [List.append_nil]
    exact distinct
  | cons action rest inductionHypothesis =>
    rw [extend] at successful
    split at successful
    next => cases successful
    next free =>
      rw [← List.singleton_append, ← List.append_assoc]
      exact inductionHypothesis (reflects.register action) (reflects.nodup_concat distinct free)
        successful

theorem Made.nodup (made : Made origin seed) : (seed.map Action.id).Nodup := by
  cases made with
  | empty settings => exact List.nodup_nil
  | @filled _ settings _ _ successful =>
    rw [ofTable] at successful
    split at successful
    next filled extended => exact (Reflects.empty settings).nodup_of_extend List.nodup_nil extended
    next => cases successful

/-! ### One call of a registry that rejects -/

/-- A call that is not a plain registration writes under a free identifier only, if the policy
rejects. -/
theorem free_of_written? (rejects : registry.settings.policy = .reject) {call : Call}
    (guarded : ∀ action, call ≠ .register action) {action : Action}
    (written : registry.written? call = some action) : registry.lookup action.id = none := by
  cases call with
  | register other => exact absurd rfl (guarded other)
  | tryRegister other =>
    rcases registry.tryRegister_cases other with
      ⟨existing, -, -, refused⟩ | ⟨replaces | free, accepted⟩
    · simp [written?, perform, refused] at written
    · rw [rejects] at replaces
      cases replaces
    · simp only [written?, perform, accepted, wrote] at written
      cases written
      exact free
  | require id => simp [written?] at written
  | lookup | find | contains | isEmpty | settings | entries => cases written

/-- Such a call replaces no entry. -/
theorem lookup_perform_of_guarded (rejects : registry.settings.policy = .reject) {call : Call}
    (guarded : ∀ action, call ≠ .register action) {id : Id} {entry : Entry}
    (present : registry.lookup id = some entry) :
    (registry.perform call).registry.lookup id = some entry := by
  rw [registry_perform]
  cases written : registry.written? call with
  | none => exact present
  | some action =>
    have different : id ≠ action.id := by
      rintro rfl
      rw [free_of_written? rejects guarded written] at present
      cases present
    exact (registry.lookup_register action id).trans ((if_neg different).trans present)

/-- What it offers stands under its identifier afterwards, unless something stood there before. -/
theorem actionUnder_perform_of_guarded (rejects : registry.settings.policy = .reject) {call : Call}
    (guarded : ∀ action, call ≠ .register action) (id : Id) :
    (registry.perform call).registry.actionUnder id =
      (registry.actionUnder id).or (firstUnder call.offered?.toList id) := by
  cases call with
  | register action => exact absurd rfl (guarded action)
  | tryRegister action =>
    show _ = (registry.actionUnder id).or (firstUnder [action] id)
    rw [firstUnder_singleton]
    rcases registry.tryRegister_cases action with
      ⟨existing, -, taken, refused⟩ | ⟨replaces | free, accepted⟩
    · simp only [perform, refused]
      by_cases same : action.id = id
      · subst same
        rw [actionUnder, taken]
        rfl
      · rw [if_neg same, Option.or_none]
    · rw [rejects] at replaces
      cases replaces
    · simp only [perform, accepted, wrote, actionUnder, lookup_register]
      by_cases same : action.id = id
      · subst same
        rw [if_pos rfl, if_pos rfl, free]
        rfl
      · rw [if_neg (Ne.symm same), if_neg same, Option.or_none]
  | require id =>
    simp only [perform]
    split <;> exact Option.or_none.symm
  | lookup | find | contains | isEmpty | settings | entries => exact Option.or_none.symm

/-! ### Runs of a registry that rejects -/

theorem rejects_perform (rejects : registry.settings.policy = .reject) (call : Call) :
    (registry.perform call).registry.settings.policy = .reject := by
  rw [settings_perform, rejects]

/-- What stands under an identifier is what stood there at the start, or else the first action that
was offered under it. -/
theorem actionUnder_after_of_guarded (rejects : registry.settings.policy = .reject)
    {calls : List Call} (guarded : ∀ action, .register action ∉ calls) (id : Id) :
    (registry.after calls).actionUnder id =
      (registry.actionUnder id).or (firstUnder (offers calls) id) := by
  induction calls generalizing registry with
  | nil => exact Option.or_none.symm
  | cons call rest inductionHypothesis =>
    have guardedCall : ∀ action, call ≠ .register action := fun action same =>
      guarded action (same ▸ List.mem_cons_self)
    have guardedRest : ∀ action, .register action ∉ rest := fun action member =>
      guarded action (List.mem_cons_of_mem _ member)
    rw [after_cons, inductionHypothesis (rejects_perform rejects call) guardedRest,
      actionUnder_perform_of_guarded rejects guardedCall, offers_cons, firstUnder_append,
      Option.or_assoc]

/-- An entry stays for good. -/
theorem lookup_after_of_guarded (rejects : registry.settings.policy = .reject)
    {calls : List Call} (guarded : ∀ action, .register action ∉ calls) {id : Id} {entry : Entry}
    (present : registry.lookup id = some entry) :
    (registry.after calls).lookup id = some entry := by
  induction calls generalizing registry with
  | nil => exact present
  | cons call rest inductionHypothesis =>
    refine inductionHypothesis (rejects_perform rejects call)
      (fun action member => guarded action (List.mem_cons_of_mem _ member)) ?_
    exact lookup_perform_of_guarded rejects
      (fun action same => guarded action (same ▸ List.mem_cons_self)) present

/-- No identifier is repeated in the history. -/
theorem Reflects.nodup_written (reflects : registry.Reflects history)
    (distinct : (history.map Action.id).Nodup) (rejects : registry.settings.policy = .reject)
    {calls : List Call} (guarded : ∀ action, .register action ∉ calls) :
    ((history ++ registry.written calls).map Action.id).Nodup := by
  induction calls generalizing registry history with
  | nil =>
    rw [written, List.append_nil]
    exact distinct
  | cons call rest inductionHypothesis =>
    rw [written, ← List.append_assoc]
    refine inductionHypothesis (reflects.perform call) ?_ (rejects_perform rejects call)
      fun action member => guarded action (List.mem_cons_of_mem _ member)
    cases wrote : registry.written? call with
    | none =>
      rw [Option.toList_none, List.append_nil]
      exact distinct
    | some action =>
      have free : registry.lookup action.id = none :=
        free_of_written? rejects
          (fun action same => guarded action (same ▸ List.mem_cons_self)) wrote
      exact reflects.nodup_concat distinct free

/-- Where the policy rejects, what stands under the identifier decides about an offer. -/
theorem tryRegister_of_rejects (rejects : registry.settings.policy = .reject) (action : Action) :
    registry.tryRegister action =
      match registry.actionUnder action.id with
      | none => .ok (registry.register action)
      | some owner => .error (.duplicateId action.id owner.rendered) := by
  rw [tryRegister, rejects, actionUnder]
  cases registry.lookup action.id <;> rfl

/-- The owner of an identifier is the first action under it that the table or an offer brought. -/
theorem Made.actionUnder_after (made : Made origin seed)
    (rejects : origin.settings.policy = .reject) {calls : List Call}
    (guarded : ∀ action, .register action ∉ calls) (id : Id) :
    (origin.after calls).actionUnder id = firstUnder (seed ++ offers calls) id := by
  rw [actionUnder_after_of_guarded rejects guarded, firstUnder_append, actionUnder,
    made.reflects.lookup, lastUnder_map_action_of_nodup made.nodup]

/-- Without a repeated identifier, a name is found exactly if a registered action has it. -/
theorem Reflects.find_isSome_iff_of_nodup (reflects : registry.Reflects history)
    (distinct : (history.map Action.id).Nodup) (name : String) :
    (registry.find name).isSome ↔
      ∃ id entry, registry.lookup id = some entry ∧ entry.name? = some name := by
  constructor
  · intro found
    obtain ⟨entry, leads⟩ := Option.isSome_iff_exists.1 found
    exact ⟨entry.id, entry, reflects.lookup_of_find leads, reflects.name_of_find leads⟩
  · rintro ⟨id, entry, registered, named⟩
    rw [Option.isSome_iff_ne_none, Ne, reflects.find_eq_none_iff registered named]
    exact not_forfeited_of_nodup distinct

end Registry

/-! ### The rule -/

/-- In a registry that rejects, and that nothing is registered in plainly, every identifier belongs
to the first action that the table or an offer brings under it. An offer under a free identifier is
accepted, and every other one is refused and told the rendered name of the owner, who stays for
good. A name is found exactly if a registered action has it, and leads to the last one that was
accepted. The calls may come from any threads in any order. -/
theorem first_writer_owns_identifier (made : Registry.Made origin seed)
    (rejects : origin.settings.policy = .reject) (calls : List Call)
    (guarded : ∀ action, .register action ∉ calls) :
    let registry := origin.after calls
    let offered := seed ++ offers calls
    let accepted := seed ++ origin.written calls
    (∀ action,
        ((∀ earlier ∈ offered, earlier.id ≠ action.id) →
          registry.tryRegister action = .ok (registry.register action)) ∧
        ∀ before owner after, offered = before ++ owner :: after → owner.id = action.id →
          (∀ earlier ∈ before, earlier.id ≠ action.id) →
            registry.tryRegister action = .error (.duplicateId action.id owner.rendered)) ∧
      (∀ id entry, registry.lookup id = some entry →
        ∀ later, (∀ action, .register action ∉ later) →
          (registry.after later).lookup id = some entry) ∧
      ∀ name,
        ((registry.find name).isSome ↔
            ∃ id entry, registry.lookup id = some entry ∧ entry.name? = some name) ∧
          ∀ before last after, accepted = before ++ last :: after → last.name? = some name →
            (∀ action ∈ after, action.name? ≠ some name) →
              registry.find name = some ⟨before.length, last⟩ := by
  intro registry offered accepted
  have rejectsBehind : registry.settings.policy = .reject := by
    rw [Registry.settings_after, rejects]
  have owner : ∀ id, registry.actionUnder id = firstUnder offered id :=
    made.actionUnder_after rejects guarded
  have reflects : registry.Reflects accepted := made.reflects.after calls
  have distinct : (accepted.map Action.id).Nodup :=
    made.reflects.nodup_written made.nodup rejects guarded
  refine ⟨fun action => ⟨fun free => ?_, ?_⟩, fun id entry present later guardedLater => ?_,
    fun name => ⟨reflects.find_isSome_iff_of_nodup distinct name, ?_⟩⟩
  · rw [Registry.tryRegister_of_rejects rejectsBehind, owner, firstUnder_eq_none_iff.2 free]
  · intro before first after split same others
    have found : firstUnder offered action.id = some first := by
      rw [split, ← same]
      exact firstUnder_of_split fun earlier member => same ▸ others earlier member
    rw [Registry.tryRegister_of_rejects rejectsBehind, owner, found]
  · exact Registry.lookup_after_of_guarded rejectsBehind guardedLater present
  · intro before last after split named others
    rw [split] at distinct
    rw [reflects.find, split]
    exact holder?_of_kept named others (ids_ne_of_nodup distinct).2

/-- Two offers under one identifier and one under a seeded identifier share a name; the first wins,
and blanked owners are told by their identifier. -/
theorem first_writer_owns_identifier_of_shared_name :
    ∃ origin, Registry.Made origin [⟨{ value := 1 }, "copy"⟩, ⟨{ value := 2 }, ""⟩] ∧
      origin.settings.policy = .reject ∧
      let calls : List Call := [.tryRegister ⟨{ value := 7 }, "copy"⟩,
        .tryRegister ⟨{ value := 1 }, "move"⟩, .find "move", .tryRegister ⟨{ value := 7 }, "skip"⟩]
      (∀ action, .register action ∉ calls) ∧
      (origin.after calls).tryRegister ⟨{ value := 7 }, "late"⟩ =
        .error (.duplicateId { value := 7 } "copy") ∧
      (origin.after calls).tryRegister ⟨{ value := 2 }, "late"⟩ =
        .error (.duplicateId { value := 2 } "2") ∧
      (∃ written, (origin.after calls).tryRegister ⟨{ value := 8 }, "late"⟩ = .ok written) ∧
      (origin.after calls).find "copy" = some ⟨2, ⟨{ value := 7 }, "copy"⟩⟩ := by
  have made := @Registry.Made.filled [⟨{ value := 1 }, "copy"⟩, ⟨{ value := 2 }, ""⟩]
    { policy := .reject } _ _ rfl
  have guarded : ∀ action, Call.register action ∉ ([.tryRegister ⟨{ value := 7 }, "copy"⟩,
      .tryRegister ⟨{ value := 1 }, "move"⟩, .find "move",
      .tryRegister ⟨{ value := 7 }, "skip"⟩] : List Call) := by
    intro action member
    simp at member
  obtain ⟨offer, -, names⟩ := first_writer_owns_identifier made rfl _ guarded
  refine ⟨_, made, rfl, guarded, ?_, ?_, ?_, ?_⟩
  · exact (offer ⟨{ value := 7 }, "late"⟩).2 [⟨{ value := 1 }, "copy"⟩, ⟨{ value := 2 }, ""⟩]
      ⟨{ value := 7 }, "copy"⟩ [⟨{ value := 1 }, "move"⟩, ⟨{ value := 7 }, "skip"⟩] rfl rfl
      (by decide)
  · exact (offer ⟨{ value := 2 }, "late"⟩).2 [⟨{ value := 1 }, "copy"⟩] ⟨{ value := 2 }, ""⟩
      [⟨{ value := 7 }, "copy"⟩, ⟨{ value := 1 }, "move"⟩, ⟨{ value := 7 }, "skip"⟩] rfl rfl
      (by decide)
  · exact ⟨_, (offer ⟨{ value := 8 }, "late"⟩).1 (by decide)⟩
  · exact (names "copy").2 [⟨{ value := 1 }, "copy"⟩, ⟨{ value := 2 }, ""⟩]
      ⟨{ value := 7 }, "copy"⟩ [] rfl rfl (by decide)

end ActionDirectory
