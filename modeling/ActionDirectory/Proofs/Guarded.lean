/-
Guarded registrations. A guarded registration does all that a plain one of the action would
do, with the same reply and the same record, or it does nothing and tells who holds the
identifier. It does nothing exactly if the policy rejects and the identifier is taken. So of
a whole run nothing but the accepted writes matters: the plain registrations of what a run
writes lead to the same registry and leave the same journal.
-/

import ActionDirectory.Proofs.Replay

namespace ActionDirectory

variable {origin registry : Registry} {seed history : List Action} {action : Action}

namespace Registry

/-! ### One guarded registration -/

theorem perform_tryRegister_of_free
    (free : registry.settings.policy = .replace ∨ registry.lookup action.id = none) :
    registry.perform (.tryRegister action) = registry.perform (.register action) := by
  have accepted : registry.tryRegister action = .ok (registry.register action) := by
    rcases registry.tryRegister_cases action with ⟨existing, rejects, taken, -⟩ | ⟨-, accepted⟩
    · rcases free with replaces | absent
      · rw [rejects] at replaces
        cases replaces
      · rw [taken] at absent
        cases absent
    · exact accepted
  simp only [perform, accepted]

theorem perform_tryRegister_of_taken (rejects : registry.settings.policy = .reject)
    {existing : Entry} (taken : registry.lookup action.id = some existing) :
    registry.perform (.tryRegister action) =
      { registry, reply := .failed (.duplicateId action.id existing.action.rendered) } := by
  rcases registry.tryRegister_cases action with
    ⟨other, -, found, refused⟩ | ⟨replaces | absent, -⟩
  · rw [taken] at found
    cases found
    simp only [perform, refused]
  · rw [rejects] at replaces
    cases replaces
  · rw [taken] at absent
    cases absent

/-- What is displayed for an entry is its name, or the text of the identifier it is under. -/
theorem Reflects.rendered_of_lookup (reflects : registry.Reflects history) {id : Id}
    {existing : Entry} (taken : registry.lookup id = some existing) :
    existing.action.rendered =
      if existing.action.name = "" then id.text else existing.action.name := by
  have own : existing.action.id = id := (reflects.mem_of_lookup taken).2
  by_cases unnamed : existing.action.name = ""
  · rw [if_pos unnamed, Action.rendered_of_unnamed unnamed, own]
  · rw [if_neg unnamed, Action.rendered_of_named unnamed]

/-! ### Runs without guards -/

/-- The plain registrations of what calls write. -/
def plainly (registry : Registry) (calls : List Call) : List Call :=
  (registry.written calls).map Call.register

/-- Of a call that writes its plain registration is left, and of any other call nothing. -/
theorem plainly_cons_cases (registry : Registry) (call : Call) (rest : List Call) :
    (∃ action, registry.perform call = registry.perform (.register action) ∧
        registry.plainly (call :: rest) =
          .register action :: (registry.perform call).registry.plainly rest) ∨
      ((registry.perform call).registry = registry ∧ (registry.perform call).records = [] ∧
        registry.plainly (call :: rest) = registry.plainly rest) := by
  rcases registry.perform_cases call with ⟨action, written, performed⟩ | ⟨silent, unchanged, quiet⟩
  · refine Or.inl ⟨action, performed, ?_⟩
    rw [plainly, Registry.written, written]
    rfl
  · refine Or.inr ⟨unchanged, quiet, ?_⟩
    rw [plainly, Registry.written, silent, unchanged]
    rfl

theorem after_plainly (registry : Registry) (calls : List Call) :
    registry.after (registry.plainly calls) = registry.after calls := by
  induction calls generalizing registry with
  | nil => rfl
  | cons call rest inductionHypothesis =>
    rcases registry.plainly_cons_cases call rest with ⟨action, same, plain⟩ | ⟨unchanged, -, plain⟩
    · rw [plain, after_cons, after_cons, ← same, inductionHypothesis]
    · rw [plain, after_cons, unchanged, inductionHypothesis]

theorem journal_plainly (registry : Registry) (calls : List Call) :
    registry.journal (registry.plainly calls) = registry.journal calls := by
  induction calls generalizing registry with
  | nil => rfl
  | cons call rest inductionHypothesis =>
    rcases registry.plainly_cons_cases call rest with
      ⟨action, same, plain⟩ | ⟨unchanged, quiet, plain⟩
    · rw [plain, journal_cons, journal_cons, ← same, inductionHypothesis]
    · rw [plain, journal_cons, quiet, unchanged, inductionHypothesis]
      rfl

end Registry

/-! ### The rule -/

/-- Through any handle of a registry and at any moment, a guarded registration gives the action as
it was offered and does what a plain one would do, if the policy replaces or the identifier is free:
the registry behind it, the reply and the records are the same, and so is what all handles see.
Otherwise it is refused with the identifier and with what is displayed for the entry under it, and
then the store with all its entries and names stays as it is, for all handles, and nothing is
recorded. So a run leads where the plain registrations of its writes lead, with the same journal. -/
theorem guarded_registration_is_plain_or_nothing (made : Registry.Made origin seed)
    (uses : List Use) {handle : Nat}
    (seen : ((Handles.ofRegistry origin).after uses).view? handle = some registry)
    (action : Action) :
    let handles := (Handles.ofRegistry origin).after uses
    let guarded := registry.perform (.tryRegister action)
    let plain := registry.perform (.register action)
    (registry.settings.policy = .replace ∨ registry.lookup action.id = none →
        guarded.reply = .entry ⟨registry.serial, action⟩ ∧ guarded.reply = plain.reply ∧
          guarded.registry = plain.registry ∧ guarded.records = plain.records ∧
          handles.use (.call handle (.tryRegister action)) =
            handles.use (.call handle (.register action))) ∧
      (registry.settings.policy = .reject → ∀ existing,
        registry.lookup action.id = some existing →
          guarded.reply = .failed (.duplicateId action.id
              (if existing.action.name = "" then action.id.text else existing.action.name)) ∧
            guarded.registry = registry ∧ guarded.records = [] ∧
            handles.use (.call handle (.tryRegister action)) = handles) ∧
      ∀ calls, registry.after (registry.plainly calls) = registry.after calls ∧
        registry.journal (registry.plainly calls) = registry.journal calls := by
  intro handles guarded plain
  have reflects : registry.Reflects _ := Handles.reflects_written made.reflects seen
  refine ⟨fun free => ?_, fun rejects existing taken => ?_,
    fun calls => ⟨registry.after_plainly calls, registry.journal_plainly calls⟩⟩
  · have same : guarded = plain := Registry.perform_tryRegister_of_free free
    refine ⟨congrArg Performed.reply same, congrArg Performed.reply same,
      congrArg Performed.registry same, congrArg Performed.records same, ?_⟩
    simp only [Handles.use, handles, seen]
    rw [Registry.perform_tryRegister_of_free free]
  · have refused : guarded = _ := Registry.perform_tryRegister_of_taken rejects taken
    rw [refused, reflects.rendered_of_lookup taken]
    refine ⟨rfl, rfl, rfl, ?_⟩
    simp only [Handles.use, handles, seen]
    rw [Registry.perform_tryRegister_of_taken rejects taken]
    obtain ⟨settings, -, rfl⟩ := Option.map_eq_some_iff.1 seen
    rfl

/-- Where duplicates are rejected, a free identifier takes over the name of another entry, and an
unnamed entry stays with its identifier when the same name is offered for it. -/
theorem guarded_registration_is_plain_or_nothing_of_shared_name :
    ∃ origin registry,
      Registry.Made origin [⟨{ value := 1 }, "copy"⟩, ⟨{ value := 2 }, ""⟩] ∧
      ((Handles.ofRegistry origin).after [.clone 0]).view? 1 = some registry ∧
      registry.settings.policy = .reject ∧
      registry.lookup { value := 3 } = none ∧
      (registry.perform (.tryRegister ⟨{ value := 3 }, "copy"⟩)).registry.find "copy" =
        some ⟨2, ⟨{ value := 3 }, "copy"⟩⟩ ∧
      registry.lookup { value := 2 } = some ⟨1, ⟨{ value := 2 }, ""⟩⟩ ∧
      (registry.perform (.tryRegister ⟨{ value := 2 }, "copy"⟩)).reply =
        .failed (.duplicateId { value := 2 } "2") ∧
      (registry.perform (.tryRegister ⟨{ value := 2 }, "copy"⟩)).registry = registry := by
  have made := @Registry.Made.filled [⟨{ value := 1 }, "copy"⟩, ⟨{ value := 2 }, ""⟩]
    { policy := .reject } _ _ rfl
  have moved := @guarded_registration_is_plain_or_nothing _ _ _ made [.clone 0] 1 rfl
    ⟨{ value := 3 }, "copy"⟩
  have refused := @guarded_registration_is_plain_or_nothing _ _ _ made [.clone 0] 1 rfl
    ⟨{ value := 2 }, "copy"⟩
  obtain ⟨told, unchanged, -, -⟩ := refused.2.1 rfl _ rfl
  refine ⟨_, _, made, rfl, rfl, rfl, ?_, rfl, told, unchanged⟩
  rw [(moved.1 (Or.inr rfl)).2.2.1]
  rfl

end ActionDirectory
