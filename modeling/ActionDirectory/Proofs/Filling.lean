/-
Registries filled from a table. To fill a registry from a table is to register its actions one
by one, except that a table which uses an identifier twice is refused as a whole. Whether it is
refused does not depend on the settings, and neither does the reason: it is the one that a
registry which rejects duplicates gives first when the actions are offered to it one by one.
The reason tells of the first action that uses an identifier again, and of what is displayed
for the action that used it before.
-/

import ActionDirectory.Proofs.FirstWriter
import ActionDirectory.Proofs.Guarded
import ActionDirectory.Proofs.Noninterference

namespace ActionDirectory

/-! ### Tables that repeat an identifier -/

/-- A table repeats no identifier, or it has a first action that repeats the one of an earlier
action. -/
theorem nodup_or_repeats (table : List Action) :
    (table.map Action.id).Nodup ∨
      ∃ before first between repeated after,
        table = before ++ first :: between ++ repeated :: after ∧ repeated.id = first.id ∧
          ((before ++ first :: between).map Action.id).Nodup := by
  induction table using List.reverseRecOn with
  | nil => exact Or.inl List.nodup_nil
  | append_singleton table action inductionHypothesis =>
    rcases inductionHypothesis with
      distinct | ⟨before, first, between, repeated, after, rfl, same, distinct⟩
    · by_cases known : ∃ first ∈ table, first.id = action.id
      · obtain ⟨first, member, same⟩ := known
        obtain ⟨before, between, rfl⟩ := List.append_of_mem member
        exact Or.inr ⟨before, first, between, action, [], rfl, same.symm, distinct⟩
      · refine Or.inl (nodup_ids_concat distinct fun earlier member same => ?_)
        exact known ⟨earlier, member, same⟩
    · refine Or.inr ⟨before, first, between, repeated, after ++ [action], ?_, same, distinct⟩
      rw [List.append_assoc, List.cons_append]

/-! ### The failures of calls -/

/-- The failure that a reply tells of. -/
def Reply.failure? : Reply → Option Failure
  | .failed failure => some failure
  | _ => none

theorem Reply.failure?_eq_none_iff {reply : Reply} :
    reply.failure? = none ↔ ∀ failure, reply ≠ .failed failure := by
  cases reply <;> simp [failure?]

namespace Registry

/-- The first failure among the replies to calls one behind the other. -/
def firstFailure? (registry : Registry) (calls : List Call) : Option Failure :=
  (registry.performAll calls).findSome? fun performed => performed.reply.failure?

theorem firstFailure?_cons (registry : Registry) (call : Call) (rest : List Call) :
    registry.firstFailure? (call :: rest) =
      (registry.perform call).reply.failure?.or
        ((registry.perform call).registry.firstFailure? rest) :=
  List.findSome?_cons.trans (by cases (registry.perform call).reply.failure? <;> rfl)

theorem firstFailure?_eq_none_iff {registry : Registry} {calls : List Call} :
    registry.firstFailure? calls = none ↔
      ∀ performed ∈ registry.performAll calls, ∀ failure, performed.reply ≠ .failed failure := by
  rw [firstFailure?, List.findSome?_eq_none_iff]
  exact forall₂_congr fun performed _ => Reply.failure?_eq_none_iff

/-! ### Filling and offering -/

variable {registry : Registry} {history table : List Action} {settings : Settings}

theorem extend_append (registry : Registry) (first second : List Action) :
    registry.extend (first ++ second) =
      (registry.extend first).bind fun filled => filled.extend second := by
  induction first generalizing registry with
  | nil => rfl
  | cons action rest inductionHypothesis =>
    rw [List.cons_append, extend, extend]
    cases registry.lookup action.id with
    | some existing => rfl
    | none => exact inductionHypothesis (registry.register action).registry

/-- Where duplicates are rejected, offers fail first with what refuses them as a table. -/
theorem firstFailure?_offers (rejects : registry.settings.policy = .reject)
    (table : List Action) :
    registry.firstFailure? (table.map .tryRegister) =
      match registry.extend table with
      | .ok _ => none
      | .error failure => some failure := by
  induction table generalizing registry with
  | nil => rfl
  | cons action rest inductionHypothesis =>
    rw [List.map_cons, firstFailure?_cons, extend]
    cases taken : registry.lookup action.id with
    | some existing =>
      rw [perform_tryRegister_of_taken rejects taken]
      rfl
    | none =>
      rw [perform_tryRegister_of_free (Or.inr taken)]
      exact inductionHypothesis rejects

/-- The reason why a table is refused is the first failure of the offers of its actions to a
registry that rejects duplicates. -/
theorem ofTable_eq_error_iff {rejecting : Settings} (rejects : rejecting.policy = .reject)
    {failure : Failure} :
    ofTable table settings = .error failure ↔
      (empty rejecting).firstFailure? (table.map .tryRegister) = some failure := by
  have refused : (empty rejecting).settings.policy = .reject := rejects
  rw [firstFailure?_offers refused, ofTable_under table rejecting settings, ofTable]
  cases (empty rejecting).extend table with
  | ok filled => simp [Except.map]
  | error reason => simp [Except.map]

theorem exists_ofTable_iff :
    (∃ registry record, ofTable table settings = .ok (registry, record)) ↔
      (table.map Action.id).Nodup := by
  constructor
  · rintro ⟨registry, record, filled⟩
    exact (Made.filled filled).nodup
  · intro distinct
    exact ⟨_, _, ofTable_eq_ok settings distinct⟩

theorem firstFailure?_offers_eq_none_iff {rejecting : Settings}
    (rejects : rejecting.policy = .reject) :
    (empty rejecting).firstFailure? (table.map .tryRegister) = none ↔
      (table.map Action.id).Nodup := by
  rw [← @exists_ofTable_iff table rejecting, Option.eq_none_iff_forall_ne_some]
  constructor
  · intro never
    cases outcome : ofTable table rejecting with
    | ok made => exact ⟨made.1, made.2, rfl⟩
    | error failure => exact absurd ((ofTable_eq_error_iff rejects).1 outcome) (never failure)
  · rintro ⟨registry, record, filled⟩ failure first
    rw [(ofTable_eq_error_iff rejects).2 first] at filled
    cases filled

/-- A table is refused for its first action that repeats an identifier. -/
theorem ofTable_of_repeats {before between after : List Action} {first repeated : Action}
    (same : repeated.id = first.id)
    (distinct : ((before ++ first :: between).map Action.id).Nodup) :
    ofTable (before ++ first :: between ++ repeated :: after) settings =
      .error (.duplicateId repeated.id first.rendered) := by
  have filled : (empty settings).extend (before ++ first :: between) = .ok _ :=
    (Reflects.empty settings).extend_eq_ok distinct
  have reflects := (Reflects.empty settings).registerAll (before ++ first :: between)
  have taken : (Workload.registerAll (empty settings) (before ++ first :: between)).lookup
      repeated.id = some ⟨before.length, first⟩ := by
    rw [reflects.lookup, same]
    exact latest_of_split rfl (ids_ne_of_nodup distinct).2
  rw [ofTable, extend_append, filled]
  simp only [Except.bind, extend, taken]

/-! ### Filling and registering -/

/-- Two registries give the same entries and list the same ones. -/
structure AnswersAlike (left right : Registry) : Prop where
  lookup : ∀ id, left.lookup id = right.lookup id
  find : ∀ name, left.find name = right.find name
  size : left.size = right.size
  entries : left.entries = right.entries

theorem answersAlike_under (registry : Registry) (settings : Settings) :
    AnswersAlike registry (registry.under settings) where
  lookup _ := rfl
  find _ := rfl
  size := rfl
  entries := rfl

theorem after_registers (registry : Registry) (actions : List Action) :
    registry.after (actions.map .register) = Workload.registerAll registry actions :=
  List.foldl_map

theorem registerAll_under (registry : Registry) (settings : Settings) (actions : List Action) :
    Workload.registerAll (registry.under settings) actions =
      (Workload.registerAll registry actions).under settings := by
  induction actions generalizing registry with
  | nil => rfl
  | cons action rest inductionHypothesis =>
    exact inductionHypothesis (registry.register action).registry

theorem size_registerAll (settings : Settings) (distinct : (table.map Action.id).Nodup) :
    (Workload.registerAll (empty settings) table).size = table.length := by
  have reflects := (Reflects.empty settings).registerAll table
  rw [reflects.size_eq, List.nil_append, List.toFinset_card_of_nodup distinct, List.length_map]

/-- The records that filling a registry from a table leaves; a refused table leaves none. -/
def seedingRecords (table : List Action) (settings : Settings) : List Record :=
  match ofTable table settings with
  | .ok (_, record) => [record]
  | .error _ => []

end Registry

/-! ### The rule -/

/-- A table fills a registry under any settings exactly if it repeats no identifier, which is so
exactly if its actions can be offered in order to an empty registry that rejects duplicates and none
is refused. Then the registry answers as an empty one does after the actions were registered one by
one, and the only record counts the actions of the table. A table that repeats identifiers leaves no
record. The first action that repeats one is the reason, together with what is displayed for the
action that had it first, and this is also the first failure when the actions are offered one by
one. -/
theorem table_is_offered_in_order (table : List Action) (settings : Settings) :
    ((∃ registry record, Registry.ofTable table settings = .ok (registry, record)) ↔
        (table.map Action.id).Nodup) ∧
      (∀ rejecting : Settings, rejecting.policy = .reject →
        ((table.map Action.id).Nodup ↔
          ∀ performed ∈ (Registry.empty rejecting).performAll (table.map .tryRegister),
            ∀ failure, performed.reply ≠ .failed failure)) ∧
      (∀ registry record, Registry.ofTable table settings = .ok (registry, record) →
        Registry.seedingRecords table settings = [.seeded table.length] ∧
          ∀ other, Registry.AnswersAlike registry
            ((Registry.empty other).after (table.map .register))) ∧
      ∀ failure, Registry.ofTable table settings = .error failure →
        Registry.seedingRecords table settings = [] ∧
          (∃ before first between repeated after,
            table = before ++ first :: between ++ repeated :: after ∧ repeated.id = first.id ∧
              ((before ++ first :: between).map Action.id).Nodup ∧
              failure = .duplicateId repeated.id first.rendered) ∧
          ∀ rejecting : Settings, rejecting.policy = .reject →
            (Registry.empty rejecting).firstFailure? (table.map .tryRegister) = some failure := by
  refine ⟨Registry.exists_ofTable_iff, fun rejecting rejects => ?_,
    fun registry record filled => ⟨?_, fun other => ?_⟩,
    fun failure refused => ⟨?_, ?_, fun rejecting rejects => ?_⟩⟩
  · rw [← Registry.firstFailure?_offers_eq_none_iff rejects, Registry.firstFailure?_eq_none_iff]
  · have distinct := Registry.exists_ofTable_iff.1 ⟨registry, record, filled⟩
    rw [Registry.seedingRecords, Registry.ofTable_eq_ok settings distinct,
      Registry.size_registerAll settings distinct]
  · have distinct := Registry.exists_ofTable_iff.1 ⟨registry, record, filled⟩
    rw [Registry.ofTable_eq_ok settings distinct] at filled
    cases filled
    rw [Registry.after_registers]
    have same : Registry.empty other = (Registry.empty settings).under other := rfl
    rw [same, Registry.registerAll_under]
    exact Registry.answersAlike_under _ other
  · rw [Registry.seedingRecords, refused]
  · rcases nodup_or_repeats table with
      distinct | ⟨before, first, between, repeated, after, rfl, same, distinct⟩
    · rw [Registry.ofTable_eq_ok settings distinct] at refused
      cases refused
    · rw [Registry.ofTable_of_repeats same distinct] at refused
      cases refused
      exact ⟨before, first, between, repeated, after, rfl, same, distinct, rfl⟩
  · exact (Registry.ofTable_eq_error_iff rejects).1 refused

/-- An unnamed action is repeated before a named one is, and is the reason by its identifier. -/
theorem table_is_offered_in_order_of_repeated_actions :
    let table : List Action := [⟨{ value := 7 }, ""⟩, ⟨{ value := 1 }, "copy"⟩,
      ⟨{ value := 7 }, "move"⟩, ⟨{ value := 1 }, "skip"⟩]
    Registry.ofTable table {} = .error (.duplicateId { value := 7 } "7") ∧
      (Registry.empty { policy := .reject }).firstFailure? (table.map .tryRegister) =
        some (.duplicateId { value := 7 } "7") ∧
      ∃ registry record,
        Registry.ofTable [⟨{ value := 7 }, "copy"⟩, ⟨{ value := 1 }, "copy"⟩] {} =
            .ok (registry, record) ∧
          Registry.AnswersAlike registry ((Registry.empty { policy := .reject }).after
            [.register ⟨{ value := 7 }, "copy"⟩, .register ⟨{ value := 1 }, "copy"⟩]) := by
  intro table
  have refused : Registry.ofTable table {} = .error (.duplicateId { value := 7 } "7") := rfl
  obtain ⟨-, -, -, failing⟩ := table_is_offered_in_order table {}
  obtain ⟨fills, -, filling, -⟩ :=
    table_is_offered_in_order [⟨{ value := 7 }, "copy"⟩, ⟨{ value := 1 }, "copy"⟩] {}
  obtain ⟨registry, record, filled⟩ := fills.2 (by decide)
  exact ⟨refused, (failing _ refused).2.2 { policy := .reject } rfl, registry, record, filled,
    (filling registry record filled).2 { policy := .reject }⟩

end ActionDirectory
