/-
The name index against the history of writes. What a name leads to is decided by the
last write of the name: it is that write, unless something was written under its
identifier since, and then it is nothing. An earlier write of the same name does not
take its place. So a name that a registered action carries can lead nowhere, and this
happens exactly to the names whose last write was replaced.
-/

import ActionDirectory.Proofs.Handles
import ActionDirectory.Registry.Shared

namespace ActionDirectory

variable {origin registry : Registry} {seed history : List Action} {name : String}

theorem Action.name?_iff_of_ne_empty {action : Action} (named : name ≠ "") :
    action.name? = some name ↔ action.name = name :=
  Action.name?_eq_some_iff.trans (and_iff_left named)

theorem Action.name?_ne_empty (action : Action) : action.name? ≠ some "" := fun named =>
  (Action.name?_eq_some_iff.1 named).2 rfl

/-! ### The rule -/

/-- A name leads to its last write if nothing was written under the identifier of that write
since, and nowhere otherwise; this is so behind all uses of all handles of a registry. -/
theorem find_decided_by_history (made : Registry.Made origin seed) (uses : List Use)
    {handle : Nat}
    (seen : ((Handles.ofRegistry origin).after uses).view? handle = some registry) :
    let history := seed ++ (Handles.ofRegistry origin).written uses
    registry.find "" = none ∧
      ∀ name, name ≠ "" →
        ((∀ action ∈ history, action.name ≠ name) → registry.find name = none) ∧
          ∀ before last after, history = before ++ last :: after → last.name = name →
            (∀ action ∈ after, action.name ≠ name) →
              ((∀ action ∈ after, action.id ≠ last.id) →
                registry.find name = some ⟨before.length, last⟩) ∧
              ((∃ action ∈ after, action.id = last.id) → registry.find name = none) := by
  intro history
  have reflects : registry.Reflects history := Handles.reflects_written made.reflects seen
  refine ⟨?_, fun name named => ⟨fun absent => ?_, ?_⟩⟩
  · rw [reflects.find]
    exact holder?_eq_none fun action _ => action.name?_ne_empty
  · rw [reflects.find]
    exact holder?_eq_none fun action member =>
      mt (Action.name?_iff_of_ne_empty named).1 (absent action member)
  · intro before last after split carries others
    have lastNamed : last.name? = some name := (Action.name?_iff_of_ne_empty named).2 carries
    have othersNot : ∀ action ∈ after, action.name? ≠ some name := fun action member =>
      mt (Action.name?_iff_of_ne_empty named).1 (others action member)
    rw [reflects.find, split]
    exact ⟨holder?_of_kept lastNamed othersNot, holder?_of_replaced lastNamed othersNot⟩

/-- A name of a table is taken over and dropped again, and a refused write leaves no trace. -/
theorem find_decided_by_history_of_moved_name :
    ∃ origin registry,
      Registry.Made origin [⟨{ value := 1 }, "copy"⟩, ⟨{ value := 2 }, "move"⟩] ∧
      ((Handles.ofRegistry origin).after
        [.clone 0, .call 1 (.register ⟨{ value := 3 }, "copy"⟩),
          .call 0 (.tryRegister ⟨{ value := 1 }, "other"⟩),
          .call 1 (.register ⟨{ value := 2 }, "copy"⟩)]).view? 1 = some registry ∧
      registry.find "copy" = some ⟨3, ⟨{ value := 2 }, "copy"⟩⟩ ∧
      registry.find "move" = none := by
  have made := @Registry.Made.filled [⟨{ value := 1 }, "copy"⟩, ⟨{ value := 2 }, "move"⟩]
    { policy := .reject } _ _ rfl
  have decided := @find_decided_by_history _ _ _ made
    [.clone 0, .call 1 (.register ⟨{ value := 3 }, "copy"⟩),
      .call 0 (.tryRegister ⟨{ value := 1 }, "other"⟩),
      .call 1 (.register ⟨{ value := 2 }, "copy"⟩)] 1 rfl
  refine ⟨_, _, made, rfl, ?_, ?_⟩
  · exact ((decided.2 "copy" (by decide)).2
      [⟨{ value := 1 }, "copy"⟩, ⟨{ value := 2 }, "move"⟩, ⟨{ value := 3 }, "copy"⟩]
      ⟨{ value := 2 }, "copy"⟩ [] rfl rfl (by decide)).1 (by decide)
  · exact ((decided.2 "move" (by decide)).2 [⟨{ value := 1 }, "copy"⟩] ⟨{ value := 2 }, "move"⟩
      [⟨{ value := 3 }, "copy"⟩, ⟨{ value := 2 }, "copy"⟩] rfl rfl (by decide)).2 (by decide)

/-! ### Names that lead nowhere -/

/-- The last write of a name was replaced by a write under its identifier. -/
def Forfeited (history : List Action) (name : String) : Prop :=
  ∃ before last after, history = before ++ last :: after ∧ last.name? = some name ∧
    (∀ action ∈ after, action.name? ≠ some name) ∧ ∃ action ∈ after, action.id = last.id

/-- A name leads nowhere if it was never written, or if its last write was replaced. -/
theorem holder?_eq_none_iff :
    holder? history name = none ↔
      (∀ action ∈ history, action.name? ≠ some name) ∨ Forfeited history name := by
  constructor
  · intro nowhere
    rcases absent_or_split history fun action => action.name? = some name with
      absent | ⟨before, last, after, rfl, named, others⟩
    · exact Or.inl absent
    · refine Or.inr ⟨before, last, after, rfl, named, others, ?_⟩
      by_contra kept
      rw [holder?_of_kept named others fun action member same => kept ⟨action, member, same⟩]
        at nowhere
      cases nowhere
  · rintro (absent | ⟨before, last, after, rfl, named, others, replaced⟩)
    · exact holder?_eq_none absent
    · exact holder?_of_replaced named others replaced

theorem Registry.Reflects.find_eq_none_iff (reflects : registry.Reflects history) {id : Id}
    {entry : Entry} (registered : registry.lookup id = some entry)
    (carries : entry.name? = some name) :
    registry.find name = none ↔ Forfeited history name := by
  rw [reflects.find, holder?_eq_none_iff]
  refine or_iff_right fun absent => ?_
  exact absent entry.action (reflects.mem_of_lookup registered).1 carries

/-- What a name leads to has the name. -/
theorem Registry.Reflects.name_of_find (reflects : registry.Reflects history) {entry : Entry}
    (found : registry.find name = some entry) : entry.name? = some name := by
  rw [reflects.find] at found
  exact kind_of_latest (holder?_eq_some_iff.1 found).1

theorem Registry.parse_eq_unknownName_iff (registry : Registry) (name : String) :
    registry.parse name = .error (.unknownName name) ↔
      registry.find name = none ∧ (Decimal.signed? name.toList).bind Id.ofInt? = none := by
  unfold parse
  cases registry.find name with
  | some entry => simp
  | none =>
    cases (Decimal.signed? name.toList).bind Id.ofInt? with
    | none => simp
    | some id =>
      simp only [require]
      split <;> simp [Except.map]

/-- The name of a registered action is found exactly if its last write was not replaced. If it was
replaced, the text of the name is refused as unknown, unless it is the text of an identifier. A
further write leaves the name leading nowhere exactly if it does not have the name itself and
replaces what the name led to, if it led anywhere. -/
theorem carried_name_found_iff (made : Registry.Made origin seed) (calls : List Call) {id : Id}
    {entry : Entry} (registered : (origin.after calls).lookup id = some entry)
    (carries : entry.name? = some name) :
    let registry := origin.after calls
    let history := seed ++ origin.written calls
    ((∃ found, registry.find name = some found ∧ found.name? = some name) ↔
        ¬ Forfeited history name) ∧
      (registry.parse name = .error (.unknownName name) ↔
        Forfeited history name ∧ (Decimal.signed? name.toList).bind Id.ofInt? = none) ∧
      ∀ action, (registry.register action).registry.find name = none ↔
        action.name? ≠ some name ∧
          ∀ found, registry.find name = some found → action.id = found.id := by
  intro registry history
  have reflects : registry.Reflects history := made.reflects.after calls
  have nowhere := reflects.find_eq_none_iff registered carries
  refine ⟨?_, ?_, fun action => ?_⟩
  · rw [← nowhere]
    constructor
    · rintro ⟨found, leads, -⟩
      rw [leads]
      exact Option.some_ne_none found
    · intro somewhere
      obtain ⟨found, leads⟩ := Option.ne_none_iff_exists'.1 somewhere
      exact ⟨found, leads, reflects.name_of_find leads⟩
  · rw [Registry.parse_eq_unknownName_iff, nowhere]
  · rw [(reflects.register action).find, reflects.find]
    by_cases named : action.name? = some name
    · rw [holder?_concat_of_named history named]
      simp [named]
    · rw [holder?_concat_of_not_named history named]
      cases holder? history name with
      | none => simp [named]
      | some found => simp [named]

/-- A name that two identifiers share is found after the one that does not hold it is renamed. -/
theorem carried_name_found_iff_of_shared_name :
    ∃ entry found, ((Registry.empty {}).after
        [.register ⟨{ value := 1 }, "copy"⟩, .register ⟨{ value := 2 }, "copy"⟩,
          .register ⟨{ value := 1 }, "other"⟩]).lookup { value := 2 } = some entry ∧
      entry.name? = some "copy" ∧
      ((Registry.empty {}).after
        [.register ⟨{ value := 1 }, "copy"⟩, .register ⟨{ value := 2 }, "copy"⟩,
          .register ⟨{ value := 1 }, "other"⟩]).find "copy" = some found ∧
      found.name? = some "copy" := by
  have decided := @carried_name_found_iff _ _ "copy" (.empty {})
    [.register ⟨{ value := 1 }, "copy"⟩, .register ⟨{ value := 2 }, "copy"⟩,
      .register ⟨{ value := 1 }, "other"⟩] { value := 2 } _ rfl (by decide)
  have kept : ¬ Forfeited [⟨{ value := 1 }, "copy"⟩, ⟨{ value := 2 }, "copy"⟩,
      ⟨{ value := 1 }, "other"⟩] "copy" := fun forfeited =>
    absurd (holder?_eq_none_iff.2 (Or.inr forfeited)) (by decide)
  obtain ⟨found, leads, named⟩ := decided.1.2 kept
  exact ⟨_, found, rfl, by decide, leads, named⟩

/-- A built-in name leads nowhere, and its text is refused as unknown, after another identifier
took it over and dropped it, though the built-in action still carries it. -/
theorem carried_name_not_found :
    ∃ origin records, Registry.shared {} = .ok (origin, records) ∧
      let registry := origin.after
        [.register ⟨{ value := 1001 }, "copy"⟩, .register ⟨{ value := 1001 }, "other"⟩]
      (registry.lookup { value := 1 }).map Entry.action = some ⟨{ value := 1 }, "copy"⟩ ∧
        registry.find "copy" = none ∧
        registry.parse "copy" = .error (.unknownName "copy") := by
  obtain ⟨origin, records, started, made⟩ := Registry.exists_shared {}
  refine ⟨origin, records, started, ?_⟩
  intro registry
  have reflects : registry.Reflects (Catalog.actions ++
      [⟨{ value := 1001 }, "copy"⟩, ⟨{ value := 1001 }, "other"⟩]) :=
    made.reflects.after
      [.register ⟨{ value := 1001 }, "copy"⟩, .register ⟨{ value := 1001 }, "other"⟩]
  have nowhere : registry.find "copy" = none := by
    rw [reflects.find]
    exact holder?_of_replaced rfl (by decide) ⟨_, List.mem_cons_self, rfl⟩
  refine ⟨?_, nowhere, ?_⟩
  · rw [reflects.lookup]
    decide
  · exact (Registry.parse_eq_unknownName_iff registry "copy").2 ⟨nowhere, by decide⟩

end ActionDirectory
