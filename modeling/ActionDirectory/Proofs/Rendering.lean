/-
Displayed texts are parsed back. The text that is displayed for a registered action is its name
or the decimal text of its identifier, and a parser takes a text for a name first and for a
number only where no name leads anywhere. So the displayed text leads back to the action as long
as no name was ever written under two identifiers and no name is the text of a number. The first
condition is one on the whole history: a name that was taken over and dropped again leads
nowhere, although only one registered action has it then.
-/

import ActionDirectory.Proofs.Numbers

namespace ActionDirectory

variable {origin registry : Registry} {seed history : List Action} {name : String}

/-! ### Names of one identifier and names of none -/

/-- No other identifier has the name of an action in a history. -/
def Sole (history : List Action) (action : Action) : Prop :=
  ∀ other ∈ history, other.name = action.name → other.id = action.id

instance (history : List Action) (action : Action) : Decidable (Sole history action) :=
  inferInstanceAs (Decidable (∀ other ∈ history, other.name = action.name → other.id = action.id))

/-- The identifier that a text is read as where it is no name. -/
def Id.ofText? (text : String) : Option Id :=
  (Decimal.signed? text.toList).bind Id.ofInt?

theorem Id.ofText?_text (id : Id) : Id.ofText? id.text = some id := by
  rw [Id.ofText?, Id.text, Decimal.text, String.toList_ofList, Decimal.signed?_signed]
  exact id.ofInt?_value

namespace Catalog

theorem nodup_names : (actions.map Action.name).Nodup := by
  decide +kernel

/-- No built-in name is the text of a number. -/
theorem ofText?_name : ∀ action ∈ actions, Id.ofText? action.name = none := by
  decide +kernel

end Catalog

/-- If the names of a table differ, and what was written behind it leaves each name to one
identifier, then so does the whole history. -/
theorem sole_of_nodup_names {written : List Action} (distinct : (seed.map Action.name).Nodup)
    (sole : ∀ action ∈ written, action.name ≠ "" → Sole (seed ++ written) action) {action : Action}
    (member : action ∈ seed ++ written) (named : action.name ≠ "") :
    Sole (seed ++ written) action := by
  rcases List.mem_append.1 member with seeded | later
  · intro other known same
    rcases List.mem_append.1 known with otherSeeded | otherLater
    · rw [List.inj_on_of_nodup_map distinct otherSeeded seeded same]
    · exact (sole other otherLater (same ▸ named) action member same.symm).symm
  · exact sole action later named

namespace Registry

/-! ### Names lead back -/

/-- A name that no other identifier has leads to the entry that carries it. -/
theorem Reflects.find_of_sole (reflects : registry.Reflects history) {id : Id} {entry : Entry}
    (registered : registry.lookup id = some entry) (carries : entry.name? = some name)
    (sole : Sole history entry.action) : registry.find name = some entry := by
  obtain ⟨member, own⟩ := reflects.mem_of_lookup registered
  have current : lastUnder history entry.id = some entry := by
    rw [own, ← reflects.lookup, registered]
  have last : lastNamed history name = some entry := by
    rcases absent_or_split history fun action => action.name? = some name with
      absent | ⟨before, last, after, rfl, named, others⟩
    · exact absurd carries (absent entry.action member)
    · have found : lastNamed (before ++ last :: after) name = some ⟨before.length, last⟩ :=
        latest_of_split named others
      have sameName : last.name = entry.action.name :=
        (Action.name?_eq_some_iff.1 named).1.trans (Action.name?_eq_some_iff.1 carries).1.symm
      have sameId : last.id = entry.id :=
        sole last (List.mem_append_right _ List.mem_cons_self) sameName
      rw [found, latest_unique current found carries sameId]
  rw [reflects.find]
  exact holder?_eq_some_iff.2 ⟨last, current⟩

/-- The text of an identifier leads to no entry, if no name is such a text. -/
theorem Reflects.find_text (reflects : registry.Reflects history)
    (words : ∀ action ∈ history, Id.ofText? action.name = none) (id : Id) :
    registry.find id.text = none := by
  rw [reflects.find]
  refine holder?_eq_none fun action member named => ?_
  have word := words action member
  rw [(Action.name?_eq_some_iff.1 named).1, id.ofText?_text] at word
  cases word

/-! ### Texts are parsed back -/

theorem parse_text_of_lookup {id : Id} {entry : Entry} (unnamed : registry.find id.text = none)
    (registered : registry.lookup id = some entry) :
    registry.parse id.text = .ok entry.action := by
  have text : registry.parse (Decimal.text id.value) = _ := parse_text unnamed
  rw [id.ofInt?_value] at text
  simp only [require, registered] at text
  exact text

/-- The entry under an identifier is parsed from what is displayed for it and from the text of the
identifier. -/
structure ParsesBack (registry : Registry) (id : Id) (entry : Entry) : Prop where
  own : entry.id = id
  rendered : registry.parse entry.action.rendered = .ok entry.action
  text : registry.parse id.text = .ok entry.action

theorem Reflects.parsesBack (reflects : registry.Reflects history)
    (sole : ∀ action ∈ history, action.name ≠ "" → Sole history action)
    (words : ∀ action ∈ history, Id.ofText? action.name = none) {id : Id} {entry : Entry}
    (registered : registry.lookup id = some entry) : registry.ParsesBack id entry := by
  obtain ⟨member, own⟩ := reflects.mem_of_lookup registered
  have text : registry.parse id.text = .ok entry.action :=
    parse_text_of_lookup (reflects.find_text words id) registered
  refine ⟨own, ?_, text⟩
  by_cases unnamed : entry.action.name = ""
  · rw [Action.rendered_of_unnamed unnamed]
    exact (congrArg (fun id : Id => registry.parse id.text) own).trans text
  · have found : registry.find entry.action.name = some entry :=
      reflects.find_of_sole registered (Action.name?_eq_some_iff.2 ⟨rfl, unnamed⟩)
        (sole entry.action member unnamed)
    rw [Action.rendered_of_named unnamed, parse, found]

end Registry

/-! ### The rule -/

/-- In every environment, at every moment of a run of the shared registry, and through any handle:
if no name that was written so far was written under two identifiers, built-in actions included, and
none is the text of an identifier, then the text that is displayed for a registered action is parsed
as this very action, and so is the decimal text of its identifier. It does not matter how often
the action was renamed or its name was blanked before. -/
theorem displayed_text_is_parsed_back (environment : Environment) :
    ∃ origin records, Registry.shared environment = .ok (origin, records) ∧
      Registry.Made origin Catalog.actions ∧
        ∀ uses handle registry,
          ((Handles.ofRegistry origin).after uses).view? handle = some registry →
            let written := (Handles.ofRegistry origin).written uses
            (∀ action ∈ written, action.name ≠ "" → Sole (Catalog.actions ++ written) action) →
              (∀ action ∈ written, Id.ofText? action.name = none) →
                ∀ id entry, registry.lookup id = some entry → registry.ParsesBack id entry := by
  obtain ⟨origin, records, started, made⟩ := Registry.exists_shared environment
  refine ⟨origin, records, started, made, fun uses handle registry seen => ?_⟩
  intro written sole words id entry registered
  have reflects : registry.Reflects (Catalog.actions ++ written) :=
    Handles.reflects_written made.reflects seen
  have allSole : ∀ action ∈ Catalog.actions ++ written, action.name ≠ "" →
      Sole (Catalog.actions ++ written) action := fun action =>
    sole_of_nodup_names Catalog.nodup_names sole
  have allWords : ∀ action ∈ Catalog.actions ++ written, Id.ofText? action.name = none :=
    List.forall_mem_append.2 ⟨Catalog.ofText?_name, words⟩
  exact reflects.parsesBack allSole allWords registered

/-- A built-in action is renamed, blanked and given its first name again, and the name of a new one
is blanked. -/
theorem displayed_text_is_parsed_back_after_blanking :
    ∃ origin records registry,
      Registry.shared { policy := .text "strict" } = .ok (origin, records) ∧
      ((Handles.ofRegistry origin).after
        [.call 0 (.register ⟨{ value := 1 }, "duplicate"⟩), .clone 0,
          .call 1 (.register ⟨{ value := 1 }, ""⟩), .call 0 (.register ⟨{ value := 1 }, "copy"⟩),
          .call 1 (.register ⟨{ value := -90 }, "late"⟩),
          .call 0 (.register ⟨{ value := -90 }, ""⟩)]).view? 1 = some registry ∧
      registry.parse "copy" = .ok ⟨{ value := 1 }, "copy"⟩ ∧
      registry.parse "1" = .ok ⟨{ value := 1 }, "copy"⟩ ∧
      registry.parse "-90" = .ok ⟨{ value := -90 }, ""⟩ := by
  obtain ⟨origin, records, started, made, parsed⟩ :=
    displayed_text_is_parsed_back { policy := .text "strict" }
  let uses : List Use := [.call 0 (.register ⟨{ value := 1 }, "duplicate"⟩), .clone 0,
    .call 1 (.register ⟨{ value := 1 }, ""⟩), .call 0 (.register ⟨{ value := 1 }, "copy"⟩),
    .call 1 (.register ⟨{ value := -90 }, "late"⟩), .call 0 (.register ⟨{ value := -90 }, ""⟩)]
  let written : List Action := [⟨{ value := 1 }, "duplicate"⟩, ⟨{ value := 1 }, ""⟩,
    ⟨{ value := 1 }, "copy"⟩, ⟨{ value := -90 }, "late"⟩, ⟨{ value := -90 }, ""⟩]
  obtain ⟨registry, seen⟩ :
      ∃ registry, ((Handles.ofRegistry origin).after uses).view? 1 = some registry := ⟨_, rfl⟩
  have reflects : registry.Reflects (Catalog.actions ++ written) :=
    Handles.reflects_written made.reflects seen
  have sole : ∀ action ∈ written, action.name ≠ "" →
      Sole (Catalog.actions ++ written) action := by decide +kernel
  have words : ∀ action ∈ written, Id.ofText? action.name = none := by decide +kernel
  have reads := parsed uses 1 registry seen sole words
  have copied : registry.lookup { value := 1 } = some ⟨82, ⟨{ value := 1 }, "copy"⟩⟩ := by
    rw [reflects.lookup]
    decide +kernel
  have blanked : registry.lookup { value := -90 } = some ⟨84, ⟨{ value := -90 }, ""⟩⟩ := by
    rw [reflects.lookup]
    decide +kernel
  obtain ⟨-, named, number⟩ := reads { value := 1 } _ copied
  obtain ⟨-, blank, -⟩ := reads { value := -90 } _ blanked
  exact ⟨origin, records, registry, started, seen, named, number, blank⟩

end ActionDirectory
