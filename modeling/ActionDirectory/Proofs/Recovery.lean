/-
No action gets lost. Whoever holds an action, from whichever call, handle, text or plain
value it came, can ask for its identifier at any later moment and gets an equal action.
The reason is that whatever is given out is registered when it is given out, and that no
call ever takes an identifier away. Writes under the identifier may have changed the name
in the meantime, but the name does not count when actions are compared.
-/

import ActionDirectory.Proofs.Decoding
import ActionDirectory.Proofs.Identifiers

namespace ActionDirectory

/-! ### What is given out -/

/-- The entries that a reply gives out. -/
def Reply.given : Reply → List Entry
  | .entry found => [found]
  | .entries all => all
  | .nothing | .failed _ | .truth _ | .settings _ => []

namespace Registry

/-- The ways to obtain an action other than by a call: from the text of an action, and by decoding
a text or a plain value, alone or as a part of what is decoded. -/
inductive Obtains (registry : Registry) : Action → Prop where
  | parsed {text : String} {action : Action} (successful : registry.parse text = .ok action) :
    Obtains registry action
  | decoded {text : List Char} {action : Action}
    (successful : Wire.decodeAction registry text = .ok action) : Obtains registry action
  | optional {text : List Char} {action : Action}
    (successful : Wire.decodeOptional registry text = .ok (some action)) : Obtains registry action
  | element {text : List Char} {actions : List Action} {action : Action}
    (successful : Wire.decodeList registry text = .ok actions) (member : action ∈ actions) :
    Obtains registry action
  | key {text : List Char} {members : List (Action × Int)} {member : Action × Int}
    (successful : Wire.decodeMap registry text = .ok members) (present : member ∈ members) :
    Obtains registry member.1
  | notified {text : List Char} {notification : Notification}
    (successful : Wire.decodeNotification registry text = .ok notification) :
    Obtains registry notification.action
  | plain {plain : Wire.Plain} {action : Action}
    (successful : Wire.decodePlain registry plain = .ok action) : Obtains registry action

/-- A registry leads from an action to an equal one, in every way in which it can be asked for the
identifier, and lists exactly one entry that is equal to the action. -/
structure Recovers (registry : Registry) (action : Action) : Prop where
  lookup : ∃ entry, registry.lookup action.id = some entry ∧ entry.action.same action = true
  contains : registry.contains action.id = true
  require : ∃ entry, registry.require action.id = .ok entry ∧ entry.action.same action = true
  listed : (registry.entries.countP fun entry => entry.action.same action) = 1

variable {origin registry view : Registry} {seed history : List Action} {action : Action}

/-! ### Identifiers stay -/

theorem contains_perform {id : Id} (known : registry.contains id = true) (call : Call) :
    (registry.perform call).registry.contains id = true := by
  rw [registry_perform]
  cases registry.written? call with
  | none => exact known
  | some action =>
    show ((registry.register action).registry.lookup id).isSome = true
    rw [lookup_register]
    split
    · rfl
    · exact known

theorem contains_after {id : Id} (known : registry.contains id = true) (calls : List Call) :
    (registry.after calls).contains id = true := by
  induction calls generalizing registry with
  | nil => exact known
  | cons call rest inductionHypothesis => exact inductionHypothesis (contains_perform known call)

/-! ### What is given out is registered -/

theorem contains_of_lookup {id : Id} {entry : Entry} (found : registry.lookup id = some entry) :
    registry.contains id = true := by
  rw [Registry.contains, found]
  rfl

theorem contains_register (registry : Registry) (action : Action) :
    (registry.register action).registry.contains action.id = true :=
  contains_of_lookup ((registry.lookup_register action action.id).trans (if_pos rfl))

theorem Holds.contains (holds : registry.Holds action) : registry.contains action.id = true := by
  obtain ⟨entry, found, -⟩ := Option.map_eq_some_iff.1 holds
  exact contains_of_lookup found

/-- What a reply gives out stands under its identifier behind the call. -/
theorem Reflects.lookup_of_given (reflects : registry.Reflects history) {call : Call}
    {entry : Entry} (given : entry ∈ (registry.perform call).reply.given) :
    (registry.perform call).registry.lookup entry.id = some entry := by
  have ofOption : ∀ found, (∀ entry, found = some entry → registry.lookup entry.id = some entry) →
      ∀ entry ∈ (Reply.ofOption found).given, registry.lookup entry.id = some entry := by
    intro found present entry member
    cases found with
    | none => cases member
    | some found =>
      cases List.mem_singleton.1 member
      exact present entry rfl
  have ofLookup : ∀ id found, registry.lookup id = some found →
      registry.lookup found.id = some found := by
    intro id found present
    rwa [(reflects.mem_of_lookup present).2]
  cases call with
  | register action =>
    cases List.mem_singleton.1 given
    exact (registry.lookup_register action action.id).trans (if_pos rfl)
  | tryRegister action =>
    rcases registry.tryRegister_cases action with ⟨existing, -, -, refused⟩ | ⟨-, accepted⟩
    · simp only [Registry.perform, refused] at given
      cases given
    · simp only [Registry.perform, accepted] at given ⊢
      cases List.mem_singleton.1 given
      exact (registry.lookup_register action action.id).trans (if_pos rfl)
  | lookup id => exact ofOption _ (ofLookup id) entry given
  | require id =>
    cases present : registry.lookup id with
    | none =>
      simp only [Registry.perform, Registry.require, present] at given
      cases given
    | some found =>
      simp only [Registry.perform, Registry.require, present] at given ⊢
      cases List.mem_singleton.1 given
      exact ofLookup id entry present
  | find name => exact ofOption _ (fun found leads => reflects.lookup_of_find leads) entry given
  | entries => exact reflects.mem_entries_iff.1 given
  | contains | isEmpty | settings => cases given

theorem Reflects.contains_of_given (reflects : registry.Reflects history) {call : Call}
    {entry : Entry} (given : entry ∈ (registry.perform call).reply.given) :
    (registry.perform call).registry.contains entry.id = true :=
  contains_of_lookup (reflects.lookup_of_given given)

theorem Reflects.contains_of_obtains (reflects : registry.Reflects history)
    (obtained : registry.Obtains action) : registry.contains action.id = true := by
  refine Holds.contains ?_
  cases obtained with
  | parsed successful => exact reflects.holds_of_parse successful
  | decoded successful => exact Wire.holds_of_decodeAction reflects successful
  | optional successful => exact Wire.holds_of_decodeOptional reflects successful
  | element successful member => exact Wire.holds_of_decodeList reflects successful _ member
  | key successful present => exact Wire.holds_of_decodeMap reflects successful _ present
  | notified successful => exact Wire.holds_of_decodeNotification reflects successful
  | plain successful => exact Wire.holds_of_decodePlain reflects successful

/-! ### Registered actions are recovered -/

/-- Exactly one entry has a registered identifier. -/
theorem Reflects.countP_entries (reflects : registry.Reflects history)
    (known : registry.contains action.id = true) :
    (registry.entries.countP fun entry => entry.action.same action) = 1 := by
  have distinct : (registry.entries.map Entry.id).Nodup := by
    refine List.pairwise_map.2 (reflects.entries_ascend.imp fun less same => ?_)
    exact absurd (congrArg Id.value same) (Int.ne_of_lt less)
  have member : action.id ∈ registry.entries.map Entry.id := by
    obtain ⟨entry, found⟩ := Option.isSome_iff_exists.1 known
    have own : entry.id = action.id := (reflects.mem_of_lookup found).2
    exact List.mem_map.2 ⟨entry, reflects.mem_entries_iff.2 (own ▸ found), own⟩
  have once := List.count_eq_one_of_mem distinct member
  rw [List.count, List.countP_map] at once
  exact once

theorem Reflects.recovers (reflects : registry.Reflects history)
    (known : registry.contains action.id = true) : registry.Recovers action := by
  obtain ⟨entry, found⟩ := Option.isSome_iff_exists.1 known
  have same : entry.action.same action = true :=
    decide_eq_true (reflects.mem_of_lookup found).2
  refine ⟨⟨entry, found, same⟩, known, ⟨entry, ?_, same⟩, reflects.countP_entries known⟩
  rw [Registry.require, found]

end Registry

/-! ### The rule -/

/-- Whatever a registry gave out through any of its handles is recovered through every handle at
every later moment. The shared registry comes about in every environment. The built-in actions are
recovered from the start on, and so is at every later moment whatever was parsed or decoded
against it. -/
theorem given_out_action_is_recovered :
    (∀ origin seed, Registry.Made origin seed → ∀ before handle view call entry,
      ((Handles.ofRegistry origin).after before).view? handle = some view →
        entry ∈ (view.perform call).reply.given →
          ∀ later other registry,
            ((Handles.ofRegistry origin).after (before ++ .call handle call :: later)).view? other =
                some registry →
              registry.Recovers entry.action) ∧
      ∀ environment, ∃ origin records, Registry.shared environment = .ok (origin, records) ∧
        Registry.Made origin Catalog.actions ∧
          ∀ before handle view,
            ((Handles.ofRegistry origin).after before).view? handle = some view →
              (∀ action ∈ Catalog.actions, view.Recovers action) ∧
                ∀ action, view.Obtains action → ∀ later other registry,
                  ((Handles.ofRegistry origin).after (before ++ later)).view? other =
                      some registry →
                    registry.Recovers action := by
  refine ⟨fun origin seed made before handle view call entry seen given later other registry
    seenLater => ?_, fun environment => ?_⟩
  · have reflects : view.Reflects _ := Handles.reflects_written made.reflects seen
    have reflectsLater : registry.Reflects _ := Handles.reflects_written made.reflects seenLater
    have behind : registry = (view.perform call).registry.after
        ((((Handles.ofRegistry origin).after before).use (.call handle call)).calls later) := by
      rw [Handles.view_eq_after_later seen seenLater, Handles.calls, Handles.call?, seen]
      rfl
    refine reflectsLater.recovers ?_
    rw [behind]
    exact Registry.contains_after (reflects.contains_of_given given) _
  · obtain ⟨origin, records, started, made⟩ := Registry.exists_shared environment
    refine ⟨origin, records, started, made, fun before handle view seen => ⟨fun action member => ?_,
      fun action obtained later other registry seenLater => ?_⟩⟩
    · have reflects : view.Reflects _ := Handles.reflects_written made.reflects seen
      refine reflects.recovers ((reflects.contains_iff action.id).2 ?_)
      rw [List.map_append]
      exact List.mem_append_left _ (List.mem_map_of_mem member)
    · have reflects : view.Reflects _ := Handles.reflects_written made.reflects seen
      have reflectsLater : registry.Reflects _ := Handles.reflects_written made.reflects seenLater
      refine reflectsLater.recovers ?_
      rw [Handles.view_eq_after_later seen seenLater]
      exact Registry.contains_after (reflects.contains_of_obtains obtained) _

/-- An action that was found by its name is recovered after its name was blanked through another
handle, and a built-in action that was parsed is recovered after it was renamed. -/
theorem given_out_action_is_recovered_after_renaming :
    (∃ registry, ((Handles.ofRegistry (Registry.empty {})).after
        ([.clone 0, .call 1 (.register ⟨{ value := 1 }, "copy"⟩)] ++
          .call 0 (.find "copy") :: [.call 1 (.register ⟨{ value := 1 }, ""⟩)])).view? 0 =
            some registry ∧
        registry.Recovers ⟨{ value := 1 }, "copy"⟩) ∧
      ∃ origin records registry,
        Registry.shared { policy := .text "strict" } = .ok (origin, records) ∧
        origin.parse "commit_completed" = .ok ⟨{ value := -3 }, "commit_completed"⟩ ∧
        ((Handles.ofRegistry origin).after
          ([] ++ [.call 0 (.register ⟨{ value := -3 }, "late"⟩)])).view? 0 = some registry ∧
        registry.Recovers ⟨{ value := -3 }, "commit_completed"⟩ := by
  obtain ⟨calls, sharing⟩ := given_out_action_is_recovered
  refine ⟨⟨_, rfl, ?_⟩, ?_⟩
  · exact calls _ [] (.empty {}) [.clone 0, .call 1 (.register ⟨{ value := 1 }, "copy"⟩)] 0 _
      (.find "copy") ⟨0, ⟨{ value := 1 }, "copy"⟩⟩ rfl List.mem_cons_self
      [.call 1 (.register ⟨{ value := 1 }, ""⟩)] 0 _ rfl
  · obtain ⟨origin, records, started, made, kept⟩ := sharing { policy := .text "strict" }
    have parsed : origin.parse "commit_completed" =
        .ok ⟨{ value := -3 }, "commit_completed"⟩ := by
      have found : origin.find "commit_completed" =
          some ⟨22, ⟨{ value := -3 }, "commit_completed"⟩⟩ := by
        rw [made.reflects.find]
        decide
      rw [Registry.parse, found]
    exact ⟨origin, records, _, started, parsed, rfl,
      (kept [] 0 origin rfl).2 _ (.parsed parsed)
        [.call 0 (.register ⟨{ value := -3 }, "late"⟩)] 0 _ rfl⟩

end ActionDirectory
