/-
What is done through handles is done to one registry. However many handles there are
and whichever is used, each of them sees the registry behind the calls made so far,
and the writes that the replies tell of are the writes of these calls.
-/

import ActionDirectory.Proofs.Reflection

namespace ActionDirectory.Handles

variable {handles : Handles} {registry view : Registry}

/-- The action that a use writes. -/
def written? (handles : Handles) : Use → Option Action
  | .clone _ => none
  | .call handle call => (handles.view? handle).bind fun registry => registry.written? call

/-- The actions that uses write, in their order. -/
def written (handles : Handles) : List Use → List Action
  | [] => []
  | use :: rest => (handles.written? use).toList ++ (handles.use use).written rest

theorem calls_append (handles : Handles) (first second : List Use) :
    handles.calls (first ++ second) =
      handles.calls first ++ (handles.after first).calls second := by
  induction first generalizing handles with
  | nil => rfl
  | cons use rest inductionHypothesis =>
    rw [List.cons_append, calls, inductionHypothesis, calls, List.append_assoc]
    rfl

theorem written_append (handles : Handles) (first second : List Use) :
    handles.written (first ++ second) =
      handles.written first ++ (handles.after first).written second := by
  induction first generalizing handles with
  | nil => rfl
  | cons use rest inductionHypothesis =>
    rw [List.cons_append, written, inductionHypothesis, written, List.append_assoc]
    rfl

/-- All handles are handles of a registry. -/
structure LeadTo (handles : Handles) (registry : Registry) : Prop where
  store : handles.store = registry.store
  serial : handles.serial = registry.serial
  settings : ∀ settings ∈ handles.settings, settings = registry.settings

theorem leadTo_ofRegistry (registry : Registry) : (ofRegistry registry).LeadTo registry where
  store := rfl
  serial := rfl
  settings _ member := List.mem_singleton.1 member

namespace LeadTo

/-- Every handle sees the registry. -/
theorem view_eq (leads : handles.LeadTo registry) {handle : Nat}
    (seen : handles.view? handle = some view) : view = registry := by
  obtain ⟨settings, given, rfl⟩ := Option.map_eq_some_iff.1 seen
  rw [leads.settings settings (List.mem_of_getElem? given), leads.store, leads.serial]

/-- A use is a call of the registry, or it does nothing to the registry. -/
theorem use (leads : handles.LeadTo registry) (use : Use) :
    (handles.use use).LeadTo (registry.after (handles.call? use).toList) := by
  cases use with
  | clone handle =>
    refine ⟨leads.store, leads.serial, fun settings member => ?_⟩
    rcases List.mem_append.1 member with former | copied
    · exact leads.settings settings former
    · exact leads.settings settings (List.mem_of_getElem? (Option.mem_toList.1 copied))
  | call handle call =>
    cases seen : handles.view? handle with
    | none =>
      simp only [Handles.use, call?, seen]
      exact leads
    | some view =>
      have same := leads.view_eq seen
      subst same
      simp only [Handles.use, call?, seen]
      refine ⟨rfl, rfl, fun settings member => ?_⟩
      exact (leads.settings settings member).trans (Registry.settings_perform view call).symm

/-- Uses are calls of the registry one behind the other. -/
theorem after (leads : handles.LeadTo registry) (uses : List Use) :
    (handles.after uses).LeadTo (registry.after (handles.calls uses)) := by
  induction uses generalizing handles registry with
  | nil => exact leads
  | cons use rest inductionHypothesis =>
    rw [calls, Registry.after_append]
    exact inductionHypothesis (leads.use use)

theorem written?_toList (leads : handles.LeadTo registry) (use : Use) :
    (handles.written? use).toList = registry.written (handles.call? use).toList := by
  cases use with
  | clone handle => rfl
  | call handle call =>
    cases seen : handles.view? handle with
    | none =>
      simp only [written?, call?, seen]
      rfl
    | some view =>
      have same := leads.view_eq seen
      subst same
      simp only [written?, call?, seen]
      exact (List.append_nil _).symm

/-- What uses write is what their calls write. -/
theorem written_eq (leads : handles.LeadTo registry) (uses : List Use) :
    handles.written uses = registry.written (handles.calls uses) := by
  induction uses generalizing handles registry with
  | nil => rfl
  | cons use rest inductionHypothesis =>
    rw [written, calls, Registry.written_append, leads.written?_toList use,
      inductionHypothesis (leads.use use)]

end LeadTo

section View

variable {origin : Registry} {history : List Action} {uses : List Use} {handle : Nat}

/-- Behind uses of a registry every handle sees the registry behind their calls. -/
theorem view_eq_after (seen : ((ofRegistry origin).after uses).view? handle = some view) :
    view = origin.after ((ofRegistry origin).calls uses) :=
  ((leadTo_ofRegistry origin).after uses).view_eq seen

/-- What a handle sees later is what further calls make of what a handle saw before. -/
theorem view_eq_after_later {later : List Use} {other : Nat} {behind : Registry}
    (seen : ((ofRegistry origin).after uses).view? handle = some view)
    (seenLater : ((ofRegistry origin).after (uses ++ later)).view? other = some behind) :
    behind = view.after (((ofRegistry origin).after uses).calls later) := by
  rw [view_eq_after seenLater, view_eq_after seen, calls_append, Registry.after_append]

theorem reflects_written (reflects : origin.Reflects history)
    (seen : ((ofRegistry origin).after uses).view? handle = some view) :
    view.Reflects (history ++ (ofRegistry origin).written uses) := by
  rw [view_eq_after seen, (leadTo_ofRegistry origin).written_eq uses]
  exact reflects.after _

theorem reflects_chronicle (reflects : origin.Reflects history)
    (seen : ((ofRegistry origin).after uses).view? handle = some view) :
    view.Reflects
      (Registry.chronicle origin.settings history ((ofRegistry origin).calls uses)) := by
  rw [view_eq_after seen, reflects.chronicle_eq]
  exact reflects.after _

theorem settings_of_view (seen : ((ofRegistry origin).after uses).view? handle = some view) :
    view.settings = origin.settings := by
  rw [view_eq_after seen, Registry.settings_after]

end View

end ActionDirectory.Handles
