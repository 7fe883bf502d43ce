/-
Compatible writes. If no two writes disagree about the name of an identifier or about the
identifier of a name, then a registry that started empty ends as the writes say, however
they are ordered and repeated, whoever makes them, and whether each of them is plain or
guarded. A repeated write either takes the place of an equal entry, and on the way drops
its own name and takes it again, or is refused in favour of an equal entry.

The reason is that in a history of compatible writes any write of an identifier is the
last one under it, and any write of a name the last one of the name, up to its position.
So what the registry holds depends only on which writes the history has, and a refused
write is already among them.
-/

import ActionDirectory.Proofs.FirstWriter
import ActionDirectory.Proofs.Identifiers
import Mathlib.Data.Multiset.Dedup

namespace ActionDirectory

/-! ### Compatible writes -/

/-- Equal identifiers come with equal names, and equal names with equal identifiers. The empty text
is not a name. -/
def Compatible (writes : Multiset Action) : Prop :=
  ∀ first ∈ writes, ∀ second ∈ writes,
    (first.id = second.id → first.name = second.name) ∧
      (first.name ≠ "" → first.name = second.name → first.id = second.id)

variable {writes : Multiset Action} {history : List Action} {registry other : Registry}

theorem Compatible.eq_of_id_eq (compatible : Compatible writes) {first second : Action}
    (firstMember : first ∈ writes) (secondMember : second ∈ writes) (same : first.id = second.id) :
    first = second := by
  have names := (compatible first firstMember second secondMember).1 same
  cases first
  cases second
  cases same
  cases names
  rfl

theorem Compatible.eq_of_name? (compatible : Compatible writes) {first second : Action}
    {name : String} (firstMember : first ∈ writes) (secondMember : second ∈ writes)
    (firstNamed : first.name? = some name) (secondNamed : second.name? = some name) :
    first = second := by
  obtain ⟨rfl, nonempty⟩ := Action.name?_eq_some_iff.1 firstNamed
  have names := (Action.name?_eq_some_iff.1 secondNamed).1
  refine compatible.eq_of_id_eq firstMember secondMember ?_
  exact (compatible first firstMember second secondMember).2 nonempty names.symm

/-- An action that is the only one of a kind is the last one of it. -/
theorem latest_map_action_of_only {kind : Action → Prop} [DecidablePred kind] {action : Action}
    (member : action ∈ history) (concerned : kind action)
    (only : ∀ other ∈ history, kind other → other = action) :
    (latest history kind).map Entry.action = some action := by
  rcases absent_or_split history kind with
    absent | ⟨before, last, after, rfl, concernedLast, others⟩
  · exact absurd concerned (absent action member)
  · have same : last = action :=
      only last (List.mem_append_right _ List.mem_cons_self) concernedLast
    rw [latest_of_split concernedLast others, same]
    rfl

/-! ### Refused writes are among the accepted ones -/

namespace Registry.Reflects

/-- If a call offers nothing that disagrees with the history, what it offers is part of the history
afterwards. -/
theorem mem_perform_iff (reflects : registry.Reflects history) {call : Call}
    (agrees : ∀ earlier ∈ history, ∀ offered ∈ call.offered?,
      earlier.id = offered.id → earlier = offered) (action : Action) :
    action ∈ history ++ (registry.written? call).toList ↔
      action ∈ history ++ call.offered?.toList := by
  cases call with
  | tryRegister offered =>
    rw [reflects.written?_eq, admitted?]
    split
    next refused =>
      obtain ⟨-, earlier, member, same⟩ := refused
      have equal : earlier = offered := agrees earlier member offered rfl same
      subst equal
      simp only [Option.toList_none, List.append_nil, Call.offered?, Option.toList_some,
        List.mem_append, List.mem_singleton]
      exact (or_iff_left_of_imp fun same => same ▸ member).symm
    next => rfl
  | require id =>
    rw [reflects.written?_eq]
    rfl
  | register | lookup | find | contains | isEmpty | settings | entries => rfl

/-- If nothing that calls offer disagrees with the history or with another offer, all that they
offer is part of the history in the end. -/
theorem mem_after_iff (reflects : registry.Reflects history) {calls : List Call}
    (agrees : ∀ first ∈ history ++ offers calls, ∀ second ∈ history ++ offers calls,
      first.id = second.id → first = second) (action : Action) :
    action ∈ history ++ registry.written calls ↔ action ∈ history ++ offers calls := by
  induction calls generalizing registry history with
  | nil =>
    rw [written]
    rfl
  | cons call rest inductionHypothesis =>
    rw [offers_cons, ← List.append_assoc] at agrees ⊢
    have now : ∀ action, action ∈ history ++ (registry.written? call).toList ↔
        action ∈ history ++ call.offered?.toList := by
      refine reflects.mem_perform_iff fun earlier member offered present => ?_
      refine agrees earlier ?_ offered ?_
      · exact List.mem_append_left _ (List.mem_append_left _ member)
      · exact List.mem_append_left _ (List.mem_append_right _ (Option.mem_toList.2 present))
    have same : ∀ action,
        action ∈ history ++ (registry.written? call).toList ++ offers rest ↔
          action ∈ history ++ call.offered?.toList ++ offers rest := by
      intro action
      rw [List.mem_append, now, ← List.mem_append]
    rw [written, ← List.append_assoc, inductionHypothesis (reflects.perform call), same]
    intro first firstMember second secondMember
    exact agrees first ((same first).1 firstMember) second ((same second).1 secondMember)

end Registry.Reflects

/-! ### The outcome -/

/-- A registry holds what writes say and nothing else: each of them stands under its identifier and
is found by its name, and the list of all entries has each of them once in ascending order. -/
structure Settled (registry : Registry) (writes : Multiset Action) : Prop where
  size : registry.size = (writes.map Action.id).toFinset.card
  registered : ∀ action ∈ writes, registry.actionUnder action.id = some action
  named : ∀ action ∈ writes, action.name ≠ "" →
    registry.find action.name = registry.lookup action.id
  otherId : ∀ id, (∀ action ∈ writes, action.id ≠ id) →
    registry.lookup id = none ∧ registry.contains id = false
  otherName : ∀ name, (∀ action ∈ writes, action.name? ≠ some name) → registry.find name = none
  ascending : (registry.entries.map Entry.action).Pairwise fun first second =>
    first.id.value < second.id.value
  listed : (registry.entries.map Entry.action : Multiset Action) = writes.dedup

namespace Registry.Reflects

section Compatible

variable (reflects : registry.Reflects history) (compatible : Compatible writes)
  (members : ∀ action, action ∈ history ↔ action ∈ writes)

include reflects compatible members

theorem actionUnder_of_compatible {action : Action} (member : action ∈ writes) :
    registry.actionUnder action.id = some action := by
  rw [actionUnder, reflects.lookup]
  refine latest_map_action_of_only ((members action).2 member) rfl fun other present same => ?_
  exact compatible.eq_of_id_eq ((members other).1 present) member same

theorem find_of_compatible {action : Action} (member : action ∈ writes)
    (nonempty : action.name ≠ "") : registry.find action.name = registry.lookup action.id := by
  have carried : action.name? = some action.name :=
    (Action.name?_iff_of_ne_empty nonempty).2 rfl
  have last : (lastNamed history action.name).map Entry.action = some action := by
    refine latest_map_action_of_only ((members action).2 member) carried ?_
    intro other present named
    exact compatible.eq_of_name? ((members other).1 present) member named carried
  have current : (lastUnder history action.id).map Entry.action = some action := by
    rw [← reflects.lookup]
    exact reflects.actionUnder_of_compatible compatible members member
  have leads : (registry.find action.name).map Entry.action = some action := by
    rw [reflects.find, holder?_map_action, last]
    exact if_pos current
  obtain ⟨entry, found, rfl⟩ := Option.map_eq_some_iff.1 leads
  exact found.trans (reflects.lookup_of_find found).symm

theorem actionUnder_eq_some_iff_of_compatible {action : Action} :
    registry.actionUnder action.id = some action ↔ action ∈ writes := by
  constructor
  · intro registered
    obtain ⟨entry, found, rfl⟩ := Option.map_eq_some_iff.1 registered
    exact (members entry.action).1 (reflects.mem_of_lookup found).1
  · exact reflects.actionUnder_of_compatible compatible members

/-- A registry whose history has the members of compatible writes holds what they say. -/
theorem settled : Settled registry writes where
  size := by
    have ids : (history.map Action.id).toFinset = (writes.map Action.id).toFinset := by
      ext id
      rw [List.mem_toFinset, Multiset.mem_toFinset, List.mem_map, Multiset.mem_map]
      simp only [members]
    rw [reflects.size_eq, ids]
  registered _ member := reflects.actionUnder_of_compatible compatible members member
  named _ member nonempty := reflects.find_of_compatible compatible members member nonempty
  otherId id foreign := by
    have absent : registry.lookup id = none := by
      refine (reflects.lookup_eq_none_iff id).2 fun action member => ?_
      exact foreign action ((members action).1 member)
    refine ⟨absent, ?_⟩
    rw [Registry.contains, absent]
    rfl
  otherName name foreign := by
    rw [reflects.find]
    exact holder?_eq_none fun action member => foreign action ((members action).1 member)
  ascending := reflects.actions_ascend
  listed := by
    have once : (registry.entries.map Entry.action : Multiset Action).Nodup :=
      Multiset.coe_nodup.2 (nodup_of_ascends reflects.actions_ascend)
    refine (Multiset.Nodup.ext once writes.nodup_dedup).2 fun action => ?_
    rw [Multiset.mem_coe, Multiset.mem_dedup, reflects.mem_actions_iff]
    exact reflects.actionUnder_eq_some_iff_of_compatible compatible members

end Compatible

end Registry.Reflects

/-- Two registries have the same actions under all identifiers and names, though perhaps from other
writes. -/
structure SameActions (first second : Registry) : Prop where
  size : first.size = second.size
  under : ∀ id, first.actionUnder id = second.actionUnder id
  named : ∀ name, (first.find name).map Entry.action = (second.find name).map Entry.action
  listed : first.entries.map Entry.action = second.entries.map Entry.action

/-- What the writes say leaves nothing open. -/
theorem Settled.sameActions (settled : Settled registry writes)
    (settledOther : Settled other writes) : SameActions registry other where
  size := settled.size.trans settledOther.size.symm
  under id := by
    by_cases written : ∃ action ∈ writes, action.id = id
    · obtain ⟨action, member, rfl⟩ := written
      rw [settled.registered action member, settledOther.registered action member]
    · push Not at written
      rw [Registry.actionUnder, Registry.actionUnder, (settled.otherId id written).1,
        (settledOther.otherId id written).1]
  named name := by
    by_cases written : ∃ action ∈ writes, action.name? = some name
    · obtain ⟨action, member, named⟩ := written
      obtain ⟨rfl, nonempty⟩ := Action.name?_eq_some_iff.1 named
      rw [settled.named action member nonempty, settledOther.named action member nonempty]
      exact (settled.registered action member).trans (settledOther.registered action member).symm
    · push Not at written
      rw [settled.otherName name written, settledOther.otherName name written]
  listed := by
    refine eq_of_perm_of_ascends settled.ascending settledOther.ascending ?_
    exact Multiset.coe_eq_coe.1 (settled.listed.trans settledOther.listed.symm)

/-! ### The rule -/

/-- The uses of an empty registry through all its handles offer compatible writes, in any order,
plainly or guarded, with reads in between. Then every handle sees in the end what the writes say,
and any other uses of an empty registry that offer the same writes, however often and under
whatever settings, end alike. -/
theorem compatible_writes_settle (compatible : Compatible writes) {settings : Settings}
    {uses : List Use} {handle : Nat}
    (offered :
      (offers ((Handles.ofRegistry (.empty settings)).calls uses) : Multiset Action) = writes)
    (seen : ((Handles.ofRegistry (.empty settings)).after uses).view? handle = some registry) :
    Settled registry writes ∧
      ∀ otherSettings otherUses otherHandle other,
        (∀ action, action ∈ offers ((Handles.ofRegistry (.empty otherSettings)).calls otherUses) ↔
          action ∈ writes) →
        ((Handles.ofRegistry (.empty otherSettings)).after otherUses).view? otherHandle =
            some other →
          SameActions registry other := by
  have settles : ∀ settings uses handle registry,
      (∀ action, action ∈ offers ((Handles.ofRegistry (.empty settings)).calls uses) ↔
        action ∈ writes) →
      ((Handles.ofRegistry (.empty settings)).after uses).view? handle = some registry →
        Settled registry writes := by
    intro settings uses handle registry members seen
    have empty := Registry.Reflects.empty settings
    have reflects := Handles.reflects_written empty seen
    rw [(Handles.leadTo_ofRegistry _).written_eq uses] at reflects
    refine reflects.settled compatible fun action => ?_
    rw [empty.mem_after_iff, List.nil_append, members]
    intro first firstMember second secondMember
    exact compatible.eq_of_id_eq ((members first).1 firstMember) ((members second).1 secondMember)
  have settled : Settled registry writes := by
    refine settles settings uses handle registry (fun action => ?_) seen
    rw [← offered, Multiset.mem_coe]
  refine ⟨settled, fun otherSettings otherUses otherHandle other members seenOther => ?_⟩
  exact settled.sameActions (settles otherSettings otherUses otherHandle other members seenOther)

/-- Two threads with handles of their own register the same actions, one of them guarded and in a
registry that rejects; the same actions in another order and plainly end alike. -/
theorem compatible_writes_settle_of_two_threads :
    let writes : Multiset Action := {⟨{ value := 3 }, "move"⟩, ⟨{ value := 1 }, ""⟩,
      ⟨{ value := 3 }, "move"⟩, ⟨{ value := -2 }, "copy"⟩}
    ∃ registry other, Compatible writes ∧
      ((Handles.ofRegistry (.empty { policy := .reject })).after
        [.clone 0, .call 1 (.tryRegister ⟨{ value := 3 }, "move"⟩),
          .call 0 (.register ⟨{ value := 1 }, ""⟩), .call 0 (.find "move"),
          .call 0 (.register ⟨{ value := 3 }, "move"⟩),
          .call 1 (.tryRegister ⟨{ value := -2 }, "copy"⟩)]).view? 1 = some registry ∧
      ((Handles.ofRegistry (.empty {})).after
        [.call 0 (.register ⟨{ value := -2 }, "copy"⟩), .call 0 (.register ⟨{ value := 1 }, ""⟩),
          .call 0 (.register ⟨{ value := 3 }, "move"⟩)]).view? 0 = some other ∧
      registry.size = 3 ∧ registry.find "move" = registry.lookup { value := 3 } ∧
      registry.actionUnder { value := 3 } = some ⟨{ value := 3 }, "move"⟩ ∧
      registry.find "1" = none ∧
      registry.entries.map Entry.action = other.entries.map Entry.action := by
  intro writes
  have compatible : Compatible writes := by
    unfold Compatible
    decide
  obtain ⟨settled, alike⟩ := @compatible_writes_settle writes _ compatible { policy := .reject }
    [.clone 0, .call 1 (.tryRegister ⟨{ value := 3 }, "move"⟩),
      .call 0 (.register ⟨{ value := 1 }, ""⟩), .call 0 (.find "move"),
      .call 0 (.register ⟨{ value := 3 }, "move"⟩),
      .call 1 (.tryRegister ⟨{ value := -2 }, "copy"⟩)] 1 rfl rfl
  have others := alike {} [.call 0 (.register ⟨{ value := -2 }, "copy"⟩),
    .call 0 (.register ⟨{ value := 1 }, ""⟩), .call 0 (.register ⟨{ value := 3 }, "move"⟩)] 0 _
    ?_ rfl
  · refine ⟨_, _, compatible, rfl, rfl, ?_, ?_, ?_, ?_, others.listed⟩
    · rw [settled.size]
      decide
    · exact settled.named ⟨{ value := 3 }, "move"⟩ (by decide) (by decide)
    · exact settled.registered ⟨{ value := 3 }, "move"⟩ (by decide)
    · exact settled.otherName "1" (by decide)
  · intro action
    show action ∈ [_, _, _] ↔ action ∈ ([_, _, _, _] : List Action)
    simp only [List.mem_cons, List.not_mem_nil, or_false]
    tauto

end ActionDirectory
