/-
Independent writers. Several threads register actions in one registry, each in an
order of its own, and no two of them use one identifier or one name. Then every
interleaving ends alike, and each single registration has the same outcome in all of
them. The threads do interact, for a write may take a name from an entry that another
thread replaces, or drop the name of an entry that another thread took over.

For identifiers the proof projects a run to one thread: under the identifiers of the
thread the registry is what it would be if the thread ran alone, so the outcomes of
the thread are those of its own run. For names it goes through the history. What a
name leads to depends only on the order of the writes of the name among themselves,
and on the order of the writes under one identifier among themselves, and each of
these belongs to a single thread.
-/

import ActionDirectory.Proofs.Snapshot
import ActionDirectory.Session

namespace ActionDirectory

variable {Thread : Type} [DecidableEq Thread]

/-! ### Threads and schedules -/

/-- What belongs to a thread, in its order. -/
def own {Item : Type} (thread : Thread) (steps : List (Thread × Item)) : List Item :=
  (steps.filter fun step => step.1 = thread).map Prod.snd

theorem own_cons_self {Item : Type} (thread : Thread) (item : Item)
    (rest : List (Thread × Item)) :
    own thread ((thread, item) :: rest) = item :: own thread rest := by
  rw [own, List.filter_cons_of_pos (by exact decide_eq_true rfl)]
  rfl

theorem own_cons_other {Item : Type} {thread other : Thread} (different : other ≠ thread)
    (item : Item) (rest : List (Thread × Item)) :
    own thread ((other, item) :: rest) = own thread rest := by
  rw [own, List.filter_cons_of_neg (by simpa using different)]
  rfl

theorem mem_own_iff {Item : Type} {thread : Thread} {item : Item}
    {steps : List (Thread × Item)} : item ∈ own thread steps ↔ (thread, item) ∈ steps := by
  rw [own, List.mem_map]
  constructor
  · rintro ⟨⟨_, _⟩, member, rfl⟩
    obtain ⟨present, same⟩ := List.mem_filter.1 member
    rwa [← of_decide_eq_true same]
  · intro present
    exact ⟨(thread, item), List.mem_filter.2 ⟨present, decide_eq_true rfl⟩, rfl⟩

/-- A schedule of all registrations in which each thread makes its own in their order. -/
def Interleaves (threads : Thread → List Registration)
    (schedule : List (Thread × Registration)) : Prop :=
  ∀ thread, own thread schedule = threads thread

/-- Different threads use different identifiers, and different names where they use any. -/
def Independent (threads : Thread → List Registration) : Prop :=
  ∀ first second, first ≠ second →
    ∀ registration ∈ threads first, ∀ other ∈ threads second,
      registration.action.id ≠ other.action.id ∧
        (registration.action.name ≠ "" → registration.action.name ≠ other.action.name)

/-- What the caller of a registration gets to see, and what is recorded of it. -/
structure Outcome where
  answer : Answer
  records : List Record
deriving DecidableEq, Repr

/-- The action that a registration wrote. -/
def Outcome.written? (outcome : Outcome) : Option Action :=
  match outcome.answer with
  | .action action => some action
  | _ => none

namespace Registry

/-- The outcome of a registration. -/
def outcome (registry : Registry) (registration : Registration) : Outcome :=
  let performed := registry.perform registration.call
  ⟨Session.answerOf performed.reply, performed.records⟩

/-- The outcomes of all registrations of a schedule, with their threads. -/
def outcomes (registry : Registry) : List (Thread × Registration) → List (Thread × Outcome)
  | [] => []
  | (thread, registration) :: rest =>
    (thread, registry.outcome registration) ::
      (registry.perform registration.call).registry.outcomes rest

/-- The registry behind a schedule. -/
def afterSchedule (registry : Registry) (schedule : List (Thread × Registration)) : Registry :=
  registry.after (schedule.map fun step => step.2.call)

/-- The outcomes of registrations one behind the other. -/
def outcomesAlone (registry : Registry) : List Registration → List Outcome
  | [] => []
  | registration :: rest =>
    registry.outcome registration ::
      (registry.perform registration.call).registry.outcomesAlone rest

/-- The action under an identifier. -/
def actionUnder (registry : Registry) (id : Id) : Option Action :=
  (registry.lookup id).map Entry.action

theorem contains_eq_isSome (registry : Registry) (id : Id) :
    registry.contains id = (registry.actionUnder id).isSome :=
  Option.isSome_map.symm

/-! ### What a registration depends on -/

section Registration

variable {registry left right : Registry} {registration : Registration}

/-- A registration is refused if it is guarded, the policy rejects and the identifier is taken, and
is a plain registration otherwise. -/
theorem perform_call_cases (registry : Registry) (registration : Registration) :
    (∃ existing, registration.isGuarded = true ∧ registry.settings.policy = .reject ∧
        registry.lookup registration.action.id = some existing ∧
        registry.perform registration.call =
          { registry,
            reply := .failed (.duplicateId registration.action.id existing.action.rendered) }) ∨
      ((registration.isGuarded = true → registry.settings.policy = .replace ∨
          registry.lookup registration.action.id = none) ∧
        registry.perform registration.call = wrote (registry.register registration.action)) := by
  cases guarded : registration.isGuarded with
  | false =>
    refine Or.inr ⟨fun impossible => ?_, ?_⟩
    · cases impossible
    · rw [Registration.call, guarded]
      rfl
  | true =>
    have called : registration.call = .tryRegister registration.action := by
      rw [Registration.call, guarded]
      rfl
    rcases registry.tryRegister_cases registration.action with
      ⟨existing, rejects, taken, refused⟩ | ⟨free, accepted⟩
    · refine Or.inl ⟨existing, rfl, rejects, taken, ?_⟩
      simp only [called, perform, refused]
    · refine Or.inr ⟨fun _ => free, ?_⟩
      simp only [called, perform, accepted]

/-- What the caller sees of a registration, and the registry behind it. -/
theorem outcome_cases (registry : Registry) (registration : Registration) :
    (∃ existing, registration.isGuarded = true ∧ registry.settings.policy = .reject ∧
        registry.lookup registration.action.id = some existing ∧
        registry.outcome registration =
          ⟨.failure (.duplicateId registration.action.id existing.action.rendered), []⟩ ∧
        (registry.perform registration.call).registry = registry) ∨
      ((registration.isGuarded = true → registry.settings.policy = .replace ∨
          registry.lookup registration.action.id = none) ∧
        registry.outcome registration =
          ⟨.action registration.action,
            [recordOf registry.settings (registry.lookup registration.action.id)
              registration.action]⟩ ∧
        (registry.perform registration.call).registry =
          (registry.register registration.action).registry) := by
  rcases registry.perform_call_cases registration with
    ⟨existing, guarded, rejects, taken, performed⟩ | ⟨free, performed⟩
  · refine Or.inl ⟨existing, guarded, rejects, taken, ?_, ?_⟩
    · rw [outcome, performed]
      rfl
    · rw [performed]
  · refine Or.inr ⟨free, ?_, ?_⟩
    · rw [outcome, performed]
      rfl
    · rw [performed]
      rfl

theorem recordOf_congr (settings : Settings) {first second : Option Entry} (action : Action)
    (same : first.map Entry.action = second.map Entry.action) :
    recordOf settings first action = recordOf settings second action := by
  cases first with
  | none =>
    cases second with
    | none => rfl
    | some entry => cases same
  | some entry =>
    cases second with
    | none => cases same
    | some other =>
      have equal : entry.action = other.action := Option.some.inj same
      simp only [recordOf, equal]

/-- The outcome depends on the settings and on the action under the identifier only. -/
theorem outcome_congr (settings : left.settings = right.settings)
    (agree : left.actionUnder registration.action.id = right.actionUnder registration.action.id) :
    left.outcome registration = right.outcome registration := by
  rcases outcome_cases left registration with
    ⟨existing, guarded, rejects, taken, leftOutcome, -⟩ | ⟨leftFree, leftOutcome, -⟩ <;>
  rcases outcome_cases right registration with
    ⟨other, guardedRight, rejectsRight, takenRight, rightOutcome, -⟩ | ⟨rightFree, rightOutcome, -⟩
  · have same : existing.action = other.action := by
      rw [actionUnder, actionUnder, taken, takenRight] at agree
      exact Option.some.inj agree
    rw [leftOutcome, rightOutcome, same]
  · rcases rightFree guarded with replaces | absent
    · rw [settings, replaces] at rejects
      cases rejects
    · rw [actionUnder, actionUnder, taken, absent] at agree
      cases agree
  · rcases leftFree guardedRight with replaces | absent
    · rw [← settings, replaces] at rejectsRight
      cases rejectsRight
    · rw [actionUnder, actionUnder, absent, takenRight] at agree
      cases agree
  · rw [leftOutcome, rightOutcome, settings, recordOf_congr right.settings _ agree]

/-- Behind a registration its action stands under its identifier if it was written, and the other
identifiers are left alone. -/
theorem actionUnder_perform (registry : Registry) (registration : Registration) (id : Id) :
    (registry.perform registration.call).registry.actionUnder id =
      if id = registration.action.id then
        (registry.outcome registration).written?.or (registry.actionUnder id)
      else registry.actionUnder id := by
  rcases outcome_cases registry registration with
    ⟨existing, -, -, -, refused, unchanged⟩ | ⟨-, accepted, changed⟩
  · rw [unchanged, refused]
    split <;> rfl
  · rw [changed, accepted, actionUnder, lookup_register]
    split <;> rfl

theorem written?_eq_outcome (registry : Registry) (registration : Registration) :
    registry.written? registration.call = (registry.outcome registration).written? := by
  rcases registry.perform_call_cases registration with
    ⟨existing, guarded, -, -, performed⟩ | ⟨-, performed⟩
  · unfold Registry.written?
    rw [outcome, performed, Registration.call, if_pos guarded]
    rfl
  · unfold Registry.written?
    rw [outcome, performed, Registration.call]
    by_cases guarded : registration.isGuarded = true
    · rw [if_pos guarded]
      rfl
    · rw [if_neg guarded]
      rfl

end Registration

/-! ### A thread in a schedule and alone -/

/-- Under the identifiers that only one thread uses, a schedule does what the thread does alone:
the thread sees the same outcomes, and leaves the same actions. -/
theorem own_outcomes {thread : Thread} {mine : Id → Prop}
    {schedule : List (Thread × Registration)}
    (owns : ∀ step ∈ schedule, step.1 = thread ↔ mine step.2.action.id) {left right : Registry}
    (settings : left.settings = right.settings)
    (agree : ∀ id, mine id → left.actionUnder id = right.actionUnder id) :
    own thread (left.outcomes schedule) = right.outcomesAlone (own thread schedule) ∧
      ∀ id, mine id → (left.afterSchedule schedule).actionUnder id =
        (right.after ((own thread schedule).map Registration.call)).actionUnder id := by
  -- What the induction keeps is that both registries agree under the identifiers of the thread.
  induction schedule generalizing left right with
  | nil => exact ⟨rfl, agree⟩
  | cons step rest inductionHypothesis =>
    obtain ⟨current, registration⟩ := step
    have ownsRest := fun step member => owns step (List.mem_cons_of_mem _ member)
    have uses := owns (current, registration) List.mem_cons_self
    by_cases same : current = thread
    · subst same
      have equal : left.outcome registration = right.outcome registration :=
        outcome_congr settings (agree _ (uses.1 rfl))
      have settingsBehind : (left.perform registration.call).registry.settings =
          (right.perform registration.call).registry.settings := by
        rw [settings_perform, settings_perform, settings]
      have further := inductionHypothesis ownsRest settingsBehind fun id own => by
        rw [actionUnder_perform, actionUnder_perform, equal, agree id own]
      rw [outcomes, own_cons_self, own_cons_self, outcomesAlone, equal]
      exact ⟨congrArg _ further.1, further.2⟩
    · have settingsBehind : (left.perform registration.call).registry.settings =
          right.settings := by
        rw [settings_perform, settings]
      rw [outcomes, own_cons_other same, own_cons_other same]
      refine inductionHypothesis ownsRest settingsBehind fun id own => ?_
      have different : id ≠ registration.action.id := by
        rintro rfl
        exact same (uses.2 own)
      rw [actionUnder_perform, if_neg different, agree id own]

/-! ### The writes of a schedule -/

/-- The actions that were written, in the order of the outcomes. -/
def writes (steps : List (Thread × Outcome)) : List Action :=
  steps.filterMap fun step => step.2.written?

omit [DecidableEq Thread] in
theorem written_eq_writes (registry : Registry) (schedule : List (Thread × Registration)) :
    registry.written (schedule.map fun step => step.2.call) =
      writes (registry.outcomes schedule) := by
  induction schedule generalizing registry with
  | nil => rfl
  | cons step rest inductionHypothesis =>
    obtain ⟨thread, registration⟩ := step
    rw [List.map_cons, written, written?_eq_outcome, inductionHypothesis, outcomes, writes, writes,
      List.filterMap_cons]
    cases (registry.outcome registration).written? <;> rfl

theorem action_of_written? {registry : Registry} {registration : Registration} {action : Action}
    (written : (registry.outcome registration).written? = some action) :
    registration.action = action := by
  rcases outcome_cases registry registration with
    ⟨existing, -, -, -, refused, -⟩ | ⟨-, accepted, -⟩
  · rw [refused] at written
    cases written
  · rw [accepted] at written
    exact Option.some.inj written

/-- What a step wrote is an action that its thread registered. -/
theorem exists_registration_of_written {registry : Registry}
    {schedule : List (Thread × Registration)} {step : Thread × Outcome} {action : Action}
    (member : step ∈ registry.outcomes schedule) (written : step.2.written? = some action) :
    ∃ registration ∈ own step.1 schedule, registration.action = action := by
  induction schedule generalizing registry with
  | nil => cases member
  | cons first rest inductionHypothesis =>
    obtain ⟨thread, registration⟩ := first
    rcases List.mem_cons.1 member with rfl | later
    · exact ⟨registration, mem_own_iff.2 List.mem_cons_self, action_of_written? written⟩
    · obtain ⟨other, present, same⟩ := inductionHypothesis later
      exact ⟨other, mem_own_iff.2 (List.mem_cons_of_mem _ (mem_own_iff.1 present)), same⟩

/-- The writes of a kind are those of one thread if no other thread writes any. -/
theorem filter_writes_of_only {kind : Action → Prop} [DecidablePred kind] {thread : Thread}
    {steps : List (Thread × Outcome)}
    (only : ∀ step ∈ steps, ∀ action, step.2.written? = some action → kind action →
      step.1 = thread) :
    ((writes steps).filter fun action => kind action) =
      ((own thread steps).filterMap Outcome.written?).filter fun action => kind action := by
  induction steps with
  | nil => rfl
  | cons step rest inductionHypothesis =>
    obtain ⟨current, outcome⟩ := step
    have further := inductionHypothesis fun step member => only step (List.mem_cons_of_mem _ member)
    rw [writes] at further
    by_cases same : current = thread
    · subst same
      rw [writes, own_cons_self, List.filterMap_cons, List.filterMap_cons]
      cases outcome.written? with
      | none => exact further
      | some action =>
        show List.filter _ (action :: _) = List.filter _ (action :: _)
        rw [List.filter_cons, List.filter_cons, further]
    · rw [writes, own_cons_other same, List.filterMap_cons]
      cases written : outcome.written? with
      | none => exact further
      | some action =>
        have foreign : ¬ kind action := fun concerned =>
          same (only (current, outcome) List.mem_cons_self action written concerned)
        show List.filter _ (action :: _) = _
        rw [List.filter_cons_of_neg (by simpa using foreign), further]

/-- Two runs with the same outcomes for each thread write the same actions of a kind in the same
order, if only one thread writes actions of the kind. -/
theorem filter_writes_congr {kind : Action → Prop} [DecidablePred kind]
    {left right : List (Thread × Outcome)}
    (same : ∀ thread, own thread left = own thread right)
    (single : ∀ first ∈ left, ∀ second ∈ left, ∀ action other,
      first.2.written? = some action → second.2.written? = some other →
        kind action → kind other → first.1 = second.1) :
    ((writes left).filter fun action => kind action) =
      (writes right).filter fun action => kind action := by
  have mem_left : ∀ step ∈ right, step ∈ left := fun step member => by
    have present : step.2 ∈ own step.1 right := mem_own_iff.2 member
    rw [← same] at present
    exact mem_own_iff.1 present
  -- Either one thread writes all actions of the kind, or there are none.
  by_cases some_write : ∃ step ∈ left, ∃ action, step.2.written? = some action ∧ kind action
  · obtain ⟨first, member, action, written, concerned⟩ := some_write
    rw [@filter_writes_of_only _ _ kind _ first.1 left fun step present other wrote kindOther =>
        single step present first member other action wrote written kindOther concerned,
      @filter_writes_of_only _ _ kind _ first.1 right fun step present other wrote kindOther =>
        single step (mem_left step present) first member other action wrote written kindOther
          concerned, same]
  · have nothing : ∀ steps : List (Thread × Outcome), (∀ step ∈ steps, step ∈ left) →
        ((writes steps).filter fun action => kind action) = [] := by
      intro steps within
      refine List.filter_eq_nil_iff.2 fun action member concerned => some_write ?_
      obtain ⟨step, present, written⟩ := List.mem_filterMap.1 member
      exact ⟨step, within step present, action, written, of_decide_eq_true concerned⟩
    rw [nothing left fun step member => member, nothing right mem_left]

end Registry

/-! ### All interleavings end alike -/

section Interleaving

variable {start : Registry} {threads : Thread → List Registration}
  {schedule first second : List (Thread × Registration)}

/-- A thread of an interleaving sees and leaves what it sees and leaves alone. -/
theorem Interleaves.own_outcomes (order : Interleaves threads schedule)
    (independent : Independent threads) (start : Registry) (thread : Thread) :
    own thread (start.outcomes schedule) = start.outcomesAlone (threads thread) ∧
      ∀ registration ∈ threads thread,
        (start.afterSchedule schedule).actionUnder registration.action.id =
          (start.after ((threads thread).map Registration.call)).actionUnder
            registration.action.id := by
  have owns : ∀ step ∈ schedule, step.1 = thread ↔
      ∃ registration ∈ threads thread, registration.action.id = step.2.action.id := by
    intro step member
    have present : step.2 ∈ threads step.1 := order step.1 ▸ mem_own_iff.2 member
    constructor
    · rintro rfl
      exact ⟨step.2, present, rfl⟩
    · rintro ⟨registration, mine, same⟩
      by_contra different
      exact (independent _ _ different step.2 present registration mine).1 same.symm
  have projected := @Registry.own_outcomes _ _ thread
    (fun id => ∃ registration ∈ threads thread, registration.action.id = id) schedule owns
    start start rfl fun _ _ => rfl
  rw [order thread] at projected
  exact ⟨projected.1, fun registration mine => projected.2 _ ⟨registration, mine, rfl⟩⟩

/-- Two interleavings write the same actions of a kind in the same order, if two actions of the
kind have one identifier or one name. -/
theorem Interleaves.filter_writes_eq (firstOrder : Interleaves threads first)
    (secondOrder : Interleaves threads second) (independent : Independent threads)
    (start : Registry) {kind : Action → Prop} [DecidablePred kind]
    (related : ∀ action other, kind action → kind other →
      action.id = other.id ∨ action.name ≠ "" ∧ action.name = other.name) :
    ((Registry.writes (start.outcomes first)).filter fun action => kind action) =
      (Registry.writes (start.outcomes second)).filter fun action => kind action := by
  refine Registry.filter_writes_congr (fun thread => ?_) ?_
  · rw [(firstOrder.own_outcomes independent start thread).1,
      (secondOrder.own_outcomes independent start thread).1]
  · intro step member step' member' action other written written' concerned concerned'
    by_contra different
    obtain ⟨registration, mine, rfl⟩ := Registry.exists_registration_of_written member written
    obtain ⟨registration', theirs, rfl⟩ := Registry.exists_registration_of_written member' written'
    rw [firstOrder] at mine theirs
    have apart := independent _ _ different registration mine registration' theirs
    rcases related _ _ concerned concerned' with sameId | ⟨named, sameName⟩
    · exact apart.1 sameId
    · exact apart.2 named sameName

/-- Two interleavings end with the same last action of such a kind. -/
theorem Interleaves.latest_eq (firstOrder : Interleaves threads first)
    (secondOrder : Interleaves threads second) (independent : Independent threads)
    (start : Registry) (base : List Action) {kind : Action → Prop} [DecidablePred kind]
    (related : ∀ action other, kind action → kind other →
      action.id = other.id ∨ action.name ≠ "" ∧ action.name = other.name) :
    (latest (base ++ Registry.writes (start.outcomes first)) kind).map Entry.action =
      (latest (base ++ Registry.writes (start.outcomes second)) kind).map Entry.action := by
  rw [latest_map_action, latest_map_action, List.filter_append, List.filter_append,
    firstOrder.filter_writes_eq secondOrder independent start related]

/-- If no two threads share an identifier or a name, all interleavings end with the same actions
and the same answers for all names, and every registration has the same outcome and the same
records in all of them. What stands under the identifiers of a thread in the end is what the thread
leaves there if it runs alone, so no registration is lost. -/
theorem interleavings_settle_alike (reachable : start.Reachable)
    (independent : Independent threads) (firstOrder : Interleaves threads first)
    (secondOrder : Interleaves threads second) :
    let left := start.afterSchedule first
    let right := start.afterSchedule second
    (∀ id, left.actionUnder id = right.actionUnder id) ∧
      left.entries.map Entry.action = right.entries.map Entry.action ∧
      (∀ name, (left.find name).map Entry.action = (right.find name).map Entry.action) ∧
      ∀ thread, own thread (start.outcomes first) = own thread (start.outcomes second) ∧
        ∀ registration ∈ threads thread, left.actionUnder registration.action.id =
          (start.after ((threads thread).map Registration.call)).actionUnder
            registration.action.id := by
  intro left right
  obtain ⟨base, reflects⟩ := reachable.exists_reflects
  have leftReflects : left.Reflects (base ++ Registry.writes (start.outcomes first)) :=
    Registry.written_eq_writes start first ▸ reflects.after _
  have rightReflects : right.Reflects (base ++ Registry.writes (start.outcomes second)) :=
    Registry.written_eq_writes start second ▸ reflects.after _
  have underAlike : ∀ id, (lastUnder (base ++ Registry.writes (start.outcomes first)) id).map
      Entry.action = (lastUnder (base ++ Registry.writes (start.outcomes second)) id).map
      Entry.action := by
    intro id
    refine firstOrder.latest_eq secondOrder independent start base ?_
    intro action other same same'
    exact Or.inl (same.trans same'.symm)
  have namedAlike : ∀ name, (lastNamed (base ++ Registry.writes (start.outcomes first)) name).map
      Entry.action = (lastNamed (base ++ Registry.writes (start.outcomes second)) name).map
      Entry.action := by
    intro name
    refine firstOrder.latest_eq secondOrder independent start base ?_
    intro action other named named'
    obtain ⟨rfl, nonempty⟩ := Action.name?_eq_some_iff.1 named
    exact Or.inr ⟨nonempty, (Action.name?_eq_some_iff.1 named').1.symm⟩
  have lookupAlike : ∀ id, left.actionUnder id = right.actionUnder id := by
    intro id
    rw [Registry.actionUnder, Registry.actionUnder, leftReflects.lookup, rightReflects.lookup]
    exact underAlike id
  refine ⟨lookupAlike, leftReflects.actions_congr rightReflects lookupAlike, fun name => ?_,
    fun thread => ⟨?_, ?_⟩⟩
  · rw [leftReflects.find, rightReflects.find, holder?_map_action, holder?_map_action, namedAlike]
    simp only [underAlike]
  · rw [(firstOrder.own_outcomes independent start thread).1,
      (secondOrder.own_outcomes independent start thread).1]
  · exact (firstOrder.own_outcomes independent start thread).2

/-- One thread takes a name over and drops it, another replaces the entry that had it. -/
theorem interleavings_settle_alike_on_taken_name :
    let start := (Registry.empty { policy := .reject }).after
      [.register ⟨{ value := 2 }, "copy"⟩, .register ⟨{ value := 3 }, "move"⟩]
    let threads : Bool → List Registration
      | false => [⟨⟨{ value := 1 }, "copy"⟩, true⟩, ⟨⟨{ value := 1 }, "move"⟩, false⟩]
      | true => [⟨⟨{ value := 2 }, "other"⟩, false⟩, ⟨⟨{ value := 3 }, "patch"⟩, true⟩]
    let first := [
      (false, ⟨⟨{ value := 1 }, "copy"⟩, true⟩), (true, ⟨⟨{ value := 2 }, "other"⟩, false⟩),
      (false, ⟨⟨{ value := 1 }, "move"⟩, false⟩), (true, ⟨⟨{ value := 3 }, "patch"⟩, true⟩)]
    let second := [
      (true, ⟨⟨{ value := 2 }, "other"⟩, false⟩), (true, ⟨⟨{ value := 3 }, "patch"⟩, true⟩),
      (false, ⟨⟨{ value := 1 }, "copy"⟩, true⟩), (false, ⟨⟨{ value := 1 }, "move"⟩, false⟩)]
    start.Reachable ∧ Independent threads ∧ Interleaves threads first ∧
      Interleaves threads second ∧
      (start.afterSchedule first).entries.map Entry.action =
        (start.afterSchedule second).entries.map Entry.action ∧
      ((start.afterSchedule first).find "move").map Entry.action =
        ((start.afterSchedule second).find "move").map Entry.action := by
  intro start threads first second
  have reachable : start.Reachable := ⟨_, [], _, .empty { policy := .reject }, rfl⟩
  have independent : Independent threads := by
    unfold Independent
    decide
  have firstOrder : Interleaves threads first := by
    unfold Interleaves
    decide
  have secondOrder : Interleaves threads second := by
    unfold Interleaves
    decide
  have alike := interleavings_settle_alike reachable independent firstOrder secondOrder
  exact ⟨reachable, independent, firstOrder, secondOrder, alike.2.1, alike.2.2.1 "move"⟩

end Interleaving

end ActionDirectory
