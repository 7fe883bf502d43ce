/-
Reading the journal. A reader who knows what a registry displays at the start and sees
nothing but the records afterwards knows what it displays at any later moment: a record
of a registration sets what is displayed for its identifier, and the former text that a
warning tells is the one that the reader has there. So the journal leaves no write out
and tells of nothing else, and with warnings switched on it also tells new identifiers
from replaced ones.
-/

import ActionDirectory.Proofs.Identifiers
import Mathlib.Logic.Function.Basic

namespace ActionDirectory

/-! ### What a reader of the journal knows -/

/-- What is displayed for each identifier, if something is. -/
abbrev Display :=
  Id → Option String

/-- What is displayed behind a record. Only registrations change it. -/
def Record.follow (display : Display) : Record → Display
  | .registered id name => Function.update display id (some name)
  | .replaced id _ current => Function.update display id (some current)
  | .seeded _ | .policyOverridden _ | .policyIgnored _ | .warningOverridden _
  | .warningIgnored _ => display

/-- What is displayed behind records one behind the other. -/
def replay (display : Display) (records : List Record) : Display :=
  records.foldl Record.follow display

theorem replay_append (display : Display) (first second : List Record) :
    replay display (first ++ second) = replay (replay display first) second :=
  List.foldl_append

namespace Registry

/-- What a registry displays for each identifier. -/
def displayed (registry : Registry) : Display := fun id =>
  (registry.lookup id).map fun entry => entry.action.rendered

/-- The records of calls one behind the other. -/
def journal (registry : Registry) (calls : List Call) : List Record :=
  (registry.performAll calls).flatMap Performed.records

theorem journal_cons (registry : Registry) (call : Call) (rest : List Call) :
    registry.journal (call :: rest) =
      (registry.perform call).records ++ (registry.perform call).registry.journal rest :=
  List.flatMap_cons

theorem journal_concat (registry : Registry) (calls : List Call) (call : Call) :
    registry.journal (calls ++ [call]) =
      registry.journal calls ++ ((registry.after calls).perform call).records := by
  induction calls generalizing registry with
  | nil => exact (journal_cons registry call []).trans (List.append_nil _)
  | cons first rest inductionHypothesis =>
    rw [List.cons_append, journal_cons, journal_cons, inductionHypothesis, List.append_assoc,
      after_cons]

/-! ### The records of one call -/

/-- A call leaves the record of what it writes, and no record if it writes nothing. -/
theorem records_perform (registry : Registry) (call : Call) :
    (registry.perform call).records =
      (registry.written? call).toList.map fun action =>
        recordOf registry.settings (registry.lookup action.id) action := by
  rcases registry.perform_cases call with ⟨action, written, performed⟩ | ⟨silent, -, quiet⟩
  · rw [written, performed]
    rfl
  · rw [silent, quiet]
    rfl

/-- The record of a write is a trace if the identifier was free or warnings are switched off, and
a warning that tells the former text otherwise. -/
theorem recordOf_cases (settings : Settings) (former : Option Entry) (action : Action) :
    ((settings.warnsOnOverwrite = false ∨ former = none) ∧
        recordOf settings former action = .registered action.id action.rendered) ∨
      ∃ entry, settings.warnsOnOverwrite = true ∧ former = some entry ∧
        recordOf settings former action =
          .replaced action.id entry.action.rendered action.rendered := by
  cases former with
  | none => exact Or.inl ⟨Or.inr rfl, rfl⟩
  | some entry =>
    cases warns : settings.warnsOnOverwrite with
    | false => exact Or.inl ⟨Or.inl rfl, by simp [recordOf, warns]⟩
    | true => exact Or.inr ⟨entry, rfl, rfl, by simp [recordOf, warns]⟩

theorem displayed_register (registry : Registry) (action : Action) :
    (registry.register action).registry.displayed =
      Function.update registry.displayed action.id (some action.rendered) := by
  funext id
  rw [displayed, lookup_register, Function.update_apply]
  split <;> rfl

/-- The record of a write tells what is displayed behind the write. -/
theorem follow_recordOf (registry : Registry) (former : Option Entry) (action : Action) :
    (recordOf registry.settings former action).follow registry.displayed =
      (registry.register action).registry.displayed := by
  rw [displayed_register]
  rcases recordOf_cases registry.settings former action with
    ⟨-, traced⟩ | ⟨entry, -, -, warned⟩
  · rw [traced]
    rfl
  · rw [warned]
    rfl

theorem replay_perform (registry : Registry) (call : Call) :
    replay registry.displayed (registry.perform call).records =
      (registry.perform call).registry.displayed := by
  rw [records_perform, registry_perform]
  cases registry.written? call with
  | none => rfl
  | some action => exact follow_recordOf registry _ action

/-- The former text of a warning is what was displayed before. -/
theorem displayed_of_replaced {registry : Registry} {call : Call} {id : Id}
    {former current : String}
    (warned : .replaced id former current ∈ (registry.perform call).records) :
    registry.displayed id = some former := by
  rw [records_perform] at warned
  obtain ⟨action, -, told⟩ := List.mem_map.1 warned
  rcases recordOf_cases registry.settings (registry.lookup action.id) action with
    ⟨-, traced⟩ | ⟨entry, -, taken, replaced⟩
  · rw [traced] at told
    cases told
  · rw [replaced] at told
    cases told
    rw [displayed, taken]
    rfl

/-! ### Levels -/

/-- With warnings switched on, a trace is the record of a new identifier. -/
theorem level_recordOf_of_warns {settings : Settings} (warns : settings.warnsOnOverwrite = true)
    (former : Option Entry) (action : Action) :
    (recordOf settings former action).level = .trace ↔ former = none := by
  rcases recordOf_cases settings former action with
    ⟨quiet | free, traced⟩ | ⟨entry, -, taken, warned⟩
  · rw [warns] at quiet
    cases quiet
  · rw [traced]
    exact iff_of_true rfl free
  · rw [warned]
    refine iff_of_false (fun same => by cases same) fun free => ?_
    rw [taken] at free
    cases free

theorem level_recordOf_of_quiet {settings : Settings} (quiet : settings.warnsOnOverwrite = false)
    (former : Option Entry) (action : Action) :
    (recordOf settings former action).level = .trace := by
  rcases recordOf_cases settings former action with ⟨-, traced⟩ | ⟨entry, warns, -, -⟩
  · rw [traced]
    rfl
  · rw [quiet] at warns
    cases warns

/-- With warnings switched on, a call adds as many entries as it leaves traces. -/
theorem size_perform (registry : Registry) (warns : registry.settings.warnsOnOverwrite = true)
    (call : Call) :
    (registry.perform call).registry.size =
      registry.size + (registry.perform call).records.countP fun record =>
        record.level = .trace := by
  rw [records_perform, registry_perform]
  cases registry.written? call with
  | none => rfl
  | some action =>
    show (registry.register action).registry.size = _ + List.countP _ [_]
    rw [size_register, List.countP_singleton]
    by_cases free : registry.lookup action.id = none
    · rw [if_pos free, if_pos (decide_eq_true ((level_recordOf_of_warns warns _ action).2 free))]
    · rw [if_neg free, if_neg fun traced =>
        free ((level_recordOf_of_warns warns _ action).1 (of_decide_eq_true traced))]
      rfl

/-! ### The journal of a run -/

/-- A reader of the journal knows what the registry displays. -/
theorem replay_journal (registry : Registry) (calls : List Call) :
    replay registry.displayed (registry.journal calls) = (registry.after calls).displayed := by
  induction calls generalizing registry with
  | nil => rfl
  | cons call rest inductionHypothesis =>
    rw [journal_cons, replay_append, replay_perform, inductionHypothesis, after_cons]

theorem size_after (registry : Registry) (warns : registry.settings.warnsOnOverwrite = true)
    (calls : List Call) :
    (registry.after calls).size =
      registry.size + (registry.journal calls).countP fun record => record.level = .trace := by
  induction calls generalizing registry with
  | nil => rfl
  | cons call rest inductionHypothesis =>
    have warnsBehind : (registry.perform call).registry.settings.warnsOnOverwrite = true := by
      rw [settings_perform, warns]
    rw [after_cons, inductionHypothesis _ warnsBehind, size_perform registry warns, journal_cons,
      List.countP_append, Nat.add_assoc]

/-- With warnings switched off, the journal holds traces only. -/
theorem level_of_mem_journal {registry : Registry}
    (quiet : registry.settings.warnsOnOverwrite = false) {calls : List Call} {record : Record}
    (member : record ∈ registry.journal calls) : record.level = .trace := by
  induction calls generalizing registry with
  | nil => cases member
  | cons call rest inductionHypothesis =>
    rw [journal_cons, List.mem_append] at member
    rcases member with now | later
    · rw [records_perform] at now
      obtain ⟨action, -, rfl⟩ := List.mem_map.1 now
      exact level_recordOf_of_quiet quiet _ action
    · have quietBehind : (registry.perform call).registry.settings.warnsOnOverwrite = false := by
        rw [settings_perform, quiet]
      exact inductionHypothesis quietBehind later

end Registry

/-! ### The rule -/

/-- The journal of a run tells all that the run does to what is displayed. Behind every run the
reader of the journal sees what the registry displays. A further call leaves one record if it
writes and none otherwise, and the former text of a warning is the one that the reader sees at that
moment. With warnings switched on, a record is a trace exactly if it is the one of a free
identifier, so there are as many traces as new entries; with warnings switched off, nothing is a
warning. -/
theorem journal_tells_displayed (start : Registry) (calls : List Call) :
    let registry := start.after calls
    let seen := replay start.displayed (start.journal calls)
    seen = registry.displayed ∧
      (∀ call,
        let records := (registry.perform call).records
        start.journal (calls ++ [call]) = start.journal calls ++ records ∧
          records.length = (registry.written? call).toList.length ∧
          (∀ id former current, .replaced id former current ∈ records → seen id = some former) ∧
          (start.settings.warnsOnOverwrite = true → ∀ action, registry.written? call = some action →
            ∀ record ∈ records, record.level = .trace ↔ registry.lookup action.id = none)) ∧
      (start.settings.warnsOnOverwrite = true →
        registry.size =
          start.size + (start.journal calls).countP fun record => record.level = .trace) ∧
      (start.settings.warnsOnOverwrite = false →
        ∀ record ∈ start.journal calls, record.level ≠ .warn) := by
  intro registry seen
  have follows : seen = registry.displayed := start.replay_journal calls
  refine ⟨follows, fun call => ⟨?_, ?_, ?_, ?_⟩, fun warns => ?_, fun quiet record member => ?_⟩
  · exact start.journal_concat calls call
  · rw [Registry.records_perform, List.length_map]
  · intro id former current warned
    rw [follows]
    exact Registry.displayed_of_replaced warned
  · intro warns action written record member
    rw [Registry.records_perform, written] at member
    rw [List.mem_singleton.1 member]
    refine Registry.level_recordOf_of_warns ?_ _ action
    rw [Registry.settings_after, warns]
  · exact start.size_after warns calls
  · rw [Registry.level_of_mem_journal quiet member]
    decide

/-- A name is blanked, a guarded write is refused, and the same writes without warnings leave
traces only. -/
theorem journal_tells_displayed_of_blanked_name :
    let calls : List Call := [.tryRegister ⟨{ value := 1 }, "other"⟩,
      .register ⟨{ value := 1 }, ""⟩, .lookup { value := 1 }, .register ⟨{ value := 2 }, "move"⟩]
    let start := (Registry.empty { policy := .reject }).after
      [.register ⟨{ value := 1 }, "copy"⟩]
    let quiet := (Registry.empty { policy := .reject, warnsOnOverwrite := false }).after
      [.register ⟨{ value := 1 }, "copy"⟩]
    start.journal calls =
        [.replaced { value := 1 } "copy" "1", .registered { value := 2 } "move"] ∧
      (start.after calls).displayed { value := 1 } = some "1" ∧
      start.settings.warnsOnOverwrite = true ∧ (start.after calls).size = start.size + 1 ∧
      quiet.settings.warnsOnOverwrite = false ∧
      ∀ record ∈ quiet.journal calls, record.level ≠ .warn := by
  intro calls start quiet
  have journal : start.journal calls =
      [.replaced { value := 1 } "copy" "1", .registered { value := 2 } "move"] := by decide
  obtain ⟨follows, -, grows, -⟩ := journal_tells_displayed start calls
  obtain ⟨-, -, -, silent⟩ := journal_tells_displayed quiet calls
  refine ⟨journal, ?_, rfl, ?_, rfl, silent rfl⟩
  · rw [← follows, journal]
    decide
  · rw [grows rfl, journal]
    rfl

end ActionDirectory
