/-
What settings do not reach. A registry has two settings, and each of them has a say in one
thing only: the policy decides whether a guarded write under a taken identifier is refused,
and the other setting decides whether the record of a write that replaces an entry warns.
So a registry can be put under other settings before a run or behind it, and the outcome
is the same, serial numbers included. Under an equal policy only the level of records and
the former names in them differ; under another policy nothing differs as long as no guarded
write meets a taken identifier. Filling from a table asks no setting at all.
-/

import ActionDirectory.Proofs.Replay
import Mathlib.Data.List.Forall2

namespace ActionDirectory

/-! ### What a record tells beside a former name -/

/-- The identifier of a registration and the name that is rendered for it from then on. -/
def Record.news? : Record → Option (Id × String)
  | .registered id name => some (id, name)
  | .replaced id _ current => some (id, current)
  | .seeded _ | .policyOverridden _ | .policyIgnored _ | .warningOverridden _
  | .warningIgnored _ => none

/-- Two records tell of one registration, whether or not they warn of a former name. -/
def Record.SameNews (first second : Record) : Prop :=
  ∃ id name, first.news? = some (id, name) ∧ second.news? = some (id, name)

namespace Registry

theorem news?_recordOf (settings : Settings) (former : Option Entry) (action : Action) :
    (recordOf settings former action).news? = some (action.id, action.rendered) := by
  rcases recordOf_cases settings former action with ⟨-, traced⟩ | ⟨entry, -, -, warned⟩
  · rw [traced]
    rfl
  · rw [warned]
    rfl

/-- Of the settings a record depends on the warnings only. -/
theorem recordOf_of_warns_eq {first second : Settings}
    (warns : first.warnsOnOverwrite = second.warnsOnOverwrite) (former : Option Entry)
    (action : Action) : recordOf first former action = recordOf second former action := by
  cases former with
  | none => rfl
  | some entry => simp only [recordOf, warns]

/-! ### A registry under other settings -/

variable {registry left right : Registry} {settings : Settings}

/-- The same registry under other settings. -/
def under (registry : Registry) (settings : Settings) : Registry :=
  { registry with settings }

theorem lookup_under (registry : Registry) (settings : Settings) (id : Id) :
    (registry.under settings).lookup id = registry.lookup id :=
  rfl

theorem register_under (registry : Registry) (settings : Settings) (action : Action) :
    ((registry.under settings).register action).registry =
      (registry.register action).registry.under settings :=
  rfl

/-- No guarded write meets a taken identifier. -/
def Unopposed (registry : Registry) (call : Call) : Prop :=
  ∀ action, call = .tryRegister action → registry.lookup action.id = none

/-- A guarded write is accepted or refused alike under both settings if the policies are equal or
the identifier is free. -/
theorem tryRegister_under {action : Action}
    (decided : registry.settings.policy = settings.policy ∨ registry.lookup action.id = none) :
    (registry.under settings).tryRegister action =
      (registry.tryRegister action).map fun _ => (registry.under settings).register action := by
  have policy : (registry.under settings).settings.policy = settings.policy := rfl
  rcases decided with same | free
  · rw [tryRegister, tryRegister, lookup_under, policy, same]
    cases settings.policy <;> cases registry.lookup action.id <;> rfl
  · rw [tryRegister, tryRegister, lookup_under, free]
    cases registry.settings.policy <;> cases (registry.under settings).settings.policy <;> rfl

/-- A call replies alike under both settings, unless it asks for the settings. -/
theorem reply_perform_under {call : Call}
    (decided : registry.settings.policy = settings.policy ∨ registry.Unopposed call)
    (other : call ≠ .settings) :
    ((registry.under settings).perform call).reply = (registry.perform call).reply := by
  cases call with
  | tryRegister action =>
    have fate := tryRegister_under (decided.imp_right fun free => free action rfl)
    rcases registry.tryRegister_cases action with ⟨existing, -, -, refused⟩ | ⟨-, accepted⟩
    · simp only [perform, fate, refused, Except.map]
    · simp only [perform, fate, accepted, Except.map]
      rfl
  | require id =>
    have same : (registry.under settings).require id = registry.require id := rfl
    simp only [perform, same]
    cases registry.require id <;> rfl
  | settings => exact absurd rfl other
  | register | lookup | find | contains | isEmpty | entries => rfl

theorem written?_under {call : Call}
    (decided : registry.settings.policy = settings.policy ∨ registry.Unopposed call) :
    (registry.under settings).written? call = registry.written? call := by
  by_cases asks : call = .settings
  · subst asks
    rfl
  · unfold written?
    rw [reply_perform_under decided asks]

/-- Putting a registry under other settings commutes with a call. -/
theorem registry_perform_under {call : Call}
    (decided : registry.settings.policy = settings.policy ∨ registry.Unopposed call) :
    ((registry.under settings).perform call).registry =
      (registry.perform call).registry.under settings := by
  rw [registry_perform, registry_perform, written?_under decided]
  cases registry.written? call with
  | none => rfl
  | some action => exact register_under registry settings action

/-! ### Runs under other settings -/

/-- No guarded write of a run meets an identifier that is taken at that moment. -/
def MeetsNone (registry : Registry) (calls : List Call) : Prop :=
  ∀ before action after, calls = before ++ .tryRegister action :: after →
    (registry.after before).lookup action.id = none

theorem MeetsNone.unopposed {calls before after : List Call} {call : Call}
    (free : registry.MeetsNone calls) (split : calls = before ++ call :: after) :
    (registry.after before).Unopposed call := by
  rintro action rfl
  exact free before action after split

theorem MeetsNone.front {front back : List Call} (free : registry.MeetsNone (front ++ back)) :
    registry.MeetsNone front := by
  intro before action after split
  refine free before action (after ++ back) ?_
  rw [split, List.append_assoc, List.cons_append]

theorem after_concat (registry : Registry) (calls : List Call) (call : Call) :
    registry.after (calls ++ [call]) = ((registry.after calls).perform call).registry :=
  after_append registry calls [call]

/-- Putting a registry under other settings commutes with a run. -/
theorem after_under {calls : List Call}
    (decided : registry.settings.policy = settings.policy ∨ registry.MeetsNone calls) :
    (registry.under settings).after calls = (registry.after calls).under settings := by
  induction calls using List.reverseRecOn with
  | nil => rfl
  | append_singleton calls call inductionHypothesis =>
    rw [after_concat, after_concat, inductionHypothesis (decided.imp_right MeetsNone.front)]
    refine registry_perform_under (decided.imp (fun same => ?_) fun free => ?_)
    · rw [settings_after, same]
    · exact free.unopposed rfl

/-- Behind a call two registries answer alike, and so did they to the call, apart from one that
asks for the settings. -/
structure StepAlike (left right : Registry) (call : Call) : Prop where
  reply : call ≠ .settings → (left.perform call).reply = (right.perform call).reply
  lookup : ∀ id, (left.perform call).registry.lookup id = (right.perform call).registry.lookup id
  find : ∀ name, (left.perform call).registry.find name = (right.perform call).registry.find name
  entries : (left.perform call).registry.entries = (right.perform call).registry.entries
  size : (left.perform call).registry.size = (right.perform call).registry.size

theorem stepAlike_under {call : Call}
    (decided : registry.settings.policy = settings.policy ∨ registry.Unopposed call) :
    StepAlike registry (registry.under settings) call := by
  have behind := registry_perform_under decided
  refine ⟨fun other => (reply_perform_under decided other).symm, fun id => ?_, fun name => ?_, ?_,
    ?_⟩
  all_goals
    rw [behind]
    rfl

/-- At every step of a run the registry and the one under other settings answer alike. -/
theorem stepAlike_after_under {calls before after : List Call} {call : Call}
    (decided : registry.settings.policy = settings.policy ∨ registry.MeetsNone calls)
    (split : calls = before ++ call :: after) :
    StepAlike (registry.after before) ((registry.under settings).after before) call := by
  subst split
  rw [after_under (decided.imp_right MeetsNone.front)]
  refine stepAlike_under (decided.imp (fun same => ?_) fun free => free.unopposed rfl)
  rw [settings_after, same]

theorem records_perform_under {call : Call} (warns : registry.settings.warnsOnOverwrite =
      settings.warnsOnOverwrite) (free : registry.Unopposed call) :
    ((registry.under settings).perform call).records = (registry.perform call).records := by
  rw [records_perform, records_perform, written?_under (Or.inr free)]
  refine List.map_congr_left fun action _ => ?_
  exact recordOf_of_warns_eq warns.symm (registry.lookup action.id) action

/-- Under an equal policy the records of a call tell of the same registrations. -/
theorem sameNews_perform_under (same : registry.settings.policy = settings.policy) (call : Call) :
    List.Forall₂ Record.SameNews (registry.perform call).records
      ((registry.under settings).perform call).records := by
  rw [records_perform, records_perform, written?_under (Or.inl same), List.forall₂_map_left_iff,
    List.forall₂_map_right_iff, List.forall₂_same]
  intro action _
  exact ⟨action.id, action.rendered, news?_recordOf _ _ _, news?_recordOf _ _ _⟩

theorem sameNews_journal_under (same : registry.settings.policy = settings.policy)
    (calls : List Call) :
    List.Forall₂ Record.SameNews (registry.journal calls)
      ((registry.under settings).journal calls) := by
  induction calls generalizing registry with
  | nil => exact .nil
  | cons call rest inductionHypothesis =>
    rw [journal_cons, journal_cons, registry_perform_under (Or.inl same)]
    refine List.rel_append (sameNews_perform_under same call) (inductionHypothesis ?_)
    rw [settings_perform, same]

/-! ### Tables under other settings -/

theorem extend_under (registry : Registry) (settings : Settings) (table : List Action) :
    (registry.under settings).extend table =
      (registry.extend table).map fun filled => filled.under settings := by
  induction table generalizing registry with
  | nil => rfl
  | cons action rest inductionHypothesis =>
    rw [extend, extend, lookup_under]
    cases registry.lookup action.id with
    | some existing => rfl
    | none => exact inductionHypothesis (registry.register action).registry

/-- A table fills a registry under any settings or under none, and the settings are the only
difference. -/
theorem ofTable_under (table : List Action) (first second : Settings) :
    ofTable table second =
      (ofTable table first).map fun made => (made.1.under second, made.2) := by
  have filled : (empty second).extend table = _ := extend_under (empty first) second table
  rw [ofTable, ofTable, filled]
  cases (empty first).extend table <;> rfl

/-- The empty table makes an empty registry. -/
example : ofTable [] settings = .ok (empty settings, .seeded 0) :=
  rfl

theorem settings_extend {filled : Registry} {table : List Action}
    (successful : registry.extend table = .ok filled) : filled.settings = registry.settings := by
  induction table generalizing registry with
  | nil =>
    cases successful
    rfl
  | cons action rest inductionHypothesis =>
    rw [extend] at successful
    split at successful
    next => cases successful
    next =>
      have kept : filled.settings = (registry.register action).registry.settings :=
        inductionHypothesis successful
      exact kept

theorem settings_ofTable {table : List Action} {record : Record}
    (successful : ofTable table settings = .ok (registry, record)) :
    registry.settings = settings := by
  rw [ofTable] at successful
  split at successful
  next filled extended =>
    cases successful
    exact settings_extend extended
  next => cases successful

end Registry

/-! ### The rule -/

/-- A table fills a registry under all settings or is refused under all of them for one reason. Two
registries that were filled from it are put through the same calls. If they have one policy they
answer every call alike, hold the same entries and find the same names behind it, and their
journals tell of the same registrations. If they have different policies, but agree about warnings,
they do so as long as no guarded write meets a taken identifier, and then they even leave the same
records. -/
theorem settings_do_not_interfere (table : List Action) (first second : Settings) :
    Registry.ofTable table second =
        (Registry.ofTable table first).map (fun made => (made.1.under second, made.2)) ∧
      ∀ left right leftRecord rightRecord,
        Registry.ofTable table first = .ok (left, leftRecord) →
          Registry.ofTable table second = .ok (right, rightRecord) →
            ∀ calls,
              (first.policy = second.policy →
                (∀ before call after, calls = before ++ call :: after →
                  Registry.StepAlike (left.after before) (right.after before) call) ∧
                List.Forall₂ Record.SameNews (left.journal calls) (right.journal calls)) ∧
              (first.warnsOnOverwrite = second.warnsOnOverwrite → left.MeetsNone calls →
                ∀ before call after, calls = before ++ call :: after →
                  Registry.StepAlike (left.after before) (right.after before) call ∧
                    ((left.after before).perform call).records =
                      ((right.after before).perform call).records) := by
  have filled := Registry.ofTable_under table first second
  refine ⟨filled, fun left right leftRecord rightRecord leftMade rightMade calls => ?_⟩
  have own : left.settings = first := Registry.settings_ofTable leftMade
  have same : right = left.under second := by
    rw [leftMade, rightMade] at filled
    exact congrArg Prod.fst (Except.ok.inj filled)
  subst same
  refine ⟨fun policies => ?_, fun warns free before call after split => ⟨?_, ?_⟩⟩
  · have decided : left.settings.policy = second.policy := by rw [own, policies]
    refine ⟨fun before call after split => ?_, Registry.sameNews_journal_under decided calls⟩
    exact Registry.stepAlike_after_under (Or.inl decided) split
  · exact Registry.stepAlike_after_under (Or.inr free) split
  · subst split
    have warnsBefore : (left.after before).settings.warnsOnOverwrite = second.warnsOnOverwrite := by
      rw [Registry.settings_after, own, warns]
    rw [Registry.after_under (Or.inr free.front)]
    exact (Registry.records_perform_under warnsBefore (free.unopposed rfl)).symm

/-- A guarded write takes over a name and a plain one renames a blank entry, once with warnings,
once without, and once where the policy rejects. -/
theorem settings_do_not_interfere_with_renaming :
    let table : List Action := [⟨{ value := 1 }, "copy"⟩, ⟨{ value := 2 }, ""⟩]
    let calls : List Call := [.tryRegister ⟨{ value := 3 }, "copy"⟩,
      .register ⟨{ value := 2 }, "move"⟩, .find "copy"]
    ∃ loud quiet strict record,
      Registry.ofTable table {} = .ok (loud, record) ∧
      Registry.ofTable table { warnsOnOverwrite := false } = .ok (quiet, record) ∧
      Registry.ofTable table { policy := .reject } = .ok (strict, record) ∧
      loud.MeetsNone calls ∧
      List.Forall₂ Record.SameNews (loud.journal calls) (quiet.journal calls) ∧
      ((loud.after (calls.take 2)).perform (.find "copy")).reply =
        ((quiet.after (calls.take 2)).perform (.find "copy")).reply ∧
      ((loud.after (calls.take 1)).perform (.register ⟨{ value := 2 }, "move"⟩)).records =
        ((strict.after (calls.take 1)).perform (.register ⟨{ value := 2 }, "move"⟩)).records := by
  intro table calls
  obtain ⟨-, quietly⟩ := settings_do_not_interfere table {} { warnsOnOverwrite := false }
  obtain ⟨-, strictly⟩ := settings_do_not_interfere table {} { policy := .reject }
  obtain ⟨steps, news⟩ := (quietly _ _ _ _ rfl rfl calls).1 rfl
  have free : ((Registry.empty {}).register ⟨{ value := 1 }, "copy"⟩).registry.register
      ⟨{ value := 2 }, ""⟩ |>.registry.MeetsNone calls := by
    intro before action after split
    rcases before with _ | ⟨first, _ | ⟨second, _ | ⟨third, rest⟩⟩⟩
    · cases (List.cons.inj split).1
      rfl
    all_goals simp [calls] at split
  have further := (strictly _ _ _ _ rfl rfl calls).2 rfl free
  refine ⟨_, _, _, _, rfl, rfl, rfl, free, news, ?_, ?_⟩
  · exact (steps (calls.take 2) (.find "copy") [] rfl).reply (by decide)
  · exact (further (calls.take 1) (.register ⟨{ value := 2 }, "move"⟩) [.find "copy"] rfl).2

end ActionDirectory
