/-
Settings from the environment, laid over each other. Each variable decides its own setting if it
holds a text that spells a value, and leaves the setting as it was otherwise. Neither has a say in
the other's setting, and what is recorded of a variable depends on this variable only. So
environments that are laid over a base one after the other leave, for each setting, the value of the
last one that spells any, and laying one over twice is laying it over once.
-/

import ActionDirectory.Proofs.PolicyWords

namespace ActionDirectory

/-! ### Variables -/

namespace Variable

/-- A variable is set to a text, or to the bytes that encode it. -/
def Holds (given : Variable) (text : String) : Prop :=
  given = .text text ∨ given = .bytes text.toUTF8

theorem text?_eq_some_iff {given : Variable} {text : String} :
    given.text? = some text ↔ given.Holds text := by
  cases given with
  | unset => exact iff_of_false nofun (by rintro (same | same) <;> cases same)
  | text value =>
    constructor
    · intro found
      cases found
      exact Or.inl rfl
    · rintro (same | same)
      · cases same
        rfl
      · cases same
  | bytes value =>
    constructor
    · intro found
      obtain ⟨valid, same⟩ := Option.dite_none_right_eq_some.1 found
      cases same
      exact Or.inr rfl
    · rintro (same | same)
      · cases same
      · cases same
        exact dif_pos text.isValidUTF8

section Reading

variable {Value : Type} {ofWord? : String → Option Value}

/-- The value that the text of a variable spells. -/
def value? (ofWord? : String → Option Value) (given : Variable) : Option Value :=
  given.text?.bind ofWord?

theorem value?_eq_some_iff {given : Variable} {value : Value} :
    given.value? ofWord? = some value ↔ ∃ text, given.Holds text ∧ ofWord? text = some value := by
  simp only [value?, Option.bind_eq_some_iff, text?_eq_some_iff]

/-- What is recorded of a variable: that it overrides a setting, that it is ignored, or nothing if
it holds no text. -/
inductive Recorded (ofWord? : String → Option Value) (overriding : Value → String)
    (ignoring : String → String) (given : Variable) : List Record → Prop
  | silent (absent : ∀ text, ¬ given.Holds text) : Recorded ofWord? overriding ignoring given []
  | overridden {text : String} {value : Value} {record : Record} (held : given.Holds text)
      (spelled : ofWord? text = some value) (level : record.level = .debug)
      (message : record.message = overriding value) :
      Recorded ofWord? overriding ignoring given [record]
  | ignored {text : String} {record : Record} (held : given.Holds text)
      (misspelled : ofWord? text = none) (level : record.level = .warn)
      (message : record.message = ignoring text) :
      Recorded ofWord? overriding ignoring given [record]

/-- A text laid over a value: the value that it spells, or the former one, and the record of it. -/
def lay (ofWord? : String → Option Value) (overridden : Value → Record) (ignored : String → Record)
    (base : Value) (text : String) : Value × Record :=
  match ofWord? text with
  | some value => (value, overridden value)
  | none => (base, ignored text)

variable {overridden : Value → Record} {ignored : String → Record}

theorem getD_lay (base : Value) (given : Variable) :
    ((given.text?.map (lay ofWord? overridden ignored base)).map Prod.fst).getD base =
      (given.value? ofWord?).getD base := by
  rw [value?]
  cases given.text? with
  | none => rfl
  | some text =>
    show (lay ofWord? overridden ignored base text).1 = (ofWord? text).getD base
    rw [lay]
    cases ofWord? text with
    | none => rfl
    | some value => rfl

/-- What is recorded does not depend on the base. -/
theorem lay_snd_congr (base other : Value) (given : Variable) :
    (given.text?.map (lay ofWord? overridden ignored base)).map Prod.snd =
      (given.text?.map (lay ofWord? overridden ignored other)).map Prod.snd := by
  cases given.text? with
  | none => rfl
  | some text =>
    show some (lay ofWord? overridden ignored base text).2 =
      some (lay ofWord? overridden ignored other text).2
    rw [lay, lay]
    cases ofWord? text with
    | none => rfl
    | some value => rfl

theorem recorded_lay {overriding : Value → String} {ignoring : String → String}
    (tellsOverridden : ∀ value, (overridden value).level = .debug ∧
      (overridden value).message = overriding value)
    (tellsIgnored : ∀ text, (ignored text).level = .warn ∧ (ignored text).message = ignoring text)
    (base : Value) (given : Variable) :
    Recorded ofWord? overriding ignoring given
      ((given.text?.map (lay ofWord? overridden ignored base)).map Prod.snd).toList := by
  cases held : given.text? with
  | none =>
    refine .silent fun text holds => ?_
    rw [text?_eq_some_iff.2 holds] at held
    cases held
  | some text =>
    show Recorded _ _ _ _ [(lay ofWord? overridden ignored base text).2]
    rw [lay]
    cases spelled : ofWord? text with
    | none =>
      exact .ignored (text?_eq_some_iff.1 held) spelled (tellsIgnored text).1 (tellsIgnored text).2
    | some value =>
      exact .overridden (text?_eq_some_iff.1 held) spelled (tellsOverridden value).1
        (tellsOverridden value).2

end Reading

end Variable

/-! ### Environments -/

namespace Environment

/-- The policy that an environment decides. -/
def policy? (environment : Environment) : Option Policy :=
  environment.policy.value? fun word => (Policy.ofWord word).toOption

/-- The truth value that an environment decides for the warnings. -/
def warning? (environment : Environment) : Option Bool :=
  environment.warning.value? Flag.ofWord?

/-- What is recorded of the variable for the policy. -/
def PolicyRecorded (environment : Environment) : List Record → Prop :=
  environment.policy.Recorded (fun word => (Policy.ofWord word).toOption)
    (fun policy => "Overriding duplicate policy from environment: " ++ policy.word)
    fun text => "Ignoring EVENT_ACTION_DUPLICATE_POLICY: " ++ (Policy.invalid text).message

/-- What is recorded of the variable for the warnings. -/
def WarningRecorded (environment : Environment) : List Record → Prop :=
  environment.warning.Recorded Flag.ofWord?
    (fun value => "Overriding warn_on_overwrite from environment: " ++ Flag.word value)
    fun text => "Ignoring EVENT_ACTION_WARN_ON_OVERWRITE: expected a boolean, got '" ++ text ++ "'"

theorem policy?_eq_some_iff {environment : Environment} {policy : Policy} :
    environment.policy? = some policy ↔
      ∃ text, environment.policy.Holds text ∧ Policy.ofWord text = .ok policy := by
  have decided : ∀ text, (Policy.ofWord text).toOption = some policy ↔
      Policy.ofWord text = .ok policy := by
    intro text
    cases Policy.ofWord text with
    | error failure => exact iff_of_false nofun nofun
    | ok other =>
      show some other = some policy ↔ _
      rw [Option.some.injEq, Except.ok.injEq]
  rw [policy?, Variable.value?_eq_some_iff]
  exact exists_congr fun text => and_congr_right fun _ => decided text

theorem warning?_eq_some_iff {environment : Environment} {value : Bool} :
    environment.warning? = some value ↔
      ∃ text, environment.warning.Holds text ∧ Flag.ofWord? text = some value :=
  Variable.value?_eq_some_iff

end Environment

namespace Settings

variable (base : Settings) (environment : Environment)

theorem overlayPolicy_eq :
    overlayPolicy = Variable.lay (fun word => (Policy.ofWord word).toOption)
      Record.policyOverridden fun text => .policyIgnored (Policy.invalid text) := by
  funext base given
  rw [overlayPolicy, Variable.lay]
  cases decided : Policy.ofWord given with
  | ok policy => rfl
  | error failure => rw [Policy.eq_invalid_of_ofWord decided]; rfl

theorem overlayWarning_eq :
    overlayWarning = Variable.lay Flag.ofWord? Record.warningOverridden Record.warningIgnored := by
  funext base given
  rw [overlayWarning, Variable.lay]
  cases Flag.ofWord? given with
  | none => rfl
  | some value => rfl

theorem overlay_settings : (overlay base environment).1 =
    { policy := environment.policy?.getD base.policy
      warnsOnOverwrite := environment.warning?.getD base.warnsOnOverwrite } := by
  rw [overlay, overlayPolicy_eq, overlayWarning_eq]
  exact congrArg₂ Settings.mk (Variable.getD_lay _ _) (Variable.getD_lay _ _)

/-- A setting that the later environment does not decide is left to the earlier one. -/
theorem overlay_overlay (later : Environment) : (overlay (overlay base environment).1 later).1 =
    { policy := (later.policy?.or environment.policy?).getD base.policy
      warnsOnOverwrite :=
        (later.warning?.or environment.warning?).getD base.warnsOnOverwrite } := by
  rw [overlay_settings, overlay_settings, Option.getD_or, Option.getD_or]

theorem overlay_records_congr (other : Settings) :
    (overlay base environment).2 = (overlay other environment).2 := by
  rw [overlay, overlay, overlayPolicy_eq, overlayWarning_eq]
  exact congrArg₂ (fun first second : Option Record => first.toList ++ second.toList)
    (Variable.lay_snd_congr _ _ _) (Variable.lay_snd_congr _ _ _)

/-- The policy is recorded first, and each variable by itself. -/
theorem overlay_recorded : ∃ first second, (overlay base environment).2 = first ++ second ∧
    environment.PolicyRecorded first ∧ environment.WarningRecorded second := by
  have tellsOverridden : ∀ policy, (Record.policyOverridden policy).level = .debug ∧
      (Record.policyOverridden policy).message =
        "Overriding duplicate policy from environment: " ++ policy.word :=
    fun policy => ⟨rfl, rfl⟩
  have tellsIgnored : ∀ text, (Record.policyIgnored (Policy.invalid text)).level = .warn ∧
      (Record.policyIgnored (Policy.invalid text)).message =
        "Ignoring EVENT_ACTION_DUPLICATE_POLICY: " ++ (Policy.invalid text).message :=
    fun text => ⟨rfl, rfl⟩
  have tellsWarning : ∀ value, (Record.warningOverridden value).level = .debug ∧
      (Record.warningOverridden value).message =
        "Overriding warn_on_overwrite from environment: " ++ Flag.word value :=
    fun value => ⟨rfl, rfl⟩
  have tellsNoWarning : ∀ text, (Record.warningIgnored text).level = .warn ∧
      (Record.warningIgnored text).message =
        "Ignoring EVENT_ACTION_WARN_ON_OVERWRITE: expected a boolean, got '" ++ text ++ "'" :=
    fun text => ⟨rfl, rfl⟩
  rw [overlay, overlayPolicy_eq, overlayWarning_eq]
  exact ⟨_, _, rfl, Variable.recorded_lay tellsOverridden tellsIgnored _ _,
    Variable.recorded_lay tellsWarning tellsNoWarning _ _⟩

/-! ### Several environments -/

/-- Environments laid over a base one after the other, with all that is recorded. -/
def overlayAll (base : Settings) : List Environment → Settings × List Record
  | [] => (base, [])
  | environment :: later =>
    let first := overlay base environment
    let rest := overlayAll first.1 later
    (rest.1, first.2 ++ rest.2)

theorem getD_getLast?_filterMap {Item Value : Type} (decides : Item → Option Value) (first : Item)
    (later : List Item) (base : Value) :
    (later.filterMap decides).getLast?.getD ((decides first).getD base) =
      ((first :: later).filterMap decides).getLast?.getD base := by
  rw [List.filterMap_cons]
  cases decides first with
  | none => rfl
  | some value => rw [List.getLast?_cons]; rfl

/-- Either setting has the last value that an environment decides for it. -/
theorem overlayAll_settings (environments : List Environment) :
    (overlayAll base environments).1 =
      { policy := (environments.filterMap Environment.policy?).getLast?.getD base.policy
        warnsOnOverwrite :=
          (environments.filterMap Environment.warning?).getLast?.getD base.warnsOnOverwrite } := by
  induction environments generalizing base with
  | nil => rfl
  | cons environment later inductionHypothesis =>
    show (overlayAll (overlay base environment).1 later).1 = _
    rw [inductionHypothesis, overlay_settings]
    exact congrArg₂ Settings.mk (getD_getLast?_filterMap _ _ _ _) (getD_getLast?_filterMap _ _ _ _)

/-- Of each environment the same is recorded, whatever was laid over the base before. -/
theorem overlayAll_records (environments : List Environment) :
    (overlayAll base environments).2 =
      environments.flatMap fun environment => (overlay base environment).2 := by
  have behind : ∀ other, (overlayAll other environments).2 =
      environments.flatMap fun environment => (overlay base environment).2 := by
    induction environments with
    | nil => exact fun other => rfl
    | cons environment later inductionHypothesis =>
      intro other
      show (overlay other environment).2 ++ (overlayAll (overlay other environment).1 later).2 = _
      rw [inductionHypothesis, overlay_records_congr other environment base, List.flatMap_cons]
  exact behind base

end Settings

/-! ### The rule -/

open Settings in
/-- An environment that is laid over settings decides each of them by its own variable: by the value
that the text of the variable spells, and not at all if the variable holds no text or one that
spells nothing. Of each variable that holds a text there is one record, the one of the policy in
front, which tells that the setting is overridden or that the variable is ignored. Laid over the
outcome once more, the environment changes nothing; a later one wins where it decides anything, and
so does the last of any number of them. Without a base the defaults are the base. -/
theorem environment_is_laid_over (base : Settings) (environment : Environment) :
    let merged := overlay base environment
    merged.1 = { policy := environment.policy?.getD base.policy
                 warnsOnOverwrite := environment.warning?.getD base.warnsOnOverwrite } ∧
      (∀ policy, environment.policy? = some policy ↔
        ∃ text, environment.policy.Holds text ∧ Policy.ofWord text = .ok policy) ∧
      (∀ value, environment.warning? = some value ↔
        ∃ text, environment.warning.Holds text ∧ Flag.ofWord? text = some value) ∧
      (∃ first second, merged.2 = first ++ second ∧ environment.PolicyRecorded first ∧
        environment.WarningRecorded second) ∧
      overlay merged.1 environment = merged ∧
      (∀ later, (overlay merged.1 later).1 =
        { policy := (later.policy?.or environment.policy?).getD base.policy
          warnsOnOverwrite :=
            (later.warning?.or environment.warning?).getD base.warnsOnOverwrite }) ∧
      (∀ environments, overlayAll base environments =
        ({ policy := (environments.filterMap Environment.policy?).getLast?.getD base.policy
           warnsOnOverwrite := (environments.filterMap Environment.warning?).getLast?.getD
            base.warnsOnOverwrite },
          environments.flatMap fun environment => (overlay base environment).2)) ∧
      ofEnvironment environment =
        overlay { policy := .replace, warnsOnOverwrite := true } environment := by
  have settings := overlay_settings base environment
  refine ⟨settings, fun policy => Environment.policy?_eq_some_iff,
    fun value => Environment.warning?_eq_some_iff, overlay_recorded base environment, ?_,
    fun later => ?_, fun environments => ?_, rfl⟩
  · refine Prod.ext ?_ (overlay_records_congr _ environment base)
    rw [overlay_overlay, Option.or_self, Option.or_self, settings]
  · exact overlay_overlay base environment later
  · exact Prod.ext (overlayAll_settings base environments) (overlayAll_records base environments)

/-- An invalid policy, given by its bytes, is ignored and does not keep the warnings from being
switched off. -/
theorem environment_is_laid_over_with_one_fault :
    let environment : Environment :=
      { policy := .bytes "sometimes".toUTF8, warning := .text " OFF\n" }
    (Settings.overlay { policy := .reject } environment).1 =
        { policy := .reject, warnsOnOverwrite := false } ∧
      (Settings.overlay { policy := .reject } environment).2.map Record.level =
        [.warn, .debug] := by
  intro environment
  obtain ⟨settings, policy, warning, recorded, -⟩ :=
    environment_is_laid_over { policy := .reject } environment
  obtain ⟨first, second, records, policyRecorded, warningRecorded⟩ := recorded
  have held : environment.policy.Holds "sometimes" := Or.inr rfl
  have undecided : environment.policy? = none := by
    rw [Environment.policy?, Variable.value?, Variable.text?_eq_some_iff.2 held]
    decide +kernel
  have decided : environment.warning? = some false :=
    (warning false).2 ⟨" OFF\n", Or.inl rfl, by decide +kernel⟩
  refine ⟨by rw [settings, undecided, decided]; rfl, ?_⟩
  have warned : first.map Record.level = [.warn] := by
    cases policyRecorded with
    | silent absent => exact absurd held (absent _)
    | overridden other spelled =>
      have found : environment.policy? = some _ := Variable.value?_eq_some_iff.2 ⟨_, other, spelled⟩
      rw [undecided] at found
      cases found
    | ignored other misspelled level => exact congrArg (fun level => [level]) level
  have told : second.map Record.level = [.debug] := by
    cases warningRecorded with
    | silent absent => exact absurd (Or.inl rfl) (absent _)
    | overridden other spelled level => exact congrArg (fun level => [level]) level
    | ignored other misspelled =>
      obtain ⟨text, here, spelled⟩ := Variable.value?_eq_some_iff.1 decided
      rw [← Variable.text?_eq_some_iff] at here other
      rw [here] at other
      cases other
      rw [misspelled] at spelled
      cases spelled
  rw [records, List.map_append, warned, told]
  rfl

end ActionDirectory
