/-
Settings and documents. Settings are looked for at two places of a document, the top-level keys of
the policy and of the warnings. Whatever else stands in the document is passed over: other keys,
keys of the same names further inside, headers, comments and blanks. So the settings can be told
from the two values, and so can the reason for which there are none.

A table looks at its keys in ascending order. The policy's key is the lesser one, so of two bad
values the policy's is reported. What stands under a key is told by the statements of the document
about it, and how a value was written does not matter: a table behind a header, behind dotted keys
and between braces are refused alike.
-/

import ActionDirectory.Proofs.PolicyWords
import ActionDirectory.Proofs.TopLevel

namespace ActionDirectory

open Toml Wire

/-! ### Values apart from how they were written -/

namespace Toml

/-- A branch apart from how it came about: tables that headers add one by one are an array. -/
def Branch.plain : Branch → Branch
  | .array | .elements => .array
  | .table _ => .table {}

mutual

/-- A value apart from how it was written. -/
def Node.plain : Node → Node
  | .leaf value => .leaf value
  | .branch kind parts => .branch kind.plain (Node.plains parts)

def Node.plains : List (String × Node) → List (String × Node)
  | [] => []
  | part :: rest => (part.1, part.2.plain) :: Node.plains rest

end

theorem Node.found?_plain (node : Node) : node.plain.found? = node.found? := by
  cases node with
  | leaf value => rw [plain]
  | branch kind parts =>
    rw [plain]
    cases kind <;> rfl

/-! ### Tables and the numbers in them -/

/-- A single value that something represents for certain: an integer of 64 bits, a float that is
not too large, or no number at all. -/
inductive Scalar.IsRegular : Scalar → Prop
  | string (value : String) : IsRegular (.string value)
  | integer {value : Int} (low : -Int.pow 2 63 ≤ value) (high : value < Int.pow 2 63) :
    IsRegular (.integer (some value))
  | float (value : Float) : IsRegular (.float (some value))
  | boolean (value : Bool) : IsRegular (.boolean value)
  | moment : IsRegular .moment

theorem Scalar.IsRegular.isSome_found? {value : Scalar} (regular : value.IsRegular) :
    value.found?.isSome = true := by
  cases regular with
  | string | float | boolean | moment => rfl
  | @integer value low high =>
    have below : value < Int.pow 2 64 := high.trans (by decide)
    rw [found?, if_pos ⟨low, below⟩]
    rfl

mutual

/-- The single values in a value. -/
def Node.leaves : Node → List Scalar
  | .leaf value => [value]
  | .branch _ parts => Node.leavesOf parts

def Node.leavesOf : List (String × Node) → List Scalar
  | [] => []
  | part :: rest => part.2.leaves ++ Node.leavesOf rest

end

mutual

theorem Node.isSound_of_isRegular : ∀ node : Node,
    (∀ value ∈ node.leaves, value.IsRegular) → node.isSound = true
  | .leaf value, regular => by
    rw [leaves, List.forall_mem_singleton] at regular
    rw [isSound]
    exact regular.isSome_found?
  | .branch _ parts, regular => by
    rw [leaves] at regular
    rw [isSound]
    exact Node.areSound_of_isRegular parts regular

/-- Values are sound if every single value in them is regular. -/
theorem Node.areSound_of_isRegular : ∀ parts : List (String × Node),
    (∀ value ∈ Node.leavesOf parts, value.IsRegular) → Node.areSound parts = true
  | [], _ => by rw [areSound]
  | part :: rest, regular => by
    rw [leavesOf, List.forall_mem_append] at regular
    rw [areSound, Bool.and_eq_true]
    exact ⟨part.2.isSound_of_isRegular regular.1, Node.areSound_of_isRegular rest regular.2⟩

end

theorem Node.isSome_found?_of_isSound {node : Node} (sound : node.isSound = true) :
    node.found?.isSome = true := by
  cases node with
  | leaf value =>
    rw [isSound] at sound
    exact sound
  | branch kind parts => cases kind <;> rfl

theorem Parts.isSound_of_get? {parts : Parts} {key : String} {node : Node}
    (sound : Node.areSound parts = true) (present : get? parts key = some node) :
    node.isSound = true := by
  induction parts with
  | nil => cases present
  | cons part rest inductionHypothesis =>
    rw [Node.areSound, Bool.and_eq_true] at sound
    rw [get?_cons] at present
    split at present
    next =>
      cases present
      exact sound.1
    next => exact inductionHypothesis sound.2 present

/-- Behind a key of a table stand greater ones only. -/
theorem Parts.Ascending.get?_rest {parts : Parts} {key other : String} {node : Node}
    (ascends : Ascending ((key, node) :: parts)) (least : other ≤ key) :
    get? parts other = none := by
  refine Option.map_eq_none_iff.2 (List.find?_eq_none.2 fun part member => ?_)
  have greater := (List.pairwise_cons.1 ascends).1 part member
  simpa using (least.trans_lt greater).ne'

end Toml

/-! ### One value -/

/-- How a setting is read off a value. -/
structure Setting (Value : Type) where
  /-- What a value of the right kind means; it can be at fault all the same. -/
  accept : Node → Option (Except Failure Value)
  /-- How a value was written does not matter. -/
  accept_plain : ∀ node : Node, accept node.plain = accept node
  /-- The right kind of value. -/
  expected : Expected

namespace Setting

variable {Value : Type} {setting : Setting Value} {former value : Value} {given : Option Node}

/-- The meaning of a value, or the former one if there is no value. -/
def read (setting : Setting Value) (former : Value) : Option Node → Except Refusal Value
  | none => .ok former
  | some node =>
    match setting.accept node with
    | some (.ok value) => .ok value
    | some (.error failure) => .error (.data (.failed failure))
    | none => .error (node.refuse setting.expected)

/-- A value is accepted for what it means, and a missing one for the former. -/
inductive Given (setting : Setting Value) (former : Value) : Option Node → Value → Prop
  | missing : Given setting former none former
  | accepted {node : Node} {value : Value} (means : setting.accept node = some (.ok value)) :
    Given setting former (some node) value

/-- Why a value is not accepted. -/
inductive Refused (setting : Setting Value) : Option Node → Reason → Prop
  | failed {node : Node} {failure : Failure} (means : setting.accept node = some (.error failure)) :
    Refused setting (some node) (.failed failure)
  | invalidType {node : Node} {found : Found} (other : setting.accept node = none)
      (kind : node.found? = some found) :
    Refused setting (some node) (.invalidType found setting.expected)

theorem read_eq_ok_iff :
    setting.read former given = .ok value ↔ setting.Given former given value := by
  refine ⟨fun found => ?_, fun accepted => ?_⟩
  · cases given with
    | none =>
      cases found
      exact .missing
    | some node =>
      rw [read] at found
      split at found
      next means =>
        cases found
        exact .accepted means
      next => cases found
      next => cases found
  · cases accepted with
    | missing => rfl
    | accepted means => rw [read, means]

/-- The reason for a refusal is known if all numbers in the value can be represented. -/
theorem read_eq_error_iff (sound : ∀ node, given = some node → node.isSound = true)
    {refusal : Refusal} : setting.read former given = .error refusal ↔
      ∃ reason, refusal = .data reason ∧ setting.Refused given reason := by
  refine ⟨fun found => ?_, ?_⟩
  · cases given with
    | none => cases found
    | some node =>
      rw [read] at found
      split at found
      next => cases found
      next means =>
        cases found
        exact ⟨_, rfl, .failed means⟩
      next other =>
        obtain ⟨kind, isKind⟩ :=
          Option.isSome_iff_exists.1 (Node.isSome_found?_of_isSound (sound node rfl))
        rw [Node.refuse, isKind] at found
        cases found
        exact ⟨_, rfl, .invalidType other isKind⟩
  · rintro ⟨reason, rfl, refused⟩
    cases refused with
    | failed means => rw [read, means]
    | invalidType other kind =>
      rw [read, other]
      show Except.error (Node.refuse _ _) = _
      rw [Node.refuse, kind]

theorem read_plain (setting : Setting Value) (former : Value) (given : Option Node) :
    setting.read former (given.map Node.plain) = setting.read former given := by
  cases given with
  | none => rfl
  | some node =>
    rw [Option.map_some, read, read, setting.accept_plain, Node.refuse, Node.refuse,
      Node.found?_plain]

end Setting

namespace Settings

/-- The policy is a string, which has to spell a policy. -/
def policySetting : Setting Policy where
  accept
    | .leaf (.string word) => some (Policy.ofWord word)
    | _ => none
  accept_plain node := by cases node <;> rfl
  expected := .string

/-- The flag is a truth value. -/
def flagSetting : Setting Bool where
  accept
    | .leaf (.boolean flag) => some (.ok flag)
    | _ => none
  accept_plain node := by cases node <;> rfl
  expected := .boolean

theorem read_policySetting (former : Policy) (node : Node) :
    policySetting.read former (some node) = policyOf node := by
  cases node with
  | branch kind parts => rfl
  | leaf value =>
    cases value with
    | string word =>
      have means : policySetting.accept (.leaf (.string word)) = some (Policy.ofWord word) := rfl
      rw [Setting.read, policyOf, means]
      cases Policy.ofWord word <;> rfl
    | _ => rfl

theorem read_flagSetting (former : Bool) (node : Node) :
    flagSetting.read former (some node) = flagOf node := by
  cases node with
  | branch kind parts => rfl
  | leaf value => cases value <;> rfl

/-! ### Two values -/

/-- The settings of two values, of which the policy's is looked at first. -/
def ofValues (former : Settings) (policy flag : Option Node) : Except Refusal Settings :=
  (policySetting.read former.policy policy).bind fun policy =>
    (flagSetting.read former.warnsOnOverwrite flag).map fun flag =>
      { policy, warnsOnOverwrite := flag }

variable {former settings : Settings} {policy flag : Option Node} {refusal : Refusal}

theorem ofValues_eq_ok_iff : ofValues former policy flag = .ok settings ↔
    policySetting.read former.policy policy = .ok settings.policy ∧
      flagSetting.read former.warnsOnOverwrite flag = .ok settings.warnsOnOverwrite := by
  rw [ofValues]
  cases policySetting.read former.policy policy with
  | error _ => exact ⟨nofun, nofun⟩
  | ok given =>
    cases flagSetting.read former.warnsOnOverwrite flag with
    | error _ => exact ⟨nofun, nofun⟩
    | ok value =>
      refine ⟨fun same => ?_, fun ⟨samePolicy, sameFlag⟩ => ?_⟩
      · cases same
        exact ⟨rfl, rfl⟩
      · cases samePolicy
        cases sameFlag
        rfl

/-- The flag is at fault only if the policy is not. -/
theorem ofValues_eq_error_iff : ofValues former policy flag = .error refusal ↔
    policySetting.read former.policy policy = .error refusal ∨
      (∃ given, policySetting.read former.policy policy = .ok given) ∧
        flagSetting.read former.warnsOnOverwrite flag = .error refusal := by
  rw [ofValues]
  cases policySetting.read former.policy policy with
  | error other =>
    have same : Except.error other = (.error refusal : Except Refusal Settings) ↔
        Except.error other = (.error refusal : Except Refusal Policy) := by
      rw [Except.error.injEq, Except.error.injEq]
    exact same.trans ⟨Or.inl, fun either => either.resolve_right nofun⟩
  | ok given =>
    cases flagSetting.read former.warnsOnOverwrite flag with
    | error other =>
      have same : Except.error other = (.error refusal : Except Refusal Settings) ↔
          Except.error other = (.error refusal : Except Refusal Bool) := by
        rw [Except.error.injEq, Except.error.injEq]
      exact same.trans ⟨fun own => Or.inr ⟨⟨given, rfl⟩, own⟩, fun either =>
        (either.resolve_left nofun).2⟩
    | ok value => exact ⟨nofun, fun either => nomatch (either.resolve_left nofun).2⟩

theorem policyKey_ne_warningKey : policyKey ≠ warningKey := by
  decide

/-- The other values of a table are passed over. -/
theorem ofParts_eq_ofValues {parts : Parts} (ascends : Parts.Ascending parts)
    (sound : Node.areSound parts = true) (former : Settings) :
    ofParts former parts =
      ofValues former (Parts.get? parts policyKey) (Parts.get? parts warningKey) := by
  induction parts generalizing former with
  | nil => rfl
  | cons part rest inductionHypothesis =>
    obtain ⟨key, node⟩ := part
    rw [Node.areSound, Bool.and_eq_true] at sound
    have others := inductionHypothesis (List.pairwise_cons.1 ascends).2 sound.2
    rw [ofParts, Parts.get?_cons, Parts.get?_cons]
    by_cases isPolicy : key = policyKey
    · subst isPolicy
      have missing : Parts.get? rest policyKey = none := ascends.get?_rest le_rfl
      rw [if_pos rfl, if_pos rfl, if_neg policyKey_ne_warningKey, ofValues, read_policySetting]
      refine congrArg _ (funext fun policy => ?_)
      rw [others, missing]
      rfl
    · rw [if_neg isPolicy, if_neg isPolicy]
      by_cases isWarning : key = warningKey
      · subst isWarning
        -- The policy's key is the lesser one, so it would have come before.
        have noPolicy : Parts.get? rest policyKey = none := ascends.get?_rest (by decide)
        have missing : Parts.get? rest warningKey = none := ascends.get?_rest le_rfl
        rw [if_pos rfl, if_pos rfl, noPolicy]
        show _ = (flagSetting.read former.warnsOnOverwrite (some node)).map _
        rw [read_flagSetting]
        cases flagOf node with
        | error refusal => rfl
        | ok flag =>
          show ofParts { former with warnsOnOverwrite := flag } rest = _
          rw [others, noPolicy, missing]
          rfl
      · rw [if_neg isWarning, if_neg isWarning, if_pos sound.1]
        exact others former

theorem ofValues_plain (former : Settings) (policy flag : Option Node) :
    ofValues former (policy.map Node.plain) (flag.map Node.plain) =
      ofValues former policy flag := by
  rw [ofValues, ofValues, Setting.read_plain, Setting.read_plain]

/-! ### Documents -/

/-- A text is a document with these parts, and something can represent every number in it. Integers
of 64 bits are always represented, as `Node.areSound_of_isRegular` shows. -/
structure IsDocument (text : String) (parts : Parts) : Prop where
  /-- `document?` stands for the table that a reader of documents hands over. There is none where
  arrays and inline tables, or the keys of a dotted path, go more than eighty deep. -/
  document : document? text.toList = some parts
  /-- This leaves out documents with a number beyond all formats, such as `1e400`: a reader hands
  over the table, and gives up at the number. -/
  sound : Node.areSound parts = true

/-- A document is read expression by expression. -/
theorem IsDocument.of_expressions {text : String} {expressions : List Expression} {parts : Parts}
    (read : Expression.ofDocument? text.toList = some expressions)
    (built : (Draft.addAll {} expressions).bind Draft.finish = some parts)
    (regular : ∀ value ∈ Node.leavesOf parts, value.IsRegular) : IsDocument text parts where
  document := by rw [document?, read, Option.bind_some, built]
  sound := Node.areSound_of_isRegular parts regular

/-- Settings are read, or refused, for two values only. -/
structure FollowsValues (policy flag : Option Node) (read : Except Failure Settings) : Prop where
  /-- A missing value stands for the default. -/
  taken : ∀ settings, read = .ok settings ↔
    policySetting.Given .replace policy settings.policy ∧
      flagSetting.Given true flag settings.warnsOnOverwrite
  /-- The policy's fault is reported, and the flag's if the policy has none. -/
  refused : ∀ failure, read = .error failure ↔
    ∃ reason : Reason, failure = .configuration ("Failed to parse TOML: " ++ reason.message) ∧
      (policySetting.Refused policy reason ∨
        (∃ given, policySetting.Given .replace policy given) ∧ flagSetting.Refused flag reason)

theorem ofToml_eq_ofValues {text : String} {parts : Parts} (valid : IsDocument text parts) :
    ofToml text = (ofValues {} (Parts.get? parts policyKey)
      (Parts.get? parts warningKey)).mapError tomlFailure := by
  rw [ofToml, readToml, valid.document]
  exact congrArg _ (ofParts_eq_ofValues (ascending_of_document? valid.document) valid.sound {})

theorem mapError_eq_ok_iff {Problem Other Value : Type} {report : Problem → Other}
    {read : Except Problem Value} {value : Value} :
    read.mapError report = .ok value ↔ read = .ok value := by
  cases read with
  | error problem => exact ⟨nofun, nofun⟩
  | ok found =>
    show Except.ok found = Except.ok value ↔ _
    rw [Except.ok.injEq, Except.ok.injEq]

theorem mapError_eq_error_iff {report : Refusal → Failure} {read : Except Refusal Settings}
    {failure : Failure} : read.mapError report = .error failure ↔
      ∃ refusal, read = .error refusal ∧ failure = report refusal := by
  cases read with
  | error refusal =>
    refine ⟨fun same => ⟨refusal, rfl, (Except.error.inj same).symm⟩, ?_⟩
    rintro ⟨other, same, rfl⟩
    cases same
    rfl
  | ok found =>
    refine ⟨nofun, ?_⟩
    rintro ⟨refusal, impossible, -⟩
    cases impossible

theorem followsValues_of_isDocument {text : String} {parts : Parts}
    (valid : IsDocument text parts) :
    FollowsValues (Parts.get? parts policyKey) (Parts.get? parts warningKey) (ofToml text) where
  taken settings := by
    rw [ofToml_eq_ofValues valid, mapError_eq_ok_iff, ofValues_eq_ok_iff]
    exact and_congr Setting.read_eq_ok_iff Setting.read_eq_ok_iff
  refused failure := by
    have soundAt : ∀ key node, Parts.get? parts key = some node → node.isSound = true :=
      fun _ _ => Parts.isSound_of_get? valid.sound
    rw [ofToml_eq_ofValues valid, mapError_eq_error_iff]
    refine ⟨?_, ?_⟩
    · rintro ⟨refusal, read, rfl⟩
      rcases ofValues_eq_error_iff.1 read with faulty | ⟨⟨given, fine⟩, faulty⟩
      · obtain ⟨reason, rfl, refused⟩ := (Setting.read_eq_error_iff (soundAt _)).1 faulty
        exact ⟨reason, rfl, Or.inl refused⟩
      · obtain ⟨reason, rfl, refused⟩ := (Setting.read_eq_error_iff (soundAt _)).1 faulty
        exact ⟨reason, rfl, Or.inr ⟨⟨given, Setting.read_eq_ok_iff.1 fine⟩, refused⟩⟩
    · rintro ⟨reason, rfl, faulty | ⟨⟨given, fine⟩, faulty⟩⟩
      · refine ⟨.data reason, ofValues_eq_error_iff.2 (Or.inl ?_), rfl⟩
        exact (Setting.read_eq_error_iff (soundAt _)).2 ⟨reason, rfl, faulty⟩
      · refine ⟨.data reason, ofValues_eq_error_iff.2 (Or.inr ⟨⟨given, ?_⟩, ?_⟩), rfl⟩
        · exact Setting.read_eq_ok_iff.2 fine
        · exact (Setting.read_eq_error_iff (soundAt _)).2 ⟨reason, rfl, faulty⟩

/-- Every failure is one of the configuration, and quotes the reason. -/
theorem exists_reason_of_ofToml {text : String} {failure : Failure}
    (refused : ofToml text = .error failure) :
    ∃ reason, failure = .configuration ("Failed to parse TOML: " ++ reason) := by
  obtain ⟨refusal, -, rfl⟩ := mapError_eq_error_iff.1 refused
  exact ⟨_, rfl⟩

/-- Documents with the same two values, however they are written, are read alike. -/
theorem ofToml_congr {text other : String} {parts otherParts : Parts}
    (valid : IsDocument text parts) (validOther : IsDocument other otherParts)
    (same : ∀ key, key = policyKey ∨ key = warningKey →
      (Parts.get? otherParts key).map Node.plain = (Parts.get? parts key).map Node.plain) :
    ofToml other = ofToml text := by
  rw [ofToml_eq_ofValues valid, ofToml_eq_ofValues validOther, ← ofValues_plain,
    same policyKey (Or.inl rfl), same warningKey (Or.inr rfl), ofValues_plain]

end Settings

/-- Settings from a document follow the values under two of its top-level keys: there are settings
exactly if both values are missing or accepted, and otherwise the failure gives the reason for
which one of them is not. What stands under a top-level key follows the statements of the document
about it. So documents with the same two values have the same outcome. Every failure, be the text
a document or not, is one of the configuration. -/
theorem toml_settings_follow_two_values :
    (∀ text failure, Settings.ofToml text = .error failure →
      ∃ reason, failure = .configuration ("Failed to parse TOML: " ++ reason)) ∧
    ∀ text parts, Settings.IsDocument text parts →
      Settings.FollowsValues (Parts.get? parts Settings.policyKey)
        (Parts.get? parts Settings.warningKey) (Settings.ofToml text) ∧
      (∃ expressions, Expression.ofDocument? text.toList = some expressions ∧
        ∀ key, Stands key (Expression.statements none expressions) (Parts.get? parts key)) ∧
      ∀ other otherParts, Settings.IsDocument other otherParts →
        (∀ key, key = Settings.policyKey ∨ key = Settings.warningKey →
          (Parts.get? otherParts key).map Node.plain = (Parts.get? parts key).map Node.plain) →
        Settings.ofToml other = Settings.ofToml text := by
  refine ⟨fun text failure => Settings.exists_reason_of_ofToml, fun text parts valid => ?_⟩
  refine ⟨Settings.followsValues_of_isDocument valid, stands_of_document? valid.document, ?_⟩
  exact fun other otherParts => Settings.ofToml_congr valid

set_option maxRecDepth 20000 in
/-- A comment, quotes, the order, another key and a table with a key of the same name make no
difference, and of two tables where words are wanted the policy's is reported. -/
theorem toml_settings_follow_two_values_among_others :
    ∃ parts otherParts refusedParts,
      Settings.IsDocument
        "warn_on_overwrite = false #\n'duplicate_policy' = ' Strict'\n[x]\nduplicate_policy = 1"
        parts ∧
      Settings.IsDocument
        "duplicate_policy = ' Strict'\nn = 9223372036854775807\nwarn_on_overwrite = false"
        otherParts ∧
      Settings.IsDocument "[[warn_on_overwrite]]\n[duplicate_policy.warn_on_overwrite]"
        refusedParts ∧
      Settings.ofToml
        "warn_on_overwrite = false #\n'duplicate_policy' = ' Strict'\n[x]\nduplicate_policy = 1" =
          .ok { policy := .reject, warnsOnOverwrite := false } ∧
      Settings.ofToml
        "duplicate_policy = ' Strict'\nn = 9223372036854775807\nwarn_on_overwrite = false" =
          .ok { policy := .reject, warnsOnOverwrite := false } ∧
      Settings.ofToml "[[warn_on_overwrite]]\n[duplicate_policy.warn_on_overwrite]" =
        .error (.configuration
          ("Failed to parse TOML: " ++ "invalid type: map, expected a string")) := by
  have read : Expression.ofDocument?
      ("warn_on_overwrite = false #\n'duplicate_policy' = ' Strict'\n" ++
        "[x]\nduplicate_policy = 1").toList =
      some [.assignment ["warn_on_overwrite"] (.scalar (.boolean false)),
        .assignment ["duplicate_policy"] (.scalar (.string " Strict")), .table ["x"],
        .assignment ["duplicate_policy"] (.scalar (.integer (some 1)))] := rfl
  have readOther : Expression.ofDocument?
      ("duplicate_policy = ' Strict'\n" ++
        "n = 9223372036854775807\nwarn_on_overwrite = false").toList =
      some [.assignment ["duplicate_policy"] (.scalar (.string " Strict")),
        .assignment ["n"] (.scalar (.integer (some 9223372036854775807))),
        .assignment ["warn_on_overwrite"] (.scalar (.boolean false))] := rfl
  have readRefused : Expression.ofDocument?
      "[[warn_on_overwrite]]\n[duplicate_policy.warn_on_overwrite]".toList =
      some [.element ["warn_on_overwrite"], .table ["duplicate_policy", "warn_on_overwrite"]] := rfl
  have spelled : Policy.ofWord " Strict" = .ok .reject := by decide +kernel
  have valid := Settings.IsDocument.of_expressions read rfl <|
    List.forall_mem_cons.2 ⟨.string _, List.forall_mem_cons.2
      ⟨.boolean _, List.forall_mem_singleton.2 (.integer (by decide) (by decide))⟩⟩
  have validOther := Settings.IsDocument.of_expressions readOther rfl <|
    List.forall_mem_cons.2 ⟨.string _, List.forall_mem_cons.2
      ⟨.integer (by decide) (by decide), List.forall_mem_singleton.2 (.boolean _)⟩⟩
  have validRefused := Settings.IsDocument.of_expressions readRefused rfl
    (List.forall_mem_nil _)
  obtain ⟨follows, -, alike⟩ := toml_settings_follow_two_values.2 _ _ valid
  obtain ⟨refuses, -⟩ := toml_settings_follow_two_values.2 _ _ validRefused
  have taken := (follows.taken { policy := .reject, warnsOnOverwrite := false }).2
    ⟨.accepted (congrArg some spelled), .accepted rfl⟩
  refine ⟨_, _, _, valid, validOther, validRefused, taken, ?_, ?_⟩
  · refine (alike _ _ validOther fun key either => ?_).trans taken
    rcases either with rfl | rfl <;> rfl
  · exact (refuses.refused _).2 ⟨.invalidType .map .string, by decide +kernel,
      Or.inl (.invalidType rfl rfl)⟩

end ActionDirectory
