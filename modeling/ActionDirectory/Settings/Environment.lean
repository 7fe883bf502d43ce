/-
Settings from the environment. Two variables overlay a base: each decides its
own setting if it is set to text that spells a value, and is ignored with a
record otherwise. Neither variable has a say in the other's setting.
-/

import ActionDirectory.Journal
import ActionDirectory.Settings.Basic

namespace ActionDirectory

/-- A variable of the environment: unset, or set to bytes. -/
inductive Variable where
  | unset
  | text (value : String)
  | bytes (value : ByteArray)

/-- The text of a variable; bytes that are not UTF-8 count as unset. -/
def Variable.text? : Variable → Option String
  | unset => none
  | text value => some value
  | bytes value => String.fromUTF8? value

/-- The variables that settings are read from. -/
structure Environment where
  policy : Variable := .unset
  warning : Variable := .unset

namespace Settings

/-- The policy that a text decides, or the base's, and the record of it. -/
def overlayPolicy (base : Policy) (given : String) : Policy × Record :=
  match Policy.ofWord given with
  | .ok policy => (policy, .policyOverridden policy)
  | .error failure => (base, .policyIgnored failure)

/-- The truth value that a text decides, or the base's, and the record of it. -/
def overlayWarning (base : Bool) (given : String) : Bool × Record :=
  match Flag.ofWord? given with
  | some value => (value, .warningOverridden value)
  | none => (base, .warningIgnored given)

/-- The base with the environment laid over it, and the records: the policy's comes first. -/
def overlay (base : Settings) (environment : Environment) : Settings × List Record :=
  let policy := environment.policy.text?.map (overlayPolicy base.policy)
  let warning := environment.warning.text?.map (overlayWarning base.warnsOnOverwrite)
  ({ policy := (policy.map Prod.fst).getD base.policy
     warnsOnOverwrite := (warning.map Prod.fst).getD base.warnsOnOverwrite },
   (policy.map Prod.snd).toList ++ (warning.map Prod.snd).toList)

/-- The default settings with the environment laid over them. -/
def ofEnvironment (environment : Environment) : Settings × List Record :=
  overlay {} environment

end Settings

end ActionDirectory
