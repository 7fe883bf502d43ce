/-
The journal: records of what registries and settings did. Records carry rendered
names, so a reader of the journal can follow what is displayed for each
identifier without the registry.
-/

import ActionDirectory.Settings.Policy

namespace ActionDirectory

/-- The importance of a record. -/
inductive Level where
  | trace
  | debug
  | warn
deriving DecidableEq, Repr

def Level.word : Level → String
  | trace => "TRACE"
  | debug => "DEBUG"
  | warn => "WARN"

/-- An event worth recording. -/
inductive Record where
  | registered (id : Id) (name : String)
  | replaced (id : Id) (former current : String)
  | seeded (count : Nat)
  /-- A variable of the environment decided the policy. -/
  | policyOverridden (policy : Policy)
  /-- A variable of the environment spells no policy. -/
  | policyIgnored (failure : Failure)
  /-- A variable of the environment decided whether overwriting warns. -/
  | warningOverridden (value : Bool)
  /-- A variable of the environment spells no truth value. -/
  | warningIgnored (given : String)
deriving DecidableEq, Repr

namespace Record

/-- The variable of the environment for the policy. -/
def policyVariable : String :=
  "EVENT_ACTION_DUPLICATE_POLICY"

/-- The variable of the environment for warnings. -/
def warningVariable : String :=
  "EVENT_ACTION_WARN_ON_OVERWRITE"

/-- Single registrations are traced; what replaces an entry or cannot be used is a warning. -/
def level : Record → Level
  | registered _ _ => .trace
  | replaced _ _ _ => .warn
  | seeded _ => .debug
  | policyOverridden _ => .debug
  | policyIgnored _ => .warn
  | warningOverridden _ => .debug
  | warningIgnored _ => .warn

/-- The message of a record; identifiers, names and counts stand beside it. -/
def message : Record → String
  | registered _ _ => "Registered event action"
  | replaced _ _ _ => "Event action id re-registered, replacing previous entry"
  | seeded _ => "Seeded event action registry"
  | policyOverridden policy => "Overriding duplicate policy from environment: " ++ policy.word
  | policyIgnored failure => "Ignoring " ++ policyVariable ++ ": " ++ failure.message
  | warningOverridden value =>
    "Overriding warn_on_overwrite from environment: " ++ Flag.word value
  | warningIgnored given =>
    "Ignoring " ++ warningVariable ++ ": expected a boolean, got '" ++ given ++ "'"

end Record

/-- The numbers of records of the levels that occur. -/
def tally (records : List Record) : List (Level × Nat) :=
  [Level.trace, Level.debug, Level.warn].filterMap fun level =>
    let count := records.countP fun record => record.level = level
    if count = 0 then none else some (level, count)

end ActionDirectory
