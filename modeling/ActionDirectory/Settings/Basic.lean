/-
Settings of a registry, with their texts: a line for each setting, a JSON object
and a diagnostic text.
-/

import ActionDirectory.Settings.Policy

namespace ActionDirectory

/-- How a registry treats registrations under a taken identifier. -/
structure Settings where
  /-- What a guarded registration does. -/
  policy : Policy := .replace
  /-- A registration that replaces an entry is recorded as a warning. -/
  warnsOnOverwrite : Bool := true
deriving DecidableEq, Repr

namespace Settings

/-- The key of the policy in configuration texts. -/
def policyKey : String :=
  "duplicate_policy"

/-- The key of the warnings in configuration texts. -/
def warningKey : String :=
  "warn_on_overwrite"

/-- The settings as lines of a key and a value. -/
def toml (settings : Settings) : String :=
  policyKey ++ " = \"" ++ settings.policy.word ++ "\"\n" ++
    warningKey ++ " = " ++ Flag.word settings.warnsOnOverwrite ++ "\n"

def json (settings : Settings) : String :=
  "\x7b\"" ++ policyKey ++ "\":\"" ++ settings.policy.word ++ "\",\"" ++
    warningKey ++ "\":" ++ Flag.word settings.warnsOnOverwrite ++ "\x7d"

def debug (settings : Settings) : String :=
  "RegistryConfig \x7b duplicate_policy: " ++ settings.policy.debug ++ ", warn_on_overwrite: " ++
    Flag.word settings.warnsOnOverwrite ++ " \x7d"

end Settings

end ActionDirectory
