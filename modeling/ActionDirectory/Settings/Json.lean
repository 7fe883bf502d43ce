/-
Settings from JSON. Settings are read from an object, in which unknown keys are
passed over and missing ones take their defaults, or from a list of at most the
two values.
-/

import ActionDirectory.Settings.Basic
import ActionDirectory.Wire.Object

namespace ActionDirectory.Settings

open Json Wire

def readPolicy (token : Token) : Except Refusal Policy :=
  (readText token).bind fun word =>
    match Policy.ofWord word with
    | .ok policy => .ok policy
    | .error failure => .error (.data (.failed failure))

/-- The settings that have been read. -/
structure Partial where
  policy : Option Policy := none
  warnsOnOverwrite : Option Bool := none
deriving DecidableEq, Repr

/-- Either setting is taken once. -/
def reader : Reader Partial := fun fields key =>
  if key = policyKey then
    if fields.policy.isSome then .reject (.duplicateField key)
    else
      .take fun token =>
        (readPolicy token).map fun policy => { fields with policy := some policy }
  else if key = warningKey then
    if fields.warnsOnOverwrite.isSome then .reject (.duplicateField key)
    else
      .take fun token =>
        (readFlag token).map fun flag => { fields with warnsOnOverwrite := some flag }
  else .ignore

/-- The settings that have been read, and the defaults for the others. -/
def Partial.whole (fields : Partial) : Settings :=
  { policy := fields.policy.getD .replace
    warnsOnOverwrite := fields.warnsOnOverwrite.getD true }

/-- The settings that stand in a list, and what follows it; the input starts behind the opening
bracket. -/
def readList : List Token → Except Refusal (Settings × List Token)
  | [] => .error .malformed
  | .closeBracket :: rest => .ok ({}, rest)
  | policy :: rest =>
    (readPolicy policy).bind fun policy =>
      match rest with
      | .closeBracket :: rest => .ok ({ policy }, rest)
      | .comma :: flag :: rest =>
        (readFlag flag).bind fun flag =>
          match rest with
          | .closeBracket :: rest => .ok ({ policy, warnsOnOverwrite := flag }, rest)
          | _ => .error .malformed
      | _ => .error .malformed

def ofJson (text : List Char) : Except Refusal Settings :=
  match tokens text with
  | [] => .error .malformed
  | .openBrace :: members =>
    (readObject reader {} members).bind fun found => complete (found.1.whole, found.2)
  | .openBracket :: elements => (readList elements).bind complete
  | token :: _ => .error (refuse token .settings)

end ActionDirectory.Settings
