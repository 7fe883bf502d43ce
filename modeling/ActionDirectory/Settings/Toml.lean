/-
Settings from TOML. Of a document only the two top-level keys of the settings
matter; a missing one takes its default. The keys are looked at in ascending
order, so the policy's fault is reported before that of the warnings. A number
that nothing can represent makes the document malformed once its key is looked
at, wherever the number stands. Of a malformed document the failure says no
more than that, and a reason comes without its place in the document.
-/

import ActionDirectory.Settings.Basic
import ActionDirectory.Toml.Document
import ActionDirectory.Wire.Refusal

namespace ActionDirectory

open Wire

namespace Toml

/-- What a single value is where something else was expected; a number that nothing can represent
is not anything. -/
def Scalar.found? : Scalar → Option Found
  | .string value => some (.string value)
  | .integer none => none
  | .integer (some value) =>
    if -Int.pow 2 63 ≤ value ∧ value < Int.pow 2 64 then some (.integer value)
    else if -Int.pow 2 127 ≤ value ∧ value < Int.pow 2 127 then some (.wideSigned value)
    else if 0 ≤ value ∧ value < Int.pow 2 128 then some (.wideUnsigned value)
    else none
  | .float value => value.map fun value => .float (Float64.text .positional value)
  | .boolean value => some (.boolean value)
  | .moment => some .map

/-- What a value is where something else was expected. -/
def Node.found? : Node → Option Found
  | .leaf value => value.found?
  | .branch .array _ => some .sequence
  | .branch (.table _) _ => some .map
  | .branch .elements _ => some .sequence

mutual

/-- Something can represent all numbers in a value. -/
def Node.isSound : Node → Bool
  | .leaf value => value.found?.isSome
  | .branch _ parts => Node.areSound parts

/-- Something can represent all numbers in some values. -/
def Node.areSound : List (String × Node) → Bool
  | [] => true
  | part :: rest => part.2.isSound && Node.areSound rest

end

/-- The refusal of a value where something else was expected. -/
def Node.refuse (node : Node) (expected : Expected) : Refusal :=
  match node.found? with
  | some found => .data (.invalidType found expected)
  | none => .malformed

end Toml

namespace Settings

open Toml

def policyOf : Node → Except Refusal Policy
  | .leaf (.string word) =>
    match Policy.ofWord word with
    | .ok policy => .ok policy
    | .error failure => .error (.data (.failed failure))
  | node => .error (node.refuse .string)

def flagOf : Node → Except Refusal Bool
  | .leaf (.boolean value) => .ok value
  | node => .error (node.refuse .boolean)

/-- The settings after the parts of a table, looked at one by one. -/
def ofParts (settings : Settings) : Parts → Except Refusal Settings
  | [] => .ok settings
  | (key, node) :: rest =>
    if key = policyKey then
      (policyOf node).bind fun policy => ofParts { settings with policy } rest
    else if key = warningKey then
      (flagOf node).bind fun flag => ofParts { settings with warnsOnOverwrite := flag } rest
    else if node.isSound then ofParts settings rest
    else .error .malformed

/-- The settings that a TOML text stands for, or why it stands for none. -/
def readToml (text : String) : Except Refusal Settings :=
  match document? text.toList with
  | some parts => ofParts {} parts
  | none => .error .malformed

/-- The failure that reports a refusal of a TOML text. -/
def tomlFailure (refusal : Refusal) : Failure :=
  let reason :=
    match refusal with
    | .malformed => "(syntax)"
    | .data reason => reason.message
  .configuration ("Failed to parse TOML: " ++ reason)

def ofToml (text : String) : Except Failure Settings :=
  (readToml text).mapError tomlFailure

end Settings

end ActionDirectory
