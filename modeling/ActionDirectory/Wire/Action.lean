/-
Actions on the wire. An action is written as its bare identifier, so its name is
not on the wire; whoever reads it takes the action that a registry has under the
identifier, and refuses identifiers that nothing is registered under.
-/

import ActionDirectory.Registry.Basic
import ActionDirectory.Wire.Scalar

namespace ActionDirectory

/-- An action as it is written: its decimal identifier. -/
def Action.wire (action : Action) : List Char :=
  Decimal.signed action.id.value

namespace Wire

open Json

/-! ### Resolving identifiers -/

/-- The action that a registry has under an identifier. -/
def resolve (registry : Registry) (id : Id) : Except Refusal Action :=
  match registry.require id with
  | .ok entry => .ok entry.action
  | .error failure => .error (.data (.failed failure))

/-- The action that a token stands for. -/
def readAction (registry : Registry) (token : Token) : Except Refusal Action :=
  (readId token).bind (resolve registry)

/-- The action that a token in quotes stands for: an identifier as it would be written without
quotes. The identifier is looked at as soon as it is read, even if the closing quote is
missing. -/
def readKey (registry : Registry) (token : Token) : Except Refusal Action :=
  match token with
  | .quoted body => within body true
  | .broken ('"' :: body) => within body false
  | _ => .error .malformed
where
  /-- The action behind the opening quote. -/
  within (body : List Char) (closed : Bool) : Except Refusal Action :=
    match Numeral.scan? body with
    | none => .error .malformed
    | some (numeral, rest) =>
      (readId (.number numeral)).bind fun id =>
        if closed && rest.isEmpty then resolve registry id else .error .malformed

/-! ### Whole texts -/

def decodeAction (registry : Registry) (text : List Char) : Except Refusal Action :=
  match tokens text with
  | [] => .error .malformed
  | token :: rest => (readAction registry token).bind fun action => complete (action, rest)

/-- The action that a text stands for, or nothing for a null. -/
def decodeOptional (registry : Registry) (text : List Char) : Except Refusal (Option Action) :=
  match tokens text with
  | [] => .error .malformed
  | .null :: rest => complete (none, rest)
  | token :: rest => (readAction registry token).bind fun action => complete (some action, rest)

/-- An action that may be missing, as it is written. -/
def writeOptional : Option Action → List Char
  | none => ['n', 'u', 'l', 'l']
  | some action => action.wire

end Wire

end ActionDirectory
