/-
Failures. A failure is its cause; its message embeds the identifier or the text
that the cause carries, so that the message alone tells the cause.
-/

import ActionDirectory.Action.Basic

namespace ActionDirectory

/-- The causes for which an operation is refused. -/
inductive Failure where
  /-- Nothing is registered under the identifier. -/
  | unknownId (id : Id)
  /-- Nothing is registered under the name. -/
  | unknownName (name : String)
  /-- The identifier is taken by an action with this rendered name. -/
  | duplicateId (id : Id) (existing : String)
  | configuration (reason : String)
deriving DecidableEq, Repr

namespace Failure

def message : Failure → String
  | unknownId id => "unknown event action id: " ++ id.text
  | unknownName name => "unknown event action name: " ++ name
  | duplicateId id existing =>
    "event action id " ++ id.text ++ " already registered as '" ++ existing ++ "'"
  | configuration reason => "configuration error: " ++ reason

/-- The failure reports that an action does not exist. -/
def isUnknown : Failure → Bool
  | unknownId _ | unknownName _ => true
  | duplicateId _ _ | configuration _ => false

/-- The failure reports that an action exists already. -/
def isDuplicate : Failure → Bool
  | duplicateId _ _ => true
  | unknownId _ | unknownName _ | configuration _ => false

def debug : Failure → String
  | unknownId id => "UnknownId(" ++ id.text ++ ")"
  | unknownName name => "UnknownName(" ++ Quoted.encode name ++ ")"
  | duplicateId id existing =>
    "DuplicateId \x7b id: " ++ id.text ++ ", existing: " ++ Quoted.encode existing ++ " \x7d"
  | configuration reason => "Config(" ++ Quoted.encode reason ++ ")"

end Failure

end ActionDirectory
