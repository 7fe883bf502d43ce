/-
Notifications: an action on a path. A notification is read from an object, in
which unknown fields are passed over, or from a list of the two values.
-/

import ActionDirectory.Wire.Action
import ActionDirectory.Wire.Object

namespace ActionDirectory

/-- An action that happened to a path. -/
structure Notification where
  path : String
  action : Action
deriving DecidableEq, Repr

def Notification.wire (notification : Notification) : List Char :=
  '\x7b' :: (Json.quote "path".toList ++ ':' :: (Json.quote notification.path.toList ++ ',' ::
    (Json.quote "action".toList ++ ':' :: (notification.action.wire ++ ['\x7d']))))

namespace Wire

open Json

/-- The fields of a notification that have been read. -/
structure PartialNotification where
  path : Option String := none
  action : Option Action := none

/-- Either field is taken once. -/
def notificationReader (registry : Registry) : Reader PartialNotification := fun fields key =>
  if key = "path" then
    if fields.path.isSome then .reject (.duplicateField key)
    else .take fun token => (readText token).map fun path => { fields with path := some path }
  else if key = "action" then
    if fields.action.isSome then .reject (.duplicateField key)
    else
      .take fun token =>
        (readAction registry token).map fun action => { fields with action := some action }
  else .ignore

/-- The notification of the fields that have been read, if none is missing. -/
def PartialNotification.whole (fields : PartialNotification) : Except Refusal Notification :=
  match fields.path, fields.action with
  | some path, some action => .ok ⟨path, action⟩
  | none, _ => .error (.data (.missingField "path"))
  | _, none => .error (.data (.missingField "action"))

/-- The notification whose fields stand in a list, and what follows it; the input starts behind
the opening bracket. -/
def readNotificationList (registry : Registry) :
    List Token → Except Refusal (Notification × List Token)
  | [] => .error .malformed
  | .closeBracket :: _ => .error (.data (.invalidLength 0 .notification 2))
  | path :: rest =>
    (readText path).bind fun path =>
      match rest with
      | .closeBracket :: _ => .error (.data (.invalidLength 1 .notification 2))
      | .comma :: action :: rest =>
        (readAction registry action).bind fun action =>
          match rest with
          | .closeBracket :: rest => .ok (⟨path, action⟩, rest)
          | _ => .error .malformed
      | _ => .error .malformed

def decodeNotification (registry : Registry) (text : List Char) : Except Refusal Notification :=
  match tokens text with
  | [] => .error .malformed
  | .openBrace :: members =>
    (readObject (notificationReader registry) {} members).bind fun found =>
      found.1.whole.bind fun notification => complete (notification, found.2)
  | .openBracket :: elements => (readNotificationList registry elements).bind complete
  | token :: _ => .error (refuse token .notification)

end Wire

end ActionDirectory
