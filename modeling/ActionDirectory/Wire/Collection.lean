/-
Lists of actions and maps from actions to integers. A list is read element by
element; a map is read member by member, and a member whose key was there before
replaces the value. Maps are kept and written in ascending order of their keys.
-/

import ActionDirectory.Wire.Action

namespace ActionDirectory.Wire

open Json

/-! ### Writing -/

def separated : List (List Char) → List Char
  | [] => []
  | [item] => item
  | item :: rest => item ++ ',' :: separated rest

def writeList (actions : List Action) : List Char :=
  '[' :: (separated (actions.map Action.wire) ++ [']'])

def writeMember (member : Action × Int) : List Char :=
  '"' :: (member.1.wire ++ ['"', ':'] ++ Decimal.signed member.2)

def writeMap (members : List (Action × Int)) : List Char :=
  '\x7b' :: (separated (members.map writeMember) ++ ['\x7d'])

/-! ### Reading lists -/

/-- One or more actions up to the closing bracket, and what follows it. -/
def readElements (registry : Registry) : List Token → Except Refusal (List Action × List Token)
  | [] => .error .malformed
  | [token] => (readAction registry token).bind fun _ => .error .malformed
  | token :: .comma :: more =>
    (readAction registry token).bind fun action =>
      (readElements registry more).map fun found => (action :: found.1, found.2)
  | token :: .closeBracket :: rest =>
    (readAction registry token).map fun action => ([action], rest)
  | token :: _ :: _ => (readAction registry token).bind fun _ => .error .malformed

def decodeList (registry : Registry) (text : List Char) : Except Refusal (List Action) :=
  match tokens text with
  | [] => .error .malformed
  | .openBracket :: .closeBracket :: rest => complete ([], rest)
  | .openBracket :: elements => (readElements registry elements).bind complete
  | token :: _ => .error (refuse token .sequence)

/-! ### Reading maps -/

/-- An ordered map with a value under a key, in place of a former one. -/
def assign (action : Action) (value : Int) : List (Action × Int) → List (Action × Int)
  | [] => [(action, value)]
  | member :: rest =>
    match action.order member.1 with
    | .lt => (action, value) :: member :: rest
    | .eq => (member.1, value) :: rest
    | .gt => member :: assign action value rest

/-- One or more members up to the closing brace, in the order of the text, and what follows
it. -/
def readPairs (registry : Registry) :
    List Token → Except Refusal (List (Action × Int) × List Token)
  | [] => .error .malformed
  | key :: .colon :: value :: .comma :: more =>
    (readKey registry key).bind fun action =>
      (readInt64 value).bind fun number =>
        (readPairs registry more).map fun found => ((action, number) :: found.1, found.2)
  | key :: .colon :: value :: .closeBrace :: rest =>
    (readKey registry key).bind fun action =>
      (readInt64 value).map fun number => ([(action, number)], rest)
  | key :: .colon :: value :: _ =>
    (readKey registry key).bind fun _ => (readInt64 value).bind fun _ => .error .malformed
  | key :: _ => (readKey registry key).bind fun _ => .error .malformed

/-- The ordered map of members in the order of a text. -/
def ordered (members : List (Action × Int)) : List (Action × Int) :=
  members.foldl (fun map member => assign member.1 member.2 map) []

def decodeMap (registry : Registry) (text : List Char) : Except Refusal (List (Action × Int)) :=
  match tokens text with
  | [] => .error .malformed
  | .openBrace :: .closeBrace :: rest => complete ([], rest)
  | .openBrace :: members =>
    (readPairs registry members).bind fun found => complete (ordered found.1, found.2)
  | token :: _ => .error (refuse token .map)

end ActionDirectory.Wire
