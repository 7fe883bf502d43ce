/-
Values of JSON that nobody looks at. A value is passed over token by token; what
is still open is kept in a list, so values may be nested to any depth.
-/

import ActionDirectory.Json.Token

namespace ActionDirectory.Json

/-- What a bracket encloses. -/
inductive Bracket where
  | array
  | object
deriving DecidableEq, Repr

/-- What has to come next inside the value. -/
inductive Expecting where
  | value
  /-- The first value of an array, or its end. -/
  | firstValue
  | key
  /-- The first key of an object, or its end. -/
  | firstKey
  | colon
  /-- A comma, or the end of what the innermost bracket encloses. -/
  | separator
deriving DecidableEq, Repr

/-- A place inside a value: the brackets open there, innermost first, and what has to come. -/
structure Place where
  enclosing : List Bracket
  expecting : Expecting
deriving DecidableEq, Repr

namespace Place

/-- What a token does at a place. -/
inductive Move where
  | go (place : Place)
  | done
  | stuck
deriving DecidableEq, Repr

/-- A value inside the brackets has ended. -/
def afterValue : List Bracket → Move
  | [] => .done
  | enclosing => .go ⟨enclosing, .separator⟩

/-- The move at the beginning of a value. -/
def enter (enclosing : List Bracket) : Token → Move
  | .null | .boolean _ | .number _ | .quoted _ => afterValue enclosing
  | .openBracket => .go ⟨.array :: enclosing, .firstValue⟩
  | .openBrace => .go ⟨.object :: enclosing, .firstKey⟩
  | _ => .stuck

/-- The move of a token at a place. -/
def move (place : Place) (token : Token) : Move :=
  match place.expecting, place.enclosing, token with
  | .value, enclosing, token => enter enclosing token
  | .firstValue, .array :: outer, .closeBracket => afterValue outer
  | .firstValue, enclosing, token => enter enclosing token
  | .firstKey, .object :: outer, .closeBrace => afterValue outer
  | .firstKey, enclosing, .quoted _ => .go ⟨enclosing, .colon⟩
  | .key, enclosing, .quoted _ => .go ⟨enclosing, .colon⟩
  | .colon, enclosing, .colon => .go ⟨enclosing, .value⟩
  | .separator, .array :: outer, .comma => .go ⟨.array :: outer, .value⟩
  | .separator, .object :: outer, .comma => .go ⟨.object :: outer, .key⟩
  | .separator, .array :: outer, .closeBracket => afterValue outer
  | .separator, .object :: outer, .closeBrace => afterValue outer
  | _, _, _ => .stuck

/-- What follows the value that a place is in, if the value is well formed. -/
def leave (place : Place) : List Token → Option (List Token)
  | [] => none
  | token :: rest =>
    match place.move token with
    | .go inner => leave inner rest
    | .done => some rest
    | .stuck => none

theorem length_leave {place : Place} {tokens rest : List Token}
    (found : place.leave tokens = some rest) : rest.length < tokens.length := by
  induction tokens generalizing place with
  | nil => cases found
  | cons token tail inductionHypothesis =>
    unfold leave at found
    split at found
    next inner _ =>
      have shorter := inductionHypothesis found
      simp only [List.length_cons]
      omega
    next =>
      cases found
      simp
    next => cases found

end Place

/-- What follows the value that tokens begin with, if the value is well formed. -/
def skip (tokens : List Token) : Option (List Token) :=
  Place.leave ⟨[], .value⟩ tokens

theorem length_skip {tokens rest : List Token} (found : skip tokens = some rest) :
    rest.length < tokens.length :=
  Place.length_leave found

end ActionDirectory.Json
