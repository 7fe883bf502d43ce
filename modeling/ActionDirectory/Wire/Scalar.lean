/-
Single values of JSON: integers of a width, texts and truth values. A value of
another kind is refused by what it is; a token with which no value begins is
malformed, and so is a number or text that means nothing.
-/

import ActionDirectory.Json.Token
import ActionDirectory.Wire.Refusal

namespace ActionDirectory.Wire

open Json

/-- What a token begins, if a value begins with it. -/
def found? : Token → Option Found
  | .openBrace => some .map
  | .openBracket => some .sequence
  | .null => some .null
  | .boolean value => some (.boolean value)
  | .number numeral =>
    numeral.value?.map fun
      | .integer value => .integer value
      | .float value => .float (Float64.text .scientific value)
  | .quoted body => (denoted? body).map Found.string
  | .closeBrace | .closeBracket | .colon | .comma | .broken _ => none

/-- The refusal of a token where something else was expected. -/
def refuse (token : Token) (expected : Expected) : Refusal :=
  match found? token with
  | some found => .data (.invalidType found expected)
  | none => .malformed

/-- The integer that a token is. -/
def integer? : Token → Option Int
  | .number numeral => numeral.integer?
  | _ => none

/-- An identifier, registered or not. -/
def readId (token : Token) : Except Refusal Id :=
  match integer? token with
  | some value =>
    match Id.ofInt? value with
    | some id => .ok id
    | none => .error (.data (.invalidValue value .int32))
  | none => .error (refuse token .int32)

def readInt64 (token : Token) : Except Refusal Int :=
  match integer? token with
  | some value =>
    if -9223372036854775808 ≤ value ∧ value ≤ 9223372036854775807 then .ok value
    else .error (.data (.invalidValue value .int64))
  | none => .error (refuse token .int64)

def readText (token : Token) : Except Refusal String :=
  match token with
  | .quoted body =>
    match denoted? body with
    | some text => .ok text
    | none => .error .malformed
  | _ => .error (refuse token .string)

def readFlag (token : Token) : Except Refusal Bool :=
  match token with
  | .boolean value => .ok value
  | _ => .error (refuse token .boolean)

/-- A value with nothing behind it. -/
def complete {Value : Type} : Value × List Token → Except Refusal Value
  | (value, []) => .ok value
  | (_, _ :: _) => .error .malformed

end ActionDirectory.Wire
