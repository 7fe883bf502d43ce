/-
Objects of JSON that are read member by member. What has been read so far is a
state; for each key the reader decides whether the member is passed over, refused
before its value is looked at, or taken with its value. Every value that is taken
is a single token.
-/

import ActionDirectory.Json.Skip
import ActionDirectory.Wire.Scalar

namespace ActionDirectory.Wire

open Json

/-- What becomes of the member under a key. -/
inductive Handling (State : Type) where
  /-- The value may be any, and is passed over. -/
  | ignore
  /-- The key must not stand here. -/
  | reject (reason : Reason)
  /-- The value changes the state. -/
  | take (read : Token → Except Refusal State)

/-- A reader of members: what becomes of a key in a state. -/
abbrev Reader (State : Type) :=
  State → String → Handling State

/-- The key that a token is. -/
def key? : Token → Option String
  | .quoted body => denoted? body
  | _ => none

/-- The state after one member, and what follows the member; the input starts behind the key. -/
def readMember {State : Type} (reader : Reader State) (state : State) (key : String)
    (tokens : List Token) : Except Refusal (State × List Token) :=
  match reader state key with
  | .reject reason => .error (.data reason)
  | .take read =>
    match tokens with
    | .colon :: value :: rest => (read value).map fun next => (next, rest)
    | _ => .error .malformed
  | .ignore =>
    match tokens with
    | .colon :: value =>
      match skip value with
      | some rest => .ok (state, rest)
      | none => .error .malformed
    | _ => .error .malformed

theorem length_readMember {State : Type} {reader : Reader State} {state next : State}
    {key : String} {tokens rest : List Token}
    (read : readMember reader state key tokens = .ok (next, rest)) :
    rest.length < tokens.length := by
  unfold readMember at read
  split at read
  next => cases read
  next take handled =>
    split at read
    next value tail =>
      cases taken : take value with
      | error refusal =>
        rw [taken] at read
        cases read
      | ok found =>
        rw [taken] at read
        cases read
        simp only [List.length_cons]
        omega
    next => cases read
  next =>
    split at read
    next value =>
      split at read
      next skipped =>
        cases read
        have shorter := length_skip skipped
        simp only [List.length_cons]
        omega
      next => cases read
    next => cases read

/-- The state after one or more members and the closing brace, and what follows it. -/
def readMembers {State : Type} (reader : Reader State) (state : State) (tokens : List Token) :
    Except Refusal (State × List Token) :=
  match tokens with
  | [] => .error .malformed
  | token :: rest =>
    match key? token with
    | none => .error .malformed
    | some key =>
      match _read : readMember reader state key rest with
      | .error refusal => .error refusal
      | .ok (next, .comma :: more) => readMembers reader next more
      | .ok (next, .closeBrace :: after) => .ok (next, after)
      | .ok (_, _) => .error .malformed
termination_by tokens.length
decreasing_by
  have shorter := length_readMember _read
  simp only [List.length_cons] at *
  omega

/-- Members are read one behind the other, with a comma before each but the first and the closing
brace behind the last. -/
theorem readMembers_cons {State : Type} (reader : Reader State) (state : State) {token : Token}
    {key : String} (known : key? token = some key) (rest : List Token) :
    readMembers reader state (token :: rest) =
      (readMember reader state key rest).bind fun found =>
        match found.2 with
        | .comma :: more => readMembers reader found.1 more
        | .closeBrace :: after => .ok (found.1, after)
        | _ => .error .malformed := by
  rw [readMembers]
  split
  next unknown =>
    rw [known] at unknown
    cases unknown
  next found same =>
    rw [known] at same
    cases same
    split
    next refused =>
      rw [refused]
      rfl
    next member =>
      rw [member]
      rfl
    next member =>
      rw [member]
      rfl
    next behind others notComma notClose member =>
      rw [member]
      show _ = match others with
        | .comma :: more => readMembers reader behind more
        | .closeBrace :: after => .ok (behind, after)
        | _ => .error .malformed
      split
      next more => exact absurd rfl (notComma more)
      next after => exact absurd rfl (notClose after)
      next => rfl

/-- The state after the members of an object, and what follows it; the input starts behind the
opening brace. -/
def readObject {State : Type} (reader : Reader State) (state : State) :
    List Token → Except Refusal (State × List Token)
  | .closeBrace :: rest => .ok (state, rest)
  | tokens => readMembers reader state tokens

end ActionDirectory.Wire
