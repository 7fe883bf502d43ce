/-
Objects of JSON, member by member. The tokens of an object are braces around members with
commas between them; a member is a key, a colon and one whole value. Reading an object takes
its members one after the other, and what a member makes of the state does not depend on what
follows it: a value that is passed over ends where it ends by itself, and a value that is taken
is a single token. So the members in front of a given one and those behind it are read by
themselves.
-/

import ActionDirectory.Proofs.RoundTrip
import ActionDirectory.Settings.Json

namespace ActionDirectory

namespace Json

/-! ### Ends of values and of quoted texts -/

/-- A value ends at the same place whatever follows. -/
theorem Place.leave_append {place : Place} {tokens left : List Token} (rest : List Token)
    (found : place.leave tokens = some left) :
    place.leave (tokens ++ rest) = some (left ++ rest) := by
  induction tokens generalizing place with
  | nil => cases found
  | cons token tokens inductionHypothesis =>
    rw [leave] at found
    rw [List.cons_append, leave]
    split at found
    next inner _ => exact inductionHypothesis found
    next =>
      cases found
      rfl
    next => cases found

theorem skip_append {value : List Token} (rest : List Token) (whole : skip value = some []) :
    skip (value ++ rest) = some rest :=
  Place.leave_append rest whole

/-- A value that a single token ends ends there. -/
theorem skip_of_enter {token : Token} (single : Place.enter [] token = .done)
    (rest : List Token) : skip (token :: rest) = some rest := by
  have done : Place.move ⟨[], .value⟩ token = .done := single
  rw [skip, Place.leave, done]

/-- A quoted text ends at the same quote whatever follows. -/
theorem body?_append {input body left : List Char} (rest : List Char)
    (found : body? input = some (body, left)) :
    body? (input ++ rest) = some (body, left ++ rest) := by
  obtain ⟨glyphs, rfl, rfl⟩ := exists_glyphs_of_body? found
  rw [List.append_assoc, List.cons_append, body?_glyphs]

end Json

namespace Wire

open Json

/-! ### Members -/

/-- A member of an object: a key in quotes and a whole value. -/
structure Member where
  /-- What stands between the quotes of the key. -/
  body : List Char
  key : String
  value : List Token
  denotes : denoted? body = some key
  whole : skip value = some []

namespace Member

def tokens (member : Member) : List Token :=
  .quoted member.body :: .colon :: member.value

theorem known (member : Member) : key? (.quoted member.body) = some member.key :=
  member.denotes

/-- A member with a quoted text for its value. -/
def ofText (key : String) (body : List Char) : Member where
  body := key.toList.flatMap escape
  key := key
  value := [.quoted body]
  denotes := denoted?_escape key
  whole := rfl

/-- The value of a member is a text. -/
def IsText (member : Member) (text : String) : Prop :=
  ∃ body, member.value = [.quoted body] ∧ denoted? body = some text

end Member

/-- The tokens of an object with some members. -/
def objectTokens (members : List Member) : List Token :=
  .openBrace :: punctuated .closeBrace (members.map Member.tokens)

variable {State : Type} {reader : Reader State}

/-- The state after a member. -/
def takeMember (reader : Reader State) (state : State) (member : Member) : Except Refusal State :=
  (readMember reader state member.key (.colon :: member.value)).map Prod.fst

/-- The state after some members. -/
def takeMembers (reader : Reader State) (state : State) (members : List Member) :
    Except Refusal State :=
  members.foldlM (takeMember reader) state

theorem takeMembers_cons (reader : Reader State) (state : State) (member : Member)
    (members : List Member) :
    takeMembers reader state (member :: members) =
      (takeMember reader state member).bind fun next => takeMembers reader next members :=
  List.foldlM_cons

theorem takeMembers_append (reader : Reader State) (state : State) (before after : List Member) :
    takeMembers reader state (before ++ after) =
      (takeMembers reader state before).bind fun next => takeMembers reader next after :=
  List.foldlM_append

theorem takeMembers_append_singleton (reader : Reader State) (state : State)
    (members : List Member) (member : Member) :
    takeMembers reader state (members ++ [member]) =
      (takeMembers reader state members).bind fun next => takeMember reader next member := by
  rw [takeMembers_append]
  refine congrArg _ (funext fun next => ?_)
  rw [takeMembers_cons]
  cases takeMember reader next member with
  | error refusal => rfl
  | ok found => rfl

/-- A member that is taken is read by the first token of its value. -/
theorem takeMember_of_take {state : State} {member : Member} {read : Token → Except Refusal State}
    {first : Token} {others : List Token} (handled : reader state member.key = .take read)
    (begins : member.value = first :: others) :
    takeMember reader state member = read first := by
  rw [takeMember, readMember, handled, begins]
  show ((read first).map _).map _ = _
  cases read first with
  | error refusal => rfl
  | ok next => rfl

/-- Every value that a reader takes is a single token. -/
def Reader.TakesTokens (reader : Reader State) : Prop :=
  ∀ state key read token next, reader state key = .take read → read token = .ok next →
    Place.enter [] token = .done

/-- What a member makes of the state does not depend on what follows it. -/
theorem readMember_append (takes : Reader.TakesTokens reader) (state : State) (member : Member)
    (rest : List Token) :
    readMember reader state member.key (.colon :: (member.value ++ rest)) =
      (takeMember reader state member).map fun next => (next, rest) := by
  obtain ⟨body, key, value, denotes, whole⟩ := member
  cases handled : reader state key with
  | reject reason => simp [takeMember, readMember, handled, Except.map]
  | ignore => simp [takeMember, readMember, handled, whole, skip_append rest whole, Except.map]
  | take read =>
    cases value with
    | nil => cases whole
    | cons token others =>
      cases taken : read token with
      | error refusal => simp [takeMember, readMember, handled, taken, Except.map]
      | ok next =>
        have single : Place.enter [] token = .done := takes state key read token next handled taken
        have nothing : others = [] := by
          rw [skip_of_enter single] at whole
          exact Option.some.inj whole
        simp [takeMember, readMember, handled, taken, nothing, Except.map]

/-! ### Objects -/

theorem readMembers_punctuated (takes : Reader.TakesTokens reader) (state : State)
    (member : Member) (members : List Member) :
    readMembers reader state (punctuated .closeBrace ((member :: members).map Member.tokens)) =
      (takeMembers reader state (member :: members)).map fun next => (next, []) := by
  induction members generalizing state member with
  | nil =>
    show readMembers reader state
      (.quoted member.body :: .colon :: (member.value ++ [.closeBrace])) = _
    rw [readMembers_cons reader state member.known, readMember_append takes, takeMembers_cons]
    cases takeMember reader state member with
    | error refusal => rfl
    | ok next => rfl
  | cons second members inductionHypothesis =>
    show readMembers reader state (.quoted member.body :: .colon :: (member.value ++
      .comma :: punctuated .closeBrace ((second :: members).map Member.tokens))) = _
    rw [readMembers_cons reader state member.known, readMember_append takes, takeMembers_cons]
    cases takeMember reader state member with
    | error refusal => rfl
    | ok next => exact inductionHypothesis next second

/-- An object is read by taking its members in turn. -/
theorem readObject_punctuated (takes : Reader.TakesTokens reader) (state : State)
    (members : List Member) :
    readObject reader state (punctuated .closeBrace (members.map Member.tokens)) =
      (takeMembers reader state members).map fun next => (next, []) := by
  cases members with
  | nil => rfl
  | cons member members =>
    have read := readMembers_punctuated takes state member members
    -- The reader tells an empty object by its first token, so that token has to be seen.
    obtain ⟨behind, same⟩ := exists_punctuated_eq_cons .closeBrace (.quoted member.body)
      (.colon :: member.value) (members.map Member.tokens)
    rw [List.map_cons, Member.tokens, same] at read ⊢
    exact read

/-- The text of an object that has one member, with a quoted text for its value. -/
def objectText (key : String) (literal : List Char) : List Char :=
  '\x7b' :: (quote key.toList ++ ':' :: '"' :: (literal ++ ['\x7d']))

theorem tokens_objectText (key : String) {literal body : List Char}
    (closed : body? literal = some (body, [])) :
    tokens (objectText key literal) = objectTokens [Member.ofText key body] := by
  have value : Token.next ('"' :: (literal ++ ['\x7d'])) = some (.quoted body, ['\x7d']) := by
    show Token.read ('"' :: (literal ++ ['\x7d'])) = _
    rw [Token.read, body?_append ['\x7d'] closed]
    rfl
  have closing : tokens ['\x7d'] = [.closeBrace] := by
    rw [tokens_of_next rfl, tokens_nil]
  rw [objectText, tokens_of_next rfl, tokens_quote, tokens_of_next rfl, tokens_of_next value,
    closing]
  rfl

end Wire

end ActionDirectory
