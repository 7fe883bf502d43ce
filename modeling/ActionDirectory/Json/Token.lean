/-
Tokens of JSON. Any text is a list of tokens: where no token can be read the last
token is broken and carries the text from there on. Decoders run over tokens from
left to right, so what they find before the broken token counts.
-/

import ActionDirectory.Json.Numeral
import ActionDirectory.Json.Quote

namespace ActionDirectory.Json

/-- The least parts of a JSON text. -/
inductive Token where
  | openBrace
  | closeBrace
  | openBracket
  | closeBracket
  | colon
  | comma
  | null
  | boolean (value : Bool)
  | number (numeral : Numeral)
  | quoted (body : List Char)
  | broken (rest : List Char)
deriving DecidableEq, Repr

def isBlank (character : Char) : Bool :=
  character = ' ' || character = '\t' || character = '\n' || character = '\r'

namespace Token

/-- The first token of a text that does not begin with a blank, and what follows it. Nothing
follows a broken token. -/
def read : List Char → Option (Token × List Char)
  | [] => none
  | '\x7b' :: rest => some (openBrace, rest)
  | '\x7d' :: rest => some (closeBrace, rest)
  | '[' :: rest => some (openBracket, rest)
  | ']' :: rest => some (closeBracket, rest)
  | ':' :: rest => some (colon, rest)
  | ',' :: rest => some (comma, rest)
  | 'n' :: 'u' :: 'l' :: 'l' :: rest => some (null, rest)
  | 't' :: 'r' :: 'u' :: 'e' :: rest => some (boolean true, rest)
  | 'f' :: 'a' :: 'l' :: 's' :: 'e' :: rest => some (boolean false, rest)
  | '"' :: rest =>
    match body? rest with
    | some (body, after) => some (quoted body, after)
    | none => some (broken ('"' :: rest), [])
  | text =>
    match Numeral.scan? text with
    | some (numeral, after) => some (number numeral, after)
    | none => some (broken text, [])

/-- The first token of a text and what follows it, if there is more than blanks. -/
def next (text : List Char) : Option (Token × List Char) :=
  read (text.dropWhile isBlank)

theorem length_read {text rest : List Char} {token : Token}
    (found : read text = some (token, rest)) : rest.length < text.length := by
  unfold read at found
  split at found
  case h_1 => cases found
  case h_11 tail =>
    split at found
    next body after bodyFound =>
      cases found
      have shorter := length_body? bodyFound
      simp only [List.length_cons]
      omega
    next =>
      cases found
      simp
  case h_12 text notNil _ _ _ _ _ _ _ _ _ _ =>
    split at found
    next numeral after numeralFound =>
      cases found
      exact Numeral.length_scan? numeralFound
    next =>
      cases found
      exact List.length_pos_iff.2 notNil
  all_goals
    cases found
    simp only [List.length_cons]
    omega

theorem length_next {text rest : List Char} {token : Token}
    (found : next text = some (token, rest)) : rest.length < text.length :=
  Nat.lt_of_lt_of_le (length_read found) (Numeral.length_dropWhile_le _ _)

end Token

def tokens (text : List Char) : List Token :=
  match _found : Token.next text with
  | none => []
  | some (token, rest) => token :: tokens rest
termination_by text.length
decreasing_by exact Token.length_next _found

end ActionDirectory.Json
