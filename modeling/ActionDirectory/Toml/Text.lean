/-
What stands between the values of a TOML document: blanks, newlines and comments.
A carriage return counts only as part of a newline, and no other control
character but the tab may stand anywhere.
-/

namespace ActionDirectory.Toml

/-- Blanks within a line. -/
def isBlank (character : Char) : Bool :=
  character = ' ' || character = '\t'

/-- Characters that no text, key or comment may hold as they are. -/
def isControl (character : Char) : Bool :=
  (character.toNat < 0x20 && character ≠ '\t') || character.toNat = 0x7F

/-- The text behind the blanks it begins with. -/
def skipBlanks (text : List Char) : List Char :=
  text.dropWhile isBlank

/-- The text behind the newline it begins with. -/
def newline? : List Char → Option (List Char)
  | '\n' :: rest => some rest
  | '\r' :: '\n' :: rest => some rest
  | _ => none

/-- The text behind the blanks, newlines and comments it begins with; the flag says whether it
begins inside a comment. -/
def skipTrivia : Bool → List Char → Option (List Char)
  | _, [] => some []
  | _, '\n' :: rest => skipTrivia false rest
  | _, '\r' :: '\n' :: rest => skipTrivia false rest
  | true, character :: rest => if isControl character then none else skipTrivia true rest
  | false, '#' :: rest => skipTrivia true rest
  | false, character :: rest =>
    if isBlank character then skipTrivia false rest else some (character :: rest)

/-- The text from the end of the line that a comment runs up to. -/
def skipComment : List Char → Option (List Char)
  | [] => some []
  | '\n' :: rest => some ('\n' :: rest)
  | '\r' :: '\n' :: rest => some ('\r' :: '\n' :: rest)
  | character :: rest => if isControl character then none else skipComment rest

/-- The next line, if only blanks and a comment stand before the end of this one. -/
def nextLine? (text : List Char) : Option (List Char) :=
  match skipBlanks text with
  | [] => some []
  | '#' :: comment =>
    (skipComment comment).bind fun
      | [] => some []
      | rest => newline? rest
  | rest => newline? rest

end ActionDirectory.Toml
