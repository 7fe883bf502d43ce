/-
Expressions of a TOML document: assignments to keys and the headers of tables.
Values are read as they are written; what a document makes of its expressions is
another matter. Arrays and inline tables may stand in each other eighty deep.
-/

import ActionDirectory.Toml.Scalar

namespace ActionDirectory.Toml

inductive Literal where
  | scalar (value : Scalar)
  | array (items : List Literal)
  | table (members : List (List String × Literal))

/-- A line of a document that says something. -/
inductive Expression where
  | assignment (path : List String) (value : Literal)
  | table (path : List String)
  | element (path : List String)

namespace Literal

/-! ### Values -/

/-- A reader takes a value off the beginning of a text. -/
abbrev Reader (Value : Type) :=
  List Char → Option (Value × List Char)

/-- Items with commas between them up to a closing mark; a comma may stand behind the last one.
The count bounds the number of items. -/
def items? {Value : Type} (close : Char) (item : Reader Value) :
    Nat → Reader (List Value)
  | 0, _ => none
  | count + 1, text =>
    match skipTrivia false text with
    | none => none
    | some [] => none
    | some (character :: rest) =>
      if character = close then some ([], rest)
      else
        (item (character :: rest)).bind fun found =>
          match skipTrivia false found.2 with
          | some (',' :: more) =>
            (items? close item count more).map fun others => (found.1 :: others.1, others.2)
          | some (mark :: rest) => if mark = close then some ([found.1], rest) else none
          | _ => none

/-- A path, an equals sign and a value; what may stand around the sign is skipped. -/
def assignment? (skip : List Char → Option (List Char)) (value : Reader Literal) :
    Reader (List String × Literal) := fun text =>
  (path? text).bind fun path =>
    match skip path.2 with
    | some ('=' :: rest) =>
      (skip rest).bind fun rest =>
        (value rest).map fun found => ((path.1, found.1), found.2)
    | _ => none

/-- A member of an inline table, which may stand on several lines. -/
def member? (value : Reader Literal) : Reader (List String × Literal) :=
  assignment? (skipTrivia false) value

def line? (value : Reader Literal) : Reader (List String × Literal) :=
  assignment? (fun text => some (skipBlanks text)) value

/-- A value in which arrays and inline tables stand in each other at most as deep as given. -/
def read? : Nat → Reader Literal
  | 0, text => (Scalar.read? text).map fun found => (.scalar found.1, found.2)
  | depth + 1, text =>
    match text with
    | '[' :: rest =>
      (items? ']' (read? depth) text.length rest).map fun found => (.array found.1, found.2)
    | '\x7b' :: rest =>
      (items? '\x7d' (member? (read? depth)) text.length rest).map fun found =>
        (.table found.1, found.2)
    | _ => (Scalar.read? text).map fun found => (.scalar found.1, found.2)

end Literal

namespace Expression

/-! ### Documents -/

/-- The expression that a text begins with, and what follows it. -/
def read? : List Char → Option (Expression × List Char)
  | '[' :: '[' :: rest =>
    (path? (skipBlanks rest)).bind fun path =>
      match skipBlanks path.2 with
      | ']' :: ']' :: rest => some (.element path.1, rest)
      | _ => none
  | '[' :: rest =>
    (path? (skipBlanks rest)).bind fun path =>
      match skipBlanks path.2 with
      | ']' :: rest => some (.table path.1, rest)
      | _ => none
  | text =>
    (Literal.line? (Literal.read? 80) text).map fun found =>
      (.assignment found.1.1 found.1.2, found.2)

/-- The expressions of a text, each on a line of its own; the count bounds their number. -/
def lines? : Nat → List Char → Option (List Expression)
  | 0, _ => none
  | count + 1, text =>
    match skipTrivia false text with
    | none => none
    | some [] => some []
    | some rest =>
      (read? rest).bind fun found =>
        match nextLine? found.2 with
        | none => none
        | some more => (lines? count more).map (found.1 :: ·)

/-- The expressions of a document, which may begin with a byte order mark. -/
def ofDocument? (text : List Char) : Option (List Expression) :=
  match text with
  | '\ufeff' :: rest => lines? text.length rest
  | _ => lines? (text.length + 1) text

end Expression

end ActionDirectory.Toml
