/-
Quoted text of TOML. Between double quotes a backslash begins an escape, between
single quotes every character stands for itself. Three quotes enclose a text of
several lines, which may end in up to two quotes of its own; there a backslash at
the end of a line takes away all blanks and newlines that follow.
-/

import ActionDirectory.Json.Quote
import ActionDirectory.Toml.Text

namespace ActionDirectory.Toml

/-! ### Escapes -/

/-- The character with a hexadecimal code, which must be a code point and no surrogate. -/
def coded? (digits : List Char) : Option Char :=
  let code := digits.foldl (fun value digit => 16 * value + Json.hexValue digit) 0
  if digits.all Json.isHex && code.isValidChar then some (Char.ofNat code) else none

/-- The character that a letter behind a backslash stands for. -/
def unescaped? : Char → Option Char
  | 'b' => some '\x08'
  | 't' => some '\t'
  | 'n' => some '\n'
  | 'f' => some '\x0c'
  | 'r' => some '\r'
  | 'e' => some '\x1b'
  | '"' => some '"'
  | '\\' => some '\\'
  | _ => none

/-- The character of the escape behind a backslash, and what follows it. -/
def escape? : List Char → Option (Char × List Char)
  | 'x' :: first :: second :: rest => (coded? [first, second]).map fun found => (found, rest)
  | 'u' :: first :: second :: third :: fourth :: rest =>
    (coded? [first, second, third, fourth]).map fun found => (found, rest)
  | 'U' :: first :: second :: third :: fourth :: fifth :: sixth :: seventh :: eighth :: rest =>
    (coded? [first, second, third, fourth, fifth, sixth, seventh, eighth]).map fun found =>
      (found, rest)
  | letter :: rest => (unescaped? letter).map fun found => (found, rest)
  | [] => none

theorem length_escape? {text rest : List Char} {character : Char}
    (found : escape? text = some (character, rest)) : rest.length < text.length := by
  unfold escape? at found
  split at found
  case h_5 => cases found
  all_goals
    obtain ⟨_, _, same⟩ := Option.map_eq_some_iff.1 found
    cases same
    simp only [List.length_cons]
    omega

/-! ### Texts of one line -/

/-- The text up to the closing double quote, and what follows it. -/
def basic? (text : List Char) : Option (List Char × List Char) :=
  match text with
  | [] => none
  | '"' :: rest => some ([], rest)
  | '\\' :: escaped =>
    match _found : escape? escaped with
    | some (character, rest) => (basic? rest).map fun found => (character :: found.1, found.2)
    | none => none
  | character :: rest =>
    if isControl character then none
    else (basic? rest).map fun found => (character :: found.1, found.2)
termination_by text.length
decreasing_by
  · have shorter := length_escape? _found
    simp only [List.length_cons]
    omega
  · simp

/-- The text up to the closing single quote, and what follows it. -/
def literal? : List Char → Option (List Char × List Char)
  | [] => none
  | '\'' :: rest => some ([], rest)
  | character :: rest =>
    if isControl character then none
    else (literal? rest).map fun found => (character :: found.1, found.2)

/-! ### Texts of several lines -/

/-- The text without a newline at its beginning. -/
def dropNewline (text : List Char) : List Char :=
  (newline? text).getD text

/-- The text behind the blanks and newlines it begins with. -/
def dropFold : List Char → List Char
  | '\r' :: '\n' :: rest => dropFold rest
  | '\n' :: rest => dropFold rest
  | character :: rest => if isBlank character then dropFold rest else character :: rest
  | [] => []

theorem length_dropFold_le (text : List Char) : (dropFold text).length ≤ text.length := by
  fun_induction dropFold text <;> simp only [List.length_cons, List.length_nil] at * <;> omega

/-- The text up to three closing double quotes, and what follows them. -/
def basicLines? (text : List Char) : Option (List Char × List Char) :=
  match text with
  | [] => none
  | '"' :: '"' :: '"' :: '"' :: '"' :: rest => some (['"', '"'], rest)
  | '"' :: '"' :: '"' :: '"' :: rest => some (['"'], rest)
  | '"' :: '"' :: '"' :: rest => some ([], rest)
  | '\\' :: escaped =>
    if (newline? (skipBlanks escaped)).isSome then basicLines? (dropFold escaped)
    else
      match _found : escape? escaped with
      | some (character, rest) =>
        (basicLines? rest).map fun found => (character :: found.1, found.2)
      | none => none
  | '\r' :: '\n' :: rest =>
    (basicLines? rest).map fun found => ('\r' :: '\n' :: found.1, found.2)
  | '\n' :: rest => (basicLines? rest).map fun found => ('\n' :: found.1, found.2)
  | character :: rest =>
    if isControl character then none
    else (basicLines? rest).map fun found => (character :: found.1, found.2)
termination_by text.length
decreasing_by
  · have shorter := length_dropFold_le escaped
    simp only [List.length_cons]
    omega
  · have shorter := length_escape? _found
    simp only [List.length_cons]
    omega
  all_goals
    simp only [List.length_cons]
    omega

/-- The text up to three closing single quotes, and what follows them. -/
def literalLines? : List Char → Option (List Char × List Char)
  | [] => none
  | '\'' :: '\'' :: '\'' :: '\'' :: '\'' :: rest => some (['\'', '\''], rest)
  | '\'' :: '\'' :: '\'' :: '\'' :: rest => some (['\''], rest)
  | '\'' :: '\'' :: '\'' :: rest => some ([], rest)
  | '\r' :: '\n' :: rest =>
    (literalLines? rest).map fun found => ('\r' :: '\n' :: found.1, found.2)
  | '\n' :: rest => (literalLines? rest).map fun found => ('\n' :: found.1, found.2)
  | character :: rest =>
    if isControl character then none
    else (literalLines? rest).map fun found => (character :: found.1, found.2)

/-- The quoted text that a text begins with, in any of its forms, and what follows it. -/
def quoted? : List Char → Option (List Char × List Char)
  | '"' :: '"' :: '"' :: rest => basicLines? (dropNewline rest)
  | '"' :: rest => basic? rest
  | '\'' :: '\'' :: '\'' :: rest => literalLines? (dropNewline rest)
  | '\'' :: rest => literal? rest
  | _ => none

/-! ### Keys -/

/-- Characters of keys without quotes. -/
def isBare (character : Char) : Bool :=
  character.isAlphanum || character = '_' || character = '-'

/-- The key that a text begins with, and what follows it. A key has one line. -/
def key? : List Char → Option (String × List Char)
  | '"' :: '"' :: '"' :: _ => none
  | '\'' :: '\'' :: '\'' :: _ => none
  | '"' :: rest => (basic? rest).map fun found => (String.ofList found.1, found.2)
  | '\'' :: rest => (literal? rest).map fun found => (String.ofList found.1, found.2)
  | text =>
    if (text.takeWhile isBare).isEmpty then none
    else some (String.ofList (text.takeWhile isBare), text.dropWhile isBare)

/-- The keys with points between them that a text begins with, at most as many as given, and
what follows them. -/
def keys? : Nat → List Char → Option (List String × List Char)
  | 0, _ => none
  | limit + 1, text =>
    (key? text).bind fun first =>
      match skipBlanks first.2 with
      | '.' :: rest =>
        (keys? limit (skipBlanks rest)).map fun found => (first.1 :: found.1, found.2)
      | _ => some ([first.1], first.2)

/-- The path that a text begins with, of at most eighty keys and points behind them. -/
def path? (text : List Char) : Option (List String × List Char) :=
  keys? 80 text

end ActionDirectory.Toml
