/-
Quoted text of JSON. The body of a quoted text runs up to the first quote that is
not escaped; it may hold no control character, and each escape in it has one of
the known forms. A body is well formed also if it names surrogates that do not
pair up, but only a body without such denotes a text.
-/

namespace ActionDirectory.Json

/-! ### Writing -/

/-- The hexadecimal digit of a number below sixteen. -/
def hexDigit (value : Nat) : Char :=
  Nat.digitChar value

/-- One character as it stands between the quotes: quotes, backslashes and control characters
are escaped. -/
def escape (character : Char) : List Char :=
  match character with
  | '"' => ['\\', '"']
  | '\\' => ['\\', '\\']
  | '\x08' => ['\\', 'b']
  | '\x0c' => ['\\', 'f']
  | '\n' => ['\\', 'n']
  | '\r' => ['\\', 'r']
  | '\t' => ['\\', 't']
  | other =>
    if other.toNat < 0x20 then
      ['\\', 'u', '0', '0', hexDigit (other.toNat / 16), hexDigit (other.toNat % 16)]
    else [other]

def quote (text : List Char) : List Char :=
  '"' :: (text.flatMap escape ++ ['"'])

/-! ### Bodies -/

def isHex (character : Char) : Bool :=
  character.isDigit || ('a' ≤ character && character ≤ 'f') ||
    ('A' ≤ character && character ≤ 'F')

def hexValue (character : Char) : Nat :=
  if character.isDigit then character.toNat - '0'.toNat
  else if 'a' ≤ character then character.toNat - 'a'.toNat + 10
  else character.toNat - 'A'.toNat + 10

/-- The character that a backslash and a letter stand for. -/
def unescaped? : Char → Option Char
  | '"' => some '"'
  | '\\' => some '\\'
  | '/' => some '/'
  | 'b' => some '\x08'
  | 'f' => some '\x0c'
  | 'n' => some '\n'
  | 'r' => some '\r'
  | 't' => some '\t'
  | _ => none

/-- A character that stands for itself in a body. -/
def isPlain (character : Char) : Bool :=
  0x20 ≤ character.toNat && character ≠ '"' && character ≠ '\\'

/-- The body of a quoted text, without its quotes, and what stands behind it; the input starts
behind the opening quote. -/
def body? : List Char → Option (List Char × List Char)
  | [] => none
  | '"' :: rest => some ([], rest)
  | '\\' :: 'u' :: first :: second :: third :: fourth :: rest =>
    if [first, second, third, fourth].all isHex then
      (body? rest).map fun found =>
        ('\\' :: 'u' :: first :: second :: third :: fourth :: found.1, found.2)
    else none
  | '\\' :: letter :: rest =>
    if (unescaped? letter).isSome then
      (body? rest).map fun found => ('\\' :: letter :: found.1, found.2)
    else none
  | character :: rest =>
    if isPlain character then (body? rest).map fun found => (character :: found.1, found.2)
    else none

/-- What a body is made of: characters and numbers of 16 bits. -/
inductive Piece where
  | character (value : Char)
  | unit (value : Nat)
deriving DecidableEq, Repr

/-- The pieces of a well-formed body. -/
def pieces : List Char → List Piece
  | [] => []
  | '\\' :: 'u' :: first :: second :: third :: fourth :: rest =>
    .unit ([first, second, third, fourth].foldl (fun value digit => 16 * value + hexValue digit) 0)
      :: pieces rest
  | '\\' :: letter :: rest => .character ((unescaped? letter).getD letter) :: pieces rest
  | character :: rest => .character character :: pieces rest

def isHighSurrogate (unit : Nat) : Bool :=
  0xD800 ≤ unit && unit ≤ 0xDBFF

def isLowSurrogate (unit : Nat) : Bool :=
  0xDC00 ≤ unit && unit ≤ 0xDFFF

/-- The text of pieces, behind the first half of a pair if one is pending; a half without its
other half gives no text. -/
def assemble : Option Nat → List Piece → Option (List Char)
  | none, [] => some []
  | some _, [] => none
  | none, .character value :: rest => (assemble none rest).map (value :: ·)
  | some _, .character _ :: _ => none
  | none, .unit value :: rest =>
    if isHighSurrogate value then assemble (some value) rest
    else if isLowSurrogate value then none
    else (assemble none rest).map (Char.ofNat value :: ·)
  | some high, .unit low :: rest =>
    if isLowSurrogate low then
      let code := 0x10000 + (high - 0xD800) * 0x400 + (low - 0xDC00)
      (assemble none rest).map (Char.ofNat code :: ·)
    else none

/-- The text that a well-formed body denotes. -/
def denoted? (body : List Char) : Option String :=
  (assemble none (pieces body)).map String.ofList

/-! ### Progress -/

theorem length_body? {input body rest : List Char} (found : body? input = some (body, rest)) :
    rest.length < input.length := by
  induction input using body?.induct generalizing body rest with
  | case1 => simp [body?] at found
  | case2 tail =>
    simp only [body?, Option.some.injEq, Prod.mk.injEq] at found
    rw [← found.2]
    simp
  | case3 first second third fourth tail digits inductionHypothesis =>
    rw [body?, if_pos digits] at found
    obtain ⟨inner, innerFound, same⟩ := Option.map_eq_some_iff.1 found
    have shorter := inductionHypothesis innerFound
    cases same
    simp only [List.length_cons]
    omega
  | case4 first second third fourth tail digits =>
    rw [body?, if_neg digits] at found
    cases found
  | case5 letter tail notUnit known inductionHypothesis =>
    rw [body?, if_pos known] at found
    · obtain ⟨inner, innerFound, same⟩ := Option.map_eq_some_iff.1 found
      have shorter := inductionHypothesis innerFound
      cases same
      simp only [List.length_cons]
      omega
    · exact notUnit
  | case6 letter tail notUnit unknown =>
    rw [body?, if_neg unknown] at found
    · cases found
    · exact notUnit
  | case7 character tail notQuote notUnit notEscape plain inductionHypothesis =>
    rw [body?, if_pos plain] at found
    · obtain ⟨inner, innerFound, same⟩ := Option.map_eq_some_iff.1 found
      have shorter := inductionHypothesis innerFound
      cases same
      simp only [List.length_cons]
      omega
    all_goals assumption
  | case8 character tail notQuote notUnit notEscape notPlain =>
    rw [body?, if_neg notPlain] at found
    · cases found
    all_goals assumption

end ActionDirectory.Json
