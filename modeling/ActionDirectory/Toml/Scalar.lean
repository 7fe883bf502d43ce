/-
Single values of TOML. A value without quotes is one word, which can have blanks
inside, as between a date and a time; the word as a whole must be a truth value,
an integer, a floating point number, a date or a time. A word can have the form
of a number and yet denote none, because it is too large or has characters that
are no digits; it is for the reader of a document to refuse it.
-/

import ActionDirectory.Number.Float64
import ActionDirectory.Text.Decimal
import ActionDirectory.Toml.Quoted

namespace ActionDirectory.Toml

/-- A single value. A number in form only has no value. -/
inductive Scalar where
  | string (value : String)
  | integer (value : Option Int)
  | float (value : Option Float)
  | boolean (value : Bool)
  | moment

namespace Scalar

/-! ### Underscores -/

/-- Every underscore has a digit on either side; the flag says whether a digit stands before the
text. -/
def isGrouped (isDigit : Char → Bool) : Bool → List Char → Bool
  | _, [] => true
  | before, '_' :: rest => before && rest.head?.any isDigit && isGrouped isDigit false rest
  | _, character :: rest => isGrouped isDigit (isDigit character) rest

def ungrouped (text : List Char) : List Char :=
  text.filter (· ≠ '_')

/-- The digits among underscores, if there are any and nothing else stands there. -/
def digits? (text : List Char) : Option (List Char) :=
  let digits := ungrouped text
  if digits.isEmpty || !digits.all Char.isDigit then none else some digits

/-! ### Integers -/

/-- The number that digits of a base denote. -/
def valueOf (base : Nat) (digits : List Char) : Nat :=
  digits.foldl (fun value digit => base * value + Json.hexValue digit) 0

def isOctal (character : Char) : Bool :=
  '0' ≤ character && character ≤ '7'

def isBinary (character : Char) : Bool :=
  character = '0' || character = '1'

/-- The sign of a word, as whether it is a minus, and the word behind it. -/
def unsigned : List Char → Bool × List Char
  | '-' :: rest => (true, rest)
  | '+' :: rest => (false, rest)
  | rest => (false, rest)

/-- The integer behind the mark of a base. A mark with nothing behind it has the form of an
integer. -/
def based? (base : Nat) (isDigit : Char → Bool) (text : List Char) : Option (Option Int) :=
  let digits := ungrouped text
  if !digits.all isDigit || !isGrouped isDigit false text then none
  else if digits.isEmpty then some none
  else some (some (valueOf base digits))

/-- A mark that no integer has the form of: one of floating point numbers, or a space. -/
def isForeign (character : Char) : Bool :=
  character = '.' || character = 'e' || character = 'E' || character = ' '

/-- The integer without the mark of a base. A word has the form of one if it holds decimal digits
only, or from the first underscore on anything that is not foreign to integers, and underscores
stand between digits of base sixteen. It begins with zero only if it is zero. -/
def decimal? (word : List Char) : Option (Option Int) :=
  let size := (unsigned word).2
  let behind := size.dropWhile Char.isDigit
  if size.isEmpty || (size.head? = some '0' && 1 < size.length) then none
  else if !behind.isEmpty && (behind.head? ≠ some '_' || behind.any isForeign) then none
  else if !isGrouped Json.isHex false word then none
  else some (Decimal.signed? (ungrouped word))

/-- The integer that a word denotes: in decimal digits that may have a sign, or in the digits of
another base. -/
def integer? : List Char → Option (Option Int)
  | '0' :: 'x' :: digits => based? 16 Json.isHex digits
  | '0' :: 'o' :: digits => based? 8 isOctal digits
  | '0' :: 'b' :: digits => based? 2 isBinary digits
  | word => decimal? word

/-! ### Floating point numbers -/

def isPowerMark (character : Char) : Bool :=
  character = 'e' || character = 'E'

/-- The digits before the point of a mantissa, which begin with zero only if there is no other
digit. -/
def whole? (text : List Char) : Option (List Char) :=
  (digits? text).bind fun digits =>
    if digits.head? = some '0' && 1 < digits.length then none else some digits

/-- The digits behind the point of a mantissa, which may have none only if it has no point. -/
def fraction? : List Char → Option (List Char)
  | [] => some []
  | _ :: digits => digits? digits

/-- The power of ten behind a mantissa, which may be missing. -/
def power? : List Char → Option Int
  | [] => some 0
  | _ :: word =>
    let (negative, size) := unsigned word
    (digits? size).map fun digits =>
      let value : Int := valueOf 10 digits
      if negative then -value else value

def withSign (negative : Bool) (size : Float) : Float :=
  if negative then -size else size

/-- The floating point number that a word denotes; one beyond the range of the format has the form
of a number only. -/
def float? (word : List Char) : Option (Option Float) :=
  let (negative, size) := unsigned word
  if size = ['i', 'n', 'f'] then some (some (withSign negative Float64.infinity))
  else if size = ['n', 'a', 'n'] then some (some (0.0 / 0.0))
  else
    let mantissa := size.takeWhile fun character => !isPowerMark character
    let power := size.dropWhile fun character => !isPowerMark character
    let whole := mantissa.takeWhile (· ≠ '.')
    let fraction := mantissa.dropWhile (· ≠ '.')
    if (power.isEmpty && fraction.isEmpty) || !isGrouped Char.isDigit false word then none
    else
      (whole? whole).bind fun whole =>
        (fraction? fraction).bind fun fraction =>
          (power? power).map fun power =>
            let value :=
              Float64.nearest (valueOf 10 (whole ++ fraction)) (power - fraction.length)
            if value.isInf then none else some (withSign negative value)

/-! ### Dates and times -/

/-- The number of a fixed count of digits, and what follows them. -/
def field? (count : Nat) (text : List Char) : Option (Nat × List Char) :=
  let digits := text.take count
  if digits.length = count && digits.all Char.isDigit then
    some (valueOf 10 digits, text.drop count)
  else none

def isLeap (year : Nat) : Bool :=
  year % 4 = 0 && (year % 100 ≠ 0 || year % 400 = 0)

def daysOf (year month : Nat) : Nat :=
  if month = 2 then if isLeap year then 29 else 28
  else if month = 4 || month = 6 || month = 9 || month = 11 then 30
  else 31

def behind? (mark : Char) : List Char → Option (List Char)
  | [] => none
  | character :: rest => if character = mark then some rest else none

/-- What follows the date that a text begins with. -/
def date? (text : List Char) : Option (List Char) := do
  let (year, rest) ← field? 4 text
  let rest ← behind? '-' rest
  let (month, rest) ← field? 2 rest
  let rest ← behind? '-' rest
  let (day, rest) ← field? 2 rest
  if 1 ≤ month && month ≤ 12 && 1 ≤ day && day ≤ daysOf year month then some rest else none

/-- What follows the seconds of a time, which may be missing and may have a fraction. -/
def seconds? : List Char → Option (List Char)
  | ':' :: rest =>
    (field? 2 rest).bind fun found =>
      if 60 < found.1 then none
      else
        match found.2 with
        | '.' :: fraction =>
          if (fraction.takeWhile Char.isDigit).isEmpty then none
          else some (fraction.dropWhile Char.isDigit)
        | rest => some rest
  | rest => some rest

/-- What follows the hours and minutes that a text begins with. -/
def minutes? (text : List Char) : Option (List Char) := do
  let (hour, rest) ← field? 2 text
  let rest ← behind? ':' rest
  let (minute, rest) ← field? 2 rest
  if hour ≤ 23 && minute ≤ 59 then some rest else none

/-- What follows the time of day that a text begins with. -/
def time? (text : List Char) : Option (List Char) :=
  (minutes? text).bind seconds?

/-- A distance from universal time, or nothing. -/
def isOffset : List Char → Bool
  | [] => true
  | ['Z'] => true
  | ['z'] => true
  | sign :: rest => (sign = '+' || sign = '-') && minutes? rest = some []

/-- A mark between a date and a time. -/
def isDelimiter (character : Char) : Bool :=
  character = 'T' || character = 't' || character = ' '

/-- A word is a date, a time, or both with a mark between them and possibly a distance from
universal time. -/
def isMoment (word : List Char) : Bool :=
  match date? word with
  | some [] => true
  | some (mark :: rest) =>
    isDelimiter mark && ((time? rest).map isOffset).getD false
  | none => time? word = some []

/-! ### Words -/

/-- The value that a word without quotes denotes. -/
def ofWord? (word : List Char) : Option Scalar :=
  if word = ['t', 'r', 'u', 'e'] then some (.boolean true)
  else if word = ['f', 'a', 'l', 's', 'e'] then some (.boolean false)
  else
    match integer? word, float? word with
    | some value, _ => some (.integer value)
    | none, some value => some (.float value)
    | none, none => if isMoment word then some .moment else none

/-- Characters of words without quotes: all but blanks, those of newlines, and the marks that
stand between values. -/
def isWord (character : Char) : Bool :=
  !([' ', '\t', '\n', '\r', '#', '=', ',', '[', ']', '\x7b', '\x7d'].contains character)

/-- A character with which a word can go on behind blanks; a quote begins a value of its own. -/
def resumesWord (character : Char) : Bool :=
  isWord character && character ≠ '"' && character ≠ '\''

/-- The word that a text begins with, and what follows it. A word goes on behind blanks as long as
no mark and no quote stands there. -/
def word : List Char → List Char × List Char
  | [] => ([], [])
  | character :: rest =>
    if isWord character || (isBlank character && (skipBlanks rest).head?.any resumesWord) then
      let found := word rest
      (character :: found.1, found.2)
    else ([], character :: rest)

/-- The single value that a text begins with, and what follows it. -/
def read? (text : List Char) : Option (Scalar × List Char) :=
  match text with
  | '"' :: _ | '\'' :: _ =>
    (quoted? text).map fun found => (.string (String.ofList found.1), found.2)
  | _ =>
    let found := word text
    (ofWord? found.1).map fun value => (value, found.2)

end Scalar

end ActionDirectory.Toml
