/-
Floating point numbers of 64 bits: their text, and the number nearest to a
decimal. Decimals are read by their digits and their power of ten; a power of
ten far beyond the range of the format gives zero or infinity at once.
-/

import ActionDirectory.Number.Shortest

namespace ActionDirectory.Float64

open Shortest

/-! ### Text -/

def isNegative (value : Float) : Bool :=
  value.toBits.toNat / Nat.pow 2 63 = 1

/-- The distance of a finite number from zero. -/
def distance (value : Float) : Binary :=
  let exponent : Nat := value.toBits.toNat / Nat.pow 2 52 % Nat.pow 2 11
  let fraction := value.toBits.toNat % Nat.pow 2 52
  if exponent = 0 then ⟨fraction, -1074⟩ else ⟨Nat.pow 2 52 + fraction, (exponent : Int) - 1075⟩

/-- The text of a number in one layout: a whole number keeps one zero behind its point, and
only a negative number and the negative zero and infinity show a sign. -/
def text (layout : Layout) (value : Float) : String :=
  if value.isNaN then "NaN"
  else
    let size :=
      if value.isInf then ['i', 'n', 'f']
      else if (distance value).mantissa = 0 then ['0', '.', '0']
      else layout.text (distance value)
    String.ofList (if isNegative value then '-' :: size else size)

/-! ### Reading decimals -/

def infinity : Float :=
  1.0 / 0.0

/-- The number nearest to `significand * 10 ^ exponent`. -/
def nearest (significand : Nat) (exponent : Int) : Float :=
  let magnitude := (Nat.toDigits 10 significand).length + exponent
  if significand = 0 || magnitude < -330 then 0.0
  else if 310 < magnitude then infinity
  else Float.ofScientific significand (exponent < 0) exponent.natAbs

/-- The power of ten that is written behind a mantissa, if anything is. -/
def power? : List Char → Option Int
  | [] => some 0
  | mark :: rest =>
    if mark = 'e' || mark = 'E' then
      match rest with
      | '+' :: digits => whole? digits
      | '-' :: digits => (whole? digits).map fun value => -value
      | digits => whole? digits
    else none
where
  whole? (digits : List Char) : Option Int :=
    if digits.isEmpty || !digits.all Char.isDigit then none
    else some (Nat.ofDigitChars 10 digits 0)

/-- The number that a decimal without a sign denotes: digits with at most one point among,
before or behind them, and possibly a power of ten. -/
def unsigned? (text : List Char) : Option Float :=
  let whole := text.takeWhile Char.isDigit
  let afterWhole := text.dropWhile Char.isDigit
  let fraction :=
    match afterWhole with
    | '.' :: rest => rest.takeWhile Char.isDigit
    | _ => []
  let afterFraction :=
    match afterWhole with
    | '.' :: rest => rest.dropWhile Char.isDigit
    | other => other
  if whole.isEmpty && fraction.isEmpty then none
  else
    (power? afterFraction).map fun power =>
      nearest (Nat.ofDigitChars 10 (whole ++ fraction) 0) (power - fraction.length)

/-- The number that a text denotes: a decimal, an infinity or no number, in letters of either
case, behind at most one sign. -/
def ofText? (text : List Char) : Option Float :=
  match text with
  | '+' :: rest => size? rest
  | '-' :: rest => (size? rest).map fun value => -value
  | rest => size? rest
where
  size? (text : List Char) : Option Float :=
    let word := text.map Char.toLower
    if word = ['i', 'n', 'f'] || word = ['i', 'n', 'f', 'i', 'n', 'i', 't', 'y'] then some infinity
    else if word = ['n', 'a', 'n'] then some (0.0 / 0.0)
    else unsigned? text

end ActionDirectory.Float64
