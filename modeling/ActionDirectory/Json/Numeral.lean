/-
Numbers of JSON. A literal is read whole before its value matters. A literal
without point and power is an integer if it fits into 64 bits, signed below zero
and unsigned otherwise; every other literal is a floating point number. Of such
a one, as many digits count as fit into 64 bits; their number is then scaled by
a power of ten, and a literal that leads beyond the greatest number has no value.
-/

import ActionDirectory.Number.Float64

namespace ActionDirectory.Json

/-! ### Literals -/

/-- The parts of a number literal: its sign, the digits before and behind the point, and the
sign and digits of a power of ten. -/
structure Numeral where
  negative : Bool
  whole : List Char
  fraction : List Char
  power : Option (Bool × List Char)
deriving DecidableEq, Repr

namespace Numeral

/-- The digits before the point and what follows them: one zero, or digits that do not begin
with zero. -/
def whole? : List Char → Option (List Char × List Char)
  | [] => none
  | first :: rest =>
    if first = '0' then
      if (rest.takeWhile Char.isDigit).isEmpty then some (['0'], rest) else none
    else if first.isDigit then
      some (first :: rest.takeWhile Char.isDigit, rest.dropWhile Char.isDigit)
    else none

/-- One or more digits and what follows them. -/
def digits? (text : List Char) : Option (List Char × List Char) :=
  if (text.takeWhile Char.isDigit).isEmpty then none
  else some (text.takeWhile Char.isDigit, text.dropWhile Char.isDigit)

/-- The digits behind a point, if there is a point, and what follows them. -/
def fraction? : List Char → Option (List Char × List Char)
  | '.' :: rest => digits? rest
  | other => some ([], other)

/-- The sign and digits of a power of ten behind its mark, and what follows them. -/
def exponent? : List Char → Option ((Bool × List Char) × List Char)
  | '-' :: rest => (digits? rest).map fun found => ((true, found.1), found.2)
  | '+' :: rest => (digits? rest).map fun found => ((false, found.1), found.2)
  | rest => (digits? rest).map fun found => ((false, found.1), found.2)

/-- The power of ten, if one is written, and what follows it. -/
def power? : List Char → Option (Option (Bool × List Char) × List Char)
  | [] => some (none, [])
  | mark :: rest =>
    if mark = 'e' || mark = 'E' then
      (exponent? rest).map fun found => (some found.1, found.2)
    else some (none, mark :: rest)

/-- The literal behind its sign and what follows it. -/
def unsigned? (negative : Bool) (text : List Char) : Option (Numeral × List Char) :=
  (whole? text).bind fun whole =>
    (fraction? whole.2).bind fun fraction =>
      (power? fraction.2).map fun power => (⟨negative, whole.1, fraction.1, power.1⟩, power.2)

/-- The number literal that a text begins with and what follows it. -/
def scan? : List Char → Option (Numeral × List Char)
  | '-' :: rest => unsigned? true rest
  | text => unsigned? false text

end Numeral

/-! ### Values -/

inductive Number where
  | integer (value : Int)
  | float (value : Float)

namespace Numeral

/-- The number with the digits appended that fit into 64 bits, and the digits from the first
one on that does not. -/
def absorb (significand : Nat) : List Char → Nat × List Char
  | [] => (significand, [])
  | digit :: rest =>
    let longer := 10 * significand + (digit.toNat - '0'.toNat)
    if longer < Nat.pow 2 64 then absorb longer rest else (significand, digit :: rest)

def tenTo (exponent : Nat) : Float :=
  Float.ofScientific 1 false exponent

/-- A number divided by a power of ten, in as many steps as powers within the range of the
format need. -/
def shrink (value : Float) (exponent : Nat) : Float :=
  if exponent ≤ 308 then value / tenTo exponent
  else if value == 0.0 then value
  else shrink (value / tenTo 308) (exponent - 308)
termination_by exponent

/-- A number of at most 64 bits scaled by a power of ten, unless it leads beyond the greatest
number. -/
def scale? (significand : Nat) (exponent : Int) : Option Float :=
  if significand = 0 then some 0.0
  else if exponent < 0 then some (shrink (Float.ofNat significand) exponent.natAbs)
  else if 308 < exponent then none
  else
    let scaled := Float.ofNat significand * tenTo exponent.toNat
    if scaled.isInf then none else some scaled

/-- The value of a literal as a floating point number without its sign. -/
def float? (numeral : Numeral) : Option Float :=
  let (head, unread) := absorb 0 numeral.whole
  let (significand, ignored) := absorb head numeral.fraction
  let places : Int := unread.length - (numeral.fraction.length - ignored.length : Nat)
  match numeral.power with
  | none => scale? significand places
  | some (negative, digits) =>
    let power := Nat.ofDigitChars 10 digits 0
    if 2147483647 < power then
      if significand ≠ 0 && !negative then none else some 0.0
    else scale? significand (if negative then places - power else places + power)

/-- The integer that a literal without point and power denotes, if it fits into 64 bits. A
negative zero is no integer. -/
def integer? (numeral : Numeral) : Option Int :=
  let value := Nat.ofDigitChars 10 numeral.whole 0
  if !numeral.fraction.isEmpty || numeral.power.isSome then none
  else if numeral.negative then
    if 0 < value && value ≤ Nat.pow 2 63 then some (-value) else none
  else if value < Nat.pow 2 64 then some value
  else none

/-- The value of a literal, if it has one. -/
def value? (numeral : Numeral) : Option Number :=
  match numeral.integer? with
  | some value => some (.integer value)
  | none =>
    numeral.float?.map fun size => .float (if numeral.negative then -size else size)

/-! ### Progress -/

theorem length_dropWhile_le (condition : Char → Bool) (text : List Char) :
    (text.dropWhile condition).length ≤ text.length :=
  (List.dropWhile_suffix condition).length_le

theorem length_digits? {text digits rest : List Char} (found : digits? text = some (digits, rest)) :
    rest.length ≤ text.length := by
  unfold digits? at found
  split at found
  · cases found
  · cases found
    exact length_dropWhile_le _ _

theorem length_whole? {text digits rest : List Char} (found : whole? text = some (digits, rest)) :
    rest.length < text.length := by
  cases text with
  | nil => cases found
  | cons first tail =>
    rw [whole?] at found
    have shorter := length_dropWhile_le Char.isDigit tail
    split at found
    · split at found
      · cases found
        simp
      · cases found
    · split at found
      · cases found
        simp only [List.length_cons]
        omega
      · cases found

theorem length_fraction? {text digits rest : List Char}
    (found : fraction? text = some (digits, rest)) : rest.length ≤ text.length := by
  unfold fraction? at found
  split at found
  next tail =>
    have shorter := length_digits? found
    simp only [List.length_cons]
    omega
  next =>
    cases found
    exact Nat.le_refl _

theorem length_exponent? {text rest : List Char} {power : Bool × List Char}
    (found : exponent? text = some (power, rest)) : rest.length ≤ text.length := by
  unfold exponent? at found
  split at found
  all_goals
    obtain ⟨inner, innerFound, same⟩ := Option.map_eq_some_iff.1 found
    cases same
    have shorter := length_digits? innerFound
  · exact Nat.le_succ_of_le shorter
  · exact Nat.le_succ_of_le shorter
  · exact shorter

theorem length_power? {text rest : List Char} {power : Option (Bool × List Char)}
    (found : power? text = some (power, rest)) : rest.length ≤ text.length := by
  cases text with
  | nil =>
    cases found
    exact Nat.le_refl _
  | cons mark tail =>
    rw [power?] at found
    split at found
    · obtain ⟨inner, innerFound, same⟩ := Option.map_eq_some_iff.1 found
      cases same
      have shorter := length_exponent? innerFound
      simp only [List.length_cons]
      omega
    · cases found
      exact Nat.le_refl _

theorem length_unsigned? {negative : Bool} {text rest : List Char} {numeral : Numeral}
    (found : unsigned? negative text = some (numeral, rest)) : rest.length < text.length := by
  obtain ⟨whole, wholeFound, found⟩ := Option.bind_eq_some_iff.1 found
  obtain ⟨fraction, fractionFound, found⟩ := Option.bind_eq_some_iff.1 found
  obtain ⟨power, powerFound, same⟩ := Option.map_eq_some_iff.1 found
  cases same
  have first := length_whole? wholeFound
  have second := length_fraction? fractionFound
  have third := length_power? powerFound
  omega

theorem length_scan? {text rest : List Char} {numeral : Numeral}
    (found : scan? text = some (numeral, rest)) : rest.length < text.length := by
  unfold scan? at found
  split at found
  · have shorter := length_unsigned? found
    simp only [List.length_cons]
    omega
  · exact length_unsigned? found

end Numeral

end ActionDirectory.Json
