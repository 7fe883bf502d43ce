/-
The shortest decimal text of a binary floating point number. Every number that
is not zero stands in an interval of reals that round to it; its text has the
fewest significant digits with which some decimal lies in that interval, and of
the decimals with that many digits the one nearest to the number. A layout then
decides which one of two equally near decimals that is, and where the digits
stand with a decimal point and where with a power of ten.
-/

namespace ActionDirectory.Shortest

/-! ### Numbers and the intervals that round to them -/

/-- The positive number `mantissa * 2 ^ exponent`, with 53 binary digits unless it is
subnormal. -/
structure Binary where
  mantissa : Nat
  exponent : Int
deriving DecidableEq, Repr

/-- The numerator and denominator of a power. -/
def power (base : Nat) : Int → Nat × Nat
  | .ofNat exponent => (base.pow exponent, 1)
  | .negSucc exponent => (1, base.pow (exponent + 1))

/-- Four times the lower end of the interval, in units of the last binary digit. Below a
power of two the neighbour is half as far. -/
def Binary.low (value : Binary) : Nat :=
  if value.mantissa = Nat.pow 2 52 && value.exponent > -1074 then 4 * value.mantissa - 1
  else 4 * value.mantissa - 2

/-- Four times the upper end of the interval, in units of the last binary digit. -/
def Binary.high (value : Binary) : Nat :=
  4 * value.mantissa + 2

/-- The ends round to the number if its mantissa is even. -/
def Binary.closed (value : Binary) : Bool :=
  value.mantissa % 2 = 0

/-! ### Digits -/

/-- A decimal number `significand * 10 ^ exponent`. -/
structure Digits where
  significand : Nat
  exponent : Int
deriving DecidableEq, Repr

/-- Which one of two equally near decimals is taken. -/
inductive Tie where
  | toEven
  | awayFromZero
deriving DecidableEq, Repr

/-- The multiple of `10 ^ exponent` in the interval of the number that is nearest to it. -/
def Binary.onGrid (value : Binary) (tie : Tie) (exponent : Int) : Option Nat :=
  let unit := power 2 (value.exponent - 2)
  let grid := power 10 exponent
  let scale := unit.1 * grid.2
  let step := unit.2 * grid.1
  let target := 4 * value.mantissa * scale
  let below := target / step
  let above := below + 1
  let inside := fun candidate : Nat =>
    let position := candidate * step
    if value.closed then value.low * scale ≤ position && position ≤ value.high * scale
    else value.low * scale < position && position < value.high * scale
  let nearer :=
    let down := target - below * step
    let up := above * step - target
    if down < up then below
    else if up < down then above
    else if tie = .toEven && below % 2 = 0 then below
    else above
  let further := if nearer = below then above else below
  if 0 < nearer && inside nearer then some nearer
  else if 0 < further && inside further then some further
  else none

/-- The place of the decimal point: the number lies below this power of ten and not below the
one before it. -/
def Binary.magnitude (value : Binary) : Int :=
  let scale := power 2 value.exponent
  let numerator := value.mantissa * scale.1
  if scale.2 ≤ numerator then
    (Nat.toDigits 10 (numerator / scale.2)).length
  else
    match (List.range 330).find? fun places => scale.2 ≤ numerator * Nat.pow 10 places with
    | some places => 1 - (places : Int)
    | none => 0

/-- The shortest digits that read back as the number. -/
def Binary.digits (value : Binary) (tie : Tie) : Digits :=
  let magnitude := value.magnitude
  let attempt := fun count : Nat =>
    let exponent := magnitude - (count + 1 : Nat)
    (value.onGrid tie exponent).map fun significand => Digits.mk significand exponent
  match (List.range 17).findSome? attempt with
  | some digits => digits
  | none => ⟨value.mantissa, 0⟩

/-! ### Text -/

/-- The decisions of a format that writes numbers. -/
structure Layout where
  /-- The places of the decimal point, counted from before the first digit, for which a number
  is written without a power of ten. -/
  isPositional : Int → Bool
  tie : Tie

/-- Every number is written without a power of ten, and the greater one of two equally near
decimals is taken. -/
def Layout.positional : Layout where
  isPositional _ := true
  tie := .awayFromZero

/-- Numbers from `10 ^ -5` up to below `10 ^ 16` are written without a power of ten, and the even
one of two equally near decimals is taken. -/
def Layout.scientific : Layout where
  isPositional point := -5 < point && point ≤ 16
  tie := .toEven

/-- The digits of a number and the place of its decimal point, laid out. A power of ten shows its
sign. -/
def Layout.place (layout : Layout) (digits : List Char) (point : Int) : List Char :=
  let count : Int := digits.length
  if layout.isPositional point then
    if point ≤ 0 then ['0', '.'] ++ List.replicate (-point).toNat '0' ++ digits
    else if count ≤ point then digits ++ List.replicate (point - count).toNat '0' ++ ['.', '0']
    else digits.take point.toNat ++ ['.'] ++ digits.drop point.toNat
  else
    let fraction :=
      match digits.drop 1 with
      | [] => []
      | rest => '.' :: rest
    let power := point - 1
    let sign := if power < 0 then '-' else '+'
    digits.take 1 ++ fraction ++ 'e' :: sign :: Nat.toDigits 10 power.natAbs

/-- Digits without the zeros at their end, which only move the point. -/
def withoutTrailingZeros (digits : List Char) : List Char :=
  (digits.reverse.dropWhile (· == '0')).reverse

def Layout.text (layout : Layout) (value : Binary) : List Char :=
  let shortest := value.digits layout.tie
  let digits := Nat.toDigits 10 shortest.significand
  layout.place (withoutTrailingZeros digits) (shortest.exponent + digits.length)

end ActionDirectory.Shortest
