/-
Decimal text of integers. A written number has no superfluous zeros and a minus
sign only below zero; a read number may carry either sign and any number of
leading zeros, and has at least one digit. The main statements: reading what was
written gives the number back, and so two numbers have one text only if they are
equal.
-/

namespace ActionDirectory.Decimal

/-! ### Writing -/

/-- The digits of a natural number, most significant first. -/
def natural (value : Nat) : List Char :=
  Nat.toDigits 10 value

/-- The digits of an integer, after a minus sign if it is negative. -/
def signed : Int → List Char
  | .ofNat value => natural value
  | .negSucc value => '-' :: natural (value + 1)

def text (value : Int) : String :=
  String.ofList (signed value)

/-! ### Reading -/

/-- The number that one or more ASCII digits denote. -/
def natural? (digits : List Char) : Option Nat :=
  if digits.isEmpty || !digits.all Char.isDigit then none
  else some (Nat.ofDigitChars 10 digits 0)

/-- The number that digits denote after at most one sign. -/
def signed? : List Char → Option Int
  | '+' :: digits => (natural? digits).map Int.ofNat
  | '-' :: digits => (natural? digits).map fun value => -Int.ofNat value
  | digits => (natural? digits).map Int.ofNat

/-! ### Reading what was written -/

theorem natural_ne_nil (value : Nat) : natural value ≠ [] :=
  Nat.toDigits_ne_nil

theorem isDigit_of_mem_natural {value : Nat} {digit : Char} (member : digit ∈ natural value) :
    digit.isDigit = true :=
  Nat.isDigit_of_mem_toDigits (by decide) (by decide) member

theorem natural?_natural (value : Nat) : natural? (natural value) = some value := by
  have digits : (natural value).all Char.isDigit = true :=
    List.all_eq_true.2 fun _ member => isDigit_of_mem_natural member
  have nonempty : (natural value).isEmpty = false := by
    cases written : natural value with
    | nil => exact absurd written (natural_ne_nil value)
    | cons => rfl
  simp only [natural?, digits, nonempty, Bool.not_true, Bool.or_self, Bool.false_eq_true, if_false]
  exact congrArg some (Nat.ofDigitChars_ten_toDigits)

theorem signed?_of_isDigit {first : Char} (rest : List Char) (digit : first.isDigit = true) :
    signed? (first :: rest) = (natural? (first :: rest)).map Int.ofNat := by
  have plus : first ≠ '+' := fun equal => by rw [equal] at digit; exact absurd digit (by decide)
  have minus : first ≠ '-' := fun equal => by rw [equal] at digit; exact absurd digit (by decide)
  simp [signed?, plus, minus]

theorem signed?_signed (value : Int) : signed? (signed value) = some value := by
  cases value with
  | ofNat value =>
    show signed? (natural value) = _
    cases written : natural value with
    | nil => exact absurd written (natural_ne_nil value)
    | cons first rest =>
      have member : first ∈ natural value := written ▸ List.mem_cons_self
      have digit := isDigit_of_mem_natural member
      rw [signed?_of_isDigit rest digit, ← written, natural?_natural]
      rfl
  | negSucc value =>
    show (natural? (natural (value + 1))).map (fun value => -Int.ofNat value) = _
    rw [natural?_natural]
    rfl

theorem signed_injective {first second : Int} (same : signed first = signed second) :
    first = second :=
  Option.some.inj (by rw [← signed?_signed first, same, signed?_signed])

end ActionDirectory.Decimal
