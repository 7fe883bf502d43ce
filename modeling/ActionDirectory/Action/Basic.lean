/-
Event actions. An action is an identifier of 32 signed bits together with a
name, which may be empty. The identifier alone makes an action the same as
another one and decides their order; the name is only for display, and where it
is missing the decimal identifier is shown instead.
-/

import ActionDirectory.Text.Decimal
import ActionDirectory.Text.Quoted

namespace ActionDirectory

/-! ### Identifiers -/

/-- An integer of 32 signed bits. -/
structure Id where
  value : Int
  lower : -2147483648 ≤ value := by decide
  upper : value ≤ 2147483647 := by decide
deriving DecidableEq, Repr

namespace Id

theorem ext_value {first second : Id} (same : first.value = second.value) : first = second := by
  cases first
  cases second
  cases same
  rfl

theorem ne_of_lt {first second : Id} (less : first.value < second.value) : first ≠ second := by
  rintro rfl
  exact Int.lt_irrefl _ less

/-- The identifier of an integer, if it fits. -/
def ofInt? (value : Int) : Option Id :=
  if fits : -2147483648 ≤ value ∧ value ≤ 2147483647 then some ⟨value, fits.1, fits.2⟩ else none

theorem ofInt?_value (id : Id) : ofInt? id.value = some id := by
  simp [ofInt?, id.lower, id.upper]

theorem ofInt?_eq_none_iff {value : Int} :
    ofInt? value = none ↔ value < -2147483648 ∨ 2147483647 < value := by
  unfold ofInt?
  split
  · simp only [reduceCtorEq, false_iff]
    omega
  · simp only [true_iff]
    omega

/-- The identifiers from one number on and below another, if all of these numbers fit. -/
def range? (first last : Int) : Option (List Id) :=
  if last ≤ first then some []
  else if (ofInt? first).isNone || (ofInt? (last - 1)).isNone then none
  else (List.range (last - first).toNat).mapM fun offset : Nat => ofInt? (first + (offset : Int))

/-- The decimal text of an identifier. -/
def text (id : Id) : String :=
  Decimal.text id.value

end Id

/-! ### Actions -/

/-- An identifier with the name that is displayed for it. -/
structure Action where
  id : Id
  name : String
deriving DecidableEq, Repr

namespace Action

/-- The stored name, if there is one. -/
def name? (action : Action) : Option String :=
  if action.name = "" then none else some action.name

/-- The displayed text: the name, or the decimal identifier of an action without a name. -/
def rendered (action : Action) : String :=
  match action.name? with
  | some name => name
  | none => action.id.text

/-- Two actions are the same if their identifiers are. -/
def same (first second : Action) : Bool :=
  first.id = second.id

/-- The order of two actions is the order of their identifiers. -/
def order (first second : Action) : Ordering :=
  compare first.id.value second.id.value

/-- The part of an action that a hash is made of. -/
def hashed (action : Action) : Int :=
  action.id.value

def debug (action : Action) : String :=
  "EventAction \x7b id: " ++ action.id.text ++ ", name: " ++ Quoted.encode action.name ++ " \x7d"

theorem name?_eq_some_iff {action : Action} {name : String} :
    action.name? = some name ↔ action.name = name ∧ name ≠ "" := by
  unfold name?
  split
  next empty => simp [empty, eq_comm]
  next named =>
    constructor
    · intro found
      cases found
      exact ⟨rfl, named⟩
    · rintro ⟨rfl, _⟩
      rfl

theorem name?_eq_none_iff {action : Action} : action.name? = none ↔ action.name = "" := by
  unfold name?
  split <;> simp_all

theorem rendered_of_unnamed {action : Action} (unnamed : action.name = "") :
    action.rendered = action.id.text := by
  rw [rendered, name?_eq_none_iff.2 unnamed]

theorem rendered_of_named {action : Action} (named : action.name ≠ "") :
    action.rendered = action.name := by
  rw [rendered, name?_eq_some_iff.2 ⟨rfl, named⟩]

end Action

end ActionDirectory
