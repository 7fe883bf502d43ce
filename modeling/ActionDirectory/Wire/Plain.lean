/-
Plain values: single values that are handed over as they are, without a text
around them. An integer of up to 64 bits is an identifier if it fits, whatever
its own width; a value of any other kind is no identifier.
-/

import ActionDirectory.Number.Float64
import ActionDirectory.Wire.Action

namespace ActionDirectory.Wire

/-- A kind of integers: with or without negative ones, of a number of bits. -/
structure Width where
  signed : Bool
  bits : Nat
deriving DecidableEq, Repr

/-- The integers of a width. -/
def Width.holds (width : Width) (value : Int) : Bool :=
  if width.signed then -Int.pow 2 (width.bits - 1) ≤ value && value < Int.pow 2 (width.bits - 1)
  else 0 ≤ value && value < Int.pow 2 width.bits

inductive Kind where
  | integer (width : Width)
  | float
  | boolean
  | character
  | text
  | nothing
  | sequence
deriving DecidableEq, Repr

inductive Plain where
  | integer (width : Width) (value : Int)
  | float (value : Float)
  | boolean (value : Bool)
  | string (value : String)
  | nothing
  | sequence

/-- The value of a kind that a text denotes, if it denotes one. -/
def Plain.ofText? (kind : Kind) (text : String) : Option Plain :=
  match kind with
  | .integer width =>
    if !width.signed && text.toList.head? = some '-' then none
    else
      (Decimal.signed? text.toList).bind fun value =>
        if width.holds value then some (.integer width value) else none
  | .float => (Float64.ofText? text.toList).map Plain.float
  | .boolean =>
    if text = "true" then some (.boolean true)
    else if text = "false" then some (.boolean false)
    else none
  | .character => if text.length = 1 then some (.string text) else none
  | .text => some (.string text)
  | .nothing => some .nothing
  | .sequence => some .sequence

/-- What a plain value is where an identifier was expected. -/
def Plain.found : Plain → Found
  | .integer width value =>
    if width.bits ≤ 64 then .integer value
    else if width.signed then .wideSigned value
    else .wideUnsigned value
  | .float value => .float (Float64.text .positional value)
  | .boolean value => .boolean value
  | .string value => .string value
  | .nothing => .nothing
  | .sequence => .sequence

/-- The identifier that a plain value is. -/
def Plain.id (plain : Plain) : Except Refusal Id :=
  match plain with
  | .integer width value =>
    if width.bits ≤ 64 then
      match Id.ofInt? value with
      | some id => .ok id
      | none => .error (.data (.invalidValue value .int32))
    else .error (.data (.invalidType plain.found .int32))
  | _ => .error (.data (.invalidType plain.found .int32))

/-- The action that a plain value stands for. -/
def decodePlain (registry : Registry) (plain : Plain) : Except Refusal Action :=
  plain.id.bind (resolve registry)

end ActionDirectory.Wire
