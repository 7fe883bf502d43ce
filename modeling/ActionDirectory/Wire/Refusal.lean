/-
Refusals of a decoder. Either the text is malformed, or what it says cannot be
taken; then the reason tells what was found and what had been expected. The
first fault of a text, read from left to right, is the one that counts. A
refusal tells neither where in the text the fault stands nor, of a malformed
text, what is wrong with it.
-/

import ActionDirectory.Failure

namespace ActionDirectory.Wire

/-- What stands where something else was expected. -/
inductive Found where
  | integer (value : Int)
  | wideSigned (value : Int)
  | wideUnsigned (value : Int)
  | float (text : String)
  | boolean (value : Bool)
  | string (value : String)
  | null
  | nothing
  | sequence
  | map
deriving DecidableEq, Repr

def Found.describe : Found → String
  | integer value => "integer `" ++ Decimal.text value ++ "`"
  | wideSigned value => "integer `" ++ Decimal.text value ++ "` as i128"
  | wideUnsigned value => "integer `" ++ Decimal.text value ++ "` as u128"
  | float text => "floating point `" ++ text ++ "`"
  | boolean value => if value then "boolean `true`" else "boolean `false`"
  | string value => "string " ++ Quoted.encode value
  | null => "null"
  | nothing => "unit value"
  | sequence => "sequence"
  | map => "map"

inductive Expected where
  | int32
  | int64
  | string
  | boolean
  | sequence
  | map
  | settings
  | notification
deriving DecidableEq, Repr

def Expected.describe : Expected → String
  | int32 => "i32"
  | int64 => "i64"
  | string => "a string"
  | boolean => "a boolean"
  | sequence => "a sequence"
  | map => "a map"
  | settings => "struct RegistryConfig"
  | notification => "struct Notification"

/-- The reasons for which a well-formed value is not taken. -/
inductive Reason where
  | invalidType (found : Found) (expected : Expected)
  | invalidValue (value : Int) (expected : Expected)
  | missingField (name : String)
  | duplicateField (name : String)
  /-- A list ends before all fields have a value. -/
  | invalidLength (length : Nat) (expected : Expected) (fields : Nat)
  /-- The value means something that does not exist. -/
  | failed (failure : Failure)
deriving DecidableEq, Repr

def Reason.message : Reason → String
  | invalidType found expected =>
    "invalid type: " ++ found.describe ++ ", expected " ++ expected.describe
  | invalidValue value expected =>
    "invalid value: integer `" ++ Decimal.text value ++ "`, expected " ++ expected.describe
  | missingField name => "missing field `" ++ name ++ "`"
  | duplicateField name => "duplicate field `" ++ name ++ "`"
  | invalidLength length expected fields =>
    "invalid length " ++ Decimal.text length ++ ", expected " ++ expected.describe ++ " with " ++
      Decimal.text fields ++ " elements"
  | failed failure => failure.message

/-- What a decoder answers instead of a value. -/
inductive Refusal where
  /-- The text does not have the form of its language. -/
  | malformed
  /-- The text has the form of its language up to a value that is not taken. -/
  | data (reason : Reason)
deriving DecidableEq, Repr

end ActionDirectory.Wire
