/-
The words of the settings. What happens to a registration under a taken
identifier is a policy; a policy has several spellings, and a flag has several
as well. A spelling is compared without regard to blanks around it and to the
case of its letters.
-/

import ActionDirectory.Failure
import ActionDirectory.Text.Blank
import ActionDirectory.Text.LowerCase

namespace ActionDirectory

/-- A word without the blanks around it, in small letters. -/
def normalized (word : String) : List Char :=
  LowerCase.ofChars (Blank.trim word.toList)

/-- What a guarded registration does if the identifier is taken. -/
inductive Policy where
  /-- The last write wins. -/
  | replace
  /-- The existing entry stays and the registration is refused. -/
  | reject
deriving DecidableEq, Repr

namespace Policy

def word : Policy → String
  | replace => "replace"
  | reject => "reject"

def debug : Policy → String
  | replace => "Replace"
  | reject => "Reject"

def spellings : Policy → List String
  | replace => ["replace", "overwrite", "last-write-wins"]
  | reject => ["reject", "error", "strict"]

/-- A word spells a policy if it is one of its spellings, blanks around it and case aside. -/
def spells (policy : Policy) (word : String) : Bool :=
  policy.spellings.any fun spelling => spelling.toList = normalized word

/-- The failure that reports a word which spells no policy, as it was given. -/
def invalid (word : String) : Failure :=
  .configuration
    ("Invalid duplicate policy '" ++ word ++ "'. Must be one of: replace, reject")

def ofWord (word : String) : Except Failure Policy :=
  if replace.spells word then .ok replace
  else if reject.spells word then .ok reject
  else .error (invalid word)

end Policy

namespace Flag

def spellings : Bool → List String
  | true => ["1", "true", "yes", "on"]
  | false => ["0", "false", "no", "off"]

/-- A word spells a truth value if it is one of its spellings, blanks around it and case
aside. -/
def spells (value : Bool) (word : String) : Bool :=
  (spellings value).any fun spelling => spelling.toList = normalized word

def ofWord? (word : String) : Option Bool :=
  if spells true word then some true
  else if spells false word then some false
  else none

def word : Bool → String
  | true => "true"
  | false => "false"

end Flag

end ActionDirectory
