/-
Quoted text for diagnostics: a text in double quotes, with the quote, the
backslash and all characters that are not visible escaped. Every other character,
the apostrophe included, stands for itself.
-/

import ActionDirectory.Text.Visible

namespace ActionDirectory.Quoted

def hexadecimal (code : Nat) : List Char :=
  Nat.toDigits 16 code

/-- One character as it stands between the quotes. -/
def escape (character : Char) : List Char :=
  match character with
  | '"' => ['\\', '"']
  | '\\' => ['\\', '\\']
  | '\t' => ['\\', 't']
  | '\n' => ['\\', 'n']
  | '\r' => ['\\', 'r']
  | '\x00' => ['\\', '0']
  | other =>
    if Visible.isVisible other then [other]
    else ['\\', 'u', '{'] ++ hexadecimal other.toNat ++ ['}']

def encode (text : String) : String :=
  String.ofList ('"' :: text.toList.flatMap escape ++ ['"'])

end ActionDirectory.Quoted
