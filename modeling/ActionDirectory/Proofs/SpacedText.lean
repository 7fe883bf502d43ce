/-
Texts with blanks. JSON allows blanks around every mark, number and quoted text, so a list of
identifiers or a map with identifiers as keys has many texts, and each of them is an arrangement of
items between marks with gaps in all places. The gaps change none of the tokens. Behind every item
stands a mark, so an item is read alike whatever texts come after it.
-/

import ActionDirectory.Proofs.RoundTrip

namespace ActionDirectory

open Json

/-! ### Blanks -/

/-- Blanks that may stand between two tokens. -/
structure Wire.Gap where
  text : List Char
  blank : ∀ character ∈ text, isBlank character = true

/-- No blank at all. -/
def Wire.Gap.none : Gap where
  text := []
  blank _ member := absurd member List.not_mem_nil

/-- An item with the blanks on both of its sides. -/
structure Wire.Spaced (Item : Type) where
  before : Gap := .none
  item : Item
  behind : Gap := .none

namespace Wire

variable {registry : Registry} {history : List Action}

def Spaced.text {Item : Type} (write : Item → List Char) (spaced : Spaced Item) : List Char :=
  spaced.before.text ++ (write spaced.item ++ spaced.behind.text)

theorem tokens_gap (gap : Gap) (rest : List Char) : tokens (gap.text ++ rest) = tokens rest := by
  have same : Token.next (gap.text ++ rest) = Token.next rest := by
    rw [Token.next, List.dropWhile_append_of_pos gap.blank]
    rfl
  cases first : Token.next rest with
  | none => rw [tokens_eq_nil_of_next (same.trans first), tokens_eq_nil_of_next first]
  | some found => rw [tokens_of_next (same.trans first), tokens_of_next first]

theorem endsNumber_gap (gap : Gap) {rest : List Char} (ends : EndsNumber rest) :
    EndsNumber (gap.text ++ rest) := by
  obtain ⟨text, blank⟩ := gap
  cases text with
  | nil => exact ends
  | cons first others =>
    have firstBlank := blank first List.mem_cons_self
    simp only [isBlank, Bool.or_eq_true, decide_eq_true_eq] at firstBlank
    rcases firstBlank with ((rfl | rfl) | rfl) | rfl
    all_goals exact ⟨rfl, by decide, by decide, by decide⟩

theorem tokens_gap_alone (gap : Gap) : tokens gap.text = [] := by
  rw [← List.append_nil gap.text, tokens_gap, tokens_nil]

theorem endsNumber_gap_alone (gap : Gap) : EndsNumber gap.text := by
  rw [← List.append_nil gap.text]
  exact endsNumber_gap gap trivial

/-- Blanks do not change which tokens an item is. -/
theorem tokens_spaced_append {Item : Type} {write : Item → List Char} {spaced : Spaced Item}
    {image : List Token} {rest : List Char}
    (read : tokens (write spaced.item ++ (spaced.behind.text ++ rest)) =
      image ++ tokens (spaced.behind.text ++ rest)) :
    tokens (spaced.text write ++ rest) = image ++ tokens rest := by
  rw [Spaced.text, List.append_assoc, tokens_gap, List.append_assoc, read, tokens_gap]

theorem tokens_spaced {Item : Type} {write : Item → List Char} {spaced : Spaced Item}
    {token : Token} {rest : List Char}
    (read : tokens (write spaced.item ++ (spaced.behind.text ++ rest)) =
      token :: tokens (spaced.behind.text ++ rest)) :
    tokens (spaced.text write ++ rest) = token :: tokens rest := by
  have one : [token] ++ tokens (spaced.behind.text ++ rest) = _ := List.singleton_append
  exact (tokens_spaced_append (read.trans one.symm)).trans List.singleton_append

/-! ### Elements and members -/

/-- An identifier as an element of a list. -/
def elementText : Spaced Id → List Char :=
  Spaced.text fun id => Decimal.signed id.value

/-- An identifier as the key of a member. -/
def keyText : Spaced Id → List Char :=
  Spaced.text fun id => quote (Decimal.signed id.value)

/-- A member of a map: an integer of 64 signed bits under an identifier. -/
structure KeyedValue where
  key : Spaced Id
  value : Spaced Int
  fits : -9223372036854775808 ≤ value.item ∧ value.item ≤ 9223372036854775807

def KeyedValue.text (member : KeyedValue) : List Char :=
  keyText member.key ++ ':' :: member.value.text Decimal.signed

theorem tokens_elementText (element : Spaced Id) {rest : List Char} (ends : EndsNumber rest) :
    tokens (elementText element ++ rest) = integerToken element.item.value :: tokens rest :=
  tokens_spaced (tokens_signed element.item.value (endsNumber_gap element.behind ends))

theorem tokens_keyText (key : Spaced Id) (rest : List Char) :
    tokens (keyText key ++ rest) = .quoted (Decimal.signed key.item.value) :: tokens rest := by
  refine tokens_spaced ?_
  rw [tokens_quote, flatMap_escape_signed]

theorem tokens_memberText (member : KeyedValue) {rest : List Char} (ends : EndsNumber rest) :
    tokens (member.text ++ rest) =
      [.quoted (Decimal.signed member.key.item.value), .colon, integerToken member.value.item] ++
        tokens rest := by
  have value : tokens (member.value.text Decimal.signed ++ rest) =
      integerToken member.value.item :: tokens rest :=
    tokens_spaced (tokens_signed member.value.item (endsNumber_gap member.value.behind ends))
  rw [KeyedValue.text, List.append_assoc, tokens_keyText, List.cons_append, tokens_of_next rfl,
    value]
  rfl

/-! ### Enclosed items -/

/-- The blanks around the marks that enclose items. -/
structure Frame where
  before : Gap := .none
  inside : Gap := .none
  behind : Gap := .none

/-- Items between two marks. -/
def Frame.text (frame : Frame) (opening closing : Char) (items : List (List Char)) : List Char :=
  frame.before.text ++ opening ::
    (frame.inside.text ++ (separated items ++ closing :: frame.behind.text))

variable {frame : Frame} {opening closing : Char}

theorem tokens_frame {first : Token}
    (opens : ∀ rest, Token.next (opening :: rest) = some (first, rest))
    (items : List (List Char)) :
    tokens (frame.text opening closing items) =
      first :: tokens (separated items ++ closing :: frame.behind.text) := by
  rw [Frame.text, tokens_gap, tokens_of_next (opens _), tokens_gap]

theorem tokens_frame_end {last : Token}
    (closes : ∀ rest, Token.next (closing :: rest) = some (last, rest)) :
    tokens (closing :: frame.behind.text) = [last] := by
  rw [tokens_of_next (closes _), tokens_gap_alone]

/-- The first item is followed by a mark, whatever else follows. -/
theorem exists_separated_cons (mark : closing ∈ [',', ']', '\x7d']) (item : List Char)
    (others : List (List Char)) (tail : List Char) :
    ∃ rest, EndsNumber rest ∧ separated (item :: others) ++ closing :: tail = item ++ rest := by
  cases others with
  | nil => exact ⟨closing :: tail, endsNumber_of_mark mark tail, rfl⟩
  | cons next others =>
    refine ⟨',' :: (separated (next :: others) ++ closing :: tail),
      endsNumber_of_mark (by decide) _, ?_⟩
    show item ++ ',' :: separated (next :: others) ++ closing :: tail = _
    rw [List.append_assoc, List.cons_append]

theorem separated_cons_append (first item : List Char) (front others : List (List Char)) :
    separated (first :: (front ++ item :: others)) =
      first ++ ',' :: separated (front ++ item :: others) := by
  cases front <;> rfl

end Wire

end ActionDirectory
