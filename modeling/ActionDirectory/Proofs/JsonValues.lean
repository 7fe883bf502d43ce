/-
Values of JSON by their texts. What a value is, is told here on its own, from characters to nested
objects: words, numbers, quoted texts, and values or members between brackets, with blanks around
each of them. Decoders do not follow this grammar. They read tokens from left to right and pass
over a value they do not know by the brackets that are open, and they never look at a value twice.

The two agree on every value. Its tokens are the same whatever stands behind it, as long as no
number is continued, and they lead from the place where a value has to come to the place behind
it, inside any brackets. So a value that is passed over ends where the grammar says it ends.
-/

import ActionDirectory.Proofs.JsonObject
import ActionDirectory.Proofs.SpacedText
import ActionDirectory.Proofs.Spelling

namespace ActionDirectory

namespace Json

/-! ### Numbers -/

/-- One or more digits. -/
structure Digits where
  first : Fin 10
  others : List (Fin 10)

def Digits.text (digits : Digits) : List Char :=
  (digits.first :: digits.others).map Decimal.digitChar

/-- The power of ten in a number as it is written. -/
structure PowerText where
  capital : Bool
  sign : Decimal.Sign
  digits : Digits

def PowerText.text (power : PowerText) : List Char :=
  (if power.capital then 'E' else 'e') :: (power.sign.text ++ power.digits.text)

/-- A number as it is written. -/
structure NumberText where
  negative : Bool
  whole : Digits
  /-- Digits before the point begin with zero only if there is a single one. -/
  single : whole.first = 0 → whole.others = []
  fraction : Option Digits
  power : Option PowerText

namespace NumberText

def fractionText : Option Digits → List Char
  | none => []
  | some digits => '.' :: digits.text

def powerText : Option PowerText → List Char
  | none => []
  | some power => power.text

def unsigned (number : NumberText) : List Char :=
  number.whole.text ++ (fractionText number.fraction ++ powerText number.power)

def text (number : NumberText) : List Char :=
  if number.negative then '-' :: number.unsigned else number.unsigned

/-- The parts of a written number. -/
def numeral (number : NumberText) : Numeral where
  negative := number.negative
  whole := number.whole.text
  fraction := (number.fraction.map Digits.text).getD []
  power := number.power.map fun power => (decide (power.sign = .minus), power.digits.text)

end NumberText

theorem Digits.isDigit_of_mem (digits : Digits) :
    ∀ character ∈ digits.text, character.isDigit = true := by
  refine List.forall_mem_map.2 fun digit _ => ?_
  exact Decimal.isDigit_digitChar digit

theorem Digits.exists_text_eq_cons (digits : Digits) :
    ∃ first others, first.isDigit = true ∧ digits.text = first :: others :=
  ⟨_, _, Decimal.isDigit_digitChar digits.first, rfl⟩

namespace Numeral

variable {rest : List Char}

theorem digits?_text (digits : Digits) (stops : rest.takeWhile Char.isDigit = []) :
    digits? (digits.text ++ rest) = some (digits.text, rest) := by
  rw [digits?, takeWhile_digits digits.isDigit_of_mem stops,
    dropWhile_digits digits.isDigit_of_mem stops]
  rfl

theorem whole?_text {digits : Digits} (single : digits.first = 0 → digits.others = [])
    (stops : rest.takeWhile Char.isDigit = []) :
    whole? (digits.text ++ rest) = some (digits.text, rest) := by
  obtain ⟨first, others⟩ := digits
  have isDigit : ∀ character ∈ others.map Decimal.digitChar, character.isDigit = true :=
    List.forall_mem_map.2 fun digit _ => Decimal.isDigit_digitChar digit
  show whole? (Decimal.digitChar first :: (others.map Decimal.digitChar ++ rest)) =
    some (Decimal.digitChar first :: others.map Decimal.digitChar, rest)
  rw [whole?]
  by_cases zero : first = 0
  · have alone : others = [] := single zero
    subst zero alone
    show (if (rest.takeWhile Char.isDigit).isEmpty then _ else _) = _
    rw [stops]
    rfl
  · have notZero : ∀ digit : Fin 10, digit ≠ 0 → Decimal.digitChar digit ≠ '0' := by decide
    rw [if_neg (notZero first zero), if_pos (Decimal.isDigit_digitChar first),
      takeWhile_digits isDigit stops, dropWhile_digits isDigit stops]

theorem exponent?_text (sign : Decimal.Sign) (digits : Digits)
    (stops : rest.takeWhile Char.isDigit = []) :
    exponent? (sign.text ++ (digits.text ++ rest)) =
      some ((decide (sign = .minus), digits.text), rest) := by
  have read := digits?_text digits stops
  cases sign with
  | plus => exact congrArg (Option.map _) read
  | minus => exact congrArg (Option.map _) read
  | none =>
    obtain ⟨first, others, isDigit, text⟩ := digits.exists_text_eq_cons
    show exponent? (digits.text ++ rest) = _
    rw [text, List.cons_append] at read ⊢
    have unsigned := exponent?.eq_3 (first :: (others ++ rest))
      (fun tail same => by
        rw [(List.cons.inj same).1] at isDigit
        cases isDigit)
      (fun tail same => by
        rw [(List.cons.inj same).1] at isDigit
        cases isDigit)
    rw [unsigned, read]
    rfl

theorem power?_text (power : Option PowerText) (ends : EndsNumber rest) :
    power? (NumberText.powerText power ++ rest) =
      some (power.map fun power => (decide (power.sign = .minus), power.digits.text), rest) := by
  cases power with
  | none =>
    cases rest with
    | nil => rfl
    | cons first tail =>
      show power? (first :: tail) = _
      simp [power?, ends.2.2.1, ends.2.2.2]
  | some power =>
    have read := exponent?_text power.sign power.digits (takeWhile_isDigit_of_ends ends)
    have mark : ((if power.capital then 'E' else 'e') = 'e' ||
        (if power.capital then 'E' else 'e') = 'E') = true := by
      cases power.capital <;> rfl
    show power? ((if power.capital then 'E' else 'e') ::
      (power.sign.text ++ power.digits.text ++ rest)) = _
    rw [power?, if_pos mark, List.append_assoc, read]
    rfl

/-- Neither a digit nor a point stands where a power of ten or the end of a number does. -/
theorem power_not_begins (power : Option PowerText) (ends : EndsNumber rest) :
    (NumberText.powerText power ++ rest).takeWhile Char.isDigit = [] ∧
      ∀ tail, NumberText.powerText power ++ rest ≠ '.' :: tail := by
  cases power with
  | none =>
    refine ⟨takeWhile_isDigit_of_ends ends, ?_⟩
    rintro tail rfl
    exact ends.2.1 rfl
  | some power =>
    obtain ⟨capital, sign, digits⟩ := power
    cases capital with
    | false => exact ⟨rfl, nofun⟩
    | true => exact ⟨rfl, nofun⟩

theorem fraction?_text (fraction : Option Digits) (power : Option PowerText)
    (ends : EndsNumber rest) :
    fraction? (NumberText.fractionText fraction ++ (NumberText.powerText power ++ rest)) =
      some ((fraction.map Digits.text).getD [], NumberText.powerText power ++ rest) := by
  obtain ⟨stops, noPoint⟩ := power_not_begins power ends
  cases fraction with
  | none => exact fraction?.eq_2 _ noPoint
  | some digits => exact digits?_text digits stops

theorem unsigned?_text (number : NumberText) (ends : EndsNumber rest) :
    unsigned? number.negative (number.unsigned ++ rest) = some (number.numeral, rest) := by
  obtain ⟨stopsPower, -⟩ := power_not_begins number.power ends
  have stops : (NumberText.fractionText number.fraction ++
      (NumberText.powerText number.power ++ rest)).takeWhile Char.isDigit = [] := by
    cases number.fraction with
    | none => exact stopsPower
    | some digits => rfl
  rw [NumberText.unsigned, List.append_assoc, List.append_assoc, unsigned?,
    whole?_text number.single stops, Option.bind_some, fraction?_text _ _ ends, Option.bind_some,
    power?_text _ ends]
  rfl

/-- A written number is scanned to its end. -/
theorem scan?_text (number : NumberText) (ends : EndsNumber rest) :
    scan? (number.text ++ rest) = some (number.numeral, rest) := by
  have read := unsigned?_text number ends
  cases sign : number.negative with
  | true =>
    rw [NumberText.text, if_pos sign]
    rw [sign] at read
    exact read
  | false =>
    rw [NumberText.text, if_neg (Bool.eq_false_iff.1 sign), scan?_of_unsigned, ← sign]
    · exact read
    · intro tail same
      have minus : Decimal.digitChar number.whole.first = '-' := (List.cons.inj same).1
      exact absurd minus (by generalize number.whole.first = digit; revert digit; decide)

end Numeral

/-! ### The grammar -/

open Wire

/-- A quoted text as it is written. -/
def quotedText (glyphs : List Glyph) : List Char :=
  '"' :: (glyphs.flatMap Glyph.text ++ ['"'])

/-- Items between two marks, with a comma between any two of them. -/
def enclosed (opening closing : Char) (inside : Gap) (items : List (List Char)) : List Char :=
  opening :: (inside.text ++ (separated items ++ [closing]))

/-- A quoted key, a colon and a text. -/
def pairText (pair : Spaced (List Glyph) × Spaced (List Char)) : List Char :=
  pair.1.text quotedText ++ ':' :: pair.2.text id

/-- The texts of values, without blanks around them. -/
inductive IsValue : List Char → Prop
  | null : IsValue ['n', 'u', 'l', 'l']
  | flag (value : Bool) : IsValue (Flag.word value).toList
  | number (number : NumberText) : IsValue number.text
  | quoted (glyphs : List Glyph) : IsValue (quotedText glyphs)
  | array (inside : Gap) (elements : List (Spaced (List Char)))
    (values : ∀ element ∈ elements, IsValue element.item) :
    IsValue (enclosed '[' ']' inside (elements.map (Spaced.text id)))
  | object (inside : Gap) (pairs : List (Spaced (List Glyph) × Spaced (List Char)))
    (values : ∀ pair ∈ pairs, IsValue pair.2.item) :
    IsValue (enclosed '\x7b' '\x7d' inside (pairs.map pairText))

/-! ### Tokens of values -/

theorem next_quotedText (glyphs : List Glyph) (rest : List Char) :
    Token.next (quotedText glyphs ++ rest) = some (.quoted (glyphs.flatMap Glyph.text), rest) := by
  show Token.read ('"' :: (glyphs.flatMap Glyph.text ++ ['"'] ++ rest)) = _
  rw [Token.read, List.append_assoc, List.singleton_append, body?_glyphs]

/-- A text has these tokens whatever stands behind it, as long as no number is continued. -/
def HasTokens (text : List Char) (image : List Token) : Prop :=
  ∀ rest, EndsNumber rest → tokens (text ++ rest) = image ++ tokens rest

namespace HasTokens

variable {text : List Char} {image : List Token}

theorem tokens_eq (has : HasTokens text image) : tokens text = image := by
  have alone := has [] trivial
  rwa [tokens_nil, List.append_nil, List.append_nil] at alone

theorem self (has : HasTokens text image) : HasTokens text (tokens text) := by
  rw [has.tokens_eq]
  exact has

theorem of_next {token : Token}
    (first : ∀ rest, EndsNumber rest → Token.next (text ++ rest) = some (token, rest)) :
    HasTokens text [token] :=
  fun rest ends => tokens_of_next (first rest ends)

theorem null : HasTokens ['n', 'u', 'l', 'l'] [.null] :=
  of_next fun _ _ => rfl

theorem flag (value : Bool) : HasTokens (Flag.word value).toList [.boolean value] := by
  cases value with
  | false => exact of_next fun _ _ => rfl
  | true => exact of_next fun _ _ => rfl

theorem number (number : NumberText) : HasTokens number.text [.number number.numeral] := by
  refine of_next fun rest ends => ?_
  have scanned := Numeral.scan?_text number ends
  obtain ⟨first, others, starts, text⟩ : ∃ first others,
      (first.isDigit = true ∨ first = '-') ∧ number.text = first :: others := by
    rw [NumberText.text]
    split
    · exact ⟨_, _, Or.inr rfl, rfl⟩
    · exact ⟨_, _, Or.inl (Decimal.isDigit_digitChar number.whole.first), rfl⟩
  rw [text, List.cons_append] at scanned ⊢
  exact next_of_scan? starts scanned

theorem quoted (glyphs : List Glyph) :
    HasTokens (quotedText glyphs) [.quoted (glyphs.flatMap Glyph.text)] :=
  of_next fun rest _ => next_quotedText glyphs rest

/-- Blanks change none of the tokens. -/
theorem spaced {Item : Type} {write : Item → List Char} {item : Spaced Item}
    (has : HasTokens (write item.item) image) : HasTokens (item.text write) image :=
  fun _ ends => tokens_spaced_append (has _ (endsNumber_gap item.behind ends))

theorem enclosed {opening closing : Char} {first last : Token}
    (opens : ∀ rest, Token.next (opening :: rest) = some (first, rest))
    (closes : ∀ rest, Token.next (closing :: rest) = some (last, rest))
    (mark : closing ∈ [',', ']', '\x7d']) (inside : Gap) {Item : Type}
    {write : Item → List Char} {image : Item → List Token} {items : List Item}
    (has : ∀ item ∈ items, HasTokens (write item) (image item)) :
    HasTokens (Json.enclosed opening closing inside (items.map write))
      (first :: punctuated last (items.map image)) := by
  intro rest _
  have regrouped : Json.enclosed opening closing inside (items.map write) ++ rest =
      opening :: (inside.text ++ (separated (items.map write) ++ closing :: rest)) := by
    simp [Json.enclosed]
  rw [regrouped, tokens_of_next (opens _), tokens_gap,
    tokens_separated_append has (endsNumber_of_mark mark rest) (tokens_of_next (closes rest)),
    List.cons_append]

end HasTokens

def pairTokens (pair : Spaced (List Glyph) × Spaced (List Char)) : List Token :=
  .quoted (pair.1.item.flatMap Glyph.text) :: .colon :: tokens pair.2.item

theorem hasTokens_pairText {pair : Spaced (List Glyph) × Spaced (List Char)}
    (has : HasTokens pair.2.item (tokens pair.2.item)) :
    HasTokens (pairText pair) (pairTokens pair) := by
  intro rest ends
  have key : ∀ rest, tokens (pair.1.text quotedText ++ rest) =
      .quoted (pair.1.item.flatMap Glyph.text) :: tokens rest := fun _ =>
    tokens_spaced (tokens_of_next (next_quotedText pair.1.item _))
  have value : HasTokens (pair.2.text id) (tokens pair.2.item) := has.spaced
  rw [pairText, List.append_assoc, List.cons_append, key, tokens_of_next rfl, value rest ends]
  rfl

theorem hasTokens_array (inside : Gap) {elements : List (Spaced (List Char))}
    (has : ∀ element ∈ elements, HasTokens element.item (tokens element.item)) :
    HasTokens (enclosed '[' ']' inside (elements.map (Spaced.text id)))
      (.openBracket :: punctuated .closeBracket
        (elements.map fun element => tokens element.item)) :=
  .enclosed (fun _ => rfl) (fun _ => rfl) (by decide) inside fun element member =>
    (has element member).spaced

theorem hasTokens_object (inside : Gap)
    {pairs : List (Spaced (List Glyph) × Spaced (List Char))}
    (has : ∀ pair ∈ pairs, HasTokens pair.2.item (tokens pair.2.item)) :
    HasTokens (enclosed '\x7b' '\x7d' inside (pairs.map pairText))
      (.openBrace :: punctuated .closeBrace (pairs.map pairTokens)) :=
  .enclosed (fun _ => rfl) (fun _ => rfl) (by decide) inside fun pair member =>
    hasTokens_pairText (has pair member)

/-- The tokens of a value do not depend on what stands behind it. -/
theorem IsValue.hasTokens {text : List Char} (value : IsValue text) :
    HasTokens text (tokens text) := by
  induction value with
  | null => exact HasTokens.null.self
  | flag value => exact (HasTokens.flag value).self
  | number number => exact (HasTokens.number number).self
  | quoted glyphs => exact (HasTokens.quoted glyphs).self
  | array inside elements values inductionHypothesis =>
    exact (hasTokens_array inside inductionHypothesis).self
  | object inside pairs values inductionHypothesis =>
    exact (hasTokens_object inside inductionHypothesis).self

/-- A value is a quoted text, a truth value, or begins with the token of neither. -/
theorem IsValue.quoted_or_flag_or_other {text : List Char} (value : IsValue text) :
    (∃ glyphs, text = quotedText glyphs) ∨ (∃ flag, text = (Flag.word flag).toList) ∨
      ∃ first others, tokens text = first :: others ∧ (∀ body, first ≠ .quoted body) ∧
        ∀ flag, first ≠ .boolean flag := by
  cases value with
  | null => exact Or.inr (Or.inr ⟨_, _, HasTokens.null.tokens_eq, nofun, nofun⟩)
  | flag value => exact Or.inr (Or.inl ⟨value, rfl⟩)
  | number number => exact Or.inr (Or.inr ⟨_, _, (HasTokens.number number).tokens_eq, nofun, nofun⟩)
  | quoted glyphs => exact Or.inl ⟨glyphs, rfl⟩
  | array inside elements values =>
    have has := hasTokens_array inside fun element member =>
      (values element member).hasTokens
    exact Or.inr (Or.inr ⟨_, _, has.tokens_eq, nofun, nofun⟩)
  | object inside pairs values =>
    have has := hasTokens_object inside fun pair member =>
      (values pair member).hasTokens
    exact Or.inr (Or.inr ⟨_, _, has.tokens_eq, nofun, nofun⟩)

theorem IsValue.exists_glyphs {text body : List Char} {others : List Token} (value : IsValue text)
    (begins : tokens text = .quoted body :: others) :
    ∃ glyphs : List Glyph, text = quotedText glyphs ∧ glyphs.flatMap Glyph.text = body := by
  rcases value.quoted_or_flag_or_other with ⟨glyphs, rfl⟩ | ⟨flag, rfl⟩ |
    ⟨first, behind, same, notQuoted, -⟩
  · cases (HasTokens.quoted glyphs).tokens_eq.symm.trans begins
    exact ⟨glyphs, rfl, rfl⟩
  · cases (HasTokens.flag flag).tokens_eq.symm.trans begins
  · cases same.symm.trans begins
    exact absurd rfl (notQuoted body)

theorem IsValue.eq_word {text : List Char} {flag : Bool} {others : List Token}
    (value : IsValue text) (begins : tokens text = .boolean flag :: others) :
    text = (Flag.word flag).toList := by
  rcases value.quoted_or_flag_or_other with ⟨glyphs, rfl⟩ | ⟨word, rfl⟩ |
    ⟨first, behind, same, -, notFlag⟩
  · cases (HasTokens.quoted glyphs).tokens_eq.symm.trans begins
  · cases (HasTokens.flag word).tokens_eq.symm.trans begins
    rfl
  · cases same.symm.trans begins
    exact absurd rfl (notFlag flag)

/-! ### Passing over values -/

namespace Place

/-- What follows the value in which a move leads to a place. -/
def Move.follow : Move → List Token → Option (List Token)
  | .go place, rest => place.leave rest
  | .done, rest => some rest
  | .stuck, _ => none

theorem leave_cons (place : Place) (token : Token) (rest : List Token) :
    place.leave (token :: rest) = (place.move token).follow rest := by
  rw [leave]
  cases place.move token <;> rfl

end Place

/-- Tokens are one value: inside any brackets they lead from its place to the place behind it. -/
def IsWhole (value : List Token) : Prop :=
  ∀ outer behind, Place.leave ⟨outer, .value⟩ (value ++ behind) =
    (Place.afterValue outer).follow behind

theorem IsWhole.skip_eq {value : List Token} (whole : IsWhole value) : skip value = some [] := by
  have alone := whole [] []
  rwa [List.append_nil] at alone

/-- No closing bracket stands where a value begins. -/
theorem IsWhole.exists_eq_cons {value : List Token} (whole : IsWhole value) :
    ∃ first others, value = first :: others ∧ first ≠ .closeBracket := by
  have alone := whole.skip_eq
  cases value with
  | nil => cases alone
  | cons first others =>
    refine ⟨first, others, rfl, ?_⟩
    rintro rfl
    cases alone

theorem IsWhole.leave_firstValue {value : List Token} (whole : IsWhole value)
    (outer : List Bracket) (behind : List Token) :
    Place.leave ⟨.array :: outer, .firstValue⟩ (value ++ behind) =
      Place.leave ⟨.array :: outer, .value⟩ (value ++ behind) := by
  obtain ⟨first, others, rfl, notClosing⟩ := whole.exists_eq_cons
  cases first with
  | closeBracket => exact absurd rfl notClosing
  | _ => rfl

def Bracket.closing : Bracket → Token
  | .array => .closeBracket
  | .object => .closeBrace

/-- What has to come at the beginning of an item. -/
def Bracket.item : Bracket → Expecting
  | .array => .value
  | .object => .key

/-- Tokens are one item inside a bracket. -/
def Bracket.Encloses (bracket : Bracket) (item : List Token) : Prop :=
  ∀ outer behind, Place.leave ⟨bracket :: outer, bracket.item⟩ (item ++ behind) =
    Place.leave ⟨bracket :: outer, .separator⟩ behind

/-- Items lead to the place behind the bracket that encloses them. -/
theorem Bracket.leave_punctuated (bracket : Bracket) {first : List Token}
    {items : List (List Token)} (encloses : ∀ item ∈ first :: items, bracket.Encloses item)
    (outer : List Bracket) (behind : List Token) :
    Place.leave ⟨bracket :: outer, bracket.item⟩
        (punctuated bracket.closing (first :: items) ++ behind) =
      (Place.afterValue outer).follow behind := by
  induction items generalizing first with
  | nil =>
    show Place.leave _ (first ++ [bracket.closing] ++ behind) = _
    rw [List.append_assoc, encloses first List.mem_cons_self, List.singleton_append,
      Place.leave_cons]
    cases bracket <;> rfl
  | cons second items inductionHypothesis =>
    have others := inductionHypothesis fun item member =>
      encloses item (List.mem_cons_of_mem _ member)
    show Place.leave _
      (first ++ .comma :: punctuated bracket.closing (second :: items) ++ behind) = _
    rw [List.append_assoc, encloses first List.mem_cons_self, List.cons_append, Place.leave_cons,
      ← others]
    cases bracket <;> rfl

theorem IsWhole.encloses {value : List Token} (whole : IsWhole value) :
    Bracket.array.Encloses value :=
  fun outer behind => whole (.array :: outer) behind

theorem IsWhole.encloses_pair {value : List Token} (whole : IsWhole value) (body : List Char) :
    Bracket.object.Encloses (.quoted body :: .colon :: value) :=
  fun outer behind => whole (.object :: outer) behind

theorem isWhole_single {token : Token}
    (single : ∀ outer, Place.enter outer token = Place.afterValue outer) : IsWhole [token] := by
  intro outer behind
  rw [List.singleton_append, Place.leave_cons]
  exact congrArg (fun move => Place.Move.follow move behind) (single outer)

theorem isWhole_array {elements : List (List Token)}
    (whole : ∀ element ∈ elements, IsWhole element) :
    IsWhole (.openBracket :: punctuated .closeBracket elements) := by
  intro outer behind
  rw [List.cons_append, Place.leave_cons]
  show Place.leave ⟨.array :: outer, .firstValue⟩ _ = _
  cases elements with
  | nil => exact Place.leave_cons _ _ _
  | cons element elements =>
    obtain ⟨more, same⟩ := exists_punctuated_eq_append .closeBracket element elements
    have inside := Bracket.array.leave_punctuated
      (fun item member => (whole item member).encloses) outer behind
    rw [← inside]
    show _ = Place.leave ⟨.array :: outer, .value⟩ (punctuated .closeBracket _ ++ behind)
    rw [same, List.append_assoc]
    exact (whole element List.mem_cons_self).leave_firstValue outer (more ++ behind)

theorem isWhole_object {pairs : List (List Token)}
    (keyed : ∀ pair ∈ pairs, ∃ body value, pair = .quoted body :: .colon :: value ∧
      IsWhole value) :
    IsWhole (.openBrace :: punctuated .closeBrace pairs) := by
  intro outer behind
  rw [List.cons_append, Place.leave_cons]
  show Place.leave ⟨.object :: outer, .firstKey⟩ _ = _
  cases pairs with
  | nil => exact Place.leave_cons _ _ _
  | cons pair pairs =>
    have enclosed : ∀ item ∈ pair :: pairs, Bracket.object.Encloses item := by
      intro item member
      obtain ⟨body, value, rfl, whole⟩ := keyed item member
      exact whole.encloses_pair body
    rw [← Bracket.object.leave_punctuated enclosed outer behind]
    obtain ⟨body, value, rfl, -⟩ := keyed pair List.mem_cons_self
    obtain ⟨more, same⟩ := exists_punctuated_eq_cons .closeBrace (.quoted body)
      (.colon :: value) pairs
    show _ = Place.leave ⟨.object :: outer, .key⟩ (punctuated .closeBrace _ ++ behind)
    rw [same]
    rfl

/-- Every value is passed over to its end, inside any brackets. -/
theorem IsValue.isWhole {text : List Char} (value : IsValue text) : IsWhole (tokens text) := by
  induction value with
  | null =>
    rw [HasTokens.null.tokens_eq]
    exact isWhole_single fun _ => rfl
  | flag value =>
    rw [(HasTokens.flag value).tokens_eq]
    exact isWhole_single fun _ => rfl
  | number number =>
    rw [(HasTokens.number number).tokens_eq]
    exact isWhole_single fun _ => rfl
  | quoted glyphs =>
    rw [(HasTokens.quoted glyphs).tokens_eq]
    exact isWhole_single fun _ => rfl
  | array inside elements values inductionHypothesis =>
    rw [(hasTokens_array inside fun element member => (values element member).hasTokens).tokens_eq]
    exact isWhole_array (List.forall_mem_map.2 inductionHypothesis)
  | object inside pairs values inductionHypothesis =>
    rw [(hasTokens_object inside fun pair member => (values pair member).hasTokens).tokens_eq]
    refine isWhole_object (List.forall_mem_map.2 fun pair member => ?_)
    exact ⟨_, _, rfl, inductionHypothesis pair member⟩

end Json

namespace Wire

open Json

/-! ### Members and elements -/

/-- A member of an object as it is written. -/
structure WrittenMember where
  key : Spaced (List Glyph)
  /-- What the key denotes. -/
  name : String
  denotes : denoted? (key.item.flatMap Glyph.text) = some name
  value : Spaced (List Char)
  isValue : IsValue value.item

namespace WrittenMember

def text (member : WrittenMember) : List Char :=
  pairText (member.key, member.value)

def member (member : WrittenMember) : Member where
  body := member.key.item.flatMap Glyph.text
  key := member.name
  value := Json.tokens member.value.item
  denotes := member.denotes
  whole := member.isValue.isWhole.skip_eq

end WrittenMember

/-- A text is an object with these members. -/
def IsObject (text : List Char) (members : List WrittenMember) : Prop :=
  ∃ frame : Frame, text = frame.text '\x7b' '\x7d' (members.map WrittenMember.text)

/-- A text is a list of these values. -/
structure IsList (text : List Char) (elements : List (Spaced (List Char))) : Prop where
  written : ∃ frame : Frame, text = frame.text '[' ']' (elements.map (Spaced.text id))
  values : ∀ element ∈ elements, IsValue element.item

theorem tokens_frame_enclosed {frame : Frame} {opening closing : Char} {items : List (List Char)}
    {image : List Token} (has : HasTokens (enclosed opening closing frame.inside items) image) :
    Json.tokens (frame.text opening closing items) = image := by
  have split : frame.text opening closing items =
      frame.before.text ++ (enclosed opening closing frame.inside items ++ frame.behind.text) := by
    simp [Frame.text, enclosed]
  rw [split, tokens_gap, has _ (endsNumber_gap_alone frame.behind), tokens_gap_alone,
    List.append_nil]

theorem IsObject.tokens_eq {text : List Char} {members : List WrittenMember}
    (object : IsObject text members) :
    Json.tokens text = objectTokens (members.map WrittenMember.member) := by
  obtain ⟨frame, rfl⟩ := object
  rw [objectTokens, List.map_map]
  exact tokens_frame_enclosed (.enclosed (fun _ => rfl) (fun _ => rfl) (by decide) _
    fun member _ => hasTokens_pairText member.isValue.hasTokens)

theorem IsList.tokens_eq {text : List Char} {elements : List (Spaced (List Char))}
    (list : IsList text elements) :
    Json.tokens text = .openBracket :: punctuated .closeBracket
      (elements.map fun element => Json.tokens element.item) := by
  obtain ⟨⟨frame, rfl⟩, values⟩ := list
  exact tokens_frame_enclosed
    (hasTokens_array frame.inside fun element member => (values element member).hasTokens)

end Wire

end ActionDirectory
