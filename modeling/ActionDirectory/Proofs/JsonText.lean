/-
JSON texts that were written are read back. A written integer is one number token if what
follows does not continue it, and a quoted text is one token whatever follows. The token
has the integer or the text that was written. Everything here is about one token and an
arbitrary rest, so longer texts are read back token by token.

A quoted text may be written in many ways. Each of its characters is a glyph, and a text that is
read up to its quote consists of glyphs; what was written is one arrangement of them.
-/

import ActionDirectory.Json.Token
import ActionDirectory.Text.Decimal

namespace ActionDirectory

/-! ### Digits -/

namespace Decimal

/-- A positive number does not begin with a zero. -/
theorem head_natural_ne_zero {value : Nat} (positive : 0 < value) {first : Char}
    {rest : List Char} (written : natural value = first :: rest) : first ≠ '0' := by
  induction value using Nat.strongRecOn generalizing first rest with
  | ind value inductionHypothesis =>
    rcases Nat.lt_or_ge value 10 with small | large
    · have digit : ∀ digit < 10, 0 < digit → Nat.digitChar digit ≠ '0' := by decide
      rw [natural, Nat.toDigits_of_lt_base small] at written
      cases written
      exact digit value small positive
    · have shorter : natural value = natural (value / 10) ++ [(value % 10).digitChar] :=
        Nat.toDigits_of_base_le (by decide) large
      cases front : natural (value / 10) with
      | nil => exact absurd front (natural_ne_nil _)
      | cons digit digits =>
        rw [shorter, front] at written
        cases written
        exact inductionHypothesis (value / 10) (by omega) (by omega) front

theorem signed_ne_nil (value : Int) : signed value ≠ [] := by
  cases value with
  | ofNat value => exact natural_ne_nil value
  | negSucc value => exact List.cons_ne_nil _ _

/-- A written integer consists of digits and perhaps a minus sign. -/
theorem isDigit_or_minus_of_mem_signed {value : Int} {character : Char}
    (member : character ∈ signed value) : character.isDigit = true ∨ character = '-' := by
  cases value with
  | ofNat value => exact .inl (isDigit_of_mem_natural member)
  | negSucc value =>
    rcases List.mem_cons.1 member with minus | digit
    · exact .inr minus
    · exact .inl (isDigit_of_mem_natural digit)

end Decimal

namespace Json

open Token

/-! ### Numbers -/

/-- A text that does not continue a number. -/
def EndsNumber : List Char → Prop
  | [] => True
  | first :: _ => first.isDigit = false ∧ first ≠ '.' ∧ first ≠ 'e' ∧ first ≠ 'E'

/-- The marks that stand behind values. -/
theorem endsNumber_of_mark {mark : Char} (closes : mark ∈ [',', ']', '\x7d']) (rest : List Char) :
    EndsNumber (mark :: rest) := by
  simp only [List.mem_cons, List.not_mem_nil, or_false] at closes
  rcases closes with rfl | rfl | rfl
  all_goals exact ⟨rfl, by decide, by decide, by decide⟩

namespace Numeral

/-- The literal of an integer. -/
def ofInt : Int → Numeral
  | .ofNat value => ⟨false, Decimal.natural value, [], none⟩
  | .negSucc value => ⟨true, Decimal.natural (value + 1), [], none⟩

variable {rest : List Char}

theorem takeWhile_isDigit_of_ends (ends : EndsNumber rest) : rest.takeWhile Char.isDigit = [] := by
  cases rest with
  | nil => rfl
  | cons first tail => simp [ends.1]

theorem takeWhile_digits {digits : List Char} (all : ∀ digit ∈ digits, digit.isDigit = true)
    (stops : rest.takeWhile Char.isDigit = []) :
    (digits ++ rest).takeWhile Char.isDigit = digits := by
  rw [List.takeWhile_append_of_pos all, stops, List.append_nil]

theorem dropWhile_digits {digits : List Char} (all : ∀ digit ∈ digits, digit.isDigit = true)
    (stops : rest.takeWhile Char.isDigit = []) :
    (digits ++ rest).dropWhile Char.isDigit = rest := by
  have split := List.takeWhile_append_dropWhile (p := Char.isDigit) (l := rest)
  rw [stops, List.nil_append] at split
  rw [List.dropWhile_append_of_pos all, split]

theorem whole?_natural (value : Nat) (ends : EndsNumber rest) :
    whole? (Decimal.natural value ++ rest) = some (Decimal.natural value, rest) := by
  cases written : Decimal.natural value with
  | nil => exact absurd written (Decimal.natural_ne_nil value)
  | cons first digits =>
    have all : ∀ digit ∈ first :: digits, digit.isDigit = true := fun digit member =>
      Decimal.isDigit_of_mem_natural (written ▸ member)
    have allRest : ∀ digit ∈ digits, digit.isDigit = true := fun digit member =>
      all digit (List.mem_cons_of_mem _ member)
    have stops : rest.takeWhile Char.isDigit = [] := takeWhile_isDigit_of_ends ends
    rw [List.cons_append, whole?]
    by_cases zero : first = '0'
    · have nothing : value = 0 := by
        rcases Nat.eq_zero_or_pos value with nothing | positive
        · exact nothing
        · exact absurd zero (Decimal.head_natural_ne_zero positive written)
      have alone : digits = [] := by
        rw [nothing] at written
        exact (List.cons.inj written).2.symm
      subst zero alone
      simp [stops]
    · rw [if_neg zero, if_pos (all first List.mem_cons_self), takeWhile_digits allRest stops,
        dropWhile_digits allRest stops]

theorem unsigned?_natural (negative : Bool) (value : Nat) (ends : EndsNumber rest) :
    unsigned? negative (Decimal.natural value ++ rest) =
      some (⟨negative, Decimal.natural value, [], none⟩, rest) := by
  have fraction : fraction? rest = some ([], rest) := by
    cases rest with
    | nil => rfl
    | cons first tail => simp [fraction?, ends.2.1]
  have power : power? rest = some (none, rest) := by
    cases rest with
    | nil => rfl
    | cons first tail => simp [power?, ends.2.2.1, ends.2.2.2]
  rw [unsigned?, whole?_natural value ends]
  simp [fraction, power]

theorem scan?_of_unsigned {text : List Char} (unsigned : ∀ tail, text ≠ '-' :: tail) :
    scan? text = unsigned? false text := by
  unfold scan?
  split
  next tail => exact absurd rfl (unsigned tail)
  next => rfl

theorem natural_append_ne_minus (value : Nat) (tail : List Char) :
    Decimal.natural value ++ rest ≠ '-' :: tail := by
  cases written : Decimal.natural value with
  | nil => exact absurd written (Decimal.natural_ne_nil value)
  | cons first digits =>
    intro same
    have digit : first.isDigit = true :=
      Decimal.isDigit_of_mem_natural (written ▸ List.mem_cons_self)
    rw [(List.cons.inj same).1] at digit
    exact absurd digit (by decide)

/-- The literal of a written integer. -/
theorem scan?_signed (value : Int) (ends : EndsNumber rest) :
    scan? (Decimal.signed value ++ rest) = some (ofInt value, rest) := by
  cases value with
  | ofNat value =>
    exact (scan?_of_unsigned (natural_append_ne_minus value)).trans
      (unsigned?_natural false value ends)
  | negSucc value => exact unsigned?_natural true (value + 1) ends

/-- A written integer that fits into 64 bits has its value. -/
theorem integer?_ofInt {value : Int} (lower : -9223372036854775808 ≤ value)
    (upper : value < 18446744073709551616) : (ofInt value).integer? = some value := by
  have size : ∀ value, Nat.ofDigitChars 10 (Decimal.natural value) 0 = value := fun _ =>
    Nat.ofDigitChars_ten_toDigits
  cases value with
  | ofNat value =>
    have fits : value < Nat.pow 2 64 := by
      show value < 18446744073709551616
      have bound : (value : Int) < 18446744073709551616 := upper
      omega
    show (if Nat.ofDigitChars 10 (Decimal.natural value) 0 < Nat.pow 2 64 then _ else _) = _
    rw [size, if_pos fits]
    exact congrArg (fun value : Nat => some (value : Int)) (size value)
  | negSucc value =>
    have fits : (0 < value + 1 && value + 1 ≤ Nat.pow 2 63) = true := by
      have bound : value + 1 ≤ 9223372036854775808 := by omega
      rw [decide_eq_true (Nat.succ_pos value)]
      exact decide_eq_true bound
    show (if (0 < Nat.ofDigitChars 10 (Decimal.natural (value + 1)) 0 &&
      Nat.ofDigitChars 10 (Decimal.natural (value + 1)) 0 ≤ Nat.pow 2 63) = true then _ else _) = _
    rw [size, if_pos fits]
    exact congrArg (fun value : Nat => some (-(value : Int))) (size (value + 1))

end Numeral

/-! ### Tokens -/

theorem tokens_eq_nil_of_next {text : List Char} (nothing : Token.next text = none) :
    tokens text = [] := by
  rw [tokens]
  split
  next => rfl
  next found =>
    rw [nothing] at found
    cases found

theorem tokens_nil : tokens [] = [] :=
  tokens_eq_nil_of_next rfl

theorem tokens_of_next {text rest : List Char} {token : Token}
    (first : Token.next text = some (token, rest)) : tokens text = token :: tokens rest := by
  rw [tokens]
  split
  next none =>
    rw [first] at none
    cases none
  next found =>
    rw [first] at found
    cases found
    rfl

/-- The first token of a text that begins with a digit or a minus sign is the number that is
scanned there. -/
theorem next_of_scan? {first : Char} {tail rest : List Char} {numeral : Numeral}
    (starts : first.isDigit = true ∨ first = '-')
    (scanned : Numeral.scan? (first :: tail) = some (numeral, rest)) :
    Token.next (first :: tail) = some (.number numeral, rest) := by
  have other : ∀ mark, mark.isDigit = false → mark ≠ '-' → first ≠ mark := by
    rintro mark notDigit notMinus rfl
    rcases starts with digit | minus
    · rw [notDigit] at digit
      cases digit
    · exact notMinus minus
  have visible : isBlank first = false := by
    simp [isBlank, other]
  have unblanked : (first :: tail).dropWhile isBlank = first :: tail := by
    rw [List.dropWhile_cons, visible]
    rfl
  rw [Token.next, unblanked]
  -- All other tokens begin with a mark that is neither a digit nor a minus sign.
  unfold Token.read
  split
  case h_12 => rw [scanned]
  case h_1 same => cases same
  all_goals
    rename_i same
    exact absurd (List.cons.inj same).1 (other _ (by decide) (by decide))

/-- A written integer is one token. -/
theorem tokens_signed (value : Int) {rest : List Char} (ends : EndsNumber rest) :
    tokens (Decimal.signed value ++ rest) = .number (.ofInt value) :: tokens rest := by
  have scanned := Numeral.scan?_signed value ends
  cases written : Decimal.signed value with
  | nil => exact absurd written (Decimal.signed_ne_nil value)
  | cons first digits =>
    have starts := Decimal.isDigit_or_minus_of_mem_signed (written ▸ List.mem_cons_self)
    rw [written, List.cons_append] at scanned
    exact tokens_of_next (next_of_scan? starts scanned)

/-! ### Quoted text -/

theorem hexDigit_spec (value : Nat) (small : value < 16) :
    isHex (hexDigit value) = true ∧ hexValue (hexDigit value) = value := by
  have all : ∀ value < 16, isHex (hexDigit value) = true ∧ hexValue (hexDigit value) = value := by
    decide
  exact all value small

theorem isPlain_iff {character : Char} : isPlain character = true ↔
    0x20 ≤ character.toNat ∧ character ≠ '"' ∧ character ≠ '\\' := by
  simp only [isPlain, Bool.and_eq_true, decide_eq_true_eq, and_assoc]

/-- A character is written with a backslash and a letter, with a backslash and its number, or as
itself. -/
theorem escape_cases (character : Char) :
    (∃ letter, escape character = ['\\', letter] ∧ letter ≠ 'u' ∧
        unescaped? letter = some character) ∨
      (character.toNat < 0x20 ∧ escape character =
        ['\\', 'u', '0', '0', hexDigit (character.toNat / 16), hexDigit (character.toNat % 16)]) ∨
      (isPlain character = true ∧ escape character = [character]) := by
  unfold escape
  split
  case h_8 notQuote notBackslash _ _ _ _ _ =>
    split
    next control => exact .inr (.inl ⟨control, rfl⟩)
    next visible =>
      have plain := isPlain_iff.2 ⟨Nat.le_of_not_lt visible, notQuote, notBackslash⟩
      exact .inr (.inr ⟨plain, rfl⟩)
  all_goals exact .inl ⟨_, rfl, by decide, rfl⟩

/-- A character of a quoted text as it is written. -/
inductive Glyph where
  /-- The character itself. -/
  | plain (character : Char) (itself : isPlain character = true)
  /-- A backslash and a letter. -/
  | letter (mark : Char) (known : (unescaped? mark).isSome = true)
  /-- A backslash and a number of 16 bits. -/
  | code (first second third fourth : Char) (hex : [first, second, third, fourth].all isHex = true)

namespace Glyph

def text : Glyph → List Char
  | plain character _ => [character]
  | letter mark _ => ['\\', mark]
  | code first second third fourth _ => ['\\', 'u', first, second, third, fourth]

/-- A body takes in a glyph whole. -/
theorem body?_text_append (glyph : Glyph) (tail : List Char) :
    body? (glyph.text ++ tail) =
      (body? tail).map fun found => (glyph.text ++ found.1, found.2) := by
  cases glyph with
  | plain character itself =>
    obtain ⟨-, notQuote, notBackslash⟩ := isPlain_iff.1 itself
    exact (body?.eq_5 character tail notQuote (fun _ _ _ _ _ same => absurd same notBackslash)
      fun _ _ same => absurd same notBackslash).trans (if_pos itself)
  | letter mark known =>
    have notUnit : mark ≠ 'u' := by
      rintro rfl
      cases known
    exact (body?.eq_4 mark tail fun _ _ _ _ _ same _ => notUnit same).trans (if_pos known)
  | code first second third fourth hex => exact (body?.eq_3 _ _ _ _ _).trans (if_pos hex)

end Glyph

/-- A quoted text ends behind its glyphs. -/
theorem body?_glyphs (glyphs : List Glyph) (rest : List Char) :
    body? (glyphs.flatMap Glyph.text ++ '"' :: rest) =
      some (glyphs.flatMap Glyph.text, rest) := by
  induction glyphs with
  | nil => rfl
  | cons glyph glyphs inductionHypothesis =>
    rw [List.flatMap_cons, List.append_assoc, glyph.body?_text_append, inductionHypothesis]
    rfl

/-- A quoted text that ends is made of glyphs. -/
theorem exists_glyphs_of_body? {input body left : List Char}
    (found : body? input = some (body, left)) :
    ∃ glyphs : List Glyph, glyphs.flatMap Glyph.text = body ∧ body ++ '"' :: left = input := by
  -- The cases are those of the reader: the three kinds of glyphs, and the quote at the end.
  induction input using body?.induct generalizing body left with
  | case1 => simp [body?] at found
  | case2 tail =>
    rw [body?] at found
    cases found
    exact ⟨[], rfl, rfl⟩
  | case3 first second third fourth tail hex inductionHypothesis =>
    rw [body?, if_pos hex] at found
    obtain ⟨inner, innerFound, same⟩ := Option.map_eq_some_iff.1 found
    obtain ⟨glyphs, written, split⟩ := inductionHypothesis innerFound
    cases same
    exact ⟨.code first second third fourth hex :: glyphs,
      congrArg (['\\', 'u', first, second, third, fourth] ++ ·) written,
      congrArg (['\\', 'u', first, second, third, fourth] ++ ·) split⟩
  | case4 first second third fourth tail hex =>
    rw [body?, if_neg hex] at found
    cases found
  | case5 mark tail notUnit known inductionHypothesis =>
    rw [body?, if_pos known] at found
    · obtain ⟨inner, innerFound, same⟩ := Option.map_eq_some_iff.1 found
      obtain ⟨glyphs, written, split⟩ := inductionHypothesis innerFound
      cases same
      exact ⟨.letter mark known :: glyphs, congrArg (['\\', mark] ++ ·) written,
        congrArg (['\\', mark] ++ ·) split⟩
    · exact notUnit
  | case6 mark tail notUnit unknown =>
    rw [body?, if_neg unknown] at found
    · cases found
    · exact notUnit
  | case7 character tail notQuote notUnit notEscape plain inductionHypothesis =>
    rw [body?, if_pos plain] at found
    · obtain ⟨inner, innerFound, same⟩ := Option.map_eq_some_iff.1 found
      obtain ⟨glyphs, written, split⟩ := inductionHypothesis innerFound
      cases same
      exact ⟨.plain character plain :: glyphs, congrArg (character :: ·) written,
        congrArg (character :: ·) split⟩
    all_goals assumption
  | case8 character tail notQuote notUnit notEscape notPlain =>
    rw [body?, if_neg notPlain] at found
    · cases found
    all_goals assumption

/-- A written character is a glyph. -/
theorem exists_glyph_of_escape (character : Char) :
    ∃ glyph : Glyph, glyph.text = escape character := by
  rcases escape_cases character with ⟨letter, written, -, known⟩ | ⟨control, written⟩ |
    ⟨itself, written⟩
  · exact ⟨.letter letter (Option.isSome_of_eq_some known), written.symm⟩
  · have high := (hexDigit_spec (character.toNat / 16) (by omega)).1
    have low := (hexDigit_spec (character.toNat % 16) (by omega)).1
    have hex : ['0', '0', hexDigit (character.toNat / 16),
        hexDigit (character.toNat % 16)].all isHex = true := by
      simp only [List.all_cons, high, low]
      rfl
    exact ⟨.code _ _ _ _ hex, written.symm⟩
  · exact ⟨.plain character itself, written.symm⟩

theorem exists_glyphs_of_escape (text : List Char) :
    ∃ glyphs : List Glyph, glyphs.flatMap Glyph.text = text.flatMap escape := by
  induction text with
  | nil => exact ⟨[], rfl⟩
  | cons character text inductionHypothesis =>
    obtain ⟨glyph, first⟩ := exists_glyph_of_escape character
    obtain ⟨glyphs, others⟩ := inductionHypothesis
    exact ⟨glyph :: glyphs, by rw [List.flatMap_cons, List.flatMap_cons, first, others]⟩

theorem body?_escape (text rest : List Char) :
    body? (text.flatMap escape ++ '"' :: rest) = some (text.flatMap escape, rest) := by
  obtain ⟨glyphs, same⟩ := exists_glyphs_of_escape text
  rw [← same]
  exact body?_glyphs glyphs rest

/-- A quoted text is one token. -/
theorem tokens_quote (text rest : List Char) :
    tokens (quote text ++ rest) = .quoted (text.flatMap escape) :: tokens rest := by
  refine tokens_of_next ?_
  show Token.read ('"' :: (text.flatMap escape ++ ['"'] ++ rest)) = _
  rw [Token.read, List.append_assoc, List.singleton_append, body?_escape]

/-- A written character is read as itself. -/
theorem assemble_escape_append (character : Char) (tail : List Char) :
    assemble none (pieces (escape character ++ tail)) =
      (assemble none (pieces tail)).map (character :: ·) := by
  rcases escape_cases character with ⟨letter, written, notUnit, known⟩ | ⟨control, written⟩ |
    ⟨plain, written⟩
  · have letters := pieces.eq_3 letter tail fun _ _ _ _ _ same _ => notUnit same
    rw [known] at letters
    rw [written]
    exact congrArg (assemble none) letters
  · have high := (hexDigit_spec (character.toNat / 16) (by omega)).2
    have low := (hexDigit_spec (character.toNat % 16) (by omega)).2
    have number : ['0', '0', hexDigit (character.toNat / 16),
        hexDigit (character.toNat % 16)].foldl (fun value digit => 16 * value + hexValue digit) 0 =
          character.toNat := by
      simp only [List.foldl_cons, List.foldl_nil, high, low]
      show 16 * (16 * 0 + character.toNat / 16) + character.toNat % 16 = character.toNat
      omega
    have whole : isHighSurrogate character.toNat = false ∧
        isLowSurrogate character.toNat = false := by
      simp only [isHighSurrogate, isLowSurrogate, Bool.and_eq_false_iff, decide_eq_false_iff_not]
      omega
    have numbered := pieces.eq_2 '0' '0' (hexDigit (character.toNat / 16))
      (hexDigit (character.toNat % 16)) tail
    rw [number] at numbered
    rw [written]
    refine (congrArg (assemble none) numbered).trans ?_
    rw [assemble, whole.1, whole.2, Char.ofNat_toNat]
    rfl
  · have notBackslash := (isPlain_iff.1 plain).2.2
    rw [written]
    exact congrArg (assemble none) (pieces.eq_4 character tail
      (fun _ _ _ _ _ same => absurd same notBackslash) fun _ _ same => absurd same notBackslash)

theorem assemble_escape (text : List Char) :
    assemble none (pieces (text.flatMap escape)) = some text := by
  induction text with
  | nil => rfl
  | cons character text inductionHypothesis =>
    rw [List.flatMap_cons, assemble_escape_append, inductionHypothesis]
    rfl

/-- The body of a quoted text denotes the text. -/
theorem denoted?_escape (text : String) : denoted? (text.toList.flatMap escape) = some text := by
  rw [denoted?, assemble_escape, Option.map_some, String.ofList_toList]

theorem escape_eq_self {character : Char} (plain : isPlain character = true) :
    escape character = [character] := by
  unfold escape
  split
  case h_8 => rw [if_neg (Nat.not_lt_of_le (isPlain_iff.1 plain).1)]
  all_goals exact absurd plain (by decide)

theorem flatMap_escape_eq_self {text : List Char}
    (plain : ∀ character ∈ text, isPlain character = true) : text.flatMap escape = text := by
  induction text with
  | nil => rfl
  | cons character text inductionHypothesis =>
    rw [List.flatMap_cons, escape_eq_self (plain character List.mem_cons_self),
      inductionHypothesis fun other member => plain other (List.mem_cons_of_mem _ member)]
    rfl

/-- Nothing in a written integer is escaped. -/
theorem flatMap_escape_signed (value : Int) :
    (Decimal.signed value).flatMap escape = Decimal.signed value := by
  refine flatMap_escape_eq_self fun character member => ?_
  rcases Decimal.isDigit_or_minus_of_mem_signed member with digit | rfl
  · refine isPlain_iff.2 ⟨?_, ?_, ?_⟩
    · simp only [Char.isDigit, Bool.and_eq_true, decide_eq_true_eq] at digit
      exact Nat.le_trans (by decide) digit.1
    · rintro rfl
      exact absurd digit (by decide)
    · rintro rfl
      exact absurd digit (by decide)
  · decide

end Json

end ActionDirectory
