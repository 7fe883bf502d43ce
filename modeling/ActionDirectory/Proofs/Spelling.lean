/-
What a text means. A text is a name first, also where it could be read as a number. A text that
leads nowhere as a name is a number if it is at most one sign and one or more digits behind it, with
any number of leading zeros, and if the number is within the bounds of identifiers. Every other text
is an unknown name. The grammar of numbers is told here on its own, by the spellings that make up
the texts, and the parser is shown to accept exactly these spellings.
-/

import ActionDirectory.Proofs.NameIndex
import ActionDirectory.Proofs.Numbers
import Mathlib.Data.Set.List

namespace ActionDirectory

/-! ### Spellings of integers -/

namespace Decimal

inductive Sign where
  | none
  | plus
  | minus
deriving DecidableEq, Repr

def Sign.text : Sign → List Char
  | none => []
  | plus => ['+']
  | minus => ['-']

def digitChar (digit : Fin 10) : Char :=
  Nat.digitChar digit.val

/-- The number that digits make up: each counts ten times what the next one counts. -/
def magnitude (digits : List (Fin 10)) : Nat :=
  digits.foldl (fun size digit => 10 * size + digit.val) 0

/-- At most one sign, and one or more digits behind it. -/
structure Spelling where
  sign : Sign
  digits : List (Fin 10)
  nonempty : digits ≠ []

def Spelling.text (spelling : Spelling) : List Char :=
  spelling.sign.text ++ spelling.digits.map digitChar

def Spelling.value (spelling : Spelling) : Int :=
  match spelling.sign with
  | .minus => -magnitude spelling.digits
  | .none | .plus => magnitude spelling.digits

/-- A text spells an integer if it is one of its spellings. -/
def Spells (text : List Char) (value : Int) : Prop :=
  ∃ spelling : Spelling, spelling.text = text ∧ spelling.value = value

/-! ### Reading spellings -/

theorem isDigit_digitChar (digit : Fin 10) : (digitChar digit).isDigit = true := by
  rw [digitChar, Nat.isDigit_digitChar]
  exact decide_eq_true digit.isLt

theorem exists_digit_of_isDigit {character : Char} (isDigit : character.isDigit = true) :
    ∃ digit : Fin 10, digitChar digit = character := by
  have bounds : 48 ≤ character.toNat ∧ character.toNat ≤ 57 := by
    simpa [Char.isDigit, UInt32.le_iff_toNat_le] using isDigit
  have small : character.toNat - 48 < 10 := by omega
  refine ⟨⟨character.toNat - 48, small⟩, Char.toNat_inj.1 ?_⟩
  rw [digitChar, Nat.toNat_digitChar_of_lt_ten small]
  omega

theorem ofDigitChars_digits (digits : List (Fin 10)) (size : Nat) :
    Nat.ofDigitChars 10 (digits.map digitChar) size =
      digits.foldl (fun size digit => 10 * size + digit.val) size := by
  induction digits generalizing size with
  | nil => rfl
  | cons digit digits inductionHypothesis =>
    rw [List.map_cons, digitChar, Nat.ofDigitChars_cons_digitChar_of_lt_ten digit.isLt,
      inductionHypothesis]
    rfl

theorem natural?_digits {digits : List (Fin 10)} (nonempty : digits ≠ []) :
    natural? (digits.map digitChar) = some (magnitude digits) := by
  have all : (digits.map digitChar).all Char.isDigit = true := by
    rw [List.all_map, List.all_eq_true]
    exact fun digit _ => isDigit_digitChar digit
  have some : (digits.map digitChar).isEmpty = false := by
    rw [List.isEmpty_eq_false_iff, Ne, List.map_eq_nil_iff]
    exact nonempty
  rw [natural?, all, some, ofDigitChars_digits]
  rfl

/-- What is read as a number consists of its digits. -/
theorem exists_digits_of_natural? {text : List Char} {size : Nat}
    (read : natural? text = some size) :
    ∃ digits : List (Fin 10), digits ≠ [] ∧ (digits.map digitChar) = text ∧
      magnitude digits = size := by
  have whole := read
  rw [natural?] at read
  split at read
  next => cases read
  next digital =>
    simp only [Bool.or_eq_true, Bool.not_eq_true', not_or, Bool.not_eq_false,
      Bool.not_eq_true, List.isEmpty_eq_false_iff, List.all_eq_true] at digital
    obtain ⟨nonempty, all⟩ := digital
    obtain ⟨digits, rfl⟩ : text ∈ Set.range (List.map digitChar) := by
      rw [Set.range_list_map]
      exact fun character member => exists_digit_of_isDigit (all character member)
    have some : digits ≠ [] := fun empty => nonempty (List.map_eq_nil_iff.2 empty)
    exact ⟨digits, some, rfl, Option.some.inj ((natural?_digits some).symm.trans whole)⟩

theorem Spelling.signed?_text (spelling : Spelling) :
    signed? spelling.text = some spelling.value := by
  obtain ⟨sign, digits, nonempty⟩ := spelling
  have read := natural?_digits nonempty
  cases sign with
  | plus => exact congrArg (Option.map Int.ofNat) read
  | minus => exact congrArg (Option.map fun size : Nat => -Int.ofNat size) read
  | none =>
    cases digits with
    | nil => exact absurd rfl nonempty
    | cons first rest =>
      exact (signed?_of_isDigit _ (isDigit_digitChar first)).trans
        (congrArg (Option.map Int.ofNat) read)

/-- The texts that are read as an integer are its spellings. -/
theorem spells_iff {text : List Char} {value : Int} :
    Spells text value ↔ signed? text = some value := by
  constructor
  · rintro ⟨spelling, rfl, rfl⟩
    exact spelling.signed?_text
  · intro read
    rw [signed?.eq_def] at read
    split at read
    all_goals
      obtain ⟨size, natural, rfl⟩ := Option.map_eq_some_iff.1 read
      obtain ⟨digits, nonempty, rfl, rfl⟩ := exists_digits_of_natural? natural
    · exact ⟨⟨.plus, digits, nonempty⟩, rfl, rfl⟩
    · exact ⟨⟨.minus, digits, nonempty⟩, rfl, rfl⟩
    · exact ⟨⟨.none, digits, nonempty⟩, rfl, rfl⟩

end Decimal

/-! ### Names and numbers -/

namespace Registry

/-- What a text means to a registry, told as what parsing it results in. -/
inductive Means (registry : Registry) (text : String) : Except Failure Action → Prop where
  /-- The text is a name that leads somewhere. -/
  | name {entry : Entry} (leads : registry.find text = some entry)
    (named : entry.action.name = text) : Means registry text (.ok entry.action)
  /-- The text spells a registered identifier. -/
  | number {id : Id} {entry : Entry} (nameless : registry.find text = none)
    (spells : Decimal.Spells text.toList id.value) (registered : registry.lookup id = some entry)
    (own : entry.id = id) : Means registry text (.ok entry.action)
  /-- The text spells an identifier that nothing is registered under. -/
  | free {id : Id} (nameless : registry.find text = none)
    (spells : Decimal.Spells text.toList id.value) (missing : registry.lookup id = none) :
    Means registry text (.error (.unknownId id))
  /-- The text spells no integer, or one beyond the bounds of identifiers. -/
  | neither (nameless : registry.find text = none)
    (outside : ∀ value, Decimal.Spells text.toList value →
      value < -2147483648 ∨ 2147483647 < value) : Means registry text (.error (.unknownName text))

variable {registry : Registry} {history : List Action} {text : String}

theorem parse_of_find {entry : Entry} (leads : registry.find text = some entry) :
    registry.parse text = .ok entry.action := by
  rw [parse, leads]

theorem parse_of_spells (nameless : registry.find text = none) {id : Id}
    (spells : Decimal.Spells text.toList id.value) :
    registry.parse text = (registry.require id).map Entry.action := by
  have read : (Decimal.signed? text.toList).bind Id.ofInt? = some id := by
    rw [Decimal.spells_iff.1 spells]
    exact id.ofInt?_value
  rw [parse, nameless, read]

theorem parse_of_outside (nameless : registry.find text = none)
    (outside : ∀ value, Decimal.Spells text.toList value →
      value < -2147483648 ∨ 2147483647 < value) :
    registry.parse text = .error (.unknownName text) := by
  refine (parse_eq_unknownName_iff registry text).2 ⟨nameless, ?_⟩
  rw [Option.bind_eq_none_iff]
  exact fun value read => Id.ofInt?_eq_none_iff.2 (outside value (Decimal.spells_iff.2 read))

/-- A text spells an identifier, or it spells nothing within the bounds of identifiers. -/
theorem spells_id_or_outside (text : List Char) :
    (∃ id : Id, Decimal.Spells text id.value) ∨
      ∀ value, Decimal.Spells text value → value < -2147483648 ∨ 2147483647 < value := by
  by_cases within : ∃ id : Id, Decimal.Spells text id.value
  · exact Or.inl within
  · refine Or.inr fun value spells => ?_
    by_contra bounded
    exact within ⟨⟨value, by omega, by omega⟩, spells⟩

/-- Parsing results in what the text means, and in nothing else. -/
theorem Reflects.parse_eq_iff (reflects : registry.Reflects history)
    {outcome : Except Failure Action} :
    registry.parse text = outcome ↔ registry.Means text outcome := by
  constructor
  · rintro rfl
    cases leads : registry.find text with
    | some entry =>
      rw [parse_of_find leads]
      exact .name leads (Action.name?_eq_some_iff.1 (reflects.name_of_find leads)).1
    | none =>
      rcases spells_id_or_outside text.toList with ⟨id, spells⟩ | outside
      · rw [parse_of_spells leads spells, require]
        cases present : registry.lookup id with
        | some entry => exact .number leads spells present (reflects.mem_of_lookup present).2
        | none => exact .free leads spells present
      · rw [parse_of_outside leads outside]
        exact .neither leads outside
  · intro means
    cases means with
    | name leads _ => exact parse_of_find leads
    | number nameless spells registered _ =>
      rw [parse_of_spells nameless spells, require, registered]
      rfl
    | free nameless spells missing =>
      rw [parse_of_spells nameless spells, require, missing]
      rfl
    | neither nameless outside => exact parse_of_outside nameless outside

end Registry

/-! ### The rule -/

/-- In every environment, at every moment of a run of the shared registry, and through any handle:
parsing a text results in what the text means. A name that leads somewhere comes first. Otherwise a
spelling of an identifier gives what is registered under the identifier, or tells that nothing is,
and any other text is told to be an unknown name as it stands. So all spellings of one identifier
are parsed alike, as long as they are no names. -/
theorem text_is_parsed_as_it_means (environment : Environment) :
    ∃ origin records, Registry.shared environment = .ok (origin, records) ∧
      Registry.Made origin Catalog.actions ∧
        ∀ uses handle registry,
          ((Handles.ofRegistry origin).after uses).view? handle = some registry →
            (∀ text outcome, registry.parse text = outcome ↔ registry.Means text outcome) ∧
              ∀ (id : Id) (first second : String), Decimal.Spells first.toList id.value →
                Decimal.Spells second.toList id.value → registry.find first = none →
                  registry.find second = none → registry.parse first = registry.parse second := by
  obtain ⟨origin, records, started, made⟩ := Registry.exists_shared environment
  refine ⟨origin, records, started, made, fun uses handle registry seen => ?_⟩
  have reflects : registry.Reflects _ := Handles.reflects_written made.reflects seen
  refine ⟨fun text outcome => reflects.parse_eq_iff, ?_⟩
  intro id first second spellsFirst spellsSecond namelessFirst namelessSecond
  rw [Registry.parse_of_spells namelessFirst spellsFirst,
    Registry.parse_of_spells namelessSecond spellsSecond]

/-- The name "10" is given to another identifier than 10. The name comes first, another spelling of
10 still means the identifier, and texts that spell no identifier are unknown names. -/
theorem text_is_parsed_as_it_means_beside_a_numeric_name :
    ∃ origin records registry,
      Registry.shared { policy := .text "strict" } = .ok (origin, records) ∧
      ((Handles.ofRegistry origin).after
        [.clone 0, .call 1 (.register ⟨{ value := -5 }, "10"⟩)]).view? 0 = some registry ∧
      registry.parse "10" = .ok ⟨{ value := -5 }, "10"⟩ ∧
      registry.parse "+0010" = .ok ⟨{ value := 10 }, "update_update"⟩ ∧
      registry.parse "+0010" = registry.parse "010" ∧
      registry.parse "-2147483648" = .error (.unknownId { value := -2147483648 }) ∧
      registry.parse "2147483648" = .error (.unknownName "2147483648") ∧
      registry.parse "+-1" = .error (.unknownName "+-1") := by
  obtain ⟨origin, records, started, made, all⟩ :=
    text_is_parsed_as_it_means { policy := .text "strict" }
  let written : List Action := [⟨{ value := -5 }, "10"⟩]
  obtain ⟨registry, seen⟩ : ∃ registry, ((Handles.ofRegistry origin).after
      [.clone 0, .call 1 (.register ⟨{ value := -5 }, "10"⟩)]).view? 0 = some registry := ⟨_, rfl⟩
  have reflects : registry.Reflects (Catalog.actions ++ written) :=
    Handles.reflects_written made.reflects seen
  obtain ⟨parsed, alike⟩ := all _ 0 registry seen
  have nameless : ∀ text ∈ ["+0010", "010", "-2147483648", "2147483648", "+-1"],
      registry.find text = none := by
    have absent : ∀ text ∈ ["+0010", "010", "-2147483648", "2147483648", "+-1"],
        ∀ action ∈ Catalog.actions ++ written, action.name? ≠ some text := by decide +kernel
    intro text member
    rw [reflects.find]
    exact holder?_eq_none (absent text member)
  have spelled : Decimal.Spells "+0010".toList 10 := ⟨⟨.plus, [0, 0, 1, 0], by decide⟩, rfl, rfl⟩
  have spelledShorter : Decimal.Spells "010".toList 10 := ⟨⟨.none, [0, 1, 0], by decide⟩, rfl, rfl⟩
  refine ⟨origin, records, registry, started, seen, (parsed "10" _).2 ?_, (parsed "+0010" _).2 ?_,
    alike { value := 10 } _ _ spelled spelledShorter ?_ ?_, (parsed "-2147483648" _).2 ?_,
    (parsed "2147483648" _).2 ?_, (parsed "+-1" _).2 ?_⟩
  · refine @Registry.Means.name _ _ ⟨80, ⟨{ value := -5 }, "10"⟩⟩ ?_ rfl
    rw [reflects.find]
    decide +kernel
  · refine @Registry.Means.number _ _ { value := 10 } ⟨11, ⟨{ value := 10 }, "update_update"⟩⟩
      (nameless _ (by decide)) spelled ?_ rfl
    rw [reflects.lookup]
    decide +kernel
  · exact nameless _ (by decide)
  · exact nameless _ (by decide)
  · refine .free (nameless _ (by decide)) (Decimal.spells_iff.2 (by decide)) ?_
    rw [reflects.lookup_eq_none_iff]
    decide +kernel
  · refine .neither (nameless _ (by decide)) fun value spells => ?_
    have read : Decimal.signed? "2147483648".toList = some 2147483648 := by decide
    cases read.symm.trans (Decimal.spells_iff.1 spells)
    decide
  · refine .neither (nameless _ (by decide)) fun value spells => ?_
    cases Decimal.spells_iff.1 spells

end ActionDirectory
