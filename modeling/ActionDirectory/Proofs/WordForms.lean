/-
The words that settings are spelled with. A word is trimmed and lower-cased by all of Unicode
before it is compared, but no spelling needs more than ASCII. Lower-casing takes a character
beyond ASCII to a form that is not in ASCII throughout, and there is one exception, the sign of the
kelvin, which becomes a letter that no spelling has. So a word spells something exactly if
it does so up to the case of ASCII letters, once the blanks around it are gone.

The small form of a capital sigma depends on the letters around it. No rule for it can matter, as
neither of its forms is in ASCII.
-/

import ActionDirectory.Settings.Policy
import Mathlib.Data.List.TakeWhile

namespace ActionDirectory

/-! ### Trimming -/

namespace Blank

variable {text kept blanks : List Char}

/-- What is left of a text when the blanks at both ends are removed. -/
structure IsTrimmed (text kept : List Char) : Prop where
  split : ∃ front back, text = front ++ (kept ++ back) ∧ front.all isBlank = true ∧
    back.all isBlank = true
  head : ∀ first, kept.head? = some first → isBlank first = false
  last : ∀ final, kept.getLast? = some final → isBlank final = false

theorem trimRight_of_blank (blank : blanks.all isBlank = true) : trimRight blanks = [] := by
  induction blanks with
  | nil => rfl
  | cons first rest inductionHypothesis =>
    rw [List.all_cons, Bool.and_eq_true] at blank
    rw [trimRight, inductionHypothesis blank.2]
    exact if_pos blank.1

theorem trimRight_append (last : ∀ final, kept.getLast? = some final → isBlank final = false)
    (blank : blanks.all isBlank = true) : trimRight (kept ++ blanks) = kept := by
  induction kept with
  | nil => exact trimRight_of_blank blank
  | cons first rest inductionHypothesis =>
    cases rest with
    | nil =>
      have visible : isBlank first = false := last first rfl
      simp [trimRight, trimRight_of_blank blank, visible]
    | cons second others =>
      have behind : trimRight (second :: others ++ blanks) = second :: others :=
        inductionHypothesis fun final ends => last final (by rwa [List.getLast?_cons_cons])
      rw [List.cons_append, trimRight, behind]

theorem isBlank_getLast_trimRight {characters : List Char} {final : Char}
    (ends : (trimRight characters).getLast? = some final) : isBlank final = false := by
  induction characters with
  | nil => cases ends
  | cons first rest inductionHypothesis =>
    rw [trimRight] at ends
    split at ends
    next =>
      split at ends
      next => cases ends
      next visible =>
        cases ends
        exact Bool.eq_false_iff.2 visible
    next nonempty =>
      refine inductionHypothesis ?_
      cases kept : trimRight rest with
      | nil => exact absurd kept nonempty
      | cons second others => rwa [kept, List.getLast?_cons_cons] at ends

/-- Trimming removes the blanks at both ends and nothing else. -/
theorem isTrimmed_iff : IsTrimmed text kept ↔ kept = trim text := by
  constructor
  · rintro ⟨⟨front, back, rfl, frontBlank, backBlank⟩, head, last⟩
    rw [trim, List.dropWhile_append_of_pos (List.all_eq_true.1 frontBlank)]
    cases kept with
    | nil =>
      have nothing : back.dropWhile isBlank = [] :=
        List.dropWhile_eq_nil_iff.2 (List.all_eq_true.1 backBlank)
      rw [List.nil_append, nothing]
      rfl
    | cons first rest =>
      rw [List.cons_append, List.dropWhile_cons_of_neg (by simp [head first rfl]),
        ← List.cons_append, trimRight_append last backBlank]
  · rintro rfl
    obtain ⟨back, split, backBlank⟩ := trimRight_append_blanks (text.dropWhile isBlank)
    refine ⟨⟨text.takeWhile isBlank, back, ?_, List.all_takeWhile, backBlank⟩, ?_,
      fun final => isBlank_getLast_trimRight⟩
    · rw [trim, ← split, List.takeWhile_append_dropWhile]
    · intro first begins
      obtain ⟨rest, kept⟩ := List.head?_eq_some_iff.1 begins
      have visible : (text.dropWhile isBlank).head? = some first := by
        rw [split]
        exact congrArg (fun characters => (characters ++ back).head?) kept
      simpa [visible] using List.head?_dropWhile_not isBlank text

end Blank

/-! ### Small letters -/

namespace LowerCase

variable {character : Char} {word lowered spelled : List Char}

theorem ofChar_of_ascii (ascii : character.toNat < 0x80) :
    ofChar character = [character.toLower] := by
  have table : ∀ code : Fin 0x80, ofChar (Char.ofNat code) = [(Char.ofNat code).toLower] := by
    decide +kernel
  have found := table ⟨character.toNat, ascii⟩
  rwa [Char.ofNat_toNat] at found

/-- A run takes capitals of ASCII only from ASCII, or it is the sign of the kelvin. -/
theorem runs_reach : ∀ run ∈ runs, run.last < 0x80 ∨
    run.first = 0x212A ∧ run.last = 0x212A ∧ run.offset = -8383 ∨
    0x80 ≤ run.first + run.offset ∧ (run.last + run.offset < 0xD800 ∨
      0xDFFF < run.first + run.offset ∧ run.last + run.offset < 0x110000) := by
  decide +kernel

/-- A character beyond ASCII has a small form beyond ASCII, with one exception. -/
theorem ofChar_of_foreign (foreign : 0x80 ≤ character.toNat) :
    ofChar character = ['k'] ∨ ∃ small ∈ ofChar character, 0x80 ≤ small.toNat := by
  rw [ofChar]
  split
  next => exact Or.inr ⟨Char.ofNat 0x307, by simp, by decide⟩
  next =>
    split
    next run found =>
      have covered := List.find?_some found
      simp only [Run.covers, Bool.and_eq_true, decide_eq_true_eq] at covered
      rcases runs_reach run (List.mem_of_find?_eq_some found) with ascii | kelvin | beyond
      · omega
      · left
        have code : (character.toNat + run.offset).toNat = 107 := by omega
        rw [code]
      · refine Or.inr ⟨_, List.mem_singleton_self _, ?_⟩
        have valid : (character.toNat + run.offset).toNat.isValidChar := by
          simp only [Nat.isValidChar]
          omega
        have code : (Char.ofNat (character.toNat + run.offset).toNat).toNat =
            (character.toNat + run.offset).toNat := by
          rw [Char.ofNat, dif_pos valid]
          rfl
        omega
    next => exact Or.inr ⟨character, List.mem_singleton_self _, foreign⟩

theorem toLower_of_foreign (foreign : 0x80 ≤ character.toNat) :
    character.toLower = character := by
  refine dif_neg ?_
  rintro ⟨-, letter⟩
  have beyond : 'Z'.toNat < character.toNat := Nat.lt_of_lt_of_le (by decide) foreign
  exact absurd (UInt32.le_iff_toNat_le.1 letter) (Nat.not_le.2 beyond)

/-- What lower-casing can make of a text: each character takes its small form, and a capital sigma
may also take the one of the end of a word. -/
inductive LowersTo : List Char → List Char → Prop
  | nil : LowersTo [] []
  | cons {character : Char} {form word lowered : List Char}
      (forms : form = ofChar character ∨ character = 'Σ' ∧ form = ['ς'])
      (rest : LowersTo word lowered) : LowersTo (character :: word) (form ++ lowered)

theorem lowersTo_ofChars (word : List Char) : LowersTo word (ofChars word) := by
  induction word with
  | nil => exact .nil
  | cons character word inductionHypothesis => exact .cons (Or.inl rfl) inductionHypothesis

/-- A text whose letters are in ASCII, but for the one that the sign of the kelvin becomes. -/
def IsPlain (spelled : List Char) : Prop :=
  ∀ small ∈ spelled, small.toNat < 0x80 ∧ small ≠ 'k'

/-- Only text of ASCII is lowered to a plain text. -/
theorem LowersTo.ascii (lowers : LowersTo word lowered) (plain : IsPlain lowered) :
    ∀ character ∈ word, character.toNat < 0x80 := by
  induction lowers with
  | nil => exact nofun
  | @cons character form word lowered forms rest inductionHypothesis =>
    obtain ⟨plainForm, plainRest⟩ := List.forall_mem_append.1 plain
    refine List.forall_mem_cons.2 ⟨?_, inductionHypothesis plainRest⟩
    by_contra notAscii
    have foreign : 0x80 ≤ character.toNat := Nat.not_lt.1 notAscii
    rcases forms with rfl | ⟨-, rfl⟩
    · rcases ofChar_of_foreign foreign with kelvin | ⟨small, member, beyond⟩
      · rw [kelvin] at plainForm
        exact (plainForm 'k' List.mem_cons_self).2 rfl
      · exact absurd (plainForm small member).1 (Nat.not_lt.2 beyond)
    · exact absurd (plainForm 'ς' List.mem_cons_self).1 (by decide)

theorem LowersTo.eq_of_ascii (lowers : LowersTo word lowered)
    (ascii : ∀ character ∈ word, character.toNat < 0x80) :
    lowered = word.map Char.toLower := by
  induction lowers with
  | nil => rfl
  | @cons character form word lowered forms rest inductionHypothesis =>
    obtain ⟨here, others⟩ := List.forall_mem_cons.1 ascii
    rw [inductionHypothesis others, List.map_cons]
    rcases forms with rfl | ⟨rfl, -⟩
    · rw [ofChar_of_ascii here]
      rfl
    · exact absurd here (by decide)

/-- A text is lowered to a plain text exactly if it is this text up to the case of letters of
ASCII. -/
theorem LowersTo.eq_iff (lowers : LowersTo word lowered) (plain : IsPlain spelled) :
    lowered = spelled ↔ word.map Char.toLower = spelled := by
  constructor
  · rintro rfl
    exact (lowers.eq_of_ascii (lowers.ascii plain)).symm
  · rintro rfl
    refine lowers.eq_of_ascii fun character member => ?_
    by_contra notAscii
    have same := toLower_of_foreign (Nat.not_lt.1 notAscii)
    exact notAscii (same ▸ (plain _ (List.mem_map_of_mem member)).1)

/-- Characters of ASCII are blank or not whatever their case. -/
theorem isBlank_toLower (ascii : character.toNat < 0x80) :
    Blank.isBlank character.toLower = Blank.isBlank character := by
  have table : ∀ code : Fin 0x80, Blank.isBlank (Char.ofNat code).toLower =
      Blank.isBlank (Char.ofNat code) := by
    decide +kernel
  have found := table ⟨character.toNat, ascii⟩
  rwa [Char.ofNat_toNat] at found

end LowerCase

/-! ### Spellings -/

open LowerCase

/-- A word without the blanks around it, with small letters for the capitals of ASCII. -/
def asciiForm (word : String) : String :=
  String.ofList ((Blank.trim word.toList).map Char.toLower)

/-- A spelling has plain letters and no blanks. -/
def IsSpelling (spelling : String) : Prop :=
  IsPlain spelling.toList ∧ ∀ letter ∈ spelling.toList, Blank.isBlank letter = false

section Spellings

variable {word : String} {spellings : List String}

/-- Spellings can be checked letter by letter. -/
theorem isSpelling_of_all (letters : (spellings.all fun spelling =>
      spelling.toList.all fun letter =>
        (letter.toNat < 0x80 && letter ≠ 'k') && !Blank.isBlank letter) = true) :
    ∀ spelling ∈ spellings, IsSpelling spelling := by
  intro spelling member
  have checked : ∀ letter ∈ spelling.toList,
      (letter.toNat < 0x80 ∧ letter ≠ 'k') ∧ Blank.isBlank letter = false := by
    intro letter inside
    have check := List.all_eq_true.1 (List.all_eq_true.1 letters spelling member) letter inside
    simpa using check
  exact ⟨fun letter inside => (checked letter inside).1,
    fun letter inside => (checked letter inside).2⟩

theorem any_toList_iff {letters : List Char} :
    (spellings.any fun spelling => spelling.toList = letters) = true ↔
      String.ofList letters ∈ spellings := by
  rw [List.any_eq_true]
  constructor
  · rintro ⟨spelling, member, same⟩
    rwa [← of_decide_eq_true same, String.ofList_toList]
  · exact fun member => ⟨_, member, decide_eq_true String.toList_ofList⟩

/-- However the capital sigmas of a word are lowered, it becomes one of some spellings exactly if
its form in ASCII is one. -/
theorem lowered_mem_iff (plain : ∀ spelling ∈ spellings, IsSpelling spelling) {lowered : List Char}
    (lowers : LowersTo (Blank.trim word.toList) lowered) :
    String.ofList lowered ∈ spellings ↔ asciiForm word ∈ spellings := by
  have same : ∀ spelling ∈ spellings, String.ofList lowered = spelling ↔
      asciiForm word = spelling := by
    intro spelling member
    rw [asciiForm, ← String.toList_inj, String.toList_ofList, ← String.toList_inj,
      String.toList_ofList]
    exact lowers.eq_iff (plain spelling member).1
  constructor
  · exact fun member => (same _ member).1 rfl ▸ member
  · exact fun member => (same _ member).2 rfl ▸ member

/-- A word that spells something has only characters of ASCII, and no blanks inside. -/
theorem ascii_of_spells (plain : ∀ spelling ∈ spellings, IsSpelling spelling)
    (spells : asciiForm word ∈ spellings) :
    ∀ character ∈ Blank.trim word.toList,
      character.toNat < 0x80 ∧ Blank.isBlank character = false := by
  have lowers := lowersTo_ofChars (Blank.trim word.toList)
  obtain ⟨letters, visible⟩ := plain _ spells
  rw [asciiForm, String.toList_ofList] at letters visible
  have same : ofChars (Blank.trim word.toList) = _ := (lowers.eq_iff letters).2 rfl
  have ascii := lowers.ascii (same ▸ letters)
  intro character member
  have here := ascii character member
  exact ⟨here, isBlank_toLower here ▸ visible _ (List.mem_map_of_mem member)⟩

end Spellings

variable {word : String}

theorem Policy.isSpelling (policy : Policy) :
    ∀ spelling ∈ policy.spellings, IsSpelling spelling :=
  isSpelling_of_all (by cases policy <;> decide +kernel)

theorem Flag.isSpelling (value : Bool) :
    ∀ spelling ∈ Flag.spellings value, IsSpelling spelling :=
  isSpelling_of_all (by cases value <;> decide +kernel)

theorem Policy.spells_iff {policy : Policy} :
    policy.spells word = true ↔ asciiForm word ∈ policy.spellings :=
  any_toList_iff.trans (lowered_mem_iff policy.isSpelling (lowersTo_ofChars _))

theorem Flag.spells_iff {value : Bool} :
    Flag.spells value word = true ↔ asciiForm word ∈ Flag.spellings value :=
  any_toList_iff.trans (lowered_mem_iff (Flag.isSpelling value) (lowersTo_ofChars _))

/-- Of two choices that exclude each other either one decides its own outcome. -/
theorem choice_eq_iff {Outcome : Type} {first second : Prop} [Decidable first] [Decidable second]
    (one other neither : Outcome) (apart : first → ¬ second)
    (distinct : one ≠ other ∧ neither ≠ one ∧ neither ≠ other) :
    ((if first then one else if second then other else neither) = one ↔ first) ∧
      ((if first then one else if second then other else neither) = other ↔ second) := by
  obtain ⟨apartOne, neitherOne, neitherOther⟩ := distinct
  by_cases holds : first
  · rw [if_pos holds]
    exact ⟨iff_of_true rfl holds, iff_of_false apartOne (apart holds)⟩
  · rw [if_neg holds]
    by_cases otherHolds : second
    · rw [if_pos otherHolds]
      exact ⟨iff_of_false apartOne.symm holds, iff_of_true rfl otherHolds⟩
    · rw [if_neg otherHolds]
      exact ⟨iff_of_false neitherOne holds, iff_of_false neitherOther otherHolds⟩

theorem Policy.ofWord_eq_ok_iff {policy : Policy} :
    ofWord word = .ok policy ↔ asciiForm word ∈ policy.spellings := by
  have disjoint : ∀ spelling ∈ replace.spellings, spelling ∉ reject.spellings := by decide
  have apart : replace.spells word = true → ¬ reject.spells word = true := fun first second =>
    disjoint _ (spells_iff.1 first) (spells_iff.1 second)
  have choice := choice_eq_iff (Except.ok replace) (Except.ok reject) (Except.error (invalid word))
    apart ⟨nofun, nofun, nofun⟩
  rw [ofWord, ← spells_iff]
  cases policy with
  | replace => exact choice.1
  | reject => exact choice.2

theorem Flag.ofWord?_eq_some_iff {value : Bool} :
    ofWord? word = some value ↔ asciiForm word ∈ spellings value := by
  have disjoint : ∀ spelling ∈ spellings true, spelling ∉ spellings false := by decide
  have apart : spells true word = true → ¬ spells false word = true := fun first second =>
    disjoint _ (spells_iff.1 first) (spells_iff.1 second)
  have choice := choice_eq_iff (some true) (some false) none apart ⟨nofun, nofun, nofun⟩
  rw [ofWord?, ← spells_iff]
  cases value with
  | true => exact choice.1
  | false => exact choice.2

/-- A word is refused as a policy exactly if it spells none, and it is quoted as it was given. -/
theorem Policy.ofWord_eq_error_iff :
    ofWord word = .error (invalid word) ↔ ∀ policy : Policy, asciiForm word ∉ policy.spellings := by
  constructor
  · intro refused policy spelled
    rw [ofWord_eq_ok_iff.2 spelled] at refused
    cases refused
  · intro none
    rw [ofWord, if_neg (mt spells_iff.1 (none replace)), if_neg (mt spells_iff.1 (none reject))]

/-! ### The rule -/

/-- Whatever the word is: it is taken for a policy or for a truth value exactly if what is left of
it without the blanks at both ends is one of the spellings, up to the case of letters of ASCII. What
is left then has only characters of ASCII and no blank inside, although some characters beyond ASCII
have a small form in ASCII. It does not matter which small forms the capital sigmas of the word
take. -/
theorem words_are_exact (word : String) :
    ∃ kept, (∀ other, Blank.IsTrimmed word.toList other ↔ other = kept) ∧
      let small := String.ofList (kept.map Char.toLower)
      (Policy.ofWord word = .ok .replace ↔
          small ∈ ["replace", "overwrite", "last-write-wins"]) ∧
        (Policy.ofWord word = .ok .reject ↔ small ∈ ["reject", "error", "strict"]) ∧
        (Policy.ofWord word = .error (Policy.invalid word) ↔
          small ∉ ["replace", "overwrite", "last-write-wins", "reject", "error", "strict"]) ∧
        (Flag.ofWord? word = some true ↔ small ∈ ["1", "true", "yes", "on"]) ∧
        (Flag.ofWord? word = some false ↔ small ∈ ["0", "false", "no", "off"]) ∧
        ((∃ policy, Policy.ofWord word = .ok policy) ∨ (∃ value, Flag.ofWord? word = some value) →
          ∀ character ∈ kept, character.toNat < 0x80 ∧ Blank.isBlank character = false) ∧
        ∀ lowered, LowersTo kept lowered →
          (∀ policy : Policy, Policy.ofWord word = .ok policy ↔
              String.ofList lowered ∈ policy.spellings) ∧
            ∀ value, Flag.ofWord? word = some value ↔
              String.ofList lowered ∈ Flag.spellings value := by
  refine ⟨Blank.trim word.toList, fun other => Blank.isTrimmed_iff, Policy.ofWord_eq_ok_iff,
    Policy.ofWord_eq_ok_iff, ?_, Flag.ofWord?_eq_some_iff, Flag.ofWord?_eq_some_iff, ?_,
    fun lowered lowers => ⟨fun policy => ?_, fun value => ?_⟩⟩
  · rw [Policy.ofWord_eq_error_iff]
    show _ ↔ asciiForm word ∉ Policy.replace.spellings ++ Policy.reject.spellings
    rw [List.mem_append, not_or]
    refine ⟨fun none => ⟨none .replace, none .reject⟩, fun none policy => ?_⟩
    cases policy with
    | replace => exact none.1
    | reject => exact none.2
  · rintro (⟨policy, spelled⟩ | ⟨value, spelled⟩)
    · exact ascii_of_spells policy.isSpelling (Policy.ofWord_eq_ok_iff.1 spelled)
    · exact ascii_of_spells (Flag.isSpelling value) (Flag.ofWord?_eq_some_iff.1 spelled)
  · rw [Policy.ofWord_eq_ok_iff, lowered_mem_iff policy.isSpelling lowers]
  · rw [Flag.ofWord?_eq_some_iff, lowered_mem_iff (Flag.isSpelling value) lowers]

/-- A wide blank and a line break do not matter around a word, but a blank inside does. Neither a
long s nor a capital i with a dot makes a spelling. -/
theorem words_are_exact_beyond_ascii :
    Policy.ofWord "\u3000Last-WRITE-wins\n" = .ok .replace ∧
      Policy.ofWord "\u017fTR\u0130CT" = .error (Policy.invalid "\u017fTR\u0130CT") ∧
      Flag.ofWord? "o ff" ≠ some false := by
  refine ⟨?_, ?_, ?_⟩
  · obtain ⟨kept, trimmed, replaces, -⟩ := words_are_exact "\u3000Last-WRITE-wins\n"
    rw [← (trimmed _).1 (Blank.isTrimmed_iff.2 rfl)] at replaces
    exact replaces.2 (by decide +kernel)
  · obtain ⟨kept, trimmed, -, -, refused, -⟩ := words_are_exact "\u017fTR\u0130CT"
    rw [← (trimmed _).1 (Blank.isTrimmed_iff.2 rfl)] at refused
    exact refused.2 (by decide +kernel)
  · obtain ⟨kept, trimmed, -, -, -, -, denies, -⟩ := words_are_exact "o ff"
    rw [← (trimmed _).1 (Blank.isTrimmed_iff.2 rfl)] at denies
    exact mt denies.1 (by decide +kernel)

end ActionDirectory
