/-
Blank characters: the code points with the Unicode property White_Space, and the
removal of blanks from both ends of a text. No blank is left at either end of a
trimmed text, and nothing else is taken away.
-/

namespace ActionDirectory.Blank

/-- The first and last code point of each run of blanks. -/
def runs : List (Nat × Nat) :=
  [(0x9, 0xD), (0x20, 0x20), (0x85, 0x85), (0xA0, 0xA0), (0x1680, 0x1680), (0x2000, 0x200A),
   (0x2028, 0x2029), (0x202F, 0x202F), (0x205F, 0x205F), (0x3000, 0x3000)]

/-- A blank lies in one of the runs. -/
def isBlank (character : Char) : Bool :=
  runs.any fun run => run.1 ≤ character.toNat && character.toNat ≤ run.2

/-- The text without the blanks at its end. -/
def trimRight : List Char → List Char
  | [] => []
  | character :: rest =>
    match trimRight rest with
    | [] => if isBlank character then [] else [character]
    | kept => character :: kept

/-- The text without the blanks at either end. -/
def trim (characters : List Char) : List Char :=
  trimRight (characters.dropWhile isBlank)

/-! ### What trimming leaves -/

theorem trimRight_append_blanks (characters : List Char) :
    ∃ blanks, characters = trimRight characters ++ blanks ∧ blanks.all isBlank = true := by
  induction characters with
  | nil => exact ⟨[], rfl, rfl⟩
  | cons character rest inductionHypothesis =>
    obtain ⟨blanks, split, areBlank⟩ := inductionHypothesis
    cases kept : trimRight rest with
    | nil =>
      rw [kept, List.nil_append] at split
      by_cases blank : isBlank character = true
      · refine ⟨character :: rest, ?_, ?_⟩
        · simp [trimRight, kept, blank]
        · rw [List.all_cons, blank, split, areBlank, Bool.and_self]
      · refine ⟨rest, ?_, split ▸ areBlank⟩
        simp [trimRight, kept, blank]
    | cons first others =>
      refine ⟨blanks, ?_, areBlank⟩
      rw [trimRight, kept]
      show character :: rest = character :: (first :: others ++ blanks)
      rw [← kept, ← split]

end ActionDirectory.Blank
