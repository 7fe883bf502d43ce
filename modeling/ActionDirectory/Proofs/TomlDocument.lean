/-
TOML documents. A document lists its top-level keys in ascending order, each of them once,
whatever its expressions are: every expression that counts for the top level sets one key
there, directly or at the end of a path or of a section, and setting a key keeps the order. So
a key that is found stands at one place among the others. The document of a single line that
sets a key to a quoted text has this key only, with the text that the quotes denote.
-/

import ActionDirectory.Toml.Document
import Mathlib.Data.String.Basic

namespace ActionDirectory.Toml

variable {parts result : Parts} {key : String} {node : Node}

namespace Parts

/-! ### Keys in ascending order -/

/-- The keys ascend, so none of them occurs twice. -/
def Ascending (parts : Parts) : Prop :=
  parts.Pairwise fun first second => first.1 < second.1

theorem mem_set {part : String × Node} (member : part ∈ set key node parts) :
    part.1 = key ∨ part ∈ parts := by
  induction parts with
  | nil => exact Or.inl (congrArg Prod.fst (List.mem_singleton.1 member))
  | cons first rest inductionHypothesis =>
    rw [set] at member
    split at member
    next =>
      rcases List.mem_cons.1 member with rfl | former
      · exact Or.inl rfl
      · exact Or.inr former
    next =>
      split at member
      next =>
        rcases List.mem_cons.1 member with rfl | former
        · exact Or.inl rfl
        · exact Or.inr (List.mem_cons_of_mem _ former)
      next =>
        rcases List.mem_cons.1 member with rfl | later
        · exact Or.inr List.mem_cons_self
        · exact (inductionHypothesis later).imp_right (List.mem_cons_of_mem _)

/-- Setting a key keeps the order. -/
theorem Ascending.set (ascends : Ascending parts) (key : String) (node : Node) :
    Ascending (Parts.set key node parts) := by
  induction parts with
  | nil => exact List.pairwise_singleton _ _
  | cons first rest inductionHypothesis =>
    obtain ⟨least, restAscends⟩ := List.pairwise_cons.1 ascends
    rw [Parts.set]
    rcases lt_trichotomy key first.1 with less | same | greater
    · rw [if_pos less]
      refine List.pairwise_cons.2 ⟨fun part member => ?_, ascends⟩
      rcases List.mem_cons.1 member with rfl | later
      · exact less
      · exact less.trans (least part later)
    · rw [if_neg same.not_lt, if_pos same]
      exact List.pairwise_cons.2 ⟨fun part member => same ▸ least part member, restAscends⟩
    · rw [if_neg greater.not_gt, if_neg greater.ne']
      refine List.pairwise_cons.2 ⟨fun part member => ?_, inductionHypothesis restAscends⟩
      rcases mem_set member with own | later
      · exact own ▸ greater
      · exact least part later

/-- A key that is found stands at one place. -/
theorem Ascending.split_of_get? (ascends : Ascending parts) (found : get? parts key = some node) :
    ∃ before after, parts = before ++ (key, node) :: after ∧
      ∀ part ∈ before ++ after, part.1 ≠ key := by
  obtain ⟨⟨_, _⟩, first, rfl⟩ := Option.map_eq_some_iff.1 found
  obtain ⟨own, before, after, rfl, others⟩ := List.find?_eq_some_iff_append.1 first
  cases of_decide_eq_true own
  refine ⟨before, after, rfl, fun part member => ?_⟩
  rcases List.mem_append.1 member with earlier | later
  · simpa using others part earlier
  · have least := (List.pairwise_cons.1 (List.pairwise_append.1 ascends).2.1).1
    exact (least part later).ne'

theorem erase_of_split {before after : Parts} (others : ∀ part ∈ before ++ after, part.1 ≠ key) :
    erase (before ++ (key, node) :: after) key = before ++ after := by
  have kept : ∀ side : Parts, (∀ part ∈ side, part ∈ before ++ after) →
      side.filter (fun part => part.1 ≠ key) = side := fun side within =>
    List.filter_eq_self.2 fun part member => decide_eq_true (others part (within part member))
  rw [erase, List.filter_append, List.filter_cons_of_neg (by simp),
    kept before fun part => List.mem_append_left _, kept after fun part => List.mem_append_right _]

/-! ### Edits of the top level -/

/-- An edit sets one key. -/
def SetsOne (edit : Table → Option Parts) : Prop :=
  ∀ table result, edit table = some result → ∃ key node, result = set key node table.2

/-- What an edit further inside gives is put under one key. -/
theorem exists_set_of_map {inner : Option Parts} {place : Parts → Node}
    (found : (inner.map fun edited => set key (place edited) parts) = some result) :
    ∃ key node, result = set key node parts := by
  obtain ⟨edited, -, rfl⟩ := Option.map_eq_some_iff.1 found
  exact ⟨key, place edited, rfl⟩

/-- An edit at the end of a path sets one key of the table that the path begins at. -/
theorem setsOne_descend {descent : Descent} {edit : Table → Option Parts} (sets : SetsOne edit)
    (path : List String) : SetsOne (descend descent edit path) := by
  intro table result found
  cases path with
  | nil => exact sets table result found
  | cons key path =>
    obtain ⟨origin, parts⟩ := table
    rw [descend] at found
    split at found
    next => exact exists_set_of_map found
    next =>
      split at found
      next => exact exists_set_of_map found
      next => cases found
    next =>
      split at found
      next => exact exists_set_of_map found
      next => cases found
    next => cases found

theorem setsOne_addKey (isDotted : Bool) (key : String) (node : Node) :
    SetsOne (addKey isDotted key node) := by
  intro table result found
  rw [addKey] at found
  split at found
  next => cases found
  next =>
    split at found
    next => cases found
    next =>
      cases found
      exact ⟨key, node, rfl⟩

theorem setsOne_assign (descent : Descent) (path : List String) (node : Node) :
    SetsOne (assign descent path node) := by
  intro table result found
  rw [assign] at found
  split at found
  next => cases found
  next key _ => exact setsOne_descend (setsOne_addKey _ key node) _ table result found

/-- What keeps the order does so at the end of every edit that sets one key. -/
theorem Ascending.of_setsOne {edit : Table → Option Parts} (sets : SetsOne edit) {table : Table}
    (ascends : Ascending table.2) (found : edit table = some result) : Ascending result := by
  obtain ⟨key, node, rfl⟩ := sets table result found
  exact ascends.set key node

end Parts

/-! ### Documents -/

namespace Draft

variable {draft next : Draft}

/-- The tree of a draft ascends, and so does the current section as long as it is the top level. A
section has the header of a table. -/
structure Ascends (draft : Draft) : Prop where
  tree : Parts.Ascending draft.tree
  current : draft.header = none → Parts.Ascending draft.current.2
  header : ∀ path value, draft.header ≠ some (.assignment path value)

theorem Ascends.finish (ascends : draft.Ascends) (found : draft.finish = some result) :
    Parts.Ascending result := by
  rw [Draft.finish.eq_def] at found
  split at found
  next path _ =>
    split at found
    next => cases found
    next key _ =>
      refine Parts.Ascending.of_setsOne (Parts.setsOne_descend ?_ _) ascends.tree found
      intro table result edited
      cases edited
      exact ⟨key, _, rfl⟩
  next path _ =>
    split at found
    next => cases found
    next key _ =>
      refine Parts.Ascending.of_setsOne (Parts.setsOne_descend ?_ _) ascends.tree found
      intro table result edited
      dsimp only at edited
      split at edited
      next =>
        cases edited
        exact ⟨key, _, rfl⟩
      next =>
        cases edited
        exact ⟨key, _, rfl⟩
      next => cases edited
  next notTable notElement =>
    cases found
    refine ascends.current ?_
    cases header : draft.header with
    | none => rfl
    | some expression =>
      cases expression with
      | assignment path value => exact absurd header (ascends.header path value)
      | table path => exact absurd header (notTable path)
      | element path => exact absurd header (notElement path)

theorem Ascends.add (ascends : draft.Ascends) {expression : Expression}
    (found : draft.add expression = some next) : next.Ascends := by
  cases expression with
  | assignment path value =>
    obtain ⟨node, -, assigned⟩ := Option.bind_eq_some_iff.1 found
    obtain ⟨parts, edited, rfl⟩ := Option.map_eq_some_iff.1 assigned
    refine ⟨ascends.tree, fun top => ?_, ascends.header⟩
    exact Parts.Ascending.of_setsOne (Parts.setsOne_assign _ _ _) (ascends.current top) edited
  | table path =>
    obtain ⟨tree, finished, opened⟩ := Option.bind_eq_some_iff.1 found
    have treeAscends := ascends.finish finished
    split at opened
    next =>
      cases opened
      exact ⟨treeAscends, nofun, nofun⟩
    next =>
      split at opened
      next =>
        cases opened
        exact ⟨treeAscends, nofun, nofun⟩
      next => cases opened
    next => cases opened
  | element path =>
    obtain ⟨tree, finished, opened⟩ := Option.bind_eq_some_iff.1 found
    have treeAscends := ascends.finish finished
    split at opened
    next =>
      cases opened
      exact ⟨treeAscends, nofun, nofun⟩
    next =>
      cases opened
      exact ⟨treeAscends, nofun, nofun⟩
    next => cases opened

theorem Ascends.addAll (ascends : draft.Ascends) {expressions : List Expression}
    (found : draft.addAll expressions = some next) : next.Ascends := by
  induction expressions generalizing draft with
  | nil =>
    cases found
    exact ascends
  | cons expression rest inductionHypothesis =>
    obtain ⟨behind, added, others⟩ := Option.bind_eq_some_iff.1 found
    exact inductionHypothesis (ascends.add added) others

end Draft

/-- The top-level keys of a document ascend. -/
theorem ascending_of_document? {text : List Char} (found : document? text = some parts) :
    Parts.Ascending parts := by
  obtain ⟨expressions, -, read⟩ := Option.bind_eq_some_iff.1 found
  obtain ⟨draft, added, finished⟩ := Option.bind_eq_some_iff.1 read
  have begins : Draft.Ascends {} := ⟨List.Pairwise.nil, fun _ => List.Pairwise.nil, nofun⟩
  exact (begins.addAll added).finish finished

/-! ### Documents of one line -/

theorem isBare_ne {first mark : Char} (bare : isBare first = true) (other : isBare mark = false) :
    first ≠ mark := by
  rintro rfl
  rw [bare] at other
  cases other

/-- A key without quotes is read up to the first character that cannot stand in it. -/
theorem key?_bare {key : List Char} {mark : Char} (rest : List Char) (nonempty : key ≠ [])
    (bare : ∀ character ∈ key, isBare character = true) (ends : isBare mark = false) :
    key? (key ++ mark :: rest) = some (String.ofList key, mark :: rest) := by
  have taken : (key ++ mark :: rest).takeWhile isBare = key := by
    rw [List.takeWhile_append_of_pos bare, List.takeWhile_cons_of_neg (by simp [ends]),
      List.append_nil]
  have left : (key ++ mark :: rest).dropWhile isBare = mark :: rest := by
    rw [List.dropWhile_append_of_pos bare, List.dropWhile_cons_of_neg (by simp [ends])]
  have quotes : ∀ quote tail, isBare quote = false → key ++ mark :: rest ≠ quote :: tail := by
    intro quote tail other same
    cases key with
    | nil => exact nonempty rfl
    | cons first others =>
      exact isBare_ne (bare first List.mem_cons_self) other (List.cons.inj same).1
  unfold key?
  split
  case h_5 => simp [taken, left, nonempty]
  all_goals
    rename_i same
    exact absurd same (quotes _ _ rfl)

/-- A quoted text begins with a quote. -/
theorem exists_of_quoted? {text : List Char} {found : List Char × List Char}
    (read : quoted? text = some found) : ∃ rest, text = '"' :: rest ∨ text = '\'' :: rest := by
  unfold quoted? at read
  split at read
  case h_1 | h_2 => exact ⟨_, Or.inl rfl⟩
  case h_3 | h_4 => exact ⟨_, Or.inr rfl⟩
  case h_5 => cases read

theorem literal_read?_quoted (depth : Nat) {text value rest : List Char}
    (read : quoted? text = some (value, rest)) :
    Literal.read? depth text = some (.scalar (.string (String.ofList value)), rest) := by
  obtain ⟨tail, rfl | rfl⟩ := exists_of_quoted? read
  all_goals cases depth <;> simp [Literal.read?, Scalar.read?, read]

section Line

variable {key literal value : List Char}

/-- A line that sets a key without quotes to a quoted text. -/
def lineOf (key literal : List Char) : List Char :=
  key ++ ' ' :: '=' :: ' ' :: literal

/-- The first character of such a line begins neither a table nor a comment nor another line. -/
theorem exists_of_lineOf (nonempty : key ≠ [])
    (bare : ∀ character ∈ key, isBare character = true) (literal : List Char) :
    ∃ first rest, lineOf key literal = first :: rest ∧ isBare first = true := by
  cases key with
  | nil => exact absurd rfl nonempty
  | cons first rest => exact ⟨first, _, rfl, bare first List.mem_cons_self⟩

theorem read?_lineOf (nonempty : key ≠ []) (bare : ∀ character ∈ key, isBare character = true)
    (read : quoted? literal = some (value, [])) :
    Expression.read? (lineOf key literal) =
      some (.assignment [String.ofList key] (.scalar (.string (String.ofList value))), []) := by
  obtain ⟨first, rest, begins, bareFirst⟩ := exists_of_lineOf nonempty bare literal
  have path : path? (lineOf key literal) =
      some ([String.ofList key], ' ' :: '=' :: ' ' :: literal) := by
    rw [path?, keys?, lineOf, key?_bare _ nonempty bare rfl]
    rfl
  have visible : skipBlanks (' ' :: literal) = literal := by
    obtain ⟨tail, rfl | rfl⟩ := exists_of_quoted? read <;> rfl
  have line : Literal.line? (Literal.read? 80) (lineOf key literal) =
      some (([String.ofList key], .scalar (.string (String.ofList value))), []) := by
    rw [Literal.line?, Literal.assignment?, path]
    show (Literal.read? 80 (skipBlanks (' ' :: literal))).map _ = _
    rw [visible, literal_read?_quoted 80 read]
    rfl
  unfold Expression.read?
  split
  case h_3 => rw [line]; rfl
  all_goals
    rename_i same
    rw [begins] at same
    exact absurd (List.cons.inj same).1 (isBare_ne bareFirst rfl)

theorem skipTrivia_lineOf (nonempty : key ≠ [])
    (bare : ∀ character ∈ key, isBare character = true) (literal : List Char) :
    skipTrivia false (lineOf key literal) = some (lineOf key literal) := by
  obtain ⟨first, rest, begins, bareFirst⟩ := exists_of_lineOf nonempty bare literal
  have others : ∀ mark, isBare mark = false → first ≠ mark := fun _ => isBare_ne bareFirst
  have visible : isBlank first = false := by
    simp [isBlank, others ' ' rfl, others '\t' rfl]
  have here := skipTrivia.eq_6 first rest (others '\n' rfl)
    (fun _ same _ => others '\r' rfl same) (others '#' rfl)
  rw [begins, here, visible]
  rfl

/-- The document of such a line has the key only. -/
theorem document?_lineOf (nonempty : key ≠ [])
    (bare : ∀ character ∈ key, isBare character = true)
    (read : quoted? literal = some (value, [])) :
    document? (lineOf key literal) =
      some [(String.ofList key, .leaf (.string (String.ofList value)))] := by
  obtain ⟨first, rest, begins, bareFirst⟩ := exists_of_lineOf nonempty bare literal
  have lines : ∀ count, Expression.lines? (count + 2) (lineOf key literal) =
      some [.assignment [String.ofList key] (.scalar (.string (String.ofList value)))] := by
    intro count
    rw [Expression.lines?, skipTrivia_lineOf nonempty bare]
    simp only [begins]
    rw [← begins, read?_lineOf nonempty bare read]
    rfl
  have ofDocument : Expression.ofDocument? (lineOf key literal) =
      some [.assignment [String.ofList key] (.scalar (.string (String.ofList value)))] := by
    unfold Expression.ofDocument?
    split
    case h_1 same =>
      rw [begins] at same
      exact absurd (List.cons.inj same).1 (isBare_ne bareFirst rfl)
    case h_2 =>
      have counted : (lineOf key literal).length + 1 = rest.length + 2 := by rw [begins]; rfl
      rw [counted, lines]
  rw [document?, ofDocument]
  rfl

end Line

end ActionDirectory.Toml
