/-
What stands under a key at the top level of a document. Every expression makes a statement at a
path: a header at its own, and an assignment at its path behind the one of the section that it
stands in. Only statements whose path begins with the key have a say. If there are none, nothing
stands there. If one of them assigns to the key alone, it is the only one, and its value stands
there. Otherwise headers and dotted keys have made a table there, or several.

A document is read expression by expression, and the section of the last header is kept apart until
the next one. So what an expression does is told of the finished tree, as if the document ended in
front of it or behind it.
-/

import ActionDirectory.Toml.Document

namespace ActionDirectory.Toml

variable {parts result : Parts} {key first : String} {node : Node}

/-! ### Keys of a table -/

namespace Parts

theorem get?_cons (part : String × Node) (rest : Parts) (key : String) :
    get? (part :: rest) key = if part.1 = key then some part.2 else get? rest key := by
  rw [get?, List.find?_cons]
  by_cases own : part.1 = key
  · simp [own]
  · simp [own, get?]

theorem get?_set (parts : Parts) (first key : String) (node : Node) :
    get? (set first node parts) key = if first = key then some node else get? parts key := by
  induction parts with
  | nil => exact get?_cons (first, node) [] key
  | cons part rest inductionHypothesis =>
    rw [set]
    split
    next => exact get?_cons (first, node) (part :: rest) key
    next =>
      split
      next same =>
        rw [get?_cons, get?_cons, ← same]
        split <;> rfl
      next other =>
        rw [get?_cons, inductionHypothesis, get?_cons]
        by_cases own : part.1 = key
        · rw [if_pos own, if_pos own, if_neg (own ▸ other)]
        · rw [if_neg own, if_neg own]

theorem get?_set_other (other : key ≠ first) :
    get? (set first node parts) key = get? parts key := by
  rw [get?_set, if_neg other.symm]

end Parts

/-! ### Open and closed values -/

/-- Headers and dotted keys can have made the table. -/
def Origin.isOpen (origin : Origin) : Bool :=
  !origin.inline || origin.implicit

/-- A table, or several, that headers and dotted keys can have made. -/
def Node.isOpen : Node → Bool
  | .branch (.table origin) _ => origin.isOpen
  | .branch .elements _ => true
  | _ => false

/-- What an assignment can give to a key is closed. -/
theorem isOpen_of_node? {value : Literal} (made : value.node? = some node) :
    node.isOpen = false := by
  cases value with
  | scalar scalar =>
    cases made
    rfl
  | array items =>
    obtain ⟨nodes, -, rfl⟩ := Option.map_eq_some_iff.1 made
    rfl
  | table members =>
    obtain ⟨inner, -, rfl⟩ := Option.map_eq_some_iff.1 made
    rfl

/-- Tables can be put under a key: there are some already, or nothing. -/
def Admits (former : Option Node) : Prop :=
  ∀ node, former = some node → node.isOpen = true

/-- There are tables. -/
def Opened (current : Option Node) : Prop :=
  ∃ node, current = some node ∧ node.isOpen = true

theorem admits_none : Admits none :=
  nofun

theorem Opened.admits {current : Option Node} (opened : Opened current) : Admits current := by
  obtain ⟨node, rfl, isOpen⟩ := opened
  intro other same
  cases same
  exact isOpen

/-- Tables stand under a key, and the other keys were left alone. -/
structure Puts (first : String) (parts result : Parts) : Prop where
  after : Opened (Parts.get? result first)
  others : ∀ key, key ≠ first → Parts.get? result key = Parts.get? parts key

/-- Tables were put under a key that admitted them, and the other keys were left alone. -/
structure Grows (first : String) (parts result : Parts) : Prop extends Puts first parts result where
  before : Admits (Parts.get? parts first)

theorem puts_set (isOpen : node.isOpen = true) (parts : Parts) :
    Puts first parts (Parts.set first node parts) where
  after := ⟨node, by rw [Parts.get?_set, if_pos rfl], isOpen⟩
  others _ other := Parts.get?_set_other other

theorem Grows.of_set (before : Admits (Parts.get? parts first)) (isOpen : node.isOpen = true) :
    Grows first parts (Parts.set first node parts) :=
  ⟨puts_set isOpen parts, before⟩

/-- If tables are put under a key twice, the second time the key admits them. -/
theorem Puts.grows {other : Parts} (puts : Puts first parts result)
    (again : Puts first parts other) : Grows first result other where
  after := again.after
  others key different := (again.others key different).trans (puts.others key different).symm
  before := puts.after.admits

/-! ### Paths -/

namespace Parts

variable {descent : Descent} {edit : Table → Option Parts} {table : Table} {path : List String}

/-- A path is followed through open tables only, and makes open ones. -/
structure Descent.IsOpen (descent : Descent) : Prop where
  making : descent.making.isOpen = true
  enters : ∀ origin, descent.enters origin = true → origin.isOpen = true

theorem Descent.isOpen_header : Descent.header.IsOpen where
  making := rfl
  enters origin entered := by
    rw [Origin.isOpen, Bool.or_eq_true]
    exact Or.inl entered

theorem Descent.isOpen_dotted : Descent.dotted.IsOpen where
  making := rfl
  enters origin entered := by
    rw [Origin.isOpen, Bool.or_eq_true]
    exact Or.inl (Bool.and_eq_true_iff.1 entered).1

/-- Behind its first key a path changes what is in the tables there only. -/
theorem grows_descend (isOpen : descent.IsOpen)
    (found : descend descent edit (first :: path) table = some result) :
    Grows first table.2 result := by
  obtain ⟨origin, parts⟩ := table
  rw [descend] at found
  split at found
  next missing =>
    obtain ⟨inner, -, rfl⟩ := Option.map_eq_some_iff.1 found
    exact .of_set (missing ▸ admits_none) isOpen.making
  next items present =>
    have before : Admits (get? parts first) := Opened.admits ⟨_, present, rfl⟩
    split at found
    next =>
      obtain ⟨inner, -, rfl⟩ := Option.map_eq_some_iff.1 found
      exact .of_set before rfl
    next => cases found
  next former inner present =>
    split at found
    next entered =>
      have openFormer := isOpen.enters former entered
      obtain ⟨inner, -, rfl⟩ := Option.map_eq_some_iff.1 found
      exact .of_set (Opened.admits ⟨_, present, openFormer⟩) openFormer
    next => cases found
  next => cases found

/-- Whether the way along a path is free does not depend on what is done at its end, as long as
that can be done. -/
theorem isSome_descend_congr {other : Table → Option Parts}
    (same : ∀ table, (edit table).isSome = (other table).isSome) (path : List String)
    (table : Table) :
    (descend descent edit path table).isSome = (descend descent other path table).isSome := by
  induction path generalizing table with
  | nil => exact same table
  | cons key path inductionHypothesis =>
    obtain ⟨origin, parts⟩ := table
    rw [descend, descend]
    split
    next => rw [Option.isSome_map, Option.isSome_map, inductionHypothesis]
    next =>
      split
      next => rw [Option.isSome_map, Option.isSome_map, inductionHypothesis]
      next => rfl
    next =>
      split
      next => rw [Option.isSome_map, Option.isSome_map, inductionHypothesis]
      next => rfl
    next => rfl

/-- An assignment to one key alone needs the key to be free. -/
theorem assign_singleton (found : assign descent [first] node table = some result) :
    get? table.2 first = none ∧ result = set first node table.2 := by
  rw [assign] at found
  change addKey false first node table = some result at found
  rw [addKey] at found
  split at found
  next => cases found
  next =>
    split at found
    next => cases found
    next free =>
      cases found
      exact ⟨Option.not_isSome_iff_eq_none.1 free, rfl⟩

/-- A dotted assignment puts a table under its first key. -/
theorem grows_assign {second : String} (isOpen : descent.IsOpen)
    (found : assign descent (first :: second :: path) node table = some result) :
    Grows first table.2 result := by
  rw [assign] at found
  split at found
  next => cases found
  next =>
    rw [List.dropLast_cons_cons] at found
    exact grows_descend isOpen found

end Parts

/-! ### Sections -/

namespace Parts

variable {path : List String}

/-- What a header puts in its place stands under the first key of its path. -/
theorem puts_of_header {edit : Table → Option Parts}
    (puts : ∀ table result, edit table = some result → Puts key table.2 result)
    (last : path.getLast? = some key)
    (found : descend .header edit path.dropLast ({}, parts) = some result) :
    ∃ first, path.head? = some first ∧ Puts first parts result := by
  cases path with
  | nil => cases last
  | cons first path =>
    refine ⟨first, rfl, ?_⟩
    cases path with
    | nil =>
      cases last
      exact puts ({}, parts) result found
    | cons second path => exact (grows_descend Descent.isOpen_header found).toPuts

end Parts

/-- The path of a header. -/
def Expression.headerPath? : Expression → Option (List String)
  | .assignment _ _ => none
  | .table path | .element path => some path

/-- The path of the section behind a header, which is empty for the top level. -/
def sectionPath (header : Option Expression) : List String :=
  (header.bind Expression.headerPath?).getD []

namespace Draft

variable {draft next : Draft} {expression : Expression} {path : List String}

/-- The current section is one that a header opens, or the top level. -/
structure Regular (draft : Draft) : Prop where
  origin : draft.current.1.isOpen = true
  header : ∀ path value, draft.header ≠ some (.assignment path value)

/-- The current section is put under the first key of its path. -/
theorem puts_finish (regular : draft.Regular) (inside : draft.header ≠ none)
    (finished : draft.finish = some result) :
    ∃ first, (sectionPath draft.header).head? = some first ∧ Puts first draft.tree result := by
  rw [Draft.finish.eq_def] at finished
  cases header : draft.header with
  | none => exact absurd header inside
  | some expression =>
    rw [header] at finished
    cases expression with
    | assignment path value => exact absurd header (regular.header path value)
    | table path =>
      dsimp only at finished
      split at finished
      next => cases finished
      next key last =>
        refine Parts.puts_of_header (fun table result edited => ?_) last finished
        have isOpen : Node.isOpen (.branch (.table draft.current.1) draft.current.2) = true :=
          regular.origin
        cases edited
        exact puts_set isOpen table.2
    | element path =>
      dsimp only at finished
      split at finished
      next => cases finished
      next key last =>
        refine Parts.puts_of_header (fun table result edited => ?_) last finished
        split at edited
        next =>
          cases edited
          exact puts_set rfl table.2
        next =>
          cases edited
          exact puts_set rfl table.2
        next => cases edited

/-- What stands in the current section does not decide whether there is a place for it. -/
theorem isSome_finish_congr (inside : draft.header ≠ none) (current : Parts.Table) :
    (Draft.finish { draft with current }).isSome = draft.finish.isSome := by
  rw [Draft.finish.eq_def, Draft.finish.eq_def]
  cases header : draft.header with
  | none => exact absurd header inside
  | some expression =>
    cases expression with
    | assignment path value => rfl
    | table path =>
      dsimp only
      split
      next => rfl
      next =>
        refine Parts.isSome_descend_congr (fun table => ?_) _ _
        rfl
    | element path =>
      dsimp only
      split
      next => rfl
      next key _ =>
        refine Parts.isSome_descend_congr (fun table => ?_) _ _
        cases Parts.get? table.2 key with
        | none => rfl
        | some former =>
          cases former with
          | leaf => rfl
          | branch kind parts => cases kind <;> rfl

/-- A header finds a place that admits a table, so the first key of its path does so. -/
theorem admits_of_look {tree : Parts} {found : Option Node}
    (looked : look? path tree = some found) (admits : Admits found) :
    ∃ first, path.head? = some first ∧ Admits (Parts.get? tree first) := by
  cases path with
  | nil => cases looked
  | cons first path =>
    refine ⟨first, rfl, ?_⟩
    cases path with
    | nil =>
      cases looked
      exact admits
    | cons second path =>
      change look?.go _ (first :: _) tree = some found at looked
      rw [look?.go.eq_def] at looked
      dsimp only at looked
      split at looked
      next missing => exact missing ▸ admits_none
      next present => exact Opened.admits ⟨_, present, rfl⟩
      next origin inner present =>
        split at looked
        next entered =>
          exact Opened.admits ⟨_, present, Parts.Descent.isOpen_header.enters origin entered⟩
        next => cases looked
      next => cases looked

/-- What an expression does to a draft. An assignment changes the current table. A header finishes
the section in front of it and opens another one, where there is a place for it. -/
inductive Step (draft next : Draft) : Expression → Prop
  | assigns {path : List String} {value : Literal} {node : Node} {parts : Parts}
      (made : value.node? = some node)
      (edited : Parts.assign .dotted path node draft.current = some parts)
      (result : next = { draft with current := (draft.current.1, parts) }) :
    Step draft next (.assignment path value)
  | opens {expression : Expression} {path : List String} {found : Option Node}
      (own : expression.headerPath? = some path) (finished : draft.finish = some next.tree)
      (header : next.header = some expression) (origin : next.current.1 = {})
      (looked : look? path next.tree = some found) (admits : Admits found) :
    Step draft next expression

theorem step_of_add (added : draft.add expression = some next) : Step draft next expression := by
  cases expression with
  | assignment path value =>
    obtain ⟨node, made, assigned⟩ := Option.bind_eq_some_iff.1 added
    obtain ⟨parts, edited, rfl⟩ := Option.map_eq_some_iff.1 assigned
    exact .assigns made edited rfl
  | table path =>
    obtain ⟨tree, finished, opened⟩ := Option.bind_eq_some_iff.1 added
    split at opened
    next looked =>
      cases opened
      exact .opens rfl finished rfl rfl looked admits_none
    next origin parts looked =>
      split at opened
      next implicit =>
        cases opened
        have isOpen : origin.isOpen = true := by
          rw [Origin.isOpen, (Bool.and_eq_true_iff.1 implicit).1, Bool.or_true]
        exact .opens rfl finished rfl rfl looked (Opened.admits ⟨_, rfl, isOpen⟩)
      next => cases opened
    next => cases opened
  | element path =>
    obtain ⟨tree, finished, opened⟩ := Option.bind_eq_some_iff.1 added
    split at opened
    next looked =>
      cases opened
      exact .opens rfl finished rfl rfl looked admits_none
    next looked =>
      cases opened
      exact .opens rfl finished rfl rfl looked (Opened.admits ⟨_, rfl, rfl⟩)
    next => cases opened

theorem Regular.step (regular : draft.Regular) (step : Step draft next expression) :
    next.Regular := by
  cases step with
  | assigns made edited result =>
    subst result
    exact ⟨regular.origin, regular.header⟩
  | opens own finished header origin looked admits =>
    refine ⟨origin ▸ rfl, fun path value same => ?_⟩
    rw [header] at same
    cases same
    cases own

end Draft

/-! ### Statements -/

/-- What an expression says: the path at which it says it, and the value that it assigns there. A
header says that tables stand at its path. -/
abbrev Statement :=
  List String × Option Literal

namespace Expression

/-- The path of an assignment begins with that of its section. -/
def statement (header : Option Expression) : Expression → Statement
  | .assignment path value => (sectionPath header ++ path, some value)
  | .table path | .element path => (path, none)

/-- The header of the section behind an expression. -/
def headerBehind (header : Option Expression) : Expression → Option Expression
  | .assignment _ _ => header
  | .table path => some (.table path)
  | .element path => some (.element path)

/-- What expressions say behind a header. -/
def statements (header : Option Expression) : List Expression → List Statement
  | [] => []
  | expression :: rest =>
    expression.statement header :: statements (expression.headerBehind header) rest

theorem statement_of_headerPath? {expression : Expression} {path : List String}
    (own : expression.headerPath? = some path) (header : Option Expression) :
    expression.statement header = (path, none) := by
  cases expression with
  | assignment path value => cases own
  | table path | element path =>
    cases own
    rfl

theorem headerBehind_of_headerPath? {expression : Expression} {path : List String}
    (own : expression.headerPath? = some path) (header : Option Expression) :
    expression.headerBehind header = some expression := by
  cases expression with
  | assignment path value => cases own
  | table path | element path => rfl

theorem statements_concat (header : Option Expression) (front : List Expression)
    (expression : Expression) :
    statements header (front ++ [expression]) =
      statements header front ++ [expression.statement (front.foldl headerBehind header)] := by
  induction front generalizing header with
  | nil => rfl
  | cons first rest inductionHypothesis =>
    rw [List.cons_append, statements, inductionHypothesis, statements, List.cons_append,
      List.foldl_cons]

end Expression

open Expression

variable {statement : Statement} {said : List Statement} {before after : Parts}

/-- What a statement does under the key that its path begins with: it assigns to the key alone, or
it puts tables there. -/
inductive Changes (first : String) (statement : Statement) (before after : Parts) : Prop
  | assigns {value : Literal} {node : Node} (own : statement = ([first], some value))
      (made : value.node? = some node) (free : Parts.get? before first = none)
      (result : after = Parts.set first node before)
  | grows (other : ∀ value, statement ≠ ([first], some value)) (grows : Grows first before after)

theorem Changes.get?_other (changes : Changes first statement before after) (other : key ≠ first) :
    Parts.get? after key = Parts.get? before key := by
  cases changes with
  | assigns own made free result => rw [result, Parts.get?_set_other other]
  | grows _ grows => exact grows.others key other

/-- What stands under a top-level key where statements are made. -/
inductive Stands (key : String) (said : List Statement) : Option Node → Prop
  /-- No statement is about the key. -/
  | absent (unsaid : ∀ statement ∈ said, statement.1.head? ≠ some key) : Stands key said none
  /-- The only statement about the key assigns a value to it. -/
  | assigned {value : Literal} {node : Node} (own : ([key], some value) ∈ said)
      (only : ∀ statement ∈ said, statement.1.head? = some key → statement = ([key], some value))
      (made : value.node? = some node) : Stands key said (some node)
  /-- Statements are about the key, and none of them assigns to the key alone. -/
  | opened {statement : Statement} {node : Node} (about : statement ∈ said)
      (begins : statement.1.head? = some key) (others : ∀ value, ([key], some value) ∉ said)
      (isOpen : node.isOpen = true) : Stands key said (some node)

/-- One more statement, about another key. -/
theorem Stands.concat_other {former : Option Node} (stands : Stands key said former)
    (begins : statement.1.head? ≠ some key) : Stands key (said ++ [statement]) former := by
  cases stands with
  | absent unsaid =>
    exact .absent (List.forall_mem_append.2 ⟨unsaid, List.forall_mem_singleton.2 begins⟩)
  | assigned own only made =>
    refine .assigned (List.mem_append_left _ own) (List.forall_mem_append.2 ⟨only, ?_⟩) made
    exact List.forall_mem_singleton.2 fun about => absurd about begins
  | opened about own others isOpen =>
    refine .opened (List.mem_append_left _ about) own (fun value member => ?_) isOpen
    rcases List.mem_append.1 member with former | last
    · exact others value former
    · exact begins (List.mem_singleton.1 last ▸ rfl)

/-- No value was assigned to a key that admits tables. -/
theorem Stands.not_assigned {former : Option Node} (stands : Stands key said former)
    (admits : Admits former) (value : Literal) : ([key], some value) ∉ said := by
  intro member
  cases stands with
  | absent unsaid => exact unsaid _ member rfl
  | assigned own only made =>
    have isOpen := admits _ rfl
    rw [isOpen_of_node? made] at isOpen
    cases isOpen
  | opened about own others isOpen => exact others value member

/-- One more statement, which changes the tree. -/
theorem Stands.concat (stands : Stands key said (Parts.get? before key))
    (begins : statement.1.head? = some first) (changes : Changes first statement before after) :
    Stands key (said ++ [statement]) (Parts.get? after key) := by
  by_cases own : key = first
  · subst own
    have last : statement ∈ said ++ [statement] := List.mem_append_right _ List.mem_cons_self
    cases changes with
    | assigns own made free result =>
      rw [free] at stands
      cases stands with
      | absent unsaid =>
        rw [result, Parts.get?_set, if_pos rfl]
        refine .assigned (own ▸ last) (List.forall_mem_append.2 ⟨fun former member about => ?_, ?_⟩)
          made
        · exact absurd about (unsaid former member)
        · exact List.forall_mem_singleton.2 fun _ => own
    | grows other grows =>
      obtain ⟨node, present, isOpen⟩ := grows.after
      rw [present]
      refine .opened last begins (fun value member => ?_) isOpen
      rcases List.mem_append.1 member with former | same
      · exact stands.not_assigned grows.before value former
      · exact other value (List.mem_singleton.1 same).symm
  · rw [changes.get?_other own]
    exact stands.concat_other fun same => own (Option.some.inj (same.symm.trans begins))

namespace Draft

variable {draft next : Draft} {expression : Expression}

theorem finish_top (top : draft.header = none) : draft.finish = some draft.current.2 := by
  rw [Draft.finish.eq_def, top]

/-- An assignment in front of all headers. -/
theorem changes_of_assign {path : List String} {value : Literal} {node : Node}
    {table : Parts.Table} (made : value.node? = some node)
    (edited : Parts.assign .dotted path node table = some after) :
    ∃ first, path.head? = some first ∧ Changes first (path, some value) table.2 after := by
  cases path with
  | nil => cases edited
  | cons first path =>
    refine ⟨first, rfl, ?_⟩
    cases path with
    | nil =>
      obtain ⟨free, rfl⟩ := Parts.assign_singleton edited
      exact .assigns rfl made free rfl
    | cons second path =>
      exact .grows nofun (Parts.grows_assign Parts.Descent.isOpen_dotted edited)

/-- An assignment in a section, which the tree shows only when the header puts the section there. -/
theorem exists_finish_of_assign {path : List String} {value : Literal} {node : Node} {parts : Parts}
    (regular : draft.Regular) (inside : draft.header ≠ none)
    (edited : Parts.assign .dotted path node draft.current = some parts)
    (finished : Draft.finish { draft with current := (draft.current.1, parts) } = some after) :
    ∃ before first, draft.finish = some before ∧
      (sectionPath draft.header ++ path).head? = some first ∧
      Changes first (sectionPath draft.header ++ path, some value) before after := by
  have nextRegular : Regular { draft with current := (draft.current.1, parts) } :=
    ⟨regular.origin, regular.header⟩
  have ends := (isSome_finish_congr inside (draft.current.1, parts)).symm
  rw [finished] at ends
  obtain ⟨before, finishedBefore⟩ := Option.isSome_iff_exists.1 ends
  obtain ⟨first, begins, puts⟩ := puts_finish regular inside finishedBefore
  obtain ⟨other, same, again⟩ := puts_finish nextRegular inside finished
  rw [begins] at same
  cases same
  refine ⟨before, first, finishedBefore, ?_, .grows (fun value same => ?_) (puts.grows again)⟩
  · rw [List.head?_append, begins, Option.some_or]
  · rcases List.append_eq_singleton_iff.1 (congrArg Prod.fst same) with
      ⟨outside, -⟩ | ⟨-, missing⟩
    · rw [outside] at begins
      cases begins
    · rw [missing] at edited
      cases edited

/-- If a document can end behind an expression, it can end in front of it, and the two trees
differ under the key that the path of the statement begins with. -/
theorem exists_finish_of_step (regular : draft.Regular) (step : Step draft next expression)
    (finished : next.finish = some after) :
    ∃ before first, draft.finish = some before ∧
      (expression.statement draft.header).1.head? = some first ∧
      Changes first (expression.statement draft.header) before after := by
  have nextRegular := regular.step step
  cases step with
  | assigns made edited result =>
    subst result
    by_cases top : draft.header = none
    · obtain ⟨first, begins, changes⟩ := changes_of_assign made edited
      cases finished.symm.trans (finish_top top)
      rw [finish_top top, top]
      exact ⟨_, first, rfl, begins, changes⟩
    · exact exists_finish_of_assign regular top edited finished
  | opens own finishedBefore header origin looked admits =>
    obtain ⟨first, begins, before⟩ := admits_of_look looked admits
    have inside : next.header ≠ none := by
      rw [header]
      nofun
    obtain ⟨other, same, puts⟩ := puts_finish nextRegular inside finished
    rw [header, sectionPath, Option.bind_some, own, Option.getD_some, begins] at same
    cases same
    rw [statement_of_headerPath? own]
    exact ⟨next.tree, first, finishedBefore, begins, .grows nofun ⟨puts, before⟩⟩

theorem header_of_step (step : Step draft next expression) :
    next.header = expression.headerBehind draft.header := by
  cases step with
  | assigns made edited result => rw [result, headerBehind]
  | opens own finished header => rw [header, headerBehind_of_headerPath? own]

/-- The draft holds what the expressions say. -/
structure Holds (draft : Draft) (expressions : List Expression) : Prop where
  regular : draft.Regular
  header : draft.header = expressions.foldl headerBehind none
  stands : ∀ tree, draft.finish = some tree →
    ∀ key, Stands key (statements none expressions) (Parts.get? tree key)

theorem holds_nothing : Holds {} [] where
  regular := ⟨rfl, nofun⟩
  header := rfl
  stands tree finished key := by
    cases finished
    exact .absent nofun

theorem Holds.add {front : List Expression} (holds : draft.Holds front)
    (added : draft.add expression = some next) : next.Holds (front ++ [expression]) where
  regular := holds.regular.step (step_of_add added)
  header := by
    rw [header_of_step (step_of_add added), holds.header, List.foldl_append, List.foldl_cons,
      List.foldl_nil]
  stands tree finished key := by
    obtain ⟨before, first, finishedBefore, begins, changes⟩ :=
      exists_finish_of_step holds.regular (step_of_add added) finished
    rw [holds.header] at begins changes
    rw [statements_concat]
    exact (holds.stands before finishedBefore key).concat begins changes

theorem Holds.addAll {front back : List Expression} (holds : draft.Holds front)
    (added : draft.addAll back = some next) : next.Holds (front ++ back) := by
  induction back generalizing draft front with
  | nil =>
    cases added
    rwa [List.append_nil]
  | cons expression rest inductionHypothesis =>
    obtain ⟨behind, one, others⟩ := Option.bind_eq_some_iff.1 added
    rw [List.append_cons]
    exact inductionHypothesis (holds.add one) others

end Draft

/-- What a document says decides what stands under each of its top-level keys. -/
theorem stands_of_document? {text : List Char} (found : document? text = some parts) :
    ∃ expressions, Expression.ofDocument? text = some expressions ∧
      ∀ key, Stands key (statements none expressions) (Parts.get? parts key) := by
  obtain ⟨expressions, read, built⟩ := Option.bind_eq_some_iff.1 found
  obtain ⟨draft, added, finished⟩ := Option.bind_eq_some_iff.1 built
  exact ⟨expressions, read, (Draft.holds_nothing.addAll added).stands parts finished⟩

end ActionDirectory.Toml
