/-
Documents: the tree that the expressions of a TOML text make. A key is set once.
A table may be opened by a header once, after dotted headers may have made it
implicitly; dotted keys make tables that no header opens; an inline table is
closed for good. The section of the last header is kept apart from the tree until
the next header puts it in its place. Tables list their keys in ascending order.
-/

import ActionDirectory.Toml.Expression

namespace ActionDirectory.Toml

/-- How a table came about. -/
structure Origin where
  /-- No header or value of its own made the table. -/
  implicit : Bool := false
  /-- A dotted key made the table. -/
  dotted : Bool := false
  /-- The table stands between braces. -/
  inline : Bool := false
deriving DecidableEq, Repr

/-- What a branch of the tree is. -/
inductive Branch where
  | array
  | table (origin : Origin)
  /-- Tables that headers add one by one. -/
  | elements
deriving DecidableEq, Repr

/-- A value of a document. The parts of arrays have no keys of their own. -/
inductive Node where
  | leaf (value : Scalar)
  | branch (kind : Branch) (parts : List (String × Node))

/-- The parts of a table in ascending order of their keys. -/
abbrev Parts :=
  List (String × Node)

namespace Parts

def get? (parts : Parts) (key : String) : Option Node :=
  (parts.find? fun part => part.1 = key).map Prod.snd

/-- The parts with a node under a key, in place of a former one. -/
def set (key : String) (node : Node) : Parts → Parts
  | [] => [(key, node)]
  | part :: rest =>
    if key < part.1 then (key, node) :: part :: rest
    else if key = part.1 then (key, node) :: rest
    else part :: set key node rest

def erase (parts : Parts) (key : String) : Parts :=
  parts.filter fun part => part.1 ≠ key

/-! ### Descending -/

/-- A table of the tree: how it came about and what it holds. -/
abbrev Table :=
  Origin × Parts

/-- How a path is followed: the origin of tables that it makes, and whether a table that is
there may be entered. -/
structure Descent where
  making : Origin
  enters : Origin → Bool

/-- Headers enter every table that is not inline, and make tables that a header may open. -/
def Descent.header : Descent where
  making := { implicit := true }
  enters origin := !origin.inline

/-- Dotted keys enter only tables that no header and no value made. -/
def Descent.dotted : Descent where
  making := { implicit := true, dotted := true }
  enters origin := !origin.inline && origin.implicit

/-- Dotted keys between braces enter only tables that such keys made. -/
def Descent.inline : Descent where
  making := { implicit := true, dotted := true, inline := true }
  enters origin := origin.implicit

/-- The parts of a table after an edit of the table at the end of a path. A path leads through
the last one of tables that headers add. -/
def descend (descent : Descent) (edit : Table → Option Parts) : List String → Table → Option Parts
  | [], table => edit table
  | key :: path, (_, parts) =>
    match get? parts key with
    | none =>
      (descend descent edit path (descent.making, [])).map fun inner =>
        set key (.branch (.table descent.making) inner) parts
    | some (.branch .elements items) =>
      match items.getLast? with
      | some (label, .branch (.table origin) inner) =>
        (descend descent edit path (origin, inner)).map fun inner =>
          set key
            (.branch .elements (items.dropLast ++ [(label, .branch (.table origin) inner)])) parts
      | _ => none
    | some (.branch (.table origin) inner) =>
      if descent.enters origin then
        (descend descent edit path (origin, inner)).map fun inner =>
          set key (.branch (.table origin) inner) parts
      else none
    | some _ => none

/-- A key is added to a table that holds no such key. Only the last table of a dotted key is one
that dotted keys made. -/
def addKey (isDotted : Bool) (key : String) (node : Node) (table : Table) : Option Parts :=
  if table.1.dotted ≠ isDotted then none
  else if (get? table.2 key).isSome then none
  else some (set key node table.2)

/-- A table after an assignment to a path. -/
def assign (descent : Descent) (path : List String) (node : Node) (table : Table) : Option Parts :=
  match path.getLast? with
  | none => none
  | some key =>
    let tables := path.dropLast
    descend descent (addKey (!tables.isEmpty) key node) tables table

end Parts

/-! ### Values -/

namespace Literal

mutual

def node? : Literal → Option Node
  | .scalar value => some (.leaf value)
  | .array items => (nodes? items).map (.branch .array ·)
  | .table members =>
    (fill? members []).map (.branch (.table { inline := true }) ·)

def nodes? : List Literal → Option Parts
  | [] => some []
  | item :: rest =>
    (node? item).bind fun node => (nodes? rest).map fun nodes => ("", node) :: nodes

/-- The parts of an inline table after more of its members. -/
def fill? : List (List String × Literal) → Parts → Option Parts
  | [], parts => some parts
  | (path, value) :: rest, parts =>
    (node? value).bind fun node =>
      (Parts.assign .inline path node ({ inline := true }, parts)).bind (fill? rest)

end

end Literal

/-! ### Sections -/

/-- A document of which some expressions were read: the tree of the finished sections, and the
header and table of the current one. -/
structure Draft where
  tree : Parts := []
  header : Option Expression := none
  current : Parts.Table := ({}, [])

namespace Draft

/-- The tree with the current section in its place. -/
def finish (draft : Draft) : Option Parts :=
  match draft.header with
  | some (.table path) =>
    match path.getLast? with
    | none => none
    | some key =>
      Parts.descend .header
        (fun table =>
          some (Parts.set key (.branch (.table draft.current.1) draft.current.2) table.2))
        path.dropLast ({}, draft.tree)
  | some (.element path) =>
    match path.getLast? with
    | none => none
    | some key =>
      let item : String × Node := ("", .branch (.table draft.current.1) draft.current.2)
      Parts.descend .header
        (fun table =>
          match Parts.get? table.2 key with
          | none => some (Parts.set key (.branch .elements [item]) table.2)
          | some (.branch .elements items) =>
            some (Parts.set key (.branch .elements (items ++ [item])) table.2)
          | some _ => none)
        path.dropLast ({}, draft.tree)
  | _ => some draft.current.2

/-- The node that a path of tables leads to, if the way is free. -/
def look? (path : List String) (tree : Parts) : Option (Option Node) :=
  match path.getLast? with
  | none => none
  | some key => go key path.dropLast tree
where
  /-- The node under the last key of a path. -/
  go (key : String) : List String → Parts → Option (Option Node)
    | [], parts => some (Parts.get? parts key)
    | first :: path, parts =>
      match Parts.get? parts first with
      | none => some none
      | some (.branch .elements items) =>
        match items.getLast? with
        | some (_, .branch (.table _) inner) => go key path inner
        | _ => none
      | some (.branch (.table origin) inner) =>
        if Parts.Descent.header.enters origin then go key path inner else none
      | some _ => none

/-- The draft after one more expression. -/
def add (draft : Draft) (expression : Expression) : Option Draft :=
  match expression with
  | .assignment path value =>
    (value.node?).bind fun node =>
      (Parts.assign .dotted path node draft.current).map fun parts =>
        { draft with current := (draft.current.1, parts) }
  | .table path =>
    draft.finish.bind fun tree =>
      match look? path tree with
      | some none => some { tree, header := some expression }
      | some (some (.branch (.table origin) parts)) =>
        if origin.implicit && !origin.dotted then
          some { tree, header := some expression, current := ({}, parts) }
        else none
      | _ => none
  | .element path =>
    draft.finish.bind fun tree =>
      match look? path tree with
      | some none => some { tree, header := some expression }
      | some (some (.branch .elements _)) => some { tree, header := some expression }
      | _ => none

def addAll (draft : Draft) : List Expression → Option Draft
  | [] => some draft
  | expression :: rest => (draft.add expression).bind fun next => next.addAll rest

end Draft

/-- The top-level table of a text, if the text is a document. -/
def document? (text : List Char) : Option Parts :=
  (Expression.ofDocument? text).bind fun expressions =>
    (Draft.addAll {} expressions).bind Draft.finish

end ActionDirectory.Toml
