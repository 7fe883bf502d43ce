/-
The store of registered actions: a table from identifiers to entries and an
index from names to identifiers. A write replaces the entry under its
identifier, gives up the index entry of the replaced name if that name still
leads to the identifier, and lets its own name lead to the identifier. The
index never leads to an entry with another name.
-/

import ActionDirectory.Action.Basic
import ActionDirectory.Table

namespace ActionDirectory

/-- An action as one write made it. The serial number tells apart the entries of different
writes, also where the writes are equal. -/
structure Entry where
  serial : Nat
  action : Action
deriving DecidableEq, Repr

namespace Entry

/-- The identifier that the entry is stored under. -/
def id (entry : Entry) : Id :=
  entry.action.id

/-- The name that leads to the entry, if it has one. -/
def name? (entry : Entry) : Option String :=
  entry.action.name?

end Entry

/-- Registered entries by identifier, and the identifiers that names lead to. -/
structure Store where
  byId : Table Id Entry
  byName : Table String Id

namespace Store

/-! ### Reading -/

def empty : Store :=
  ⟨∅, ∅⟩

/-- The entry under an identifier. -/
def lookup (store : Store) (id : Id) : Option Entry :=
  store.byId.get? id

/-- The identifier that a name leads to. -/
def owner? (store : Store) (name : String) : Option Id :=
  store.byName.get? name

/-- The entry that a name leads to. -/
def find (store : Store) (name : String) : Option Entry :=
  (store.owner? name).bind store.lookup

/-- The number of registered identifiers. -/
def size (store : Store) : Nat :=
  store.byId.size

/-- Entries in ascending order of their identifiers. -/
def ascending (entries : List Entry) : List Entry :=
  entries.mergeSort fun first second => (first.action.order second.action).isLE

/-- All entries in ascending order of their identifiers. -/
def entries (store : Store) : List Entry :=
  ascending store.byId.values

/-! ### Writing -/

/-- The index after the name of a replaced entry was given up, which happens only if the name
led to the identifier of the entry. -/
def release (byName : Table String Id) (id : Id) (replaced : Option String) : Table String Id :=
  match replaced with
  | none => byName
  | some name => if byName.get? name = some id then byName.erase name else byName

/-- The index after a name was taken by an identifier. -/
def claim (byName : Table String Id) (id : Id) (name : Option String) : Table String Id :=
  match name with
  | none => byName
  | some name => byName.insert name id

/-- A store behind a write, and the entry that the write replaced. -/
structure Inserted where
  store : Store
  former : Option Entry

/-- The store with an entry in place of the one under its identifier. -/
def insert (store : Store) (entry : Entry) : Inserted :=
  let former := store.lookup entry.id
  { store :=
      { byId := store.byId.insert entry.id entry
        byName :=
          claim (release store.byName entry.id (former.bind Entry.name?)) entry.id entry.name? }
    former }

/-! ### The view of a write -/

theorem former_insert (store : Store) (entry : Entry) :
    (store.insert entry).former = store.lookup entry.id :=
  rfl

theorem lookup_insert (store : Store) (entry : Entry) (id : Id) :
    (store.insert entry).store.lookup id = if id = entry.id then some entry else store.lookup id :=
  Table.get?_insert store.byId entry.id id entry

theorem get?_claim (byName : Table String Id) (id : Id) (taken : Option String) (name : String) :
    (claim byName id taken).get? name =
      if taken = some name then some id else byName.get? name := by
  cases taken with
  | none => rfl
  | some taken =>
    rw [claim, Table.get?_insert]
    by_cases same : name = taken
    · rw [if_pos same, if_pos (congrArg some same.symm)]
    · rw [if_neg same, if_neg fun equal => same (Option.some.inj equal).symm]

theorem get?_release (byName : Table String Id) (id : Id) (replaced : Option String)
    (name : String) :
    (release byName id replaced).get? name =
      if replaced = some name ∧ byName.get? name = some id then none else byName.get? name := by
  cases replaced with
  | none => simp [release]
  | some replaced =>
    by_cases owned : byName.get? replaced = some id
    · rw [release, if_pos owned, Table.get?_erase]
      by_cases same : name = replaced
      · rw [if_pos same, if_pos ⟨congrArg some same.symm, same ▸ owned⟩]
      · rw [if_neg same, if_neg fun both => same (Option.some.inj both.1).symm]
    · rw [release, if_neg owned]
      split
      next both =>
        obtain ⟨same, leads⟩ := both
        exact absurd ((Option.some.inj same) ▸ leads) owned
      next => rfl

/-- After a write a name leads to the written identifier if it is the written name; the name of
the replaced entry, if it led there, leads nowhere; other names lead where they led. -/
theorem owner?_insert (store : Store) (entry : Entry) (name : String) :
    (store.insert entry).store.owner? name =
      if entry.name? = some name then some entry.id
      else if (store.lookup entry.id).bind Entry.name? = some name ∧
          store.owner? name = some entry.id then none
      else store.owner? name := by
  show (claim _ entry.id entry.name?).get? name = _
  rw [get?_claim, get?_release]
  rfl

end Store

end ActionDirectory
