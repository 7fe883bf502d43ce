/-
Registries: a store of entries together with the settings that decide about
overwriting. A plain registration always succeeds; a guarded one is refused
where the settings say so, and then nothing changes. Each write has a number of
its own, and a registry filled from a table refuses tables that use an
identifier twice.
-/

import ActionDirectory.Settings.Environment
import ActionDirectory.Store

namespace ActionDirectory

/-- A store with settings. The serial number is the one of the next write, so it is above those
of all entries. -/
structure Registry where
  settings : Settings
  store : Store
  serial : Nat

structure Written where
  registry : Registry
  entry : Entry
  record : Record

namespace Registry

/-! ### Reading -/

def empty (settings : Settings) : Registry :=
  ⟨settings, .empty, 0⟩

def lookup (registry : Registry) (id : Id) : Option Entry :=
  registry.store.lookup id

/-- The entry under an identifier; it is a failure if there is none. -/
def require (registry : Registry) (id : Id) : Except Failure Entry :=
  match registry.lookup id with
  | some entry => .ok entry
  | none => .error (.unknownId id)

def find (registry : Registry) (name : String) : Option Entry :=
  registry.store.find name

/-- An identifier is registered if it has an entry. -/
def contains (registry : Registry) (id : Id) : Bool :=
  (registry.lookup id).isSome

def size (registry : Registry) : Nat :=
  registry.store.size

def isEmpty (registry : Registry) : Bool :=
  registry.size = 0

def entries (registry : Registry) : List Entry :=
  registry.store.entries

def debug (registry : Registry) : String :=
  "ActionRegistry \x7b len: " ++ Decimal.text registry.size ++ ", config: " ++
    registry.settings.debug ++ " \x7d"

/-! ### Writing -/

/-- The record of a write that took the place of a former entry, if there was one. -/
def recordOf (settings : Settings) (former : Option Entry) (action : Action) : Record :=
  match former with
  | some entry =>
    if settings.warnsOnOverwrite then
      .replaced action.id entry.action.rendered action.rendered
    else .registered action.id action.rendered
  | none => .registered action.id action.rendered

/-- A registration, whether or not the identifier is taken. -/
def register (registry : Registry) (action : Action) : Written :=
  let entry := ⟨registry.serial, action⟩
  let inserted := registry.store.insert entry
  { registry := { registry with store := inserted.store, serial := registry.serial + 1 }
    entry
    record := recordOf registry.settings inserted.former action }

/-- A registration that the policy may refuse if the identifier is taken. It is refused before the
store is touched, and recorded only if it is not refused. -/
def tryRegister (registry : Registry) (action : Action) : Except Failure Written :=
  let entry := ⟨registry.serial, action⟩
  let inserted : Except Failure Store.Inserted :=
    match registry.settings.policy, registry.lookup action.id with
    | .reject, some existing => .error (.duplicateId action.id existing.action.rendered)
    | _, _ => .ok (registry.store.insert entry)
  inserted.map fun inserted =>
    { registry := { registry with store := inserted.store, serial := registry.serial + 1 }
      entry
      record := recordOf registry.settings inserted.former action }

/-! ### Filling from a table -/

/-- The registry with the actions of a table added, up to the first identifier that is taken. -/
def extend (registry : Registry) : List Action → Except Failure Registry
  | [] => .ok registry
  | action :: rest =>
    match registry.lookup action.id with
    | some existing => .error (.duplicateId action.id existing.action.rendered)
    | none => extend (registry.register action).registry rest

/-- A registry filled from a table in which no identifier occurs twice, and the record of it. -/
def ofTable (table : List Action) (settings : Settings) : Except Failure (Registry × Record) :=
  match (empty settings).extend table with
  | .ok registry => .ok (registry, .seeded registry.size)
  | .error failure => .error failure

/-! ### Texts -/

/-- The action that a text names: the one that the name index leads to, or else the one under
the decimal identifier. -/
def parse (registry : Registry) (text : String) : Except Failure Action :=
  match registry.find text with
  | some entry => .ok entry.action
  | none =>
    match (Decimal.signed? text.toList).bind Id.ofInt? with
    | some id => (registry.require id).map Entry.action
    | none => .error (.unknownName text)

end Registry

end ActionDirectory
