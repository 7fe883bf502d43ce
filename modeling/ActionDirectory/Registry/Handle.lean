/-
Handles of a registry. A handle can be copied at any moment; the copy has the
settings of the handle that it was made from, and both lead to one store. What is
done through handles is a sequence of uses, and a use of a handle that does not
exist means nothing.
-/

import ActionDirectory.Registry.Call

namespace ActionDirectory

/-- What is done with a handle. -/
inductive Use where
  | clone (handle : Nat)
  | call (handle : Nat) (call : Call)
deriving DecidableEq, Repr

/-- The store and the number of the next write, which all handles share, and the settings that
each handle has of its own. -/
structure Handles where
  store : Store
  serial : Nat
  settings : List Settings

namespace Handles

/-- The only handle of a registry. -/
def ofRegistry (registry : Registry) : Handles where
  store := registry.store
  serial := registry.serial
  settings := [registry.settings]

/-- The registry as it is seen through a handle. -/
def view? (handles : Handles) (handle : Nat) : Option Registry :=
  handles.settings[handle]?.map fun settings => ⟨settings, handles.store, handles.serial⟩

/-- The handles behind a use. A call changes what all handles share. -/
def use (handles : Handles) : Use → Handles
  | .clone handle =>
    { handles with settings := handles.settings ++ handles.settings[handle]?.toList }
  | .call handle call =>
    match handles.view? handle with
    | some registry =>
      let behind := (registry.perform call).registry
      { handles with store := behind.store, serial := behind.serial }
    | none => handles

def after (handles : Handles) (uses : List Use) : Handles :=
  uses.foldl use handles

/-- The call that a use makes, if its handle exists. -/
def call? (handles : Handles) : Use → Option Call
  | .clone _ => none
  | .call handle call => (handles.view? handle).map fun _ => call

/-- The calls that uses make, in their order. -/
def calls (handles : Handles) : List Use → List Call
  | [] => []
  | use :: rest => (handles.call? use).toList ++ (handles.use use).calls rest

end Handles

end ActionDirectory
