/-
Workloads of several threads. Each thread registers actions whose identifiers
follow each other, under names made of a stem and the decimal identifier, so
equal identifiers come with equal names and the order of the threads does not
matter for what the registry holds in the end.
-/

import ActionDirectory.Registry.Basic

namespace ActionDirectory

/-- The numbers of threads and of actions for each, the distance between the first identifiers
of neighbouring threads, and the stem of the names. -/
structure Workload where
  threads : Nat
  perThread : Nat
  stride : Int
  stem : String
deriving DecidableEq, Repr

namespace Workload

/-- An identifier with the stem and its decimal text as the name. -/
def action? (workload : Workload) (value : Int) : Option Action :=
  (Id.ofInt? value).map fun id => ⟨id, workload.stem ++ id.text⟩

def actions? (workload : Workload) (thread : Nat) : Option (List Action) :=
  (List.range workload.perThread).mapM fun index : Nat =>
    workload.action? ((thread : Int) * workload.stride + (index : Int))

def all? (workload : Workload) : Option (List (List Action)) :=
  (List.range workload.threads).mapM workload.actions?

/-- The registry after actions were registered one by one. -/
def registerAll (registry : Registry) (actions : List Action) : Registry :=
  actions.foldl (fun registry action => (registry.register action).registry) registry

/-- The registry in the end, if all identifiers fit. -/
def settle? (workload : Workload) : Option Registry :=
  workload.all?.map fun threads => threads.foldl registerAll (.empty {})

/-- Every action of a registry is the one that its rendered name leads to. -/
def allFoundByName (registry : Registry) : Bool :=
  registry.entries.all fun entry =>
    match registry.find entry.action.rendered with
    | some found => found.action.same entry.action
    | none => false

end Workload

end ActionDirectory
