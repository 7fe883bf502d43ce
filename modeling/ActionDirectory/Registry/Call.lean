/-
Calls of a registry. Whatever is done with a registry is a call: it may change
the registry, gives a reply and leaves records. Every call happens at one moment,
so what several threads do with one registry is one run of calls in some order.
-/

import ActionDirectory.Registry.Basic

namespace ActionDirectory

inductive Call where
  | register (action : Action)
  | tryRegister (action : Action)
  | lookup (id : Id)
  | require (id : Id)
  | find (name : String)
  | contains (id : Id)
  | isEmpty
  | settings
  | entries
deriving DecidableEq, Repr

/-- A call that registers an action, plainly or guarded by the policy. -/
structure Registration where
  action : Action
  isGuarded : Bool
deriving DecidableEq, Repr

/-- The call of a registration. -/
def Registration.call (registration : Registration) : Call :=
  if registration.isGuarded then .tryRegister registration.action
  else .register registration.action

inductive Reply where
  | entry (entry : Entry)
  | nothing
  | failed (failure : Failure)
  | truth (value : Bool)
  | settings (settings : Settings)
  | entries (entries : List Entry)
deriving DecidableEq, Repr

/-- The reply that gives an entry, if there is one. -/
def Reply.ofOption : Option Entry → Reply
  | some found => entry found
  | none => nothing

/-- What a call does: the registry behind it, its reply and its records. -/
structure Performed where
  registry : Registry
  reply : Reply
  records : List Record := []

namespace Registry

def wrote (written : Written) : Performed :=
  { registry := written.registry, reply := .entry written.entry, records := [written.record] }

def perform (registry : Registry) : Call → Performed
  | .register action => wrote (registry.register action)
  | .tryRegister action =>
    match registry.tryRegister action with
    | .ok written => wrote written
    | .error failure => { registry, reply := .failed failure }
  | .lookup id => { registry, reply := .ofOption (registry.lookup id) }
  | .require id =>
    match registry.require id with
    | .ok entry => { registry, reply := .entry entry }
    | .error failure => { registry, reply := .failed failure }
  | .find name => { registry, reply := .ofOption (registry.find name) }
  | .contains id => { registry, reply := .truth (registry.contains id) }
  | .isEmpty => { registry, reply := .truth registry.isEmpty }
  | .settings => { registry, reply := .settings registry.settings }
  | .entries => { registry, reply := .entries registry.entries }

def performAll (registry : Registry) : List Call → List Performed
  | [] => []
  | call :: rest =>
    let performed := registry.perform call
    performed :: performed.registry.performAll rest

/-- The registry behind calls one behind the other. -/
def after (registry : Registry) (calls : List Call) : Registry :=
  calls.foldl (fun registry call => (registry.perform call).registry) registry

end Registry

end ActionDirectory
