/-
Sessions: a registry that is used step by step. A step answers, may change the
registry and may leave records. Later steps can look at what earlier ones gave
out: an action stays as it was when it was handed out, and so does a list of all
actions. A step that means nothing answers so and changes nothing.
-/

import ActionDirectory.Registry.Call
import ActionDirectory.Registry.Shared
import ActionDirectory.Wire.Action

namespace ActionDirectory

inductive Step where
  | call (call : Call)
  /-- The list that an earlier step gave. -/
  | snapshot (step : Nat)
  /-- Later steps use another handle of the registry. -/
  | clone
  | debug
  /-- Registrations of identifiers one by one, each under a stem and its decimal text. -/
  | fill (ids : List Id) (stem : String)
  /-- The action that an earlier step gave. -/
  | held (step : Nat)
  /-- The actions that two earlier steps gave, beside each other. -/
  | compare (first second : Nat)
  | parse (text : String)
  | decode (text : String)
deriving DecidableEq, Repr

structure Comparison where
  /-- The actions are the same one. -/
  same : Bool
  /-- The actions stem from one write. -/
  sameWrite : Bool
  order : Ordering
deriving DecidableEq, Repr

inductive Answer where
  | action (action : Action)
  | nothing
  | failure (failure : Failure)
  | refusal (refusal : Wire.Refusal)
  | truth (value : Bool)
  | settings (settings : Settings)
  | actions (actions : List Action)
  | debug (text : String)
  /-- The numbers of records of each level. -/
  | tally (counts : List (Level × Nat))
  | held (action : Action)
  | comparison (comparison : Comparison)
  /-- The step means nothing. -/
  | invalid
deriving DecidableEq, Repr

/-- What a step gave out for later steps. -/
inductive Output where
  | nothing
  | entry (entry : Entry)
  | snapshot (actions : List Action)
deriving DecidableEq, Repr

/-- The answer of a step, the number of entries behind it and the records that it left. -/
structure Report where
  answer : Answer
  size : Nat
  records : List Record
deriving DecidableEq, Repr

/-- A registry in use, and what the steps gave out so far. -/
structure Session where
  registry : Registry
  /-- Only the shared registry resolves texts. -/
  isShared : Bool
  outputs : Array Output

namespace Session

/-- The entry that a step gave out. -/
def entry? (session : Session) (step : Nat) : Option Entry :=
  match session.outputs[step]? with
  | some (.entry entry) => some entry
  | _ => none

/-- The list of all actions that a step gave out. -/
def snapshot? (session : Session) (step : Nat) : Option (List Action) :=
  match session.outputs[step]? with
  | some (.snapshot actions) => some actions
  | _ => none

def relate (first second : Entry) : Comparison where
  same := first.action.same second.action
  sameWrite := first.serial = second.serial
  order := first.action.order second.action

/-- The registry after registrations of identifiers one by one, and their records. -/
def fill (registry : Registry) (stem : String) (ids : List Id) : Registry × List Record :=
  ids.foldl
    (fun (registry, records) id =>
      let written := registry.register ⟨id, stem ++ id.text⟩
      (written.registry, written.record :: records))
    (registry, [])

/-- The effect of a step: its answer, what it gives out, the registry behind it and its
records. -/
structure Effect where
  answer : Answer
  output : Output := .nothing
  registry : Registry
  records : List Record := []

def answerOf : Reply → Answer
  | .entry entry => .action entry.action
  | .nothing => .nothing
  | .failed failure => .failure failure
  | .truth value => .truth value
  | .settings settings => .settings settings
  | .entries entries => .actions (entries.map Entry.action)

def outputOf : Reply → Output
  | .entry entry => .entry entry
  | .entries entries => .snapshot (entries.map Entry.action)
  | _ => .nothing

def effect (session : Session) (step : Step) : Effect :=
  let registry := session.registry
  match step with
  | .call call =>
    let performed := registry.perform call
    { answer := answerOf performed.reply
      output := outputOf performed.reply
      registry := performed.registry
      records := performed.records }
  | .snapshot step =>
    match session.snapshot? step with
    | some actions => { answer := .actions actions, registry }
    | none => { answer := .invalid, registry }
  | .clone => { answer := .nothing, registry }
  | .debug => { answer := .debug registry.debug, registry }
  | .fill ids stem =>
    let filled := fill registry stem ids
    { answer := .tally (tally filled.2), registry := filled.1 }
  | .held step =>
    match session.entry? step with
    | some entry => { answer := .held entry.action, registry }
    | none => { answer := .invalid, registry }
  | .compare first second =>
    match session.entry? first, session.entry? second with
    | some first, some second => { answer := .comparison (relate first second), registry }
    | _, _ => { answer := .invalid, registry }
  | .parse text =>
    if session.isShared then
      match registry.parse text with
      | .ok action => { answer := .action action, registry }
      | .error failure => { answer := .failure failure, registry }
    else { answer := .invalid, registry }
  | .decode text =>
    if session.isShared then
      match Wire.decodeAction registry text.toList with
      | .ok action => { answer := .action action, registry }
      | .error refusal => { answer := .refusal refusal, registry }
    else { answer := .invalid, registry }

/-- The session behind a step, and the report of the step. A step that is missing means
nothing. -/
def advance (session : Session) (step : Option Step) : Session × Report :=
  let effect :=
    match step with
    | some step => session.effect step
    | none => { answer := .invalid, registry := session.registry }
  ({ session with registry := effect.registry, outputs := session.outputs.push effect.output },
   ⟨effect.answer, effect.registry.size, effect.records⟩)

/-- The reports of steps one behind the other. -/
def run (session : Session) : List (Option Step) → List Report
  | [] => []
  | step :: rest =>
    let (next, report) := session.advance step
    report :: next.run rest

end Session

end ActionDirectory
