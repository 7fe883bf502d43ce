/-
The registry that a whole process shares: the catalog under the settings of the
environment.
-/

import ActionDirectory.Catalog
import ActionDirectory.Registry.Basic

namespace ActionDirectory.Registry

/-- The shared registry at the start of a process, and the records of how it came about. -/
def shared (environment : Environment) : Except Failure (Registry × List Record) :=
  let (settings, records) := Settings.ofEnvironment environment
  match ofTable Catalog.actions settings with
  | .ok (registry, record) => .ok (registry, records ++ [record])
  | .error failure => .error failure

end ActionDirectory.Registry
