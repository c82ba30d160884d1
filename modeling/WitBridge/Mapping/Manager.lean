import WitBridge.Mapping.Defaults
import WitBridge.Text.Quoted

/-!
# Registries by binding

A manager holds one registry for each binding name; registering another under the same name
replaces it. The names are kept in order.
-/
namespace WitBridge.Mapping

/-- One registry for each binding, in the order of the names. -/
structure Manager where
  registries : List Registry := []
  deriving DecidableEq, Repr

/-- No registry is held under a name. -/
structure UnknownBinding where
  binding : String
  deriving DecidableEq, Repr

/-- Which binding is missing. -/
def UnknownBinding.message (fault : UnknownBinding) : String :=
  s!"no type registry registered for binding {Text.quoted fault.binding}"

namespace Manager

/-- Hold a registry under its name, in the place of one held before. -/
def register (manager : Manager) (registry : Registry) : Manager :=
  ⟨challenge (·.binding) (fun _ => 0) registry manager.registries⟩

/-- A manager that holds the registry of WIT. -/
def withDefaults : Manager :=
  Manager.register {} witRegistry

/-- The registry of a binding. -/
def get? (manager : Manager) (binding : String) : Option Registry :=
  lookup (·.binding) binding manager.registries

/-- The registry of a binding, or the fault that there is none. -/
def get (manager : Manager) (binding : String) : Except UnknownBinding Registry :=
  match manager.get? binding with
  | some registry => .ok registry
  | none => .error ⟨binding⟩

/-- Whether a registry is held under a name. -/
def has (manager : Manager) (binding : String) : Bool :=
  (manager.get? binding).isSome

/-- The names in order. -/
def names (manager : Manager) : List String :=
  manager.registries.map (·.binding)

end Manager

end WitBridge.Mapping
