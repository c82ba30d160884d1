import WitBridge.Mapping.Basic

/-!
# Registries

Of entries with one key the one with the highest priority wins, and of equals the last. The
table of winners holds each key once, in rising order.

A registry holds the winning mappings of one binding. From the external side a mapping is
found by its external type. From the IR side only mappings that hold both ways are found, by
the text of their IR type; of several the one with the highest priority is found, and of
equals the one whose external type is last in order.
-/
namespace WitBridge.Mapping

section Winners

variable {α : Type}

/-- Put an entry into a table, in the place of an entry with its key unless that one has a higher
priority. -/
def challenge (key : α → String) (priority : α → Int) (entry : α) : List α → List α
  | [] => [entry]
  | other :: rest =>
    if key entry < key other then entry :: other :: rest
    else if key entry = key other then
      (if priority other ≤ priority entry then entry else other) :: rest
    else other :: challenge key priority entry rest

/-- The table of winners among entries. -/
def winners (key : α → String) (priority : α → Int) (entries : List α) : List α :=
  entries.foldl (fun table entry => challenge key priority entry table) []

/-- The entry of a key in a table. -/
def lookup (key : α → String) (wanted : String) (table : List α) : Option α :=
  table.find? (key · = wanted)

end Winners

/-- The winning mappings of a binding, each table in the order of its external types. -/
structure Registry where
  binding : String
  primitives : List Primitive := []
  containers : List Container := []
  deriving DecidableEq, Repr

namespace Registry

/-- The mapping of an external type. -/
def lookup (registry : Registry) (external : String) : Option Primitive :=
  Mapping.lookup (·.external) external registry.primitives

/-- The mapping of an external container. -/
def lookupContainer (registry : Registry) (external : String) : Option Container :=
  Mapping.lookup (·.external) external registry.containers

/-- The mappings that can be found from the IR side, in the order of their IR types. -/
def reverse (registry : Registry) : List Primitive :=
  winners (·.target.display) (·.priority) (registry.primitives.filter (·.bidirectional))

/-- The containers that can be found from the IR side, in the order of their IR types. -/
def reverseContainers (registry : Registry) : List Container :=
  winners (·.target) (·.priority) (registry.containers.filter (·.bidirectional))

/-- The mapping of an IR type. -/
def lookupReverse (registry : Registry) (target : Ir.TypeReference) : Option Primitive :=
  Mapping.lookup (·.target.display) target.display registry.reverse

/-- The container of an IR type. -/
def lookupContainerReverse (registry : Registry) (target : String) : Option Container :=
  Mapping.lookup (·.target) target registry.reverseContainers

end Registry

end WitBridge.Mapping
