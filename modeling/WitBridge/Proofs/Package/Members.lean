import WitBridge.Package
import WitBridge.Proofs.Type.Nodes

/-!
# Members of packages

The type definitions and the functions of a package are those of its interfaces in order, and then
those that its worlds spell out: of each world what it imports and then what it exports. Methods
of resources are no functions of the package.
-/
namespace WitBridge

/-- The type definitions that a world item spells out. -/
def WorldItem.definitions : WorldItem → List TypeDefinition
  | inline _ interface => interface.types
  | external _ _ | function _ => []

/-- The functions that a world item spells out. -/
def WorldItem.functions : WorldItem → List Function
  | inline _ interface => interface.functions
  | external _ _ => []
  | function found => [found]

namespace Package

/-- The items of the worlds of a package: of each world what it imports and then what it
exports. -/
def worldItems (package : Package) : List WorldItem :=
  package.worlds.flatMap fun world => world.imports ++ world.exports

/-- The type definitions of a package. -/
def definitions (package : Package) : List TypeDefinition :=
  package.interfaces.flatMap (·.types) ++ package.worldItems.flatMap WorldItem.definitions

/-- The functions of a package. -/
def functions (package : Package) : List Function :=
  package.interfaces.flatMap (·.functions) ++ package.worldItems.flatMap WorldItem.functions

end Package

/-- The types of a definition: of its fields, of what its cases carry, or its target. -/
def Definition.types : Definition → List TypeExpr
  | record fields => fields.map (·.type)
  | variant cases => cases.flatMap (·.payload.toList)
  | enum _ | flags _ | resource _ _ => []
  | synonym target => [target]

/-- The types of a function: its results and then those of its parameters. -/
def Function.types (function : Function) : List TypeExpr :=
  function.results ++ function.parameters.map (·.type)

end WitBridge
