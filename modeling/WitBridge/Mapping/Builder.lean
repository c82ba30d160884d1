import WitBridge.Mapping.Config
import WitBridge.Mapping.Registry

/-!
# Building registries

Mappings come from three sources: those added one by one, the defaults of a binding, and a
user's settings. The sources are joined in this order whatever the order of the calls, so of
equal priorities a later source wins. Setting the defaults or the settings again replaces
them.
-/
namespace WitBridge.Mapping

/-- How a mapping is added. -/
structure Options where
  priority : Int := 0
  oneWay : Option Direction := none
  metadata : List (String × String) := []
  deriving DecidableEq, Repr

/-- The mapping of a type to the IR type that a text spells. -/
def Primitive.make? (external target : String) (options : Options) : Option Primitive :=
  match Ir.TypeReference.ofText target with
  | .ok reference =>
    some ⟨external, reference, options.oneWay, options.priority, options.metadata⟩
  | .error _ => none

/-- How an override is added: in one direction, to the IR, unless it holds both ways. -/
def overrideOptions (bidirectional : Bool) (priority : Int) : Options :=
  { priority := priority, oneWay := if bidirectional then none else some .toIr }

/-- The mappings of a user's settings. A type whose IR type cannot be read is left out. -/
def Config.mappings (config : Config) : Source where
  primitives := config.primitives.filterMap fun entry =>
    Primitive.make? entry.external entry.target
      (overrideOptions entry.bidirectional entry.priority)
  containers := config.containers.map fun entry =>
    ⟨entry.external, entry.target, Arity.ofCount entry.parameters,
      if entry.bidirectional then none else some .toIr, entry.priority⟩

/-- The mappings gathered for a binding. -/
structure Builder where
  binding : String
  added : Source := {}
  defaults : Source := {}
  configured : Source := {}
  deriving DecidableEq, Repr

namespace Builder

/-- Add a mapping of a type; nothing happens if its IR type cannot be read. -/
def addPrimitive (builder : Builder) (external target : String) (options : Options) : Builder :=
  match Primitive.make? external target options with
  | some mapping => { builder with added := builder.added ++ ⟨[mapping], []⟩ }
  | none => builder

/-- Add a mapping of a container. -/
def addContainer (builder : Builder) (mapping : Container) : Builder :=
  { builder with added := builder.added ++ ⟨[], [mapping]⟩ }

/-- Set the defaults. -/
def withDefaults (builder : Builder) (defaults : Source) : Builder :=
  { builder with defaults := defaults }

/-- Set the user's settings. -/
def withConfig (builder : Builder) (config : Config) : Builder :=
  { builder with configured := config.mappings }

/-- All mappings in the order of their sources. -/
def mappings (builder : Builder) : Source :=
  builder.added ++ builder.defaults ++ builder.configured

/-- The registry of the winners. -/
def build (builder : Builder) : Registry where
  binding := builder.binding
  primitives := winners (·.external) (·.priority) builder.mappings.primitives
  containers := winners (·.external) (·.priority) builder.mappings.containers

end Builder

end WitBridge.Mapping
