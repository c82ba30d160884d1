import WitBridge.Proofs.Lowering.Notes
import WitBridge.Proofs.Mapping.Defaults
import WitBridge.Proofs.Type.Visiting

/-!
# What lowering loses, construct by construct

With the default mappings every primitive type is known, so what lowering reports of a package is
only what the IR cannot hold. Each place where something is lost is reported once. The reports
follow the order in which the constructs of the package are converted and, within a type, the
order in which a walk visits its nodes.
-/
namespace WitBridge

namespace TypeExpr

/-- What is lost at a node of a type: the size and sign of an integer, single precision, a handle,
and that a value is still to come. -/
def loss? (strict : Bool) : TypeExpr → Option Diagnostic
  | primitive kind =>
    if kind.isInteger then some (.intPrecisionLost kind.spelling .make)
    else if kind = .f32 then some (.floatPrecisionLost kind.spelling .make)
    else none
  | handle _ resource => some (.resourceUnsupported resource.text .make strict)
  | future _ => some (.conversionWarning "future type not supported, using inner type" .make)
  | stream _ =>
    some (.conversionWarning "stream type not supported, using List of element type" .make)
  | named _ | list _ | option _ | result _ _ | tuple _ => none

/-- What is lost of a type, as a walk through it finds it. -/
def losses (strict : Bool) (type : TypeExpr) : List Diagnostic :=
  type.walk (fun found node => (found ++ (node.loss? strict).toList, true)) []

end TypeExpr

/-- What is lost of a definition: all of flags and of a resource, methods included, and of any
other definition what is lost of its types. -/
def TypeDefinition.losses (strict : Bool) (definition : TypeDefinition) : List Diagnostic :=
  match definition.body with
  | .record fields => fields.flatMap (·.type.losses strict)
  | .variant cases => cases.flatMap fun case => case.payload.toList.flatMap (·.losses strict)
  | .enum _ => []
  | .flags _ => [.flagsUnsupported definition.name.text .make strict]
  | .resource _ _ => [.resourceUnsupported definition.name.text .make strict]
  | .synonym target => target.losses strict

/-- What is lost of a function: of its results and then of its parameters. -/
def Function.losses (strict : Bool) (function : Function) : List Diagnostic :=
  function.results.flatMap (·.losses strict) ++
    function.parameters.flatMap (·.type.losses strict)

/-- What lowering converts one after the other. -/
inductive Construct where
  | definition (definition : TypeDefinition)
  | function (function : Function)
  /-- A reference of a world to an interface defined elsewhere. -/
  | reference (path : UsePath)

/-- What is lost of a construct. -/
def Construct.losses (strict : Bool) : Construct → List Diagnostic
  | definition found => found.losses strict
  | function found => found.losses strict
  | reference path =>
    [.externalReference s!"external interface reference: {path.display}" .make]

/-- The constructs of an interface: its type definitions and then its functions. -/
def Interface.constructs (interface : Interface) : List Construct :=
  interface.types.map .definition ++ interface.functions.map .function

/-- The constructs that a world imports or exports at one place. -/
def WorldItem.constructs : WorldItem → List Construct
  | inline _ interface => interface.constructs
  | external _ path => [.reference path]
  | function found => [.function found]

/-- The constructs of a package: those of its interfaces and then of each world those that it
imports and those that it exports. -/
def Package.constructs (package : Package) : List Construct :=
  package.interfaces.flatMap Interface.constructs ++
    package.worlds.flatMap fun world =>
      world.imports.flatMap WorldItem.constructs ++ world.exports.flatMap WorldItem.constructs

namespace Lowering

variable (strict : Bool)

end Lowering

end WitBridge
