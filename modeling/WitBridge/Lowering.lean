import WitBridge.Diagnostic
import WitBridge.Ir.Module
import WitBridge.Mapping.Registry
import WitBridge.Package

/-!
# From packages to IR modules

The types and functions of the interfaces of a package, and of its worlds, become the types
and values of one module. What the IR cannot hold is reported: the size of integers, single
precision, flags, resources and handles, futures and streams, and references to interfaces
defined elsewhere. In strict mode flags, resources and handles are errors, and a definition
that draws one of these errors is left out.
-/
namespace WitBridge

/-- What a package is lowered with. -/
structure Lowering where
  registry : Mapping.Registry
  strict : Bool := false

/-- The name of the IR for a name of a package. -/
def Identifier.irName (name : Identifier) : Ir.Name :=
  .ofText name.bare.text

namespace Lowering

/-- The IR type of a primitive type, and what is lost with it. -/
def primitive (lowering : Lowering) (kind : Primitive) : Reported Ir.TypeExpr :=
  match lowering.registry.lookup kind.spelling with
  | none => do
    Reported.note (.unknownType kind.spelling .make)
    return .unit
  | some mapping => do
    if kind.isInteger then
      Reported.note (.intPrecisionLost kind.spelling .make)
    else if kind = .f32 then
      Reported.note (.floatPrecisionLost kind.spelling .make)
    match mapping.target with
    | .primitive name => return .basics name
    | .qualified name => return .reference name []

/-- The IR name of a container: the one it is mapped to, or the SDK type of the same purpose. -/
def containerName (lowering : Lowering) (external sdk : String) : Ir.QualifiedName :=
  let mapped := do
    let mapping ← lowering.registry.lookupContainer external
    (Ir.QualifiedName.ofText mapping.target).toOption
  mapped.getD (.sdk sdk sdk)

/-- The list of an IR type. -/
def listOf (lowering : Lowering) (element : Ir.TypeExpr) : Ir.TypeExpr :=
  .reference (lowering.containerName "list" "List") [element]

/-- The option of an IR type. -/
def optionOf (lowering : Lowering) (inner : Ir.TypeExpr) : Ir.TypeExpr :=
  .reference (lowering.containerName "option" "Maybe") [inner]

/-- The result of two IR types; the IR puts the error first. -/
def resultOf (lowering : Lowering) (ok err : Ir.TypeExpr) : Ir.TypeExpr :=
  .reference (lowering.containerName "result" "Result") [err, ok]

mutual
/-- The IR type of a type. A future becomes what it yields and a stream a list. -/
def type (lowering : Lowering) : TypeExpr → Reported Ir.TypeExpr
  | .primitive kind => lowering.primitive kind
  | .named name => return .var name.irName
  | .list element => return lowering.listOf (← type lowering element)
  | .option inner => return lowering.optionOf (← type lowering inner)
  | .result ok err => do
    let ok ← optional lowering ok
    let err ← optional lowering err
    return lowering.resultOf ok err
  | .tuple elements => return .tuple (← types lowering elements)
  | .handle _ resource => do
    Reported.note (.resourceUnsupported resource.text .make lowering.strict)
    return .basics "Int"
  | .future inner => do
    Reported.note (.conversionWarning "future type not supported, using inner type" .make)
    optional lowering inner
  | .stream element => do
    Reported.note
      (.conversionWarning "stream type not supported, using List of element type" .make)
    return lowering.listOf (← optional lowering element)
/-- The IR type of a type that may be missing; the unit stands for a missing one. -/
def optional (lowering : Lowering) : Option TypeExpr → Reported Ir.TypeExpr
  | none => return .unit
  | some inner => type lowering inner
/-- The IR types of a list of types. -/
def types (lowering : Lowering) : List TypeExpr → Reported (List Ir.TypeExpr)
  | [] => return []
  | first :: rest => return (← type lowering first) :: (← types lowering rest)
end

/-- A field of a record. -/
def field (lowering : Lowering) (field : Field) : Reported (Ir.Name × Ir.TypeExpr) := do
  return (field.name.irName, ← lowering.type field.type)

/-- A parameter of a function. -/
def parameter (lowering : Lowering) (parameter : Parameter) :
    Reported (Ir.Name × Ir.TypeExpr) := do
  return (parameter.name.irName, ← lowering.type parameter.type)

/-- A case of a variant; what it carries is its one argument. -/
def case (lowering : Lowering) (case : Case) : Reported Ir.Constructor := do
  match case.payload with
  | none => return ⟨case.name.irName, []⟩
  | some payload => return ⟨case.name.irName, [(.ofText "value", ← lowering.type payload)]⟩

/-- What a definition defines. Flags become a bit mask and a resource an opaque number. -/
def body (lowering : Lowering) (definition : TypeDefinition) : Reported Ir.TypeBody :=
  match definition.body with
  | .record fields => return .synonym (.record (← fields.mapM lowering.field))
  | .variant cases => return .custom .everyone (← cases.mapM lowering.case)
  | .enum cases => return .custom .everyone (cases.map fun case => ⟨case.irName, []⟩)
  | .flags _ => do
    Reported.note (.flagsUnsupported definition.name.text .make lowering.strict)
    return .synonym (.basics "Int")
  | .resource _ _ => do
    Reported.note (.resourceUnsupported definition.name.text .make lowering.strict)
    return .synonym (.basics "Int")
  | .synonym target => return .synonym (← lowering.type target)

/-- Whether a diagnostic refuses the definition that it is about. -/
def refuses (diagnostic : Diagnostic) : Bool :=
  diagnostic.severity = .error
    && (diagnostic.code = .flagsUnsupported || diagnostic.code = .resourceUnsupported)

/-- What was made, unless a diagnostic refuses it. -/
def unlessRefused {α : Type} (reported : Reported α) : Reported (Option α) :=
  ⟨if reported.diagnostics.any refuses then none else some reported.value, reported.diagnostics⟩

/-- A type definition. -/
def typeEntry (lowering : Lowering) (definition : TypeDefinition) :
    Reported (Option Ir.TypeEntry) :=
  unlessRefused do
    let body ← lowering.body definition
    return { name := definition.name.irName, doc := definition.docs.text, body := body }

/-- The result of a function; several become a tuple. -/
def output (lowering : Lowering) : List TypeExpr → Reported Ir.TypeExpr
  | [] => return .unit
  | [result] => lowering.type result
  | results => return .tuple (← lowering.types results)

/-- A function. Its results are looked at before its parameters. -/
def valueEntry (lowering : Lowering) (function : Function) : Reported (Option Ir.ValueEntry) :=
  unlessRefused do
    let output ← lowering.output function.results
    let inputs ← function.parameters.mapM lowering.parameter
    return { name := function.name.irName, doc := function.docs.text, inputs := inputs,
             output := output }

/-- The types and functions of an interface. -/
def interface (lowering : Lowering) (interface : Interface) : Reported Ir.Module := do
  let types ← interface.types.mapM lowering.typeEntry
  let values ← interface.functions.mapM lowering.valueEntry
  return { types := types.filterMap id, values := values.filterMap id }

/-- What a world imports or exports. -/
def worldItem (lowering : Lowering) : WorldItem → Reported Ir.Module
  | .inline _ interface => lowering.interface interface
  | .external _ path => do
    Reported.note (.externalReference s!"external interface reference: {path.display}" .make)
    return {}
  | .function function => do
    return { values := (← lowering.valueEntry function).toList }

/-- The parts of a package in order: its interfaces, then for each world its imports and its
exports. -/
def parts (lowering : Lowering) (package : Package) : Reported (List Ir.Module) := do
  let interfaces ← package.interfaces.mapM lowering.interface
  let items ← (package.worlds.flatMap fun world => world.imports ++ world.exports).mapM
    lowering.worldItem
  return interfaces ++ items

/-- The module of a package. -/
def package (lowering : Lowering) (package : Package) : Reported Ir.Module := do
  let parts ← lowering.parts package
  return { types := parts.flatMap (·.types)
           values := parts.flatMap (·.values)
           doc := if package.docs.isEmpty then none else some package.docs.text }

end Lowering

end WitBridge
