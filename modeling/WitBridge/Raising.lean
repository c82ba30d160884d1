import WitBridge.Diagnostic
import WitBridge.Ir.Module
import WitBridge.Mapping.Registry
import WitBridge.Package

/-!
# From IR modules to packages

A module becomes a package with one interface. A reference is looked up in the registry,
first as a primitive type and then as a container, then taken for a type of the SDK, and at
last for the name of a definition. A type that has no spelling, such as the unit, leaves its
place empty or is replaced by the empty tuple. A member whose name has no kebab case is
reported and left out.
-/
namespace WitBridge

/-- The containers that a reference may stand for. -/
inductive ContainerKind where
  | list | option | result
  deriving DecidableEq, Repr

namespace ContainerKind

/-- The container that a word names. -/
def ofWord? : String → Option ContainerKind
  | "list" => some list
  | "option" => some option
  | "result" => some result
  | _ => none

/-- The container of the SDK in a module of a name. -/
def ofSdk? (module name : String) : Option ContainerKind :=
  match module with
  | "List" => if name = "List" then some list else none
  | "Maybe" => if name = "Maybe" then some option else none
  | "Result" => if name = "Result" then some result else none
  | _ => none

/-- How many parameters the container needs. -/
def arity : ContainerKind → Nat
  | list | option => 1
  | result => 2

end ContainerKind

/-- What a reference stands for. -/
inductive ReferenceTarget where
  | primitive (kind : Primitive)
  | container (kind : ContainerKind)
  | named (name : Identifier)
  deriving DecidableEq, Repr

namespace Raising

/-- The identifier of a name of the IR; a name without one is reported. -/
def identifier (what : String) (name : Ir.Name) : Reported (Option Identifier) :=
  match Identifier.ofText name.kebab with
  | .ok found => return some found
  | .error _ => do
    Reported.note (.conversionError s!"invalid {what}: {name.camel}" .gen)
    return none

/-- A definition by the local part of its name. -/
def definitionTarget (name : Ir.QualifiedName) : Reported (Option ReferenceTarget) := do
  return (← identifier "type name" name.localName).map .named

/-- The primitive type of a mapping; a mapping of another external type leads nowhere. -/
def mappedTarget (mapping : Mapping.Primitive) : Option ReferenceTarget :=
  (Primitive.ofSpelling? mapping.external).map .primitive

/-- The first container, in the order of external types, that holds both ways and is mapped to a
name. -/
def mappedContainer? (registry : Mapping.Registry) (name : Ir.QualifiedName) : Option String :=
  (registry.containers.find? fun mapping =>
    mapping.bidirectional && (Ir.QualifiedName.ofText mapping.target).toOption = some name).map
    (·.external)

/-- A container with enough parameters. -/
def applicable? (kind : Option ContainerKind) (count : Nat) : Option ReferenceTarget := do
  let kind ← kind
  if kind.arity ≤ count then return .container kind else none

/-- The target of a basic type of the SDK. The plain integer has no size and becomes the common
one. -/
def basicsTarget (registry : Mapping.Registry) (name : String) :
    Reported (Option ReferenceTarget) :=
  match (registry.lookupReverse (.primitive name)).bind mappedTarget with
  | some target => return some target
  | none =>
    match name with
    | "Bool" => return some (.primitive .bool)
    | "Int" => do
      Reported.note
        ⟨.info, .intPrecisionLost, "Int converted to s32 (size unknown)", .gen, none⟩
      return some (.primitive .s32)
    | "Float" => return some (.primitive .f64)
    | "String" => return some (.primitive .string)
    | "Char" => return some (.primitive .char)
    | _ => do
      Reported.note (.unknownType s!"Basics.{name}" .gen)
      return none

/-- The target of a type of the SDK with a number of parameters. -/
def sdkTarget (registry : Mapping.Registry) (name : Ir.QualifiedName) (count : Nat) :
    Reported (Option ReferenceTarget) :=
  let module := name.moduleName
  let title := name.localName.title
  if module = "Basics" then basicsTarget registry title
  else
    match applicable? (ContainerKind.ofSdk? module title) count with
    | some target => return some target
    | none => do
      Reported.note (.conversionWarning s!"unknown SDK type: {module}.{title}" .gen)
      definitionTarget name

/-- The target of a reference with a number of parameters. -/
def target (registry : Mapping.Registry) (name : Ir.QualifiedName) (count : Nat) :
    Reported (Option ReferenceTarget) :=
  match registry.lookupReverse (.qualified name) with
  | some mapping => return mappedTarget mapping
  | none =>
    let mapped := (mappedContainer? registry name).bind ContainerKind.ofWord?
    match applicable? mapped count with
    | some target => return some target
    | none =>
      if name.isSdk then sdkTarget registry name count
      else
        match registry.lookupReverse (.primitive name.localName.title) with
        | some mapping => return mappedTarget mapping
        | none => definitionTarget name

/-- A type for a place that cannot be empty. -/
def placeholder (type : Option TypeExpr) : TypeExpr :=
  type.getD (.tuple [])

mutual
/-- The type of an IR type, if it has one. -/
def type? (registry : Mapping.Registry) : Ir.TypeExpr → Reported (Option TypeExpr)
  | .var name => return (← identifier "type name" name).map .named
  | .reference name parameters => do
    match ← target registry name parameters.length with
    | none => return none
    | some (.primitive kind) => return some (.primitive kind)
    | some (.named definition) => return some (.named definition)
    | some (.container kind) => container registry kind parameters
  | .tuple elements => return some (.tuple (← elementTypes registry elements))
  | .record _ => do
    Reported.note (.conversionWarning "inline record converted to named type" .gen)
    return none
  | .unit => return none
/-- The container of the first parameters. The IR puts the error of a result first. -/
def container (registry : Mapping.Registry) :
    ContainerKind → List Ir.TypeExpr → Reported (Option TypeExpr)
  | .list, element :: _ => return some (.list (placeholder (← type? registry element)))
  | .option, inner :: _ => return some (.option (placeholder (← type? registry inner)))
  | .result, err :: ok :: _ => do
    let err ← type? registry err
    let ok ← type? registry ok
    return some (.result ok err)
  | _, _ => return none
/-- The types of elements, none of which is left out. -/
def elementTypes (registry : Mapping.Registry) : List Ir.TypeExpr → Reported (List TypeExpr)
  | [] => return []
  | first :: rest =>
    return placeholder (← type? registry first) :: (← elementTypes registry rest)
end

/-- The type of an IR type for a place that cannot be empty. -/
def required (registry : Mapping.Registry) (type : Ir.TypeExpr) : Reported TypeExpr := do
  return placeholder (← type? registry type)

/-- What each item of a list becomes, without those that become nothing. -/
def kept {α β : Type} (make : α → Reported (Option β)) (items : List α) : Reported (List β) := do
  return (← items.mapM make).filterMap id

/-- A field of a record; its name is looked at first, and without one its type is not. -/
def field? (registry : Mapping.Registry) (field : Ir.Name × Ir.TypeExpr) :
    Reported (Option Field) := do
  match ← identifier "field name" field.1 with
  | none => return none
  | some name => return some { name := name, type := ← required registry field.2 }

/-- A parameter of a function. -/
def parameter? (registry : Mapping.Registry) (input : Ir.Name × Ir.TypeExpr) :
    Reported (Option Parameter) := do
  match ← identifier "parameter name" input.1 with
  | none => return none
  | some name => return some ⟨name, ← required registry input.2⟩

/-- A case of a variant, which carries the first argument of its constructor. -/
def case? (registry : Mapping.Registry) (constructor : Ir.Constructor) :
    Reported (Option Case) := do
  match ← identifier "variant case name" constructor.name with
  | none => return none
  | some name =>
    match constructor.arguments with
    | [] => return some { name := name, payload := none }
    | (_, type) :: _ => return some { name := name, payload := some (← required registry type) }

/-- What a definition of the IR defines. Constructors without arguments make an enumeration. -/
def body (registry : Mapping.Registry) : Ir.TypeBody → Reported Definition
  | .synonym (.record fields) => return .record (← kept (field? registry) fields)
  | .synonym target => return .synonym (← required registry target)
  | .custom _ constructors =>
    if constructors.all (·.arguments.isEmpty) then
      return .enum (← kept (fun constructor => identifier "enum case name" constructor.name)
        constructors)
    else return .variant (← kept (case? registry) constructors)

/-- A type definition. Its body is looked at before its name. -/
def typeDefinition? (registry : Mapping.Registry) (entry : Ir.TypeEntry) :
    Reported (Option TypeDefinition) := do
  let body ← body registry entry.body
  let name ← identifier "identifier" entry.name
  return name.map (⟨·, body, Documentation.ofText entry.doc⟩)

/-- The results of a function: none for the unit, each element for a tuple. -/
def results (registry : Mapping.Registry) : Ir.TypeExpr → Reported (List TypeExpr)
  | .unit => return []
  | .tuple elements => elementTypes registry elements
  | output => return (← type? registry output).toList

/-- A function. Its parameters and results are looked at before its name. -/
def function? (registry : Mapping.Registry) (entry : Ir.ValueEntry) :
    Reported (Option Function) := do
  let parameters ← kept (parameter? registry) entry.inputs
  let results ← results registry entry.output
  let name ← identifier "function name" entry.name
  return name.map fun name =>
    { name := name, parameters := parameters, results := results,
      docs := Documentation.ofText entry.doc }

/-- The vendor of a generated package and the name of its interface. -/
def generated : KebabName := ⟨"generated", by decide⟩

/-- The name of a generated package. -/
def generatedPackage : KebabName := ⟨"module", by decide⟩

/-- The package of a module. -/
def package (registry : Mapping.Registry) (module : Ir.Module) : Reported Package := do
  let types ← kept (typeDefinition? registry) module.types
  let functions ← kept (function? registry) module.values
  let docs := match module.doc with
    | some doc => Documentation.ofText doc
    | none => {}
  return { header := some { vendor := generated, name := generatedPackage, docs := docs }
           interfaces := [{ name := ⟨false, generated⟩, types := types, functions := functions }] }

end Raising

end WitBridge
