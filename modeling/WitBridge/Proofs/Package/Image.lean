import WitBridge.Proofs.Lowering
import WitBridge.Proofs.Package.Raised
import WitBridge.Proofs.Type.Image

/-!
# What packages become by way of the IR

With the default mappings the one interface of a package without worlds becomes an interface of
the images of its members. Members agree with their images exactly if they survive: their names
are plain, their types are carried, and what the IR cannot tell apart is not among them, such as a
variant without payloads, flags, a resource, or a result that is a tuple of no more than one type.
-/
namespace WitBridge

open Raising (placeholder)

/-- What stands for a type by way of the IR. -/
def TypeExpr.imaged (type : TypeExpr) : TypeExpr :=
  placeholder type.image

/-- Whether a type is kept by way of the IR. -/
def TypeExpr.survives (type : TypeExpr) : Bool :=
  type.carried Identifier.isPlain

/-- A type agrees with what stands for it exactly if it survives. -/
theorem TypeExpr.agrees_imaged (type : TypeExpr) : type.agrees type.imaged = type.survives :=
  type.agrees_image

/-- What a field becomes. -/
def Field.image (field : Field) : Field :=
  { name := field.name.image, type := field.type.imaged }

/-- What a parameter becomes. -/
def Parameter.image (parameter : Parameter) : Parameter :=
  ⟨parameter.name.image, parameter.type.imaged⟩

/-- What a case becomes. -/
def Case.image (case : Case) : Case :=
  { name := case.name.image, payload := case.payload.map TypeExpr.imaged }

/-- What a definition becomes. -/
def Definition.image : Definition → Definition
  | record fields => record (fields.map Field.image)
  | variant cases =>
    if cases.all (·.payload.isNone) then enum (cases.map (·.name.image))
    else variant (cases.map Case.image)
  | enum cases => enum (cases.map Identifier.image)
  | flags _ | resource _ _ => synonym (.primitive .u32)
  | synonym target => synonym target.imaged

/-- What a type definition becomes. -/
def TypeDefinition.image (definition : TypeDefinition) : TypeDefinition :=
  ⟨definition.name.image, definition.body.image, Documentation.ofText definition.docs.text⟩

/-- The results for an output: the elements of a tuple, and none for what has no type. -/
def spread : Option TypeExpr → List TypeExpr
  | some (.tuple elements) => elements
  | other => other.toList

/-- What the results of a function become. -/
def imageResults : List TypeExpr → List TypeExpr
  | [] => []
  | [result] => spread result.image
  | results => TypeExpr.imageList results

/-- What a function becomes. -/
def Function.image (function : Function) : Function :=
  { name := function.name.image, parameters := function.parameters.map Parameter.image,
    results := imageResults function.results, docs := Documentation.ofText function.docs.text }

/-- What an interface becomes. -/
def Interface.image (interface : Interface) : Interface :=
  { name := ⟨false, Raising.generated⟩, types := interface.types.map TypeDefinition.image,
    functions := interface.functions.map Function.image }

section Raised

open Lowering (lenient)

/-- Where everything that is made of some items becomes something, all of it is kept. -/
theorem Raising.value_kept_map {α β γ : Type} (make : β → Reported (Option γ)) (change : α → β)
    {become : α → γ} (each : ∀ item, (make (change item)).value = some (become item))
    (items : List α) : (kept make (items.map change)).value = items.map become := by
  have values : ((fun item => (make item).value) ∘ change) = some ∘ become := funext each
  simp only [kept, Reported.bind_value, Reported.pure_eq, Reported.value_mapM, List.map_map,
    values]
  simp

/-- A reference is never raised to a tuple. -/
theorem Raising.reference_ne_tuple (registry : Mapping.Registry) (name : Ir.QualifiedName)
    (parameters : List Ir.TypeExpr) (elements : List TypeExpr) :
    (type? registry (.reference name parameters)).value ≠ some (.tuple elements) := by
  simp only [type?, Reported.bind_value]
  split
  · simp
  · simp
  · simp
  · next kind _ =>
    cases kind with
    | list => rcases parameters with _ | ⟨element, rest⟩ <;> simp [container]
    | option => rcases parameters with _ | ⟨inner, rest⟩ <;> simp [container]
    | result => rcases parameters with _ | ⟨err, _ | ⟨ok, rest⟩⟩ <;> simp [container]

/-- The results of an output are what its type is spread over. -/
theorem Raising.value_results (registry : Mapping.Registry) (output : Ir.TypeExpr) :
    (results registry output).value = spread (type? registry output).value := by
  cases output with
  | unit => rfl
  | tuple elements => rfl
  | record fields => rfl
  | var name =>
    simp only [results, type?, Reported.bind_value, Reported.pure_eq]
    cases (identifier "type name" name).value <;> rfl
  | reference name parameters =>
    have other := reference_ne_tuple registry name parameters
    simp only [results, Reported.bind_value, Reported.pure_eq]
    unfold spread
    split
    · next elements found => exact absurd found (other elements)
    · rfl

/-- A field is lowered and raised to its image. -/
theorem Field.raised (field : Field) :
    (Raising.field? Mapping.witRegistry (lenient.field field).value).value =
      some field.image := by
  have name := Raising.identifier_irName "field name" field.name
  simp only [Lowering.field, Reported.bind_value, Reported.pure_eq, Raising.field?, name,
    Raising.required, field.type.raised_type]
  rfl

/-- A parameter is lowered and raised to its image. -/
theorem Parameter.raised (parameter : Parameter) :
    (Raising.parameter? Mapping.witRegistry (lenient.parameter parameter).value).value =
      some parameter.image := by
  have name := Raising.identifier_irName "parameter name" parameter.name
  simp only [Lowering.parameter, Reported.bind_value, Reported.pure_eq, Raising.parameter?, name,
    Raising.required, parameter.type.raised_type]
  rfl

/-- A case is lowered and raised to its image. -/
theorem Case.raised (case : Case) :
    (Raising.case? Mapping.witRegistry (lenient.case case).value).value = some case.image := by
  have name := Raising.identifier_irName "variant case name" case.name
  obtain ⟨identifier, payload, docs⟩ := case
  cases payload with
  | none =>
    simp only [Lowering.case, Reported.pure_eq, Raising.case?, name, Reported.bind_value]
    rfl
  | some payload =>
    simp only [Lowering.case, Reported.pure_eq, Raising.case?, name, Reported.bind_value,
      Raising.required, payload.raised_type]
    rfl

/-- A case has no arguments exactly if it has no payload. -/
theorem Case.arguments_isEmpty (case : Case) :
    (lenient.case case).value.arguments.isEmpty = case.payload.isNone := by
  obtain ⟨identifier, payload, docs⟩ := case
  cases payload <;> rfl

/-- No type is lowered to a record. -/
theorem TypeExpr.lowered_ne_record (type : TypeExpr) (fields : List (Ir.Name × Ir.TypeExpr)) :
    (lenient.type type).value ≠ .record fields := by
  induction type using TypeExpr.induct with
  | step type ih =>
    cases type with
    | primitive kind =>
      rw [Lowering.type, Lowering.value_primitive]
      intro same
      cases same
    | future inner =>
      cases inner with
      | none =>
        intro same
        cases same
      | some inner => exact ih inner (by simp [children])
    | named | list | option | result | tuple | handle | stream =>
      intro same
      cases same

/-- A synonym of a type that is no record is raised to a synonym. -/
theorem Raising.value_body_synonym (registry : Mapping.Registry) {target : Ir.TypeExpr}
    (plain : ∀ fields, target ≠ .record fields) :
    (Raising.body registry (.synonym target)).value =
      .synonym (placeholder (type? registry target).value) := by
  cases target with
  | record fields => exact absurd rfl (plain fields)
  | var | reference | tuple | unit => rfl

/-- The constructor of a case bears the name of the case. -/
theorem Case.lowered_name (case : Case) : (lenient.case case).value.name = case.name.irName := by
  obtain ⟨identifier, payload, docs⟩ := case
  cases payload <;> rfl

/-- The name of a case is lowered and raised to its image. -/
theorem Case.raised_name (case : Case) :
    (Raising.identifier "enum case name" (lenient.case case).value.name).value =
      some case.name.image := by
  rw [case.lowered_name, Raising.identifier_irName]
  rfl

/-- A definition is lowered and raised to its image. -/
theorem TypeDefinition.raised_body (definition : TypeDefinition) :
    (Raising.body Mapping.witRegistry (lenient.body definition).value).value =
      definition.body.image := by
  obtain ⟨name, body, docs⟩ := definition
  cases body with
  | record fields =>
    simp only [Lowering.body, Reported.bind_value, Reported.pure_eq, Reported.value_mapM,
      Raising.body]
    exact congrArg Definition.record (Raising.value_kept_map _ _ Field.raised fields)
  | variant cases =>
    simp only [Lowering.body, Reported.bind_value, Reported.pure_eq, Reported.value_mapM,
      Raising.body, List.all_map, Function.comp_def, Case.arguments_isEmpty, Definition.image]
    split
    · exact congrArg Definition.enum (Raising.value_kept_map
        (fun constructor : Ir.Constructor => Raising.identifier "enum case name" constructor.name)
        (fun case => (lenient.case case).value) Case.raised_name cases)
    · exact congrArg Definition.variant (Raising.value_kept_map _ _ Case.raised cases)
  | enum cases =>
    have none : (cases.all fun case => List.isEmpty ([] : List (Ir.Name × Ir.TypeExpr))) = true :=
      List.all_eq_true.2 fun _ _ => rfl
    simp only [Lowering.body, Reported.bind_value, Reported.pure_eq, Raising.body, List.all_map,
      Function.comp_def, none, if_true]
    exact congrArg Definition.enum (Raising.value_kept_map
      (fun constructor : Ir.Constructor => Raising.identifier "enum case name" constructor.name)
      (fun case : Identifier => ⟨case.irName, []⟩)
      (fun case => congrArg Reported.value (Raising.identifier_irName "enum case name" case))
      cases)
  | flags flags =>
    exact congrArg (fun type => Definition.synonym (placeholder type)) (Raising.type?_basics .u32)
  | resource constructor methods =>
    exact congrArg (fun type => Definition.synonym (placeholder type)) (Raising.type?_basics .u32)
  | synonym target =>
    simp only [Lowering.body, Reported.bind_value, Reported.pure_eq]
    rw [Raising.value_body_synonym _ target.lowered_ne_record, target.raised_type]
    rfl

/-- A type definition is lowered and raised to its image. -/
theorem TypeDefinition.raised (definition : TypeDefinition) :
    (Raising.typeDefinition? Mapping.witRegistry definition.lowered).value =
      some definition.image := by
  simp only [Raising.typeDefinition?, TypeDefinition.lowered, Reported.bind_value,
    Reported.pure_eq, Raising.identifier_irName, definition.raised_body]
  rfl

/-- The results of a function are lowered and raised to their images. -/
theorem Function.raised_results (results : List TypeExpr) :
    (Raising.results Mapping.witRegistry (lenient.output results).value).value =
      imageResults results := by
  match results with
  | [] => rfl
  | [result] =>
    rw [Lowering.output, Raising.value_results, result.raised_type]
    rfl
  | first :: second :: rest => exact TypeExpr.raised_types (first :: second :: rest)

/-- A function is lowered and raised to its image. -/
theorem Function.raised (function : Function) :
    (Raising.function? Mapping.witRegistry function.lowered).value = some function.image := by
  have parameters : (Raising.kept (Raising.parameter? Mapping.witRegistry)
      function.lowered.inputs).value = function.parameters.map Parameter.image :=
    Raising.value_kept_map _ _ Parameter.raised function.parameters
  simp only [Raising.function?, Reported.bind_value, Reported.pure_eq, parameters]
  simp only [Function.lowered, Raising.identifier_irName, Function.raised_results]
  rfl

/-- The interface of a package of one interface without worlds is lowered and raised to its
image. -/
theorem Interface.raised {package : Package} {interface : Interface}
    (interfaces : package.interfaces = [interface]) (worlds : package.worlds = []) :
    (Raising.package Mapping.witRegistry (lenient.package package).value).value.interfaces =
      [interface.image] := by
  have types := Raising.value_kept_map _ _ TypeDefinition.raised interface.types
  have functions := Raising.value_kept_map _ _ Function.raised interface.functions
  rw [Package.value_package interfaces worlds]
  simp only [Raising.package, Reported.bind_value, Reported.pure_eq, types, functions]
  rfl

end Raised

section Agreement

/-- Whether a field is kept. -/
def Field.survives (field : Field) : Bool :=
  field.name.isPlain && field.type.survives

/-- Whether a parameter is kept. -/
def Parameter.survives (parameter : Parameter) : Bool :=
  parameter.name.isPlain && parameter.type.survives

/-- Whether a case is kept. -/
def Case.survives (case : Case) : Bool :=
  case.name.isPlain && case.payload.all TypeExpr.survives

/-- Whether a definition is kept. A variant is only if some case of it carries a type. -/
def Definition.survives : Definition → Bool
  | record fields => fields.all Field.survives
  | variant cases => cases.any (·.payload.isSome) && cases.all Case.survives
  | enum cases => cases.all Identifier.isPlain
  | synonym target => target.survives
  | flags _ | resource _ _ => false

/-- Whether a type definition is kept. -/
def TypeDefinition.survives (definition : TypeDefinition) : Bool :=
  definition.name.isPlain && definition.body.survives

/-- Whether a result is kept, which a tuple of no more than one type is not. -/
def TypeExpr.survivesAsResult (type : TypeExpr) : Bool :=
  type.survives && !type.isShortTuple

/-- Whether a function is kept. -/
def Function.survives (function : Function) : Bool :=
  function.name.isPlain && function.parameters.all Parameter.survives
    && function.results.all TypeExpr.survivesAsResult

/-- Whether an interface is kept. -/
def Interface.survives (interface : Interface) : Bool :=
  interface.types.all TypeDefinition.survives && interface.functions.all Function.survives

/-- Whether a package is kept: it has one interface and no worlds, and its interface is kept. -/
def Package.survives (package : Package) : Bool :=
  match package.interfaces, package.worlds with
  | [interface], [] => interface.survives
  | _, _ => false

/-- A field agrees with its image exactly if it is kept. -/
theorem Field.agrees_image (field : Field) : field.agrees field.image = field.survives :=
  congrArg₂ and field.name.agrees_image field.type.agrees_imaged

/-- A parameter agrees with its image exactly if it is kept. -/
theorem Parameter.agrees_image (parameter : Parameter) :
    parameter.agrees parameter.image = parameter.survives :=
  congrArg₂ and parameter.name.agrees_image parameter.type.agrees_imaged

/-- A case agrees with its image exactly if it is kept. -/
theorem Case.agrees_image (case : Case) : case.agrees case.image = case.survives := by
  have payload : TypeExpr.agreesOption case.payload (case.payload.map TypeExpr.imaged) =
      case.payload.all TypeExpr.survives := by
    cases case.payload with
    | none => rfl
    | some type => exact type.agrees_imaged
  exact congrArg₂ and case.name.agrees_image payload

/-- A definition agrees with its image exactly if it is kept. -/
theorem Definition.agrees_image (body : Definition) : body.agrees body.image = body.survives := by
  cases body with
  | record fields =>
    rw [image, agrees, agreeAll_map]
    exact congrArg fields.all (funext Field.agrees_image)
  | variant cases =>
    have some : cases.any (·.payload.isSome) = !cases.all (·.payload.isNone) := by
      rw [List.not_all_eq_any_not]
      simp
    rw [image, survives, some]
    cases none : cases.all (·.payload.isNone) with
    | true => rfl
    | false =>
      rw [if_neg (by simp), agrees, agreeAll_map, funext Case.agrees_image]
      rfl
  | enum cases =>
    rw [image, agrees, agreeAll_map]
    exact congrArg cases.all (funext Identifier.agrees_image)
  | flags flags => rfl
  | resource constructor methods => rfl
  | synonym target => exact target.agrees_imaged

/-- A type definition agrees with its image exactly if it is kept. -/
theorem TypeDefinition.agrees_image (definition : TypeDefinition) :
    definition.agrees definition.image = definition.survives :=
  congrArg₂ and definition.name.agrees_image definition.body.agrees_image

/-- A result agrees with what it becomes exactly if it is kept. -/
theorem agreesList_spread_image (result : TypeExpr) :
    TypeExpr.agreesList [result] (gatheredResults (spread result.image)) =
      result.survivesAsResult := by
  -- What is no tuple and no future is raised to one result.
  have single : ∀ {other : TypeExpr}, result.agrees other = result.survives →
      result.isShortTuple = false →
        TypeExpr.agreesList [result] [other] = result.survivesAsResult := by
    intro other agrees long
    rw [TypeExpr.agreesList, agrees, TypeExpr.survivesAsResult, long]
    rfl
  have agrees := result.agrees_imaged
  cases result with
  | tuple elements =>
    match elements with
    | [] => rfl
    | [element] =>
      have apart := element.agrees_singleton_image
      change ((TypeExpr.tuple [element]).agrees element.imaged && true) = (_ && false)
      rw [Bool.and_true, Bool.and_false]
      exact apart
    | first :: second :: rest => exact single agrees rfl
  | future inner =>
    cases gatheredResults (spread (TypeExpr.image (.future inner))) with
    | nil => rfl
    | cons other others => rfl
  | primitive | named | list | option | result | handle | stream => exact single agrees rfl

/-- A function of no more than one result agrees with its image exactly if it is kept. -/
theorem Function.agrees_image {function : Function} (one : function.results.length ≤ 1) :
    function.agrees function.image = function.survives := by
  have parameters : agreeAll Parameter.agrees function.parameters
      (function.parameters.map Parameter.image) =
        function.parameters.all Parameter.survives := by
    rw [agreeAll_map, funext Parameter.agrees_image]
  have results : TypeExpr.agreesList function.gatheredResults function.image.gatheredResults =
      function.results.all TypeExpr.survivesAsResult := by
    rw [gatheredResults_eq, gatheredResults_eq]
    change TypeExpr.agreesList _ (WitBridge.gatheredResults (imageResults function.results)) = _
    match shape : function.results with
    | [] => rfl
    | [result] =>
      rw [List.all_cons, List.all_nil, Bool.and_true]
      exact agreesList_spread_image result
    | first :: second :: rest =>
      rw [shape] at one
      simp at one
  exact congrArg₂ and (congrArg₂ and function.name.agrees_image parameters) results

end Agreement

end WitBridge
