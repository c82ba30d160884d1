import WitBridge.Proofs.Package.Image

/-!
# What was lowered is raised without a report

With the default mappings every name that lowering makes has an identifier, and every type that
it makes is one that raising knows. So raising reports nothing of the module of a package.
-/
namespace WitBridge

open Lowering (lenient)

namespace Raising

variable {α β : Type}

/-- Of a list is reported what is reported of its items, whether they are kept or not. -/
theorem diagnostics_kept (make : α → Reported (Option β)) (items : List α) :
    (kept make items).diagnostics = items.flatMap fun item => (make item).diagnostics := by
  simp [kept]

/-- If nothing is reported of what is made of each item, nothing is reported of the list. -/
theorem silent_kept_map {γ : Type} (make : β → Reported (Option γ)) (change : α → β)
    (each : ∀ item, (make (change item)).diagnostics = []) (items : List α) :
    (kept make (items.map change)).diagnostics = [] := by
  rw [diagnostics_kept, List.flatMap_map, List.flatMap_eq_nil_iff]
  exact fun item _ => each item

/-- A basic type of the SDK is raised without a report. -/
theorem silent_basics (kind : Primitive) :
    (type? Mapping.witRegistry (.basics kind.basic)).diagnostics = [] := by
  rw [Ir.TypeExpr.basics, type?, List.length_nil, target_basics]
  rfl

/-- Of a container of the SDK is reported what is reported of its parameters. -/
theorem diagnostics_type?_container (kind : ContainerKind) (parameters : List Ir.TypeExpr)
    (count : parameters.length = kind.arity) :
    (type? Mapping.witRegistry (.reference kind.sdk parameters)).diagnostics =
      (container Mapping.witRegistry kind parameters).diagnostics := by
  rw [type?, count, target_container]
  rfl

/-- Of the list of a type is reported what is reported of the type. -/
theorem diagnostics_listOf (element : Ir.TypeExpr) :
    (type? Mapping.witRegistry (lenient.listOf element)).diagnostics =
      (type? Mapping.witRegistry element).diagnostics := by
  rw [Lowering.listOf_lenient]
  refine (diagnostics_type?_container .list [element] rfl).trans ?_
  simp [container]

/-- Of the option of a type is reported what is reported of the type. -/
theorem diagnostics_optionOf (inner : Ir.TypeExpr) :
    (type? Mapping.witRegistry (lenient.optionOf inner)).diagnostics =
      (type? Mapping.witRegistry inner).diagnostics := by
  rw [Lowering.optionOf_lenient]
  refine (diagnostics_type?_container .option [inner] rfl).trans ?_
  simp [container]

/-- Of the result of two types is reported what is reported of the error and then of the value. -/
theorem diagnostics_resultOf (ok err : Ir.TypeExpr) :
    (type? Mapping.witRegistry (lenient.resultOf ok err)).diagnostics =
      (type? Mapping.witRegistry err).diagnostics ++
        (type? Mapping.witRegistry ok).diagnostics := by
  rw [Lowering.resultOf_lenient]
  refine (diagnostics_type?_container .result [err, ok] rfl).trans ?_
  simp [container]

end Raising

mutual
/-- A type that was lowered is raised without a report. -/
theorem TypeExpr.silent_type (type : TypeExpr) :
    (Raising.type? Mapping.witRegistry (lenient.type type).value).diagnostics = [] := by
  cases type with
  | primitive kind =>
    rw [Lowering.type, Lowering.value_primitive]
    exact Raising.silent_basics kind
  | named name =>
    have raised := Raising.identifier_irName "type name" name
    simp only [Lowering.type, Reported.pure_eq, Raising.type?, raised, Reported.bind_diagnostics,
      List.append_nil]
  | list element =>
    simp only [Lowering.type, Reported.bind_value, Reported.pure_eq, Raising.diagnostics_listOf,
      silent_type element]
  | option inner =>
    simp only [Lowering.type, Reported.bind_value, Reported.pure_eq,
      Raising.diagnostics_optionOf, silent_type inner]
  | result ok err =>
    simp only [Lowering.type, Reported.bind_value, Reported.pure_eq,
      Raising.diagnostics_resultOf, silent_optional ok, silent_optional err, List.append_nil]
  | tuple elements =>
    simp only [Lowering.type, Reported.bind_value, Reported.pure_eq, Raising.type?,
      Reported.bind_diagnostics, silent_types elements, List.append_nil]
  | handle ownership resource =>
    simp only [Lowering.type, Reported.bind_value, Reported.pure_eq]
    exact Raising.silent_basics .u32
  | future inner => simp only [Lowering.type, Reported.bind_value, silent_optional inner]
  | stream element =>
    simp only [Lowering.type, Reported.bind_value, Reported.pure_eq, Raising.diagnostics_listOf,
      silent_optional element]
/-- A type that may be missing is raised without a report after it was lowered. -/
theorem TypeExpr.silent_optional (type : Option TypeExpr) :
    (Raising.type? Mapping.witRegistry (lenient.optional type).value).diagnostics = [] := by
  cases type with
  | none =>
    rw [Lowering.optional, Reported.pure_eq, Raising.type?]
    rfl
  | some type => exact silent_type type
/-- The types of a list that were lowered are raised without a report. -/
theorem TypeExpr.silent_types (types : List TypeExpr) :
    (Raising.elementTypes Mapping.witRegistry (lenient.types types).value).diagnostics = [] := by
  cases types with
  | nil =>
    rw [Lowering.types, Reported.pure_eq, Raising.elementTypes]
    rfl
  | cons first rest =>
    simp only [Lowering.types, Reported.bind_value, Reported.pure_eq, Raising.elementTypes,
      Reported.bind_diagnostics, silent_type first, silent_types rest, List.append_nil]
end

/-- A field that was lowered is raised without a report. -/
theorem Field.silent (field : Field) :
    (Raising.field? Mapping.witRegistry (lenient.field field).value).diagnostics = [] := by
  have name := Raising.identifier_irName "field name" field.name
  simp only [Lowering.field, Reported.bind_value, Reported.pure_eq, Raising.field?, name,
    Raising.required, Reported.bind_diagnostics, field.type.silent_type, List.append_nil]

/-- A parameter that was lowered is raised without a report. -/
theorem Parameter.silent (parameter : Parameter) :
    (Raising.parameter? Mapping.witRegistry (lenient.parameter parameter).value).diagnostics =
      [] := by
  have name := Raising.identifier_irName "parameter name" parameter.name
  simp only [Lowering.parameter, Reported.bind_value, Reported.pure_eq, Raising.parameter?, name,
    Raising.required, Reported.bind_diagnostics, parameter.type.silent_type, List.append_nil]

/-- A case that was lowered is raised without a report. -/
theorem Case.silent (case : Case) :
    (Raising.case? Mapping.witRegistry (lenient.case case).value).diagnostics = [] := by
  have name := Raising.identifier_irName "variant case name" case.name
  obtain ⟨identifier, payload, docs⟩ := case
  cases payload with
  | none =>
    simp only [Lowering.case, Reported.pure_eq, Raising.case?, name, Reported.bind_diagnostics,
      List.append_nil]
  | some payload =>
    simp only [Lowering.case, Reported.pure_eq, Raising.case?, name, Reported.bind_value,
      Raising.required, Reported.bind_diagnostics, payload.silent_type, List.append_nil]

/-- The name of a case that was lowered is raised without a report. -/
theorem Case.silent_name (case : Case) :
    (Raising.identifier "enum case name" (lenient.case case).value.name).diagnostics = [] := by
  rw [case.lowered_name, Raising.identifier_irName]
  rfl

/-- A synonym of a type that is no record reports what the type reports. -/
theorem Raising.diagnostics_body_synonym (registry : Mapping.Registry) {target : Ir.TypeExpr}
    (plain : ∀ fields, target ≠ .record fields) :
    (Raising.body registry (.synonym target)).diagnostics =
      (type? registry target).diagnostics := by
  cases target with
  | record fields => exact absurd rfl (plain fields)
  | var | reference | tuple | unit => simp [Raising.body, required]

/-- What a definition defines was lowered and is raised without a report. -/
theorem TypeDefinition.silent_body (definition : TypeDefinition) :
    (Raising.body Mapping.witRegistry (lenient.body definition).value).diagnostics = [] := by
  -- Flags and resources are lowered to the same number.
  have number : (Raising.body Mapping.witRegistry (.synonym (.basics "Int"))).diagnostics = [] := by
    rw [Raising.diagnostics_body_synonym]
    · exact Raising.silent_basics .u32
    · rintro fields ⟨⟩
  obtain ⟨name, body, docs⟩ := definition
  cases body with
  | record fields =>
    have silent := Raising.silent_kept_map (Raising.field? Mapping.witRegistry)
      (fun field => (lenient.field field).value) Field.silent fields
    simp only [Lowering.body, Reported.bind_value, Reported.pure_eq, Reported.value_mapM,
      Raising.body, Reported.bind_diagnostics, silent, List.append_nil]
  | variant cases =>
    have names := Raising.silent_kept_map
      (fun constructor : Ir.Constructor => Raising.identifier "enum case name" constructor.name)
      (fun case => (lenient.case case).value) Case.silent_name cases
    have silent := Raising.silent_kept_map (Raising.case? Mapping.witRegistry)
      (fun case => (lenient.case case).value) Case.silent cases
    simp only [Lowering.body, Reported.bind_value, Reported.pure_eq, Reported.value_mapM,
      Raising.body]
    split
    · simp only [Reported.bind_diagnostics, names, List.append_nil]
    · simp only [Reported.bind_diagnostics, silent, List.append_nil]
  | enum cases =>
    have none : (cases.all fun case => List.isEmpty ([] : List (Ir.Name × Ir.TypeExpr))) = true :=
      List.all_eq_true.2 fun _ _ => rfl
    have names := Raising.silent_kept_map
      (fun constructor : Ir.Constructor => Raising.identifier "enum case name" constructor.name)
      (fun case : Identifier => ⟨case.irName, []⟩)
      (fun case => congrArg Reported.diagnostics
        (Raising.identifier_irName "enum case name" case)) cases
    simp only [Lowering.body, Reported.pure_eq, Raising.body, List.all_map, Function.comp_def,
      none, if_true, Reported.bind_diagnostics, names, List.append_nil]
  | flags flags => exact number
  | resource constructor methods => exact number
  | synonym target =>
    simp only [Lowering.body, Reported.bind_value, Reported.pure_eq]
    rw [Raising.diagnostics_body_synonym _ target.lowered_ne_record, target.silent_type]

/-- A type definition that was lowered is raised without a report. -/
theorem TypeDefinition.silent (definition : TypeDefinition) :
    (Raising.typeDefinition? Mapping.witRegistry definition.lowered).diagnostics = [] := by
  simp only [Raising.typeDefinition?, TypeDefinition.lowered, Reported.bind_diagnostics,
    Reported.pure_eq, Raising.identifier_irName, definition.silent_body, List.append_nil]

/-- Of the results of an output is reported what is reported of its type. -/
theorem Raising.diagnostics_results (registry : Mapping.Registry) (output : Ir.TypeExpr) :
    (results registry output).diagnostics = (type? registry output).diagnostics := by
  cases output with
  | unit => rfl
  | var | reference | tuple | record => simp [results, type?]

/-- The results of a function that were lowered are raised without a report. -/
theorem Function.silent_results (results : List TypeExpr) :
    (Raising.results Mapping.witRegistry (lenient.output results).value).diagnostics = [] := by
  match results with
  | [] => rfl
  | [result] => exact (Raising.diagnostics_results _ _).trans result.silent_type
  | first :: second :: rest => exact TypeExpr.silent_types (first :: second :: rest)

/-- A function that was lowered is raised without a report. -/
theorem Function.silent (function : Function) :
    (Raising.function? Mapping.witRegistry function.lowered).diagnostics = [] := by
  have parameters : (Raising.kept (Raising.parameter? Mapping.witRegistry)
      function.lowered.inputs).diagnostics = [] :=
    Raising.silent_kept_map _ _ Parameter.silent function.parameters
  simp only [Raising.function?, Reported.bind_diagnostics, Reported.pure_eq, parameters]
  simp only [Function.lowered, Raising.identifier_irName, Function.silent_results]
  rfl

/-- The module of a package is raised without a report. -/
theorem Package.silent (package : Package) :
    (Raising.package Mapping.witRegistry (lenient.package package).value).diagnostics = [] := by
  have types := Raising.silent_kept_map _ _ TypeDefinition.silent package.definitions
  have functions := Raising.silent_kept_map _ _ Function.silent package.functions
  rw [package.value_lenient]
  simp only [Raising.package, Reported.bind_diagnostics, Reported.pure_eq, types, functions,
    List.append_nil]

end WitBridge
