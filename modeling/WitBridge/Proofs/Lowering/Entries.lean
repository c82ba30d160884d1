import WitBridge.Proofs.Lowering.Notes

/-!
# What members become

Strict mode changes no IR type: it only leaves out the definitions that are flags or resources or
in which a handle stands. So the module of a package has an entry for each of its members in
order, in strict mode for each that is not left out, and the entry is the same in both modes.
-/
namespace WitBridge

section Refusal

/-- Whether a handle stands anywhere in a type. -/
def TypeExpr.holdsHandle (type : TypeExpr) : Bool :=
  type.nodes.any isHandle

/-- Whether strict mode leaves a type definition out: flags, resources and what holds a handle. -/
def TypeDefinition.isRefused (definition : TypeDefinition) : Bool :=
  match definition.body with
  | .flags _ | .resource _ _ => true
  | body => body.types.any TypeExpr.holdsHandle

/-- Whether strict mode leaves a function out: one whose types hold a handle. -/
def Function.isRefused (function : Function) : Bool :=
  function.types.any TypeExpr.holdsHandle

namespace Lowering

variable (lowering : Lowering)

/-- A primitive type is never refused. -/
theorem refuses_primitiveNotes (kind : Primitive) :
    (lowering.primitiveNotes kind).any refuses = false := by
  rw [List.any_eq_false]
  refine forall_primitiveNotes ?_ ?_ ?_ kind <;> exact fun _ => Bool.false_ne_true

/-- A node is refused if it is a handle and the mode is strict. -/
theorem refuses_nodeNotes (node : TypeExpr) :
    (lowering.nodeNotes node).any refuses = (lowering.strict && node.isHandle) := by
  obtain ⟨registry, strict⟩ := lowering
  cases node with
  | primitive kind =>
    change (Lowering.primitiveNotes ⟨registry, strict⟩ kind).any refuses = (strict && false)
    rw [refuses_primitiveNotes, Bool.and_false]
  | handle ownership resource => cases strict <;> rfl
  | named | list | option | result | tuple | future | stream => cases strict <;> rfl

/-- What is refused of items in strict mode is what each of them holds. -/
theorem any_and {α : Type} (strict : Bool) (holds : α → Bool) (items : List α) :
    (items.any fun item => strict && holds item) = (strict && items.any holds) := by
  cases strict with
  | true => rfl
  | false => exact List.any_eq_false.2 fun _ _ => Bool.false_ne_true

/-- Types are refused if they hold a handle and the mode is strict. -/
theorem refuses_typesNotes (types : List TypeExpr) :
    (types.flatMap lowering.typeNotes).any refuses =
      (lowering.strict && types.any TypeExpr.holdsHandle) := by
  have each : ∀ type, (lowering.typeNotes type).any refuses =
      (lowering.strict && type.holdsHandle) := by
    intro type
    rw [typeNotes, List.any_flatMap, funext lowering.refuses_nodeNotes, any_and]
    rfl
  rw [List.any_flatMap, funext each, any_and]

/-- A type definition draws a refusal if the mode is strict and does not keep it. -/
theorem refuses_definitionNotes (definition : TypeDefinition) :
    (lowering.definitionNotes definition).any refuses =
      (lowering.strict && definition.isRefused) := by
  obtain ⟨registry, strict⟩ := lowering
  obtain ⟨name, body, docs⟩ := definition
  cases body with
  | flags | resource => cases strict <;> rfl
  | record | variant | enum | synonym => exact refuses_typesNotes _ _

/-- A function draws a refusal if the mode is strict and does not keep it. -/
theorem refuses_functionNotes (function : Function) :
    (lowering.functionNotes function).any refuses = (lowering.strict && function.isRefused) :=
  lowering.refuses_typesNotes function.types

end Lowering

end Refusal

section Values

variable (registry : Mapping.Registry)

/-- The entry of a type definition. -/
def TypeDefinition.entry (definition : TypeDefinition) : Ir.TypeEntry where
  name := definition.name.irName
  doc := definition.docs.text
  body := (Lowering.body ⟨registry, false⟩ definition).value

/-- The entry of a function. -/
def Function.entry (function : Function) : Ir.ValueEntry where
  name := function.name.irName
  doc := function.docs.text
  inputs := function.parameters.map fun parameter =>
    (parameter.name.irName, (Lowering.type ⟨registry, false⟩ parameter.type).value)
  output := (Lowering.output ⟨registry, false⟩ function.results).value

namespace Lowering

variable (strict : Bool)

mutual
/-- Strict mode changes no type. -/
theorem value_type (type : TypeExpr) :
    (Lowering.type ⟨registry, strict⟩ type).value =
      (Lowering.type ⟨registry, false⟩ type).value := by
  cases type with
  | primitive kind => rfl
  | named name => rfl
  | list element =>
    simp only [Lowering.type, Reported.bind_value, Reported.pure_eq, value_type element]
    rfl
  | option inner =>
    simp only [Lowering.type, Reported.bind_value, Reported.pure_eq, value_type inner]
    rfl
  | result ok err =>
    simp only [Lowering.type, Reported.bind_value, Reported.pure_eq, value_optional ok,
      value_optional err]
    rfl
  | tuple elements =>
    simp only [Lowering.type, Reported.bind_value, Reported.pure_eq, value_types elements]
  | handle ownership resource => rfl
  | future inner =>
    simp only [Lowering.type, Reported.bind_value, value_optional inner]
  | stream element =>
    simp only [Lowering.type, Reported.bind_value, Reported.pure_eq, value_optional element]
    rfl
/-- Strict mode changes no type that may be missing. -/
theorem value_optional (type : Option TypeExpr) :
    (Lowering.optional ⟨registry, strict⟩ type).value =
      (Lowering.optional ⟨registry, false⟩ type).value := by
  cases type with
  | none => rfl
  | some type => exact value_type type
/-- Strict mode changes no types of a list. -/
theorem value_types (types : List TypeExpr) :
    (Lowering.types ⟨registry, strict⟩ types).value =
      (Lowering.types ⟨registry, false⟩ types).value := by
  cases types with
  | nil => rfl
  | cons first rest =>
    simp only [Lowering.types, Reported.bind_value, Reported.pure_eq, value_type first,
      value_types rest]
end

/-- Strict mode changes no body of a definition. -/
theorem value_body (definition : TypeDefinition) :
    (Lowering.body ⟨registry, strict⟩ definition).value =
      (Lowering.body ⟨registry, false⟩ definition).value := by
  obtain ⟨name, body, docs⟩ := definition
  cases body with
  | record fields =>
    simp only [Lowering.body, Reported.bind_value, Reported.pure_eq, Reported.value_mapM,
      Lowering.field, value_type]
  | variant cases =>
    have case : ∀ case, (Lowering.case ⟨registry, strict⟩ case).value =
        (Lowering.case ⟨registry, false⟩ case).value := by
      rintro ⟨name, _ | payload, docs⟩
      · rfl
      · simp only [Lowering.case, Reported.bind_value, Reported.pure_eq, value_type]
    simp only [Lowering.body, Reported.bind_value, Reported.pure_eq, Reported.value_mapM, case]
  | enum names => rfl
  | flags names => rfl
  | resource constructor methods => rfl
  | synonym target =>
    simp only [Lowering.body, Reported.bind_value, Reported.pure_eq, value_type]

/-- Strict mode changes no output. -/
theorem value_output (results : List TypeExpr) :
    (Lowering.output ⟨registry, strict⟩ results).value =
      (Lowering.output ⟨registry, false⟩ results).value := by
  match results with
  | [] => rfl
  | [result] => exact value_type registry strict result
  | first :: second :: rest =>
    simp only [Lowering.output, Reported.bind_value, Reported.pure_eq, value_types]

variable (lowering : Lowering)

/-- A type definition has its entry unless strict mode leaves it out. -/
theorem value_typeEntry (definition : TypeDefinition) :
    (lowering.typeEntry definition).value =
      if lowering.strict && definition.isRefused then none
      else some (definition.entry lowering.registry) := by
  have refused := lowering.refuses_definitionNotes definition
  rw [← diagnostics_typeEntry] at refused
  have entry : (lowering.typeEntry definition).value =
      if (lowering.typeEntry definition).diagnostics.any refuses then none
      else some { name := definition.name.irName, doc := definition.docs.text,
                  body := (lowering.body definition).value } := rfl
  rw [entry, refused, value_body]
  rfl

/-- A function has its entry unless strict mode leaves it out. -/
theorem value_valueEntry (function : Function) :
    (lowering.valueEntry function).value =
      if lowering.strict && function.isRefused then none
      else some (function.entry lowering.registry) := by
  have refused := lowering.refuses_functionNotes function
  rw [← diagnostics_valueEntry] at refused
  have entry : (lowering.valueEntry function).value =
      if (lowering.valueEntry function).diagnostics.any refuses then none
      else some { name := function.name.irName, doc := function.docs.text,
                  inputs := (function.parameters.mapM lowering.parameter).value,
                  output := (lowering.output function.results).value } := rfl
  have inputs : (function.parameters.mapM lowering.parameter).value =
      (function.entry lowering.registry).inputs := by
    simp only [Reported.value_mapM, Lowering.parameter, Reported.bind_value, Reported.pure_eq,
      value_type lowering.registry lowering.strict]
    rfl
  rw [entry, refused, value_output, inputs]
  rfl

/-- The entries of members, in strict mode without those that it leaves out. -/
def entries (lowering : Lowering) (definitions : List TypeDefinition)
    (functions : List Function) : Ir.Module where
  types := (definitions.filter fun definition => !(lowering.strict && definition.isRefused)).map
    (TypeDefinition.entry lowering.registry)
  values := (functions.filter fun function => !(lowering.strict && function.isRefused)).map
    (Function.entry lowering.registry)

/-- Without strict mode nothing is left out. -/
theorem entries_lenient (definitions : List TypeDefinition) (functions : List Function) :
    entries ⟨registry, false⟩ definitions functions =
      { types := definitions.map (TypeDefinition.entry registry)
        values := functions.map (Function.entry registry) } := by
  have types : definitions.filter (fun definition => !(false && definition.isRefused)) =
      definitions := List.filter_eq_self.2 fun _ _ => rfl
  have values : functions.filter (fun function => !(false && function.isRefused)) = functions :=
    List.filter_eq_self.2 fun _ _ => rfl
  rw [entries, types, values]

/-- An item that is left out becomes nothing. -/
theorem filterMap_unless {α β : Type} (refused : α → Bool) (become : α → β) (items : List α) :
    (items.filterMap fun item => if refused item then none else some (become item)) =
      (items.filter (!refused ·)).map become := by
  induction items with
  | nil => rfl
  | cons first rest ih => cases refused : refused first <;> simp [refused, ih]

/-- An interface becomes the entries of its members. -/
theorem value_interface (interface : Interface) :
    (lowering.interface interface).value =
      lowering.entries interface.types interface.functions := by
  simp only [Lowering.interface, Reported.bind_value, Reported.pure_eq, Reported.value_mapM,
    value_typeEntry, value_valueEntry, List.filterMap_map, Function.comp_def, id,
    filterMap_unless, entries]

/-- A world item becomes the entries of the members that it spells out. -/
theorem value_worldItem (item : WorldItem) :
    (lowering.worldItem item).value = lowering.entries item.definitions item.functions := by
  cases item with
  | inline name interface => exact lowering.value_interface interface
  | external name path => rfl
  | function found =>
    simp only [worldItem, Reported.bind_value, Reported.pure_eq, value_valueEntry, entries,
      WorldItem.definitions, WorldItem.functions, List.filter_cons, List.filter_nil]
    cases lowering.strict && found.isRefused <;> rfl

/-- The parts of a package are the entries of its interfaces and of its world items. -/
theorem value_parts (package : Package) :
    (lowering.parts package).value =
      package.interfaces.map (fun interface =>
        lowering.entries interface.types interface.functions) ++
      package.worldItems.map fun item => lowering.entries item.definitions item.functions := by
  simp only [parts, Reported.bind_value, Reported.pure_eq, Reported.value_mapM, value_interface,
    value_worldItem]
  rfl

/-- A package becomes the entries of its members. -/
theorem value_package (package : Package) :
    (lowering.package package).value =
      { lowering.entries package.definitions package.functions with
        doc := if package.docs.isEmpty then none else some package.docs.text } := by
  simp only [Lowering.package, Reported.bind_value, Reported.pure_eq, value_parts, entries,
    Package.definitions, Package.functions, List.flatMap_append, List.flatMap_map,
    List.filter_append, List.map_append, List.filter_flatMap, List.map_flatMap]

end Lowering

end Values

end WitBridge
