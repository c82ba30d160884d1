import WitBridge.Lowering
import WitBridge.Proofs.Diagnostic
import WitBridge.Proofs.Package.Members

/-!
# What lowering reports, in order

Each node of a type draws its own diagnostics, and those of a type are the diagnostics of its
nodes in order. Flags and resources draw one of their own; every other definition and every
function draws those of its types, and a package those of its members and of the interfaces that
its worlds refer to.
-/
namespace WitBridge.Lowering

variable (lowering : Lowering)

/-- What a primitive type draws: a type without a mapping is unknown, and of the others integers
lose their size and one floating-point type its precision. -/
def primitiveNotes (kind : Primitive) : List Diagnostic :=
  if (lowering.registry.lookup kind.spelling).isNone then [.unknownType kind.spelling .make]
  else if kind.isInteger then [.intPrecisionLost kind.spelling .make]
  else if kind = .f32 then [.floatPrecisionLost kind.spelling .make]
  else []

/-- What a node of a type draws by itself. -/
def nodeNotes : TypeExpr → List Diagnostic
  | .primitive kind => lowering.primitiveNotes kind
  | .handle _ resource => [.resourceUnsupported resource.text .make lowering.strict]
  | .future _ => [.conversionWarning "future type not supported, using inner type" .make]
  | .stream _ => [.conversionWarning "stream type not supported, using List of element type" .make]
  | .named _ | .list _ | .option _ | .result _ _ | .tuple _ => []

/-- What a type draws. -/
def typeNotes (type : TypeExpr) : List Diagnostic :=
  type.nodes.flatMap lowering.nodeNotes

/-- What a type definition draws. -/
def definitionNotes (definition : TypeDefinition) : List Diagnostic :=
  match definition.body with
  | .flags _ => [.flagsUnsupported definition.name.text .make lowering.strict]
  | .resource _ _ => [.resourceUnsupported definition.name.text .make lowering.strict]
  | body => body.types.flatMap lowering.typeNotes

/-- What a function draws. -/
def functionNotes (function : Function) : List Diagnostic :=
  function.types.flatMap lowering.typeNotes

/-- What an interface draws. -/
def interfaceNotes (interface : Interface) : List Diagnostic :=
  interface.types.flatMap lowering.definitionNotes ++
    interface.functions.flatMap lowering.functionNotes

/-- What a world item draws. -/
def worldItemNotes : WorldItem → List Diagnostic
  | .inline _ interface => lowering.interfaceNotes interface
  | .external _ path =>
    [.externalReference s!"external interface reference: {path.display}" .make]
  | .function function => lowering.functionNotes function

/-- What a package draws. -/
def packageNotes (package : Package) : List Diagnostic :=
  package.interfaces.flatMap lowering.interfaceNotes ++
    package.worldItems.flatMap lowering.worldItemNotes

/-- A primitive type reports what it draws. -/
theorem diagnostics_primitive (kind : Primitive) :
    (lowering.primitive kind).diagnostics = lowering.primitiveNotes kind := by
  unfold Lowering.primitive primitiveNotes
  cases lowering.registry.lookup kind.spelling with
  | none => rfl
  | some mapping =>
    obtain ⟨external, target, oneWay, priority, metadata⟩ := mapping
    -- What the type is mapped to does not matter for what is lost.
    cases target with
    | primitive name | qualified name =>
      simp only [Option.isNone_some, Bool.false_eq_true, if_false]
      split
      · rfl
      · split <;> rfl

mutual
/-- A type reports what its nodes draw. -/
theorem diagnostics_type (type : TypeExpr) :
    (lowering.type type).diagnostics = type.nodes.flatMap lowering.nodeNotes := by
  cases type with
  | primitive kind => simp [Lowering.type, TypeExpr.nodes, nodeNotes, diagnostics_primitive]
  | named name => simp [Lowering.type, TypeExpr.nodes, nodeNotes]
  | list element => simp [Lowering.type, TypeExpr.nodes, nodeNotes, diagnostics_type element]
  | option inner => simp [Lowering.type, TypeExpr.nodes, nodeNotes, diagnostics_type inner]
  | result ok err =>
    simp [Lowering.type, TypeExpr.nodes, nodeNotes, diagnostics_optional ok,
      diagnostics_optional err]
  | tuple elements => simp [Lowering.type, TypeExpr.nodes, nodeNotes, diagnostics_types elements]
  | handle ownership resource => simp [Lowering.type, TypeExpr.nodes, nodeNotes, Reported.note]
  | future inner =>
    simp [Lowering.type, TypeExpr.nodes, nodeNotes, Reported.note, diagnostics_optional inner]
  | stream element =>
    simp [Lowering.type, TypeExpr.nodes, nodeNotes, Reported.note, diagnostics_optional element]
/-- A type that may be missing reports what its nodes draw. -/
theorem diagnostics_optional (type : Option TypeExpr) :
    (lowering.optional type).diagnostics =
      (TypeExpr.nodesOption type).flatMap lowering.nodeNotes := by
  cases type with
  | none => rfl
  | some type => exact diagnostics_type type
/-- The types of a list report what their nodes draw. -/
theorem diagnostics_types (types : List TypeExpr) :
    (lowering.types types).diagnostics =
      (TypeExpr.nodesList types).flatMap lowering.nodeNotes := by
  cases types with
  | nil => rfl
  | cons first rest =>
    simp [Lowering.types, TypeExpr.nodesList, diagnostics_type first, diagnostics_types rest]
end

/-- The types of a list report what they draw. -/
theorem diagnostics_types_eq (types : List TypeExpr) :
    (lowering.types types).diagnostics = types.flatMap lowering.typeNotes := by
  induction types with
  | nil => rfl
  | cons first rest ih => simp [Lowering.types, diagnostics_type, ih, typeNotes]

/-- A field reports what its type draws. -/
theorem diagnostics_field (field : Field) :
    (lowering.field field).diagnostics = lowering.typeNotes field.type := by
  simp [Lowering.field, diagnostics_type, typeNotes]

/-- A parameter reports what its type draws. -/
theorem diagnostics_parameter (parameter : Parameter) :
    (lowering.parameter parameter).diagnostics = lowering.typeNotes parameter.type := by
  simp [Lowering.parameter, diagnostics_type, typeNotes]

/-- A case reports what the type that it carries draws. -/
theorem diagnostics_case (case : Case) :
    (lowering.case case).diagnostics = case.payload.toList.flatMap lowering.typeNotes := by
  obtain ⟨name, payload, docs⟩ := case
  cases payload with
  | none => rfl
  | some type => simp [Lowering.case, diagnostics_type, typeNotes]

/-- The body of a definition reports what the definition draws. -/
theorem diagnostics_body (definition : TypeDefinition) :
    (lowering.body definition).diagnostics = lowering.definitionNotes definition := by
  obtain ⟨name, body, docs⟩ := definition
  cases body with
  | record fields =>
    simp [Lowering.body, definitionNotes, Definition.types, diagnostics_field, List.flatMap_map]
  | variant cases =>
    simp [Lowering.body, definitionNotes, Definition.types, diagnostics_case, List.flatMap_assoc]
  | enum names => rfl
  | flags names => simp [Lowering.body, definitionNotes, Reported.note]
  | resource constructor methods => simp [Lowering.body, definitionNotes, Reported.note]
  | synonym target =>
    simp [Lowering.body, definitionNotes, Definition.types, diagnostics_type, typeNotes]

/-- The results of a function report what they draw. -/
theorem diagnostics_output (results : List TypeExpr) :
    (lowering.output results).diagnostics = results.flatMap lowering.typeNotes := by
  match results with
  | [] => rfl
  | [result] => simp [Lowering.output, diagnostics_type, typeNotes]
  | first :: second :: rest =>
    simp only [Lowering.output, Reported.bind_diagnostics, Reported.pure_eq, List.append_nil,
      diagnostics_types_eq]

/-- A type definition reports what it draws. -/
theorem diagnostics_typeEntry (definition : TypeDefinition) :
    (lowering.typeEntry definition).diagnostics = lowering.definitionNotes definition := by
  simp [typeEntry, unlessRefused, diagnostics_body]

/-- A function reports what it draws. -/
theorem diagnostics_valueEntry (function : Function) :
    (lowering.valueEntry function).diagnostics = lowering.functionNotes function := by
  simp [valueEntry, unlessRefused, diagnostics_output, diagnostics_parameter, functionNotes,
    Function.types, List.flatMap_map]

/-- An interface reports what it draws. -/
theorem diagnostics_interface (interface : Interface) :
    (lowering.interface interface).diagnostics = lowering.interfaceNotes interface := by
  simp [Lowering.interface, diagnostics_typeEntry, diagnostics_valueEntry, interfaceNotes]

/-- A world item reports what it draws. -/
theorem diagnostics_worldItem (item : WorldItem) :
    (lowering.worldItem item).diagnostics = lowering.worldItemNotes item := by
  cases item with
  | inline name interface => exact lowering.diagnostics_interface interface
  | external name path => rfl
  | function found =>
    simp [worldItem, worldItemNotes, diagnostics_valueEntry]

/-- A package reports what it draws. -/
theorem diagnostics_package (package : Package) :
    (lowering.package package).diagnostics = lowering.packageNotes package := by
  simp [Lowering.package, parts, diagnostics_interface, diagnostics_worldItem, packageNotes,
    Package.worldItems]

section Members

variable {lowering} {diagnostic : Diagnostic}

/-- What a type definition draws is the diagnostic of its flags or resource, or is drawn by a node
of its types. -/
theorem mem_definitionNotes {definition : TypeDefinition}
    (listed : diagnostic ∈ lowering.definitionNotes definition) :
    (∃ name, diagnostic = .flagsUnsupported name .make lowering.strict) ∨
      (∃ name, diagnostic = .resourceUnsupported name .make lowering.strict) ∨
        ∃ node, diagnostic ∈ lowering.nodeNotes node := by
  obtain ⟨name, body, docs⟩ := definition
  cases body with
  | flags names => exact .inl ⟨name.text, List.mem_singleton.1 listed⟩
  | resource constructor methods => exact .inr (.inl ⟨name.text, List.mem_singleton.1 listed⟩)
  | record | variant | enum | synonym =>
    obtain ⟨type, -, inside⟩ := List.mem_flatMap.1 listed
    obtain ⟨node, -, drawn⟩ := List.mem_flatMap.1 inside
    exact .inr (.inr ⟨node, drawn⟩)

/-- What a function draws is drawn by a node of its types. -/
theorem mem_functionNotes {function : Function}
    (listed : diagnostic ∈ lowering.functionNotes function) :
    ∃ node, diagnostic ∈ lowering.nodeNotes node := by
  obtain ⟨type, -, inside⟩ := List.mem_flatMap.1 listed
  obtain ⟨node, -, drawn⟩ := List.mem_flatMap.1 inside
  exact ⟨node, drawn⟩

/-- What an interface draws is drawn by one of its members. -/
theorem mem_interfaceNotes {interface : Interface} :
    diagnostic ∈ lowering.interfaceNotes interface ↔
      (∃ definition ∈ interface.types, diagnostic ∈ lowering.definitionNotes definition) ∨
        ∃ function ∈ interface.functions, diagnostic ∈ lowering.functionNotes function := by
  simp only [interfaceNotes, List.mem_append, List.mem_flatMap]

/-- What a world item draws is drawn by what it spells out or is a reference to an interface. -/
theorem mem_worldItemNotes {item : WorldItem} :
    diagnostic ∈ lowering.worldItemNotes item ↔
      (∃ definition ∈ item.definitions, diagnostic ∈ lowering.definitionNotes definition) ∨
        (∃ function ∈ item.functions, diagnostic ∈ lowering.functionNotes function) ∨
          ∃ name path, item = .external name path ∧
            diagnostic ∈ lowering.worldItemNotes (.external name path) := by
  cases item with
  | inline name interface =>
    rw [worldItemNotes, mem_interfaceNotes]
    simp [WorldItem.definitions, WorldItem.functions]
  | external name path =>
    constructor
    · exact fun drawn => .inr (.inr ⟨name, path, rfl, drawn⟩)
    · rintro (⟨_, ⟨⟩, _⟩ | ⟨_, ⟨⟩, _⟩ | ⟨_, _, ⟨⟩, drawn⟩)
      exact drawn
  | function found => simp [worldItemNotes, WorldItem.definitions, WorldItem.functions]

/-- What a package draws is drawn by one of its members or is a reference to an interface. -/
theorem mem_packageNotes {package : Package} :
    diagnostic ∈ lowering.packageNotes package ↔
      (∃ definition ∈ package.definitions, diagnostic ∈ lowering.definitionNotes definition) ∨
        (∃ function ∈ package.functions, diagnostic ∈ lowering.functionNotes function) ∨
          ∃ name path, WorldItem.external name path ∈ package.worldItems ∧
            diagnostic ∈ lowering.worldItemNotes (.external name path) := by
  simp only [packageNotes, Package.definitions, Package.functions, List.mem_append,
    List.mem_flatMap, mem_interfaceNotes]
  constructor
  · rintro (⟨interface, member, listed⟩ | ⟨item, member, listed⟩)
    · rcases listed with ⟨definition, inside, drawn⟩ | ⟨function, inside, drawn⟩
      · exact .inl ⟨definition, .inl ⟨interface, member, inside⟩, drawn⟩
      · exact .inr (.inl ⟨function, .inl ⟨interface, member, inside⟩, drawn⟩)
    · rcases mem_worldItemNotes.1 listed with
        ⟨definition, inside, drawn⟩ | ⟨function, inside, drawn⟩ | ⟨name, path, rfl, drawn⟩
      · exact .inl ⟨definition, .inr ⟨item, member, inside⟩, drawn⟩
      · exact .inr (.inl ⟨function, .inr ⟨item, member, inside⟩, drawn⟩)
      · exact .inr (.inr ⟨name, path, member, drawn⟩)
  · rintro (⟨definition, ⟨interface, member, inside⟩ | ⟨item, member, inside⟩, drawn⟩ |
      ⟨function, ⟨interface, member, inside⟩ | ⟨item, member, inside⟩, drawn⟩ |
        ⟨name, path, member, drawn⟩)
    · exact .inl ⟨interface, member, .inl ⟨definition, inside, drawn⟩⟩
    · exact .inr ⟨item, member, mem_worldItemNotes.2 (.inl ⟨definition, inside, drawn⟩)⟩
    · exact .inl ⟨interface, member, .inr ⟨function, inside, drawn⟩⟩
    · exact .inr ⟨item, member, mem_worldItemNotes.2 (.inr (.inl ⟨function, inside, drawn⟩))⟩
    · exact .inr ⟨_, member, drawn⟩

/-- What holds of unknown types and of the two losses holds of the diagnostics of primitive
types. -/
theorem forall_primitiveNotes {property : Diagnostic → Prop}
    (unknown : ∀ name, property (.unknownType name .make))
    (sizes : ∀ name, property (.intPrecisionLost name .make))
    (precisions : ∀ name, property (.floatPrecisionLost name .make)) (kind : Primitive) :
    ∀ diagnostic ∈ lowering.primitiveNotes kind, property diagnostic := by
  intro diagnostic drawn
  unfold primitiveNotes at drawn
  split at drawn
  · exact List.mem_singleton.1 drawn ▸ unknown _
  · split at drawn
    · exact List.mem_singleton.1 drawn ▸ sizes _
    · split at drawn
      · exact List.mem_singleton.1 drawn ▸ precisions _
      · contradiction

/-- What holds of the diagnostics of primitive types, of losses, flags, resources and references
holds of those of packages. -/
theorem forall_packageNotes {property : Diagnostic → Prop}
    (primitives : ∀ kind, ∀ diagnostic ∈ lowering.primitiveNotes kind, property diagnostic)
    (losses : ∀ message, property (.conversionWarning message .make))
    (flags : ∀ name, property (.flagsUnsupported name .make lowering.strict))
    (resources : ∀ name, property (.resourceUnsupported name .make lowering.strict))
    (references : ∀ message, property (.externalReference message .make))
    (package : Package) : ∀ diagnostic ∈ lowering.packageNotes package, property diagnostic := by
  have nodes : ∀ node, ∀ diagnostic ∈ lowering.nodeNotes node, property diagnostic := by
    intro node diagnostic drawn
    cases node with
    | primitive kind => exact primitives kind diagnostic drawn
    | handle => exact List.mem_singleton.1 drawn ▸ resources _
    | future | stream => exact List.mem_singleton.1 drawn ▸ losses _
    | named | list | option | result | tuple => contradiction
  intro diagnostic listed
  rcases mem_packageNotes.1 listed with ⟨definition, -, drawn⟩ | ⟨function, -, drawn⟩ | reference
  · rcases mem_definitionNotes drawn with ⟨name, rfl⟩ | ⟨name, rfl⟩ | ⟨node, drawn⟩
    · exact flags name
    · exact resources name
    · exact nodes node diagnostic drawn
  · obtain ⟨node, drawn⟩ := mem_functionNotes drawn
    exact nodes node diagnostic drawn
  · obtain ⟨name, path, -, drawn⟩ := reference
    exact List.mem_singleton.1 drawn ▸ references _

/-- Lowering reports for its own step. -/
theorem step_packageNotes (package : Package) :
    ∀ diagnostic ∈ lowering.packageNotes package, diagnostic.step = .make :=
  forall_packageNotes (forall_primitiveNotes (fun _ => rfl) (fun _ => rfl) (fun _ => rfl))
    (fun _ => rfl) (fun _ => rfl) (fun _ => rfl) (fun _ => rfl) package

end Members

end WitBridge.Lowering
