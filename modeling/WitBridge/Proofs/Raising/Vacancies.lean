import WitBridge.Proofs.Mapping.Winners
import WitBridge.Proofs.Raising.Members

/-!
# Types without a spelling

An IR type may have no spelling, and then its place is left empty or filled with the empty tuple.
Where nothing is reported, this happens to the unit and to no other type but a misled reference: the
mapping that is found for it is of an external type that is no primitive type of the grammar, and
nothing is said of it. Every other type of the module is spelled where it stands.
-/
namespace WitBridge.Raising

open Mapping (Registry)

variable {registry : Registry}

/-- Whether the mapping that is found for a reference is of an external type that is no primitive
type. It is found by the whole name, or else by the local one if the reference is not of the SDK and
there is no container for it. -/
inductive Misled (registry : Registry) (name : Ir.QualifiedName) (count : Nat) : Prop
  | whole {mapping : Mapping.Primitive}
    (found : registry.lookupReverse (.qualified name) = some mapping)
    (foreign : Primitive.ofSpelling? mapping.external = none)
  | last {mapping : Mapping.Primitive}
    (missing : registry.lookupReverse (.qualified name) = none)
    (plain : applicable? ((mappedContainer? registry name).bind ContainerKind.ofWord?) count = none)
    (outside : name.isSdk = false)
    (found : registry.lookupReverse (.primitive name.localName.title) = some mapping)
    (foreign : Primitive.ofSpelling? mapping.external = none)

mutual
/-- How an IR type is spelled: as a type, with the empty tuple where a part that cannot be missing
has no spelling, or not at all, which is for the unit and for misled references. -/
inductive Spells (registry : Registry) : Ir.TypeExpr → Option TypeExpr → Prop
  | unit : Spells registry .unit none
  | misled {name : Ir.QualifiedName} {parameters : List Ir.TypeExpr}
    (misled : Misled registry name parameters.length) :
    Spells registry (.reference name parameters) none
  | var {name : Ir.Name} {found : Identifier} (same : found.text = name.kebab) :
    Spells registry (.var name) (some (.named found))
  | primitive {name : Ir.QualifiedName} {parameters : List Ir.TypeExpr} {kind : Primitive}
    (stands : (target registry name parameters.length).value = some (.primitive kind)) :
    Spells registry (.reference name parameters) (some (.primitive kind))
  | named {name : Ir.QualifiedName} {parameters : List Ir.TypeExpr} {found : Identifier}
    (stands : (target registry name parameters.length).value = some (.named found))
    (same : found.text = name.localName.kebab) :
    Spells registry (.reference name parameters) (some (.named found))
  | list {name : Ir.QualifiedName} {element : Ir.TypeExpr} {more : List Ir.TypeExpr}
    {spelled : Option TypeExpr}
    (stands : (target registry name (more.length + 1)).value = some (.container .list))
    (inner : Spells registry element spelled) :
    Spells registry (.reference name (element :: more)) (some (.list (placeholder spelled)))
  | option {name : Ir.QualifiedName} {type : Ir.TypeExpr} {more : List Ir.TypeExpr}
    {spelled : Option TypeExpr}
    (stands : (target registry name (more.length + 1)).value = some (.container .option))
    (inner : Spells registry type spelled) :
    Spells registry (.reference name (type :: more)) (some (.option (placeholder spelled)))
  | result {name : Ir.QualifiedName} {err ok : Ir.TypeExpr} {more : List Ir.TypeExpr}
    {failure success : Option TypeExpr}
    (stands : (target registry name (more.length + 2)).value = some (.container .result))
    (left : Spells registry err failure) (right : Spells registry ok success) :
    Spells registry (.reference name (err :: ok :: more)) (some (.result success failure))
  | tuple {elements : List Ir.TypeExpr} {types : List TypeExpr}
    (row : SpellsRow registry elements types) :
    Spells registry (.tuple elements) (some (.tuple types))
/-- How IR types are spelled one by one where none can be missing. -/
inductive SpellsRow (registry : Registry) : List Ir.TypeExpr → List TypeExpr → Prop
  | nil : SpellsRow registry [] []
  | cons {first : Ir.TypeExpr} {rest : List Ir.TypeExpr} {spelled : Option TypeExpr}
    {types : List TypeExpr} (head : Spells registry first spelled)
    (tail : SpellsRow registry rest types) :
    SpellsRow registry (first :: rest) (placeholder spelled :: types)
end

/-- Where nothing is reported of two steps, nothing is reported of either. -/
theorem silent_bind {α β : Type} {reported : Reported α} {next : α → Reported β}
    (silent : (reported >>= next).diagnostics = []) :
    reported.diagnostics = [] ∧ (next reported.value).diagnostics = [] :=
  List.append_eq_nil_iff.1 silent

/-- A name of which nothing is reported has the identifier that it spells. -/
theorem exists_identifier {what : String} {name : Ir.Name}
    (silent : (identifier what name).diagnostics = []) :
    ∃ found, found.text = name.kebab ∧ identifier what name = ⟨some found, []⟩ := by
  rcases identifier_cases what name with named | eq
  · exact named
  · rw [eq] at silent
    contradiction

section Targets

variable {name : Ir.QualifiedName} {count : Nat}

/-- What a reference of which nothing is reported stands for. -/
inductive Stands (registry : Registry) (name : Ir.QualifiedName) (count : Nat) :
    Option ReferenceTarget → Prop
  | misled (misled : Misled registry name count) : Stands registry name count none
  | primitive (kind : Primitive) : Stands registry name count (some (.primitive kind))
  | container {kind : ContainerKind} (enough : kind.arity ≤ count) :
    Stands registry name count (some (.container kind))
  | named {found : Identifier} (same : found.text = name.localName.kebab) :
    Stands registry name count (some (.named found))

/-- A mapping leads to a primitive type unless its external type is none. -/
theorem mappedTarget_cases (mapping : Mapping.Primitive) :
    (∃ kind, mappedTarget mapping = some (.primitive kind)) ∨
      (mappedTarget mapping = none ∧ Primitive.ofSpelling? mapping.external = none) := by
  unfold mappedTarget
  cases Primitive.ofSpelling? mapping.external with
  | none => exact .inr ⟨rfl, rfl⟩
  | some kind => exact .inl ⟨kind, rfl⟩

/-- A container that applies has enough parameters. -/
theorem applicable?_eq_some {kind? : Option ContainerKind} {found : ReferenceTarget}
    (applies : applicable? kind? count = some found) :
    ∃ kind : ContainerKind, found = .container kind ∧ kind.arity ≤ count := by
  cases kind? with
  | none => contradiction
  | some kind =>
    simp only [applicable?, Option.bind_eq_bind, Option.bind_some] at applies
    split at applies
    case isTrue enough =>
      cases applies
      exact ⟨kind, rfl, enough⟩
    case isFalse => contradiction

/-- A definition of which nothing is reported is named as the reference is. -/
theorem stands_definitionTarget (silent : (definitionTarget name).diagnostics = []) :
    Stands registry name count (definitionTarget name).value := by
  obtain ⟨found, same, eq⟩ := exists_identifier (silent_bind silent).1
  have value : (definitionTarget name).value = some (.named found) := by
    simp [definitionTarget, eq]
  rw [value]
  exact .named same

/-- A basic type of which nothing is reported is a primitive type. -/
theorem stands_basicsTarget {word : String}
    (silent : (basicsTarget registry word).diagnostics = []) :
    Stands registry name count (basicsTarget registry word).value := by
  unfold basicsTarget at silent ⊢
  cases led : (registry.lookupReverse (.primitive word)).bind mappedTarget with
  | some found =>
    obtain ⟨mapping, -, same⟩ := Option.bind_eq_some_iff.1 led
    rcases mappedTarget_cases mapping with ⟨kind, eq⟩ | ⟨eq, -⟩
    · rw [eq] at same
      cases same
      exact .primitive kind
    · rw [eq] at same
      contradiction
  | none =>
    simp only [led] at silent ⊢
    split at silent <;> first | exact .primitive _ | contradiction

/-- A type of the SDK of which nothing is reported is a primitive type or a container. -/
theorem stands_sdkTarget (silent : (sdkTarget registry name count).diagnostics = []) :
    Stands registry name count (sdkTarget registry name count).value := by
  unfold sdkTarget at silent ⊢
  dsimp only at silent ⊢
  split at silent
  case isTrue basics =>
    rw [if_pos basics]
    exact stands_basicsTarget silent
  case isFalse other =>
    rw [if_neg other]
    split at silent
    case h_1 found applies =>
      obtain ⟨kind, rfl, enough⟩ := applicable?_eq_some applies
      exact .container enough
    case h_2 => exact absurd (silent_bind silent).1 (List.cons_ne_nil _ _)

/-- A mapping that is found leads to a primitive type, or it misleads. -/
theorem stands_mappedTarget (mapping : Mapping.Primitive)
    (misled : Primitive.ofSpelling? mapping.external = none → Misled registry name count) :
    Stands registry name count (mappedTarget mapping) := by
  rcases mappedTarget_cases mapping with ⟨kind, eq⟩ | ⟨eq, foreign⟩
  · rw [eq]
    exact .primitive kind
  · rw [eq]
    exact .misled (misled foreign)

/-- A reference of which nothing is reported stands for a type, or it is misled. -/
theorem stands_target (silent : (target registry name count).diagnostics = []) :
    Stands registry name count (target registry name count).value := by
  unfold target at silent ⊢
  cases whole : registry.lookupReverse (.qualified name) with
  | some mapping =>
    simp only [whole] at silent ⊢
    exact stands_mappedTarget mapping (.whole whole)
  | none =>
    simp only [whole] at silent ⊢
    split at silent
    case h_1 found applies =>
      obtain ⟨kind, rfl, enough⟩ := applicable?_eq_some applies
      exact .container enough
    case h_2 plain =>
      split at silent
      case isTrue sdk =>
        rw [if_pos sdk]
        exact stands_sdkTarget silent
      case isFalse outside =>
        rw [if_neg outside]
        split at silent
        case h_1 mapping found =>
          exact stands_mappedTarget mapping
            (.last whole plain (Bool.eq_false_iff.2 outside) found)
        case h_2 =>
          exact stands_definitionTarget silent

end Targets

mutual
/-- A type of which nothing is reported is spelled. -/
theorem spells_type? (type : Ir.TypeExpr) (silent : (type? registry type).diagnostics = []) :
    Spells registry type (type? registry type).value := by
  cases type with
  | var name =>
    obtain ⟨found, same, eq⟩ := exists_identifier (silent_bind silent).1
    have value : (type? registry (.var name)).value = some (.named found) := by
      simp [type?, eq]
    rw [value]
    exact .var same
  | reference name parameters =>
    -- What the reference stands for decides; of the four cases only a misled one has no spelling.
    obtain ⟨first, onward⟩ := silent_bind silent
    have stands := stands_target first
    rw [type?, Reported.bind_value]
    cases led : (target registry name parameters.length).value with
    | none =>
      rw [led] at stands
      cases stands with
      | misled misled => exact .misled misled
    | some found =>
      rw [led] at stands onward
      cases stands with
      | primitive kind => exact .primitive led
      | named same => exact .named led same
      | container enough => exact spells_container parameters led enough onward
  | tuple elements =>
    exact .tuple (spellsRow_elementTypes elements (silent_bind silent).1)
  | record fields => exact absurd (silent_bind silent).1 (List.cons_ne_nil _ _)
  | unit => exact .unit
/-- A container of which nothing is reported is spelled with its parameters. -/
theorem spells_container {name : Ir.QualifiedName} {kind : ContainerKind}
    (parameters : List Ir.TypeExpr)
    (stands : (target registry name parameters.length).value = some (.container kind))
    (enough : kind.arity ≤ parameters.length)
    (silent : (container registry kind parameters).diagnostics = []) :
    Spells registry (.reference name parameters) (container registry kind parameters).value := by
  match kind, parameters with
  | .list, element :: _ => exact .list stands (spells_type? element (silent_bind silent).1)
  | .option, inner :: _ => exact .option stands (spells_type? inner (silent_bind silent).1)
  | .result, err :: ok :: _ =>
    obtain ⟨left, onward⟩ := silent_bind silent
    exact .result stands (spells_type? err left) (spells_type? ok (silent_bind onward).1)
  | .list, [] | .option, [] | .result, [] | .result, [_] =>
    simp [ContainerKind.arity] at enough
/-- Elements of which nothing is reported are spelled one by one. -/
theorem spellsRow_elementTypes (elements : List Ir.TypeExpr)
    (silent : (elementTypes registry elements).diagnostics = []) :
    SpellsRow registry elements (elementTypes registry elements).value := by
  cases elements with
  | nil => exact .nil
  | cons first rest =>
    obtain ⟨head, onward⟩ := silent_bind silent
    exact .cons (spells_type? first head) (spellsRow_elementTypes rest (silent_bind onward).1)
end

/-- A type for a place that cannot be empty: the spelling of an IR type, or the empty tuple where it
has none. -/
def Fills (registry : Registry) (type : Ir.TypeExpr) (found : TypeExpr) : Prop :=
  ∃ spelled, Spells registry type spelled ∧ found = placeholder spelled

/-- A type for a place that cannot be empty is filled in if nothing is reported. -/
theorem fills_required {type : Ir.TypeExpr} (silent : (required registry type).diagnostics = []) :
    Fills registry type (required registry type).value :=
  ⟨_, spells_type? type (silent_bind silent).1, rfl⟩

/-- Whether a case carries a type for the first argument of its constructor, if it has one. -/
inductive Carries (registry : Registry) : Ir.Constructor → Case → Prop
  | bare {name : Ir.Name} {made : Case} (none : made.payload = none) :
    Carries registry ⟨name, []⟩ made
  | first {name argument : Ir.Name} {type : Ir.TypeExpr} {more : List (Ir.Name × Ir.TypeExpr)}
    {made : Case} {found : TypeExpr} (some : made.payload = some found)
    (fills : Fills registry type found) : Carries registry ⟨name, (argument, type) :: more⟩ made

/-- Whether the types of a definition stand for those of a body. An enumeration has none. -/
inductive Defines (registry : Registry) : Ir.TypeBody → Definition → Prop
  | record {fields : List (Ir.Name × Ir.TypeExpr)} {made : List Field}
    (each : List.Forall₂ (fun field made => Fills registry field.2 made.type) fields made) :
    Defines registry (.synonym (.record fields)) (.record made)
  | synonym {type : Ir.TypeExpr} {found : TypeExpr} (plain : ∀ fields, type ≠ .record fields)
    (fills : Fills registry type found) : Defines registry (.synonym type) (.synonym found)
  | enum {access : Ir.Access} {constructors : List Ir.Constructor} {made : List Identifier}
    (bare : ∀ constructor ∈ constructors, constructor.arguments = []) :
    Defines registry (.custom access constructors) (.enum made)
  | variant {access : Ir.Access} {constructors : List Ir.Constructor} {made : List Case}
    (each : List.Forall₂ (Carries registry) constructors made) :
    Defines registry (.custom access constructors) (.variant made)

/-- Whether results stand for an output: none for the unit, one for each element of a tuple, and the
spelling of any other type if it has one. -/
inductive Yields (registry : Registry) : Ir.TypeExpr → List TypeExpr → Prop
  | unit : Yields registry .unit []
  | tuple {elements : List Ir.TypeExpr} {types : List TypeExpr}
    (row : SpellsRow registry elements types) : Yields registry (.tuple elements) types
  | single {output : Ir.TypeExpr} {spelled : Option TypeExpr}
    (plain : ∀ elements, output ≠ .tuple elements) (spells : Spells registry output spelled) :
    Yields registry output spelled.toList

/-- Whether the types of a function stand for those of a value. -/
structure Serves (registry : Registry) (entry : Ir.ValueEntry) (function : Function) : Prop where
  /-- Each parameter has the type of its input. -/
  inputs : List.Forall₂ (fun input parameter => Fills registry input.2 parameter.type)
    entry.inputs function.parameters
  /-- The results are those of the output. -/
  output : Yields registry entry.output function.results

/-- Where nothing is reported of a list and each item of which nothing is reported becomes something
related, all items are kept. -/
theorem forall₂_kept {α β : Type} {make : α → Reported (Option β)} {related : α → β → Prop}
    {items : List α} (silent : (kept make items).diagnostics = [])
    (each : ∀ item, (make item).diagnostics = [] →
      ∃ made, (make item).value = some made ∧ related item made) :
    List.Forall₂ related items (kept make items).value := by
  have silent : ∀ item ∈ items, (make item).diagnostics = [] := by
    rwa [diagnostics_kept, List.flatMap_eq_nil_iff] at silent
  have all : Kept related (fun _ => False) items (kept make items).value := by
    refine kept_value items (fun item listed made found => ?_) fun item listed missing => ?_
    · obtain ⟨made', found', here⟩ := each item (silent item listed)
      rw [found] at found'
      cases found'
      exact here
    · obtain ⟨made', found', -⟩ := each item (silent item listed)
      rw [missing] at found'
      contradiction
  exact all.forall₂ fun _ => id

/-- A field of which nothing is reported has a type. -/
theorem exists_field? {field : Ir.Name × Ir.TypeExpr}
    (silent : (field? registry field).diagnostics = []) :
    ∃ made, (field? registry field).value = some made ∧ Fills registry field.2 made.type := by
  obtain ⟨first, onward⟩ := silent_bind silent
  obtain ⟨found, -, eq⟩ := exists_identifier first
  simp only [field?, eq, Reported.bind_value] at onward ⊢
  exact ⟨_, rfl, fills_required (silent_bind onward).1⟩

/-- A parameter of which nothing is reported has a type. -/
theorem exists_parameter? {input : Ir.Name × Ir.TypeExpr}
    (silent : (parameter? registry input).diagnostics = []) :
    ∃ made, (parameter? registry input).value = some made ∧ Fills registry input.2 made.type := by
  obtain ⟨first, onward⟩ := silent_bind silent
  obtain ⟨found, -, eq⟩ := exists_identifier first
  simp only [parameter?, eq, Reported.bind_value] at onward ⊢
  exact ⟨_, rfl, fills_required (silent_bind onward).1⟩

/-- A case of which nothing is reported carries the first argument. -/
theorem exists_case? {constructor : Ir.Constructor}
    (silent : (case? registry constructor).diagnostics = []) :
    ∃ made, (case? registry constructor).value = some made ∧ Carries registry constructor made := by
  obtain ⟨first, onward⟩ := silent_bind silent
  obtain ⟨found, -, eq⟩ := exists_identifier first
  simp only [case?, eq, Reported.bind_value] at onward ⊢
  obtain ⟨name, _ | ⟨⟨argument, type⟩, more⟩⟩ := constructor
  · exact ⟨_, rfl, .bare rfl⟩
  · exact ⟨_, rfl, .first rfl (fills_required (silent_bind onward).1)⟩

/-- A body of which nothing is reported keeps its types. -/
theorem defines_body {body : Ir.TypeBody} (silent : (Raising.body registry body).diagnostics = []) :
    Defines registry body (Raising.body registry body).value := by
  unfold Raising.body at silent ⊢
  split at silent
  case h_1 fields =>
    exact .record (forall₂_kept (silent_bind silent).1 fun _ => exists_field?)
  case h_2 target plain =>
    exact .synonym plain (fills_required (silent_bind silent).1)
  case h_3 access constructors =>
    split at silent
    case isTrue bare =>
      rw [if_pos bare]
      refine .enum fun constructor listed => ?_
      exact List.isEmpty_iff.1 (List.all_eq_true.1 bare constructor listed)
    case isFalse other =>
      rw [if_neg other]
      exact .variant (forall₂_kept (silent_bind silent).1 fun _ => exists_case?)

/-- Results of which nothing is reported are those of the output. -/
theorem yields_results {output : Ir.TypeExpr}
    (silent : (results registry output).diagnostics = []) :
    Yields registry output (results registry output).value := by
  unfold results at silent ⊢
  split at silent
  case h_1 => exact .unit
  case h_2 elements => exact .tuple (spellsRow_elementTypes elements silent)
  case h_3 other plain => exact .single plain (spells_type? output (silent_bind silent).1)

/-- A function of which nothing is reported has the types of its value. -/
theorem exists_function? {entry : Ir.ValueEntry}
    (silent : (function? registry entry).diagnostics = []) :
    ∃ made, (function? registry entry).value = some made ∧ Serves registry entry made := by
  obtain ⟨inputs, onward⟩ := silent_bind silent
  obtain ⟨output, onward⟩ := silent_bind onward
  obtain ⟨found, -, eq⟩ := exists_identifier (silent_bind onward).1
  simp only [function?, eq, Reported.bind_value]
  exact ⟨_, rfl, forall₂_kept inputs fun _ => exists_parameter?, yields_results output⟩

/-- A type definition of which nothing is reported has the types of its body. -/
theorem exists_typeDefinition? {entry : Ir.TypeEntry}
    (silent : (typeDefinition? registry entry).diagnostics = []) :
    ∃ made, (typeDefinition? registry entry).value = some made ∧
      Defines registry entry.body made.body := by
  obtain ⟨body, onward⟩ := silent_bind silent
  obtain ⟨found, -, eq⟩ := exists_identifier (silent_bind onward).1
  simp only [typeDefinition?, eq, Reported.bind_value]
  exact ⟨_, rfl, defines_body body⟩

/-- Where every mapping that holds both ways is of a primitive type, only the unit has no
spelling. -/
theorem eq_unit_of_spells_none {type : Ir.TypeExpr}
    (native : ∀ mapping ∈ registry.primitives, mapping.bidirectional = true →
      Primitive.ofSpelling? mapping.external ≠ none)
    (spells : Spells registry type none) : type = .unit := by
  cases spells with
  | unit => rfl
  | misled misled =>
    cases misled with
    | whole found foreign | last _ _ _ found foreign =>
      obtain ⟨listed, both, -⟩ := Registry.mem_of_lookupReverse found
      exact absurd foreign (native _ listed both)

/-- If nothing is reported of a module, every type in it is spelled where it stands: as the type of
a field, a synonym, a case, a parameter, a result or a part of one of these. The empty tuple, an
absent side of a result and no result stand for the unit, or for a misled reference, and there is
none of these where every mapping that holds both ways is of a primitive type. -/
theorem spelled_package (registry : Registry) (module : Ir.Module)
    (silent : (Raising.package registry module).diagnostics = []) :
    ∃ interface, (Raising.package registry module).value.interfaces = [interface] ∧
      List.Forall₂ (fun entry definition => Defines registry entry.body definition.body)
        module.types interface.types ∧
      List.Forall₂ (Serves registry) module.values interface.functions ∧
      ((∀ mapping ∈ registry.primitives, mapping.bidirectional = true →
        Primitive.ofSpelling? mapping.external ≠ none) →
          ∀ type, Spells registry type none → type = .unit) := by
  obtain ⟨types, onward⟩ := silent_bind silent
  exact ⟨_, rfl, forall₂_kept types fun _ => exists_typeDefinition?,
    forall₂_kept (silent_bind onward).1 fun _ => exists_function?,
    fun native type => eq_unit_of_spells_none native⟩

/-- A module with units in all sorts of places is spelled without a report. -/
theorem spelled_package_units :
    let builder := Mapping.Builder.addPrimitive { binding := "wit" } "u8" "A:B:c" {}
    let byte : Ir.TypeExpr := .reference ⟨⟨[⟨["a"]⟩]⟩, ⟨[⟨["b"]⟩]⟩, ⟨["c"]⟩⟩ []
    let module : Ir.Module :=
      { types :=
          [{ name := ⟨["pair"]⟩,
             body := .synonym (.record [(⟨["left"]⟩, byte), (⟨["right"]⟩, .unit)]) },
           { name := ⟨["outcome"]⟩,
             body := .synonym (.reference (.sdk "Result" "Result") [.unit, byte]) }]
        values := [{ name := ⟨["run"]⟩, inputs := [(⟨["of"]⟩, .unit)], output := .unit }] }
    (Raising.package builder.build module).diagnostics = [] ∧
      ∃ interface, (Raising.package builder.build module).value.interfaces = [interface] ∧
        List.Forall₂ (fun entry definition => Defines builder.build entry.body definition.body)
          module.types interface.types ∧
        ∀ type, Spells builder.build type none → type = .unit := by
  intro builder byte module
  have silent : (Raising.package builder.build module).diagnostics = [] := by decide +kernel
  obtain ⟨interface, alone, types, -, only⟩ := spelled_package builder.build module silent
  have native : ∀ mapping ∈ builder.build.primitives, mapping.bidirectional = true →
      Primitive.ofSpelling? mapping.external ≠ none := by decide +kernel
  exact ⟨silent, interface, alone, types, only native⟩

/-- A reference that is mapped to an external type of another grammar becomes the empty tuple as a
synonym and is missing as a result, and nothing is reported. -/
theorem unreported_reference :
    let builder := Mapping.Builder.addPrimitive { binding := "wit" } "money" "A:B:c" {}
    let price : Ir.TypeExpr := .reference ⟨⟨[⟨["a"]⟩]⟩, ⟨[⟨["b"]⟩]⟩, ⟨["c"]⟩⟩ []
    let module : Ir.Module :=
      { types := [{ name := ⟨["t"]⟩, body := .synonym price }]
        values := [{ name := ⟨["cost"]⟩, output := price }] }
    let raised := Raising.package builder.build module
    raised.diagnostics = [] ∧
      raised.value.interfaces =
        [{ name := ⟨false, generated⟩
           types := [⟨⟨false, ⟨"t", by decide⟩⟩, .synonym (.tuple []), {}⟩]
           functions := [{ name := ⟨false, ⟨"cost", by decide⟩⟩, results := [] }] }] := by
  decide +kernel

end WitBridge.Raising
