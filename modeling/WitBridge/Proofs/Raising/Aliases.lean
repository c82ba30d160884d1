import WitBridge.Build
import WitBridge.Proofs.Lowering.Entries
import WitBridge.Proofs.Mapping.Winners
import WitBridge.Proofs.Package.Image

/-!
# Synonyms of primitive types

With any mappings a type definition of a text that is read becomes one of the generated interface
at its place. A synonym of a primitive type becomes a synonym of the same type if its mapping owns
the IR type from the IR side, but for two cases. A basic type of the SDK is looked up by its
qualified name first, which another mapping may own, and then by its name in title case, which need
not be the text that is mapped to.
-/
namespace WitBridge

open Mapping (Builder Registry)

variable {registry : Registry} {kind : Primitive} {mapping : Mapping.Primitive}

/-- The qualified name that stands for a reference in a module. -/
def Ir.TypeReference.written : TypeReference → QualifiedName
  | primitive text => .sdk "Basics" text
  | qualified name => name

/-- The primitive type that a basic type of the SDK is without mappings. -/
def Primitive.ofBasic? : String → Option Primitive
  | "Bool" => some bool
  | "Int" => some s32
  | "Float" => some f64
  | "String" => some string
  | "Char" => some char
  | _ => none

/-- Names of the SDK are names of the SDK. -/
theorem Ir.QualifiedName.isSdk_sdk (module name : String) : (sdk module name).isSdk = true := by
  have closed : (sdk "" "").isSdk = true := by decide +kernel
  exact closed

/-- Basic types are in the module of basic types. -/
theorem Ir.QualifiedName.moduleName_basics (name : String) :
    (sdk "Basics" name).moduleName = "Basics" := by
  have closed : (sdk "Basics" "").moduleName = "Basics" := by decide +kernel
  exact closed

/-- A mapped primitive type becomes the name of its IR type. -/
theorem Lowering.value_primitive_of_lookup {lowering : Lowering}
    (found : lowering.registry.lookup kind.spelling = some mapping) :
    (lowering.primitive kind).value = .reference mapping.target.written [] := by
  unfold primitive
  rw [found]
  obtain ⟨external, target, oneWay, priority, metadata⟩ := mapping
  -- What is reported of the type does not matter for what it is mapped to.
  cases target with
  | primitive text | qualified name =>
    simp only
    split
    · rfl
    · split <;> rfl

namespace Raising

/-- A mapping of the spelling of a primitive type leads to the type. -/
theorem mappedTarget_of_spelling (spelled : Primitive.ofSpelling? mapping.external = some kind) :
    mappedTarget mapping = some (.primitive kind) :=
  congrArg (Option.map ReferenceTarget.primitive) spelled

/-- A name that a mapping owns leads to the primitive type of the mapping. -/
theorem value_type?_of_owner {name : Ir.QualifiedName} {parameters : List Ir.TypeExpr}
    (owned : registry.lookupReverse (.qualified name) = some mapping)
    (spelled : Primitive.ofSpelling? mapping.external = some kind) :
    (type? registry (.reference name parameters)).value = some (.primitive kind) := by
  have led : target registry name parameters.length = pure (some (.primitive kind)) := by
    unfold target
    rw [owned]
    exact congrArg pure (mappedTarget_of_spelling spelled)
  rw [type?, led]
  rfl

/-- No container is made without parameters. -/
theorem applicable?_zero (kind : Option ContainerKind) : applicable? kind 0 = none := by
  match kind with
  | none | some .list | some .option | some .result => rfl

/-- A basic type whose qualified name no mapping owns is looked up in title case. -/
theorem target_basics_of_unowned {text : String}
    (unowned : registry.lookupReverse (.qualified (.sdk "Basics" text)) = none) :
    target registry (.sdk "Basics" text) 0 = basicsTarget registry (Ir.Name.ofText text).title := by
  unfold target
  rw [unowned]
  simp only [applicable?_zero, Ir.QualifiedName.isSdk_sdk, if_true]
  rw [sdkTarget, if_pos (Ir.QualifiedName.moduleName_basics text)]
  rfl

/-- A basic type whose title a mapping of a primitive type owns leads to this type. -/
theorem value_basicsTarget_of_owner {title : String}
    (owned : registry.lookupReverse (.primitive title) = some mapping)
    (spelled : Primitive.ofSpelling? mapping.external = some kind) :
    (basicsTarget registry title).value = some (.primitive kind) := by
  unfold basicsTarget
  rw [owned, Option.bind_some, mappedTarget_of_spelling spelled]
  rfl

/-- A basic type whose title no mapping of a primitive type owns leads to the plain type. -/
theorem value_basicsTarget_of_unowned {title : String}
    (unowned : (registry.lookupReverse (.primitive title)).bind mappedTarget = none)
    (plain : Primitive.ofBasic? title = some kind) :
    (basicsTarget registry title).value = some (.primitive kind) := by
  unfold basicsTarget
  rw [unowned]
  unfold Primitive.ofBasic? at plain
  split at plain <;> cases plain <;> rfl

/-- A basic type whose qualified name no mapping owns is raised as its title leads. -/
theorem value_type?_basics_of_title {text : String}
    (unowned : registry.lookupReverse (.qualified (.sdk "Basics" text)) = none)
    (led : (basicsTarget registry (Ir.Name.ofText text).title).value = some (.primitive kind)) :
    (type? registry (.reference (.sdk "Basics" text) [])).value = some (.primitive kind) := by
  rw [type?, List.length_nil, target_basics_of_unowned unowned]
  simp only [Reported.bind_value, led]
  rfl

/-- What a synonym of a mapped primitive type becomes if its mapping owns the IR type. A qualified
name leads back to the type. A basic type leads to the type of the mapping that owns its qualified
name. If none does it leads back if the type is mapped to a text in title case, or if no primitive
type owns the title and the title plainly names the type. -/
structure Leads (registry : Registry) (kind : Primitive) (mapping : Mapping.Primitive)
    (target : TypeExpr) : Prop where
  qualified : ∀ name, mapping.target = .qualified name → target = .primitive kind
  owned : ∀ text owner other, mapping.target = .primitive text →
    registry.lookupReverse (.qualified (.sdk "Basics" text)) = some owner →
      Primitive.ofSpelling? owner.external = some other → target = .primitive other
  titled : ∀ text, mapping.target = .primitive text →
    registry.lookupReverse (.qualified (.sdk "Basics" text)) = none →
      (Ir.Name.ofText text).title = text → target = .primitive kind
  plain : ∀ text, mapping.target = .primitive text →
    registry.lookupReverse (.qualified (.sdk "Basics" text)) = none →
      (registry.lookupReverse (.primitive (Ir.Name.ofText text).title)).bind mappedTarget = none →
        Primitive.ofBasic? (Ir.Name.ofText text).title = some kind → target = .primitive kind

/-- The IR type of a mapped primitive type leads where its mapping and the owners of its names
say. -/
theorem leads (found : registry.lookup kind.spelling = some mapping)
    (owned : registry.lookupReverse mapping.target = some mapping) :
    Leads registry kind mapping
      (placeholder (type? registry (.reference mapping.target.written [])).value) := by
  have spelled : Primitive.ofSpelling? mapping.external = some kind := by
    rw [(Registry.mem_of_lookup found).2]
    exact kind.ofSpelling?_spelling
  constructor
  case qualified =>
    intro name mapped
    rw [mapped] at owned ⊢
    exact congrArg placeholder (value_type?_of_owner owned spelled)
  case owned =>
    intro text owner other mapped owns names
    rw [mapped]
    exact congrArg placeholder (value_type?_of_owner owns names)
  case titled =>
    intro text mapped free title
    have led : (basicsTarget registry (Ir.Name.ofText text).title).value =
        some (.primitive kind) := by
      rw [mapped] at owned
      rw [title]
      exact value_basicsTarget_of_owner owned spelled
    rw [mapped]
    exact congrArg placeholder (value_type?_basics_of_title free led)
  case plain =>
    intro text mapped free titleFree names
    have led := value_basicsTarget_of_unowned titleFree names
    rw [mapped]
    exact congrArg placeholder (value_type?_basics_of_title free led)

end Raising

section Definitions

/-- What a type definition becomes by way of the IR with the mappings of a registry. -/
def TypeDefinition.carriedBy (registry : Registry) (definition : TypeDefinition) :
    TypeDefinition where
  name := definition.name.image
  body := (Raising.body registry (definition.entry registry).body).value
  docs := Documentation.ofText definition.docs.text

/-- The entry of a type definition is raised to what it becomes. -/
theorem TypeDefinition.raised_entry (registry : Registry) (definition : TypeDefinition) :
    (Raising.typeDefinition? registry (definition.entry registry)).value =
      some (definition.carriedBy registry) := by
  have name : (Raising.identifier "identifier" (definition.entry registry).name) =
      pure (some definition.name.image) := Raising.identifier_irName _ definition.name
  simp only [Raising.typeDefinition?, Reported.bind_value, Reported.pure_eq, name]
  rfl

/-- The type definitions of the module of a package are raised to what they become. -/
theorem Package.types_carried (registry : Registry) (package : Package) :
    ∃ interface,
      (Raising.package registry (Lowering.package ⟨registry, false⟩ package).value).value.interfaces
          = [interface] ∧
        interface.types = package.definitions.map (TypeDefinition.carriedBy registry) := by
  refine ⟨_, rfl, ?_⟩
  rw [Lowering.value_package, Lowering.entries_lenient]
  exact Raising.value_kept_map _ _ (TypeDefinition.raised_entry registry) package.definitions

/-- A synonym of a mapped primitive type becomes a synonym of what its IR type is raised to. -/
theorem TypeDefinition.carriedBy_synonym (name : Identifier) (docs : Documentation)
    (found : registry.lookup kind.spelling = some mapping) :
    TypeDefinition.carriedBy registry ⟨name, .synonym (.primitive kind), docs⟩ =
      ⟨name.image, .synonym (Raising.placeholder
        (Raising.type? registry (.reference mapping.target.written [])).value),
        Documentation.ofText docs.text⟩ := by
  have value : (Lowering.primitive ⟨registry, false⟩ kind).value =
      .reference mapping.target.written [] := Lowering.value_primitive_of_lookup found
  have body : (Lowering.body ⟨registry, false⟩ ⟨name, .synonym (.primitive kind), docs⟩).value =
      .synonym (.reference mapping.target.written []) := by
    simp only [Lowering.body, Lowering.type, Reported.bind_value, Reported.pure_eq, value]
  have reference : ∀ fields, Ir.TypeExpr.reference mapping.target.written [] ≠ .record fields := by
    rintro fields ⟨⟩
  rw [carriedBy, entry, body, Raising.value_body_synonym registry reference]

end Definitions

/-- With the mappings of a registry that was built, a synonym of a primitive type whose mapping owns
its IR type becomes, at its place in the generated interface, a synonym of what the IR type leads
to. -/
theorem synonym_of_owner (builder : Builder) {source : String} {package : Package} {index : Nat}
    {name : Identifier} {docs : Documentation} (parsed : Package.parse source = .ok package)
    (defined : package.definitions[index]? = some ⟨name, .synonym (.primitive kind), docs⟩)
    (found : builder.build.lookup kind.spelling = some mapping)
    (owned : builder.build.lookupReverse mapping.target = some mapping) :
    ∃ made generated interface target,
      (make source {} builder.build).output = some made ∧
        (gen made.module {} builder.build).output = some generated ∧
        generated.package.interfaces = [interface] ∧
        interface.types[index]? =
          some ⟨name.image, .synonym target, Documentation.ofText docs.text⟩ ∧
        Raising.Leads builder.build kind mapping target := by
  have made : (make source {} builder.build).output =
      some ⟨(Lowering.package ⟨builder.build, false⟩ package).value, package⟩ := by
    rw [make, parsed]
  obtain ⟨interface, interfaces, types⟩ := package.types_carried builder.build
  refine ⟨_, _, interface, _, made, rfl, interfaces, ?_, Raising.leads found owned⟩
  rw [types, List.getElem?_map, defined, Option.map_some,
    TypeDefinition.carriedBy_synonym name docs found]

/-- A size of integers with a type of its own is kept. -/
theorem synonym_of_owner_s64 :
    let builder := (Builder.withDefaults { binding := "wit" } Mapping.witDefaults).addPrimitive
      "s64" "Int64" { priority := 1 }
    let text := "interface i { type u = bool; type t = s64; }"
    ∃ mapping, builder.build.lookup "s64" = some mapping ∧
      builder.build.lookupReverse mapping.target = some mapping ∧
      ∃ made generated interface docs, (make text {} builder.build).output = some made ∧
        (gen made.module {} builder.build).output = some generated ∧
        generated.package.interfaces = [interface] ∧
        interface.types[1]? =
          some ⟨⟨false, ⟨"t", by decide⟩⟩, .synonym (.primitive .s64), docs⟩ := by
  intro builder text
  have found : builder.build.lookup Primitive.s64.spelling =
      some { external := "s64", target := .primitive "Int64", priority := 1 } := by decide +kernel
  have owned : builder.build.lookupReverse (.primitive "Int64") =
      some { external := "s64", target := .primitive "Int64", priority := 1 } := by decide +kernel
  have free : builder.build.lookupReverse (.qualified (.sdk "Basics" "Int64")) = none := by
    decide +kernel
  have title : (Ir.Name.ofText "Int64").title = "Int64" := by decide +kernel
  have image : Identifier.image ⟨false, ⟨"t", by decide⟩⟩ = ⟨false, ⟨"t", by decide⟩⟩ := by
    decide +kernel
  have read : (Package.parse text).map (fun package => package.definitions[1]?) =
      .ok (some ⟨⟨false, ⟨"t", by decide⟩⟩, .synonym (.primitive .s64), {}⟩) := by
    decide +kernel
  obtain ⟨package, parsed, defined⟩ := map_eq_ok_iff.1 read
  obtain ⟨made, generated, interface, target, make, gen, interfaces, entry, leads⟩ :=
    synonym_of_owner builder parsed defined found owned
  rw [image, leads.titled "Int64" rfl free title] at entry
  exact ⟨_, found, owned, made, generated, interface, _, make, gen, interfaces, entry⟩

/-- A type that is mapped in small letters, or whose basic type another mapping owns by its
qualified name, becomes another type. -/
theorem synonym_ne_owner :
    let text := "interface i { type t = u32; }"
    let targets (registry : Registry) :=
      ((make text {} registry).output.bind fun made => (gen made.module {} registry).output).map
        fun generated => generated.package.interfaces.flatMap fun interface =>
          interface.types.map TypeDefinition.body
    let owns (registry : Registry) :=
      (registry.lookup "u32").any fun mapping =>
        mapping.bidirectional && registry.lookupReverse mapping.target = some mapping
    let small := (Builder.addPrimitive { binding := "wit" } "u32" "int" {}).build
    let shadowed := ((Builder.addPrimitive { binding := "wit" } "u32" "Int64" {}).addPrimitive
      "u64" "Morphir.SDK:Basics:Int64" {}).build
    (owns small = true ∧ targets small = some [.synonym (.primitive .s32)]) ∧
      (owns shadowed = true ∧ targets shadowed = some [.synonym (.primitive .u64)]) := by
  decide +kernel

end WitBridge
