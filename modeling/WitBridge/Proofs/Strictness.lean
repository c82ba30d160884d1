import Mathlib.Data.List.Basic
import WitBridge.Proofs.Lowering

/-!
# Strict mode

Strict mode leaves out the members that draw flags, resources or handles, keeps all others as
they are, and reports what is reported without it, with flags, resources and handles as errors.
With the default mappings there are no other errors, so `make` fails in strict mode exactly if
something is left out.
-/
namespace WitBridge

namespace Diagnostic

/-- Whether a diagnostic is about flags, a resource or a handle. -/
def isUnsupported (diagnostic : Diagnostic) : Bool :=
  diagnostic.code = .flagsUnsupported || diagnostic.code = .resourceUnsupported

/-- A diagnostic as strict mode has it. -/
def hardened (diagnostic : Diagnostic) : Diagnostic :=
  if diagnostic.isUnsupported then { diagnostic with severity := .error } else diagnostic

end Diagnostic

namespace Lowering

variable (registry : Mapping.Registry)

/-- Strict mode hardens what a primitive type draws, which is never unsupported. -/
theorem primitiveNotes_strict (kind : Primitive) :
    primitiveNotes ⟨registry, true⟩ kind =
      (primitiveNotes ⟨registry, false⟩ kind).map Diagnostic.hardened := by
  unfold primitiveNotes
  split
  · rfl
  · split
    · rfl
    · split <;> rfl

/-- Strict mode hardens what a node draws. -/
theorem nodeNotes_strict (node : TypeExpr) :
    nodeNotes ⟨registry, true⟩ node =
      (nodeNotes ⟨registry, false⟩ node).map Diagnostic.hardened := by
  cases node with
  | primitive kind => exact primitiveNotes_strict registry kind
  | handle | future | stream | named | list | option | result | tuple => rfl

/-- What is hardened of each item is hardened of the list. -/
theorem flatMap_strict {α : Type} {strict lenient : α → List Diagnostic}
    (each : ∀ item, strict item = (lenient item).map Diagnostic.hardened) (items : List α) :
    items.flatMap strict = (items.flatMap lenient).map Diagnostic.hardened := by
  rw [List.map_flatMap, funext each]

/-- Strict mode hardens what types draw. -/
theorem typesNotes_strict (types : List TypeExpr) :
    types.flatMap (typeNotes ⟨registry, true⟩) =
      (types.flatMap (typeNotes ⟨registry, false⟩)).map Diagnostic.hardened :=
  flatMap_strict
    (fun type : TypeExpr => flatMap_strict (nodeNotes_strict registry) type.nodes) types

/-- Strict mode hardens what a type definition draws. -/
theorem definitionNotes_strict (definition : TypeDefinition) :
    definitionNotes ⟨registry, true⟩ definition =
      (definitionNotes ⟨registry, false⟩ definition).map Diagnostic.hardened := by
  obtain ⟨name, body, docs⟩ := definition
  cases body with
  | flags | resource => rfl
  | record | variant | enum | synonym => exact typesNotes_strict registry _

/-- Strict mode hardens what a function draws. -/
theorem functionNotes_strict (function : Function) :
    functionNotes ⟨registry, true⟩ function =
      (functionNotes ⟨registry, false⟩ function).map Diagnostic.hardened :=
  typesNotes_strict registry function.types

/-- Strict mode hardens what an interface draws. -/
theorem interfaceNotes_strict (interface : Interface) :
    interfaceNotes ⟨registry, true⟩ interface =
      (interfaceNotes ⟨registry, false⟩ interface).map Diagnostic.hardened := by
  rw [interfaceNotes, interfaceNotes, List.map_append,
    flatMap_strict (definitionNotes_strict registry),
    flatMap_strict (functionNotes_strict registry)]

/-- Strict mode hardens what a world item draws. -/
theorem worldItemNotes_strict (item : WorldItem) :
    worldItemNotes ⟨registry, true⟩ item =
      (worldItemNotes ⟨registry, false⟩ item).map Diagnostic.hardened := by
  cases item with
  | inline name interface => exact interfaceNotes_strict registry interface
  | external name path => rfl
  | function function => exact functionNotes_strict registry function

/-- Strict mode hardens what a package draws. -/
theorem packageNotes_strict (package : Package) :
    packageNotes ⟨registry, true⟩ package =
      (packageNotes ⟨registry, false⟩ package).map Diagnostic.hardened := by
  rw [packageNotes, packageNotes, List.map_append,
    flatMap_strict (interfaceNotes_strict registry),
    flatMap_strict (worldItemNotes_strict registry)]

/-- Without strict mode flags, resources and handles are warnings. -/
theorem severity_of_isUnsupported (package : Package) :
    ∀ diagnostic ∈ packageNotes ⟨registry, false⟩ package, diagnostic.isUnsupported = true →
      diagnostic.severity = .warning := by
  have other : ∀ {diagnostic : Diagnostic}, diagnostic.isUnsupported = false →
      diagnostic.isUnsupported = true → diagnostic.severity = .warning :=
    fun not unsupported => absurd (not.symm.trans unsupported) Bool.false_ne_true
  have primitives : ∀ kind, ∀ diagnostic ∈ primitiveNotes ⟨registry, false⟩ kind,
      diagnostic.isUnsupported = true → diagnostic.severity = .warning :=
    forall_primitiveNotes (fun _ => other rfl) (fun _ => other rfl) (fun _ => other rfl)
  exact forall_packageNotes primitives (fun _ => other rfl) (fun _ _ => rfl) (fun _ _ => rfl)
    (fun _ => other rfl) package

/-- With the default mappings all errors of strict mode are about flags, resources or handles. -/
theorem isUnsupported_of_error (package : Package) :
    ∀ diagnostic ∈ packageNotes ⟨Mapping.witRegistry, true⟩ package,
      diagnostic.severity = .error → diagnostic.isUnsupported = true := by
  have primitives : ∀ kind, ∀ diagnostic ∈ primitiveNotes ⟨Mapping.witRegistry, true⟩ kind,
      diagnostic.severity = .error → diagnostic.isUnsupported = true := by
    intro kind diagnostic drawn error
    have reported : diagnostic ∈ (lenient.primitive kind).diagnostics := by
      rw [diagnostics_primitive]
      exact drawn
    exact absurd error (mild_primitive kind diagnostic reported)
  exact forall_packageNotes primitives (fun _ => Severity.noConfusion) (fun _ _ => rfl)
    (fun _ _ => rfl) (fun _ => Severity.noConfusion) package

/-- In strict mode a package draws a refusal exactly if a member of it is left out. -/
theorem refuses_packageNotes {package : Package} :
    (packageNotes ⟨registry, true⟩ package).any refuses = true ↔
      (∃ definition ∈ package.definitions, definition.isRefused = true) ∨
        ∃ function ∈ package.functions, function.isRefused = true := by
  have definitions : ∀ definition, (definitionNotes ⟨registry, true⟩ definition).any refuses =
      definition.isRefused := refuses_definitionNotes ⟨registry, true⟩
  have functions : ∀ function, (functionNotes ⟨registry, true⟩ function).any refuses =
      function.isRefused := refuses_functionNotes ⟨registry, true⟩
  rw [List.any_eq_true]
  constructor
  · rintro ⟨diagnostic, listed, refused⟩
    rcases mem_packageNotes.1 listed with ⟨definition, member, drawn⟩ | ⟨function, member, drawn⟩ |
      ⟨name, path, -, drawn⟩
    · refine .inl ⟨definition, member, ?_⟩
      rw [← definitions definition, List.any_eq_true]
      exact ⟨diagnostic, drawn, refused⟩
    · refine .inr ⟨function, member, ?_⟩
      rw [← functions function, List.any_eq_true]
      exact ⟨diagnostic, drawn, refused⟩
    · rw [List.mem_singleton.1 drawn] at refused
      contradiction
  · rintro (⟨definition, member, refused⟩ | ⟨function, member, refused⟩)
    · rw [← definitions definition, List.any_eq_true] at refused
      obtain ⟨diagnostic, drawn, refused⟩ := refused
      exact ⟨diagnostic, mem_packageNotes.2 (.inl ⟨definition, member, drawn⟩), refused⟩
    · rw [← functions function, List.any_eq_true] at refused
      obtain ⟨diagnostic, drawn, refused⟩ := refused
      exact ⟨diagnostic, mem_packageNotes.2 (.inr (.inl ⟨function, member, drawn⟩)), refused⟩

end Lowering

/-- With the default mappings and with warnings that do not count, `make` fails in strict mode
exactly if a member of the package is left out. -/
theorem isSome_fault_make_strict {source : String} {package : Package}
    (parsed : Package.parse source = .ok package) :
    (make source ⟨true, false⟩).fault.isSome = true ↔
      (∃ definition ∈ package.definitions, definition.isRefused = true) ∨
        ∃ function ∈ package.functions, function.isRefused = true := by
  rw [← Lowering.refuses_packageNotes Mapping.witRegistry, List.any_eq_true]
  simp only [make, parsed, Lowering.diagnostics_package, isSome_stepFault_iff]
  constructor
  · rintro ⟨diagnostic, listed, error | ⟨counts, -⟩⟩
    · have unsupported := Lowering.isUnsupported_of_error package diagnostic listed error
      exact ⟨diagnostic, listed, Bool.and_eq_true_iff.2 ⟨decide_eq_true error, unsupported⟩⟩
    · contradiction
  · rintro ⟨diagnostic, listed, refused⟩
    exact ⟨diagnostic, listed, .inl (of_decide_eq_true (Bool.and_eq_true_iff.1 refused).1)⟩

/-- Strict mode keeps the entries of the members that are neither flags nor resources and hold no
handle, and reports what is reported without it, but that flags, resources and handles are errors
and not warnings. `make` fails for it exactly if a member is left out. -/
theorem strict_lenient (package : Package) :
    (∀ registry,
      let lenient := Lowering.package ⟨registry, false⟩ package
      let strict := Lowering.package ⟨registry, true⟩ package
      lenient.value =
          { types := package.definitions.map (TypeDefinition.entry registry)
            values := package.functions.map (Function.entry registry)
            doc := if package.docs.isEmpty then none else some package.docs.text } ∧
        strict.value =
          { types := (package.definitions.filter fun definition =>
              !definition.isRefused).map (TypeDefinition.entry registry)
            values := (package.functions.filter fun function =>
              !function.isRefused).map (Function.entry registry)
            doc := lenient.value.doc } ∧
        strict.diagnostics = lenient.diagnostics.map Diagnostic.hardened ∧
        ∀ diagnostic ∈ lenient.diagnostics, diagnostic.isUnsupported = true →
          diagnostic.severity = .warning) ∧
    ∀ source, Package.parse source = .ok package →
      ((make source ⟨true, false⟩).fault.isSome = true ↔
        (∃ definition ∈ package.definitions, definition.isRefused = true) ∨
          ∃ function ∈ package.functions, function.isRefused = true) := by
  refine ⟨fun registry => ⟨?_, ?_, ?_, ?_⟩, fun source => isSome_fault_make_strict⟩
  · rw [Lowering.value_package, Lowering.entries_lenient]
  · rw [Lowering.value_package, Lowering.value_package]
    rfl
  · rw [Lowering.diagnostics_package, Lowering.diagnostics_package]
    exact Lowering.packageNotes_strict registry package
  · rw [Lowering.diagnostics_package]
    exact Lowering.severity_of_isUnsupported registry package

/-- A function of a handle is left out and fails `make`. -/
theorem strict_lenient_handle :
    ∃ package, Package.parse "interface i { f: func(x: own<r>); }" = .ok package ∧
      (Lowering.package ⟨Mapping.witRegistry, true⟩ package).value.values = [] ∧
      (make "interface i { f: func(x: own<r>); }" ⟨true, false⟩).fault.isSome = true := by
  have known : (Package.parse "interface i { f: func(x: own<r>); }").map
      (fun package => (package.functions.filter (!·.isRefused),
        package.functions.any Function.isRefused)) = .ok ([], true) := by decide +kernel
  obtain ⟨package, parsed, members⟩ := map_eq_ok_iff.1 known
  obtain ⟨functions, refused⟩ := Prod.mk.inj members
  obtain ⟨modes, fails⟩ := strict_lenient package
  obtain ⟨-, kept, -⟩ := modes Mapping.witRegistry
  refine ⟨package, parsed, ?_, (fails _ parsed).2 (.inr (List.any_eq_true.1 refused))⟩
  rw [kept, functions]
  rfl

end WitBridge
