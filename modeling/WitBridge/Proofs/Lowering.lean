import WitBridge.Proofs.Failure
import WitBridge.Proofs.Lowering.Entries
import WitBridge.Proofs.Mapping.Defaults

/-!
# Lowering with the default options

With the default mappings and without strict mode no part of a package draws an error, so no
definition is left out and `make` succeeds.
-/
namespace WitBridge

namespace Lowering

/-- What is lost of a package is no error. -/
theorem mild_package (package : Package) : (lenient.package package).Mild := by
  have primitives : ∀ kind, ∀ diagnostic ∈ lenient.primitiveNotes kind,
      diagnostic.severity ≠ .error := by
    intro kind
    rw [← diagnostics_primitive]
    exact mild_primitive kind
  unfold Reported.Mild
  rw [diagnostics_package]
  refine forall_packageNotes primitives ?_ ?_ ?_ ?_ package <;> exact fun _ => Severity.noConfusion

end Lowering

section Values

open Lowering (lenient)

/-- The entry of a type definition. -/
def TypeDefinition.lowered (definition : TypeDefinition) : Ir.TypeEntry where
  name := definition.name.irName
  doc := definition.docs.text
  body := (lenient.body definition).value

/-- The entry of a function. -/
def Function.lowered (function : Function) : Ir.ValueEntry where
  name := function.name.irName
  doc := function.docs.text
  inputs := function.parameters.map fun parameter =>
    (parameter.name.irName, (lenient.type parameter.type).value)
  output := (lenient.output function.results).value

/-- A package is lowered to the entries of its members. -/
theorem Package.value_lenient (package : Package) :
    (lenient.package package).value =
      { types := package.definitions.map TypeDefinition.lowered
        values := package.functions.map Function.lowered
        doc := if package.docs.isEmpty then none else some package.docs.text } := by
  rw [Lowering.value_package, lenient, Lowering.entries_lenient]
  rfl

/-- A package of one interface without worlds is lowered to the entries of the interface. -/
theorem Package.value_package {package : Package} {interface : Interface}
    (interfaces : package.interfaces = [interface]) (worlds : package.worlds = []) :
    (lenient.package package).value =
      { types := interface.types.map TypeDefinition.lowered
        values := interface.functions.map Function.lowered
        doc := if package.docs.isEmpty then none else some package.docs.text } := by
  have definitions : package.definitions = interface.types := by
    simp [Package.definitions, Package.worldItems, interfaces, worlds]
  have functions : package.functions = interface.functions := by
    simp [Package.functions, Package.worldItems, interfaces, worlds]
  rw [package.value_lenient, definitions, functions]

end Values

/-- Mild work does not fail its step if warnings do not count. -/
theorem stepFault_of_mild {α : Type} {reported : Reported α} (mild : reported.Mild) (step : Step) :
    stepFault step false reported.diagnostics = none := by
  rw [← Option.not_isSome_iff_eq_none, isSome_stepFault_iff]
  rintro ⟨diagnostic, listed, error | ⟨counts, -⟩⟩
  · exact mild diagnostic listed error
  · contradiction

/-- Every text that is read is made into a module with the default options. -/
theorem make_of_parse {source : String} {package : Package}
    (parsed : Package.parse source = .ok package) :
    (make source).output = some ⟨(Lowering.lenient.package package).value, package⟩ ∧
      (make source).fault = none := by
  have succeeds := stepFault_of_mild (Lowering.mild_package package) .make
  unfold make
  rw [parsed]
  exact ⟨rfl, succeeds⟩

end WitBridge
