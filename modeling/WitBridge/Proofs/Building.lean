import WitBridge.Proofs.Convergence
import WitBridge.Proofs.Raising
import WitBridge.Proofs.Raising.Silence
import WitBridge.Proofs.Survival

/-!
# Builds with the default options

With the default mappings and options every text that is read is built: `make` reports losses but
no error, `gen` reports nothing, and every member that `make` put into the module stands in the
generated interface at its place. The only diagnostic of the build itself is the mismatch, which
it reports exactly if the package that was read is not kept.
-/
namespace WitBridge

open Lowering (lenient)

variable {source : String} {package : Package}

/-- The module that `make` makes of a text that is read, and what it reports. -/
theorem make_eq (parsed : Package.parse source = .ok package) :
    (make source).output = some ⟨(lenient.package package).value, package⟩ ∧
      (make source).diagnostics = lenient.packageNotes package ∧ (make source).fault = none := by
  obtain ⟨made, succeeds⟩ := make_of_parse parsed
  refine ⟨made, ?_, succeeds⟩
  rw [← Lowering.diagnostics_package, make, parsed]
  rfl

/-- `gen` makes a package of the module of a package without a report. -/
theorem gen_lowered (package : Package) :
    gen (lenient.package package).value =
      { output := some ⟨package.cycled, package.cycled.render {}⟩, diagnostics := [] } := by
  have silent := package.silent
  rw [gen, silent]
  rfl

/-- A text that is read is built: into its module, the package of the images of its members and
the outcome of the comparison. -/
theorem build_eq (parsed : Package.parse source = .ok package) :
    build source =
      { output := some
          { make := some ⟨(lenient.package package).value, package⟩
            gen := some ⟨package.cycled, package.cycled.render {}⟩
            roundTrip := package.survives }
        diagnostics := lenient.packageNotes package ++
          if package.survives then [] else [.roundTripMismatch .build]
        fault := none } := by
  obtain ⟨made, diagnostics, succeeds⟩ := make_eq parsed
  have agrees : package.agrees package.cycled = package.survives :=
    Package.agrees_image (Package.wellRead_of_parse parsed)
  unfold build
  simp only [made, diagnostics, succeeds, gen_lowered, agrees, List.append_nil]

/-- The interface that a package becomes by way of the IR: the images of its members. -/
def Package.imaged (package : Package) : Interface where
  name := ⟨false, Raising.generated⟩
  types := package.definitions.map TypeDefinition.image
  functions := package.functions.map Function.image

/-- A package becomes a package of one interface. -/
theorem Package.interfaces_cycled (package : Package) :
    package.cycled.interfaces = [package.imaged] :=
  congrArg Package.interfaces package.cycled_eq

end WitBridge
