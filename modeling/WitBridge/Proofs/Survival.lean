import WitBridge.Proofs.Package.Image
import WitBridge.Proofs.Package.WellRead

/-!
# What survives a build

A build with the default mappings reports a round trip exactly if the package that was read is
kept: it has one interface and no worlds, and every member of the interface is kept.
-/
namespace WitBridge

/-- An interface that was read agrees with its image exactly if it is kept. -/
theorem Interface.agrees_image {interface : Interface} (read : interface.WellRead) :
    interface.agrees interface.image = interface.survives := by
  have types : agreeAll TypeDefinition.agrees interface.types
      (interface.types.map TypeDefinition.image) =
        interface.types.all TypeDefinition.survives := by
    rw [agreeAll_map, funext TypeDefinition.agrees_image]
  have functions : agreeAll Function.agrees interface.functions
      (interface.functions.map Function.image) =
        interface.functions.all Function.survives := by
    rw [agreeAll_map, Bool.eq_iff_iff, List.all_eq_true, List.all_eq_true]
    apply forall₂_congr
    intro function listed
    rw [Function.agrees_image (read.functions function listed).2.oneResult]
  exact congrArg₂ and types functions

/-- A package that was read agrees with what its module is raised to exactly if it is kept. -/
theorem Package.agrees_image {package : Package} (read : package.WellRead) :
    package.agrees
        (Raising.package Mapping.witRegistry (Lowering.lenient.package package).value).value =
      package.survives := by
  -- A module is raised to one interface and to no worlds.
  have one : ∃ interface, (Raising.package Mapping.witRegistry
      (Lowering.lenient.package package).value).value.interfaces = [interface] := ⟨_, rfl⟩
  have none : (Raising.package Mapping.witRegistry
      (Lowering.lenient.package package).value).value.worlds = [] := rfl
  obtain ⟨target, target_eq⟩ := one
  rw [agrees, none, target_eq, survives]
  rcases interfaces : package.interfaces with _ | ⟨interface, _ | ⟨second, others⟩⟩
  · rfl
  · cases worlds : package.worlds with
    | cons world more => exact Bool.and_false _
    | nil =>
      have same := Interface.raised interfaces worlds
      rw [target_eq] at same
      obtain rfl : target = interface.image := by simpa using same
      have agrees := Interface.agrees_image (read.interfaces interface (by simp [interfaces]))
      simpa [agreeAll] using agrees
  · simp [agreeAll]

/-- A build with the default mappings and options reports a round trip exactly if the package
that was read is kept. -/
theorem roundTrip_build {source : String} {package : Package}
    (parsed : Package.parse source = .ok package) :
    ∃ output, (build source).output = some output ∧ output.roundTrip = package.survives := by
  obtain ⟨made, succeeds⟩ := make_of_parse parsed
  rw [← Package.agrees_image (Package.wellRead_of_parse parsed)]
  unfold build
  simp only [made, succeeds]
  exact ⟨_, rfl, rfl⟩

/-- A function of a tuple of two types survives, and a function of a tuple of one does not. -/
theorem roundTrip_build_tuples :
    (∃ output,
      (build "interface pairs { both: func() -> tuple<u8, s64>; }").output = some output ∧
        output.roundTrip = true) ∧
    ∃ output,
      (build "interface pairs { both: func() -> tuple<u8>; }").output = some output ∧
        output.roundTrip = false := by
  have kept : (Package.parse "interface pairs { both: func() -> tuple<u8, s64>; }").map
      Package.survives = .ok true := by decide +kernel
  have lost : (Package.parse "interface pairs { both: func() -> tuple<u8>; }").map
      Package.survives = .ok false := by decide +kernel
  constructor
  · obtain ⟨package, parsed, survives⟩ := map_eq_ok_iff.1 kept
    obtain ⟨output, built, agrees⟩ := roundTrip_build parsed
    exact ⟨output, built, agrees.trans survives⟩
  · obtain ⟨package, parsed, survives⟩ := map_eq_ok_iff.1 lost
    obtain ⟨output, built, agrees⟩ := roundTrip_build parsed
    exact ⟨output, built, agrees.trans survives⟩

end WitBridge
