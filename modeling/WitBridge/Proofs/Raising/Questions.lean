import WitBridge.Raising

/-!
# What raising asks of a registry

Raising asks a registry for the mapping of an IR type and for the container of a name, both from the
IR side, and for nothing else. Registries that answer these questions alike lead from a module to
the same package and the same report.
-/
namespace WitBridge.Raising

open Mapping (Registry)

/-- Whether two registries answer alike what is asked from the IR side. -/
structure Alike (registry other : Registry) : Prop where
  mapping : ∀ target, registry.lookupReverse target = other.lookupReverse target
  container : ∀ name, mappedContainer? registry name = mappedContainer? other name

namespace Alike

variable {registry other : Registry}

/-- References lead to the same. -/
theorem target_eq (alike : Alike registry other) (name : Ir.QualifiedName) (count : Nat) :
    target registry name count = target other name count := by
  have basics (title : String) : basicsTarget registry title = basicsTarget other title := by
    unfold basicsTarget
    rw [alike.mapping]
  have sdk : sdkTarget registry name count = sdkTarget other name count := by
    unfold sdkTarget
    simp only [basics]
  unfold target
  simp only [alike.mapping, alike.container, sdk]

mutual
/-- Types become the same. -/
theorem type?_eq (alike : Alike registry other) (type : Ir.TypeExpr) :
    type? registry type = type? other type := by
  cases type with
  | var name | record fields | unit => rfl
  | reference name parameters =>
    rw [type?, type?, alike.target_eq]
    refine congrArg (target other name parameters.length >>= ·) (funext fun found => ?_)
    rcases found with _ | kind | kind | definition
    · rfl
    · rfl
    · exact alike.container_eq kind parameters
    · rfl
  | tuple elements => rw [type?, type?, alike.elementTypes_eq elements]
/-- Containers become the same. -/
theorem container_eq (alike : Alike registry other) (kind : ContainerKind)
    (parameters : List Ir.TypeExpr) :
    Raising.container registry kind parameters = Raising.container other kind parameters := by
  match kind, parameters with
  | .list, element :: _ => rw [Raising.container, Raising.container, alike.type?_eq element]
  | .option, inner :: _ => rw [Raising.container, Raising.container, alike.type?_eq inner]
  | .result, err :: ok :: _ =>
    rw [Raising.container, Raising.container, alike.type?_eq err, alike.type?_eq ok]
  | .list, [] | .option, [] | .result, [] | .result, [_] => rfl
/-- Elements become the same. -/
theorem elementTypes_eq (alike : Alike registry other) (elements : List Ir.TypeExpr) :
    elementTypes registry elements = elementTypes other elements := by
  cases elements with
  | nil => rfl
  | cons first rest =>
    rw [elementTypes, elementTypes, alike.type?_eq first, alike.elementTypes_eq rest]
end

/-- Types for places that cannot be empty become the same. -/
theorem required_eq (alike : Alike registry other) : required registry = required other := by
  funext type
  rw [required, required, alike.type?_eq]

/-- Definitions become the same. -/
theorem typeDefinition?_eq (alike : Alike registry other) :
    typeDefinition? registry = typeDefinition? other := by
  have field : field? registry = field? other := by
    funext field
    simp only [field?, alike.required_eq]
  have case : case? registry = case? other := by
    funext constructor
    simp only [case?, alike.required_eq]
  have body (body : Ir.TypeBody) : Raising.body registry body = Raising.body other body := by
    unfold Raising.body
    rw [field, case, alike.required_eq]
  funext entry
  rw [typeDefinition?, typeDefinition?, body]

/-- Functions become the same. -/
theorem function?_eq (alike : Alike registry other) : function? registry = function? other := by
  have parameter : parameter? registry = parameter? other := by
    funext input
    simp only [parameter?, alike.required_eq]
  have results (output : Ir.TypeExpr) : results registry output = results other output := by
    unfold Raising.results
    simp only [alike.type?_eq, alike.elementTypes_eq]
  funext entry
  rw [function?, function?, parameter, results]

/-- A module becomes the same package with the same report. -/
theorem package_eq (alike : Alike registry other) (module : Ir.Module) :
    package registry module = package other module := by
  rw [package, package, alike.typeDefinition?_eq, alike.function?_eq]

end Alike

end WitBridge.Raising
