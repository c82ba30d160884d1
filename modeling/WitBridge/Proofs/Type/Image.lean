import WitBridge.Proofs.Identifier
import WitBridge.Proofs.Mapping.Defaults
import WitBridge.Proofs.Package.Comparison

/-!
# What types become by way of the IR

With the default mappings a type is lowered to a type of the IR and this is raised to a type
again, its image. A type agrees with its image exactly if no handle, future or stream stands
anywhere in it and the names in it are plain.
-/
namespace WitBridge

open Raising (placeholder)

namespace TypeExpr

mutual
/-- The type that a type becomes by way of the IR, if it becomes one. -/
def image : TypeExpr → Option TypeExpr
  | primitive kind => some (primitive kind.image)
  | named name => some (named name.image)
  | list element => some (list (placeholder (image element)))
  | option inner => some (option (placeholder (image inner)))
  | result ok err => some (result (imageOption ok) (imageOption err))
  | tuple elements => some (tuple (imageList elements))
  | handle _ _ => some (primitive .u32)
  | future inner => imageOption inner
  | stream element => some (list (placeholder (imageOption element)))
/-- What a type that may be missing becomes. -/
def imageOption : Option TypeExpr → Option TypeExpr
  | none => none
  | some type => image type
/-- What the types of a list become, none of which is left out. -/
def imageList : List TypeExpr → List TypeExpr
  | [] => []
  | first :: rest => placeholder (image first) :: imageList rest
end

end TypeExpr

section Lowered

open Lowering (lenient)

/-- A basic type is raised to the common primitive type of its sort. -/
theorem Raising.type?_basics (kind : Primitive) :
    (type? Mapping.witRegistry (.basics kind.basic)).value = some (.primitive kind.image) := by
  rw [Ir.TypeExpr.basics, type?, List.length_nil, target_basics]
  rfl

/-- A container of the SDK is raised as its kind says. -/
theorem Raising.type?_container (kind : ContainerKind) (parameters : List Ir.TypeExpr)
    (count : parameters.length = kind.arity) :
    (type? Mapping.witRegistry (.reference kind.sdk parameters)).value =
      (container Mapping.witRegistry kind parameters).value := by
  rw [type?, count, target_container]
  rfl

/-- The list of a type is raised to a list. -/
theorem Raising.type?_listOf (element : Ir.TypeExpr) :
    (type? Mapping.witRegistry (lenient.listOf element)).value =
      some (.list (placeholder (type? Mapping.witRegistry element).value)) := by
  rw [Lowering.listOf_lenient]
  exact type?_container .list [element] rfl

/-- The option of a type is raised to an option. -/
theorem Raising.type?_optionOf (inner : Ir.TypeExpr) :
    (type? Mapping.witRegistry (lenient.optionOf inner)).value =
      some (.option (placeholder (type? Mapping.witRegistry inner).value)) := by
  rw [Lowering.optionOf_lenient]
  exact type?_container .option [inner] rfl

/-- The result of two types is raised to a result. -/
theorem Raising.type?_resultOf (ok err : Ir.TypeExpr) :
    (type? Mapping.witRegistry (lenient.resultOf ok err)).value =
      some (.result (type? Mapping.witRegistry ok).value
        (type? Mapping.witRegistry err).value) := by
  rw [Lowering.resultOf_lenient]
  exact type?_container .result [err, ok] rfl

mutual
/-- A type is lowered and raised to its image. -/
theorem TypeExpr.raised_type (type : TypeExpr) :
    (Raising.type? Mapping.witRegistry (lenient.type type).value).value = type.image := by
  cases type with
  | primitive kind =>
    rw [Lowering.type, Lowering.value_primitive, Raising.type?_basics]
    rfl
  | named name =>
    have raised := Raising.identifier_irName "type name" name
    simp only [Lowering.type, Reported.pure_eq, Raising.type?, raised, Reported.bind_value]
    rfl
  | list element =>
    simp only [Lowering.type, Reported.bind_value, Reported.pure_eq, Raising.type?_listOf,
      raised_type element]
    rfl
  | option inner =>
    simp only [Lowering.type, Reported.bind_value, Reported.pure_eq, Raising.type?_optionOf,
      raised_type inner]
    rfl
  | result ok err =>
    simp only [Lowering.type, Reported.bind_value, Reported.pure_eq, Raising.type?_resultOf,
      raised_optional ok, raised_optional err]
    rfl
  | tuple elements =>
    simp only [Lowering.type, Reported.bind_value, Reported.pure_eq, Raising.type?,
      raised_types elements]
    rfl
  | handle ownership resource =>
    simp only [Lowering.type, Reported.bind_value, Reported.pure_eq]
    exact Raising.type?_basics .u32
  | future inner =>
    simp only [Lowering.type, Reported.bind_value, raised_optional inner]
    rfl
  | stream element =>
    simp only [Lowering.type, Reported.bind_value, Reported.pure_eq, Raising.type?_listOf,
      raised_optional element]
    rfl
/-- A type that may be missing is lowered and raised to its image. -/
theorem TypeExpr.raised_optional (type : Option TypeExpr) :
    (Raising.type? Mapping.witRegistry (lenient.optional type).value).value =
      imageOption type := by
  cases type with
  | none =>
    rw [Lowering.optional, Reported.pure_eq, Raising.type?]
    rfl
  | some type => exact raised_type type
/-- The types of a list are lowered and raised to their images. -/
theorem TypeExpr.raised_types (types : List TypeExpr) :
    (Raising.elementTypes Mapping.witRegistry (lenient.types types).value).value =
      imageList types := by
  cases types with
  | nil =>
    rw [Lowering.types, Reported.pure_eq, Raising.elementTypes]
    rfl
  | cons first rest =>
    simp only [Lowering.types, Reported.bind_value, Reported.pure_eq, Raising.elementTypes,
      raised_type first, raised_types rest]
    rfl
end

end Lowered

namespace TypeExpr

/-- A missing image is the image of a future, which agrees with nothing. -/
theorem agrees_placeholder_image (type : TypeExpr) :
    type.agrees (placeholder type.image) = agreesOption (some type) type.image := by
  cases type with
  | future inner =>
    cases found : image (future inner) with
    | none => rfl
    | some other => rfl
  | primitive | named | list | option | result | tuple | handle | stream => rfl

mutual
/-- A type agrees with its image exactly if it is carried and its names are plain. -/
theorem agreesOption_image (type : TypeExpr) :
    agreesOption (some type) type.image = type.carried Identifier.isPlain := by
  cases type with
  | primitive kind => exact kind.agrees_image
  | named name => exact name.agrees_image
  | list element => exact (agrees_placeholder_image element).trans (agreesOption_image element)
  | option inner => exact (agrees_placeholder_image inner).trans (agreesOption_image inner)
  | result ok err =>
    exact congrArg₂ and (agreesOption_imageOption ok) (agreesOption_imageOption err)
  | tuple elements => exact agreesList_imageList elements
  | handle | stream => rfl
  | future inner =>
    cases found : image (future inner) with
    | none => rfl
    | some other => rfl
/-- A type that may be missing agrees with its image exactly if it is carried and its names are
plain. -/
theorem agreesOption_imageOption (type : Option TypeExpr) :
    agreesOption type (imageOption type) = carriedOption Identifier.isPlain type := by
  cases type with
  | none => rfl
  | some type => exact agreesOption_image type
/-- Types agree with their images exactly if they are carried and their names are plain. -/
theorem agreesList_imageList (types : List TypeExpr) :
    agreesList types (imageList types) = carriedList Identifier.isPlain types := by
  cases types with
  | nil => rfl
  | cons first rest =>
    have head := (agrees_placeholder_image first).trans (agreesOption_image first)
    exact congrArg₂ and head (agreesList_imageList rest)
end

/-- A type agrees with what stands in its place exactly if it is carried and its names are
plain. -/
theorem agrees_image (type : TypeExpr) :
    type.agrees (placeholder type.image) = type.carried Identifier.isPlain :=
  (agrees_placeholder_image type).trans (agreesOption_image type)

/-- The tuple of one type does not agree with what the type itself becomes. -/
theorem agrees_singleton_image (type : TypeExpr) :
    (tuple [type]).agrees (placeholder type.image) = false := by
  induction type using TypeExpr.induct with
  | step type ih =>
    cases type with
    | tuple elements =>
      change agreesList [tuple elements] (imageList elements) = false
      match elements with
      | [] => rfl
      | [element] =>
        have single := ih element (by simp [children])
        rw [imageList, imageList, agreesList, single, Bool.false_and]
      | first :: second :: rest => simp [imageList, agreesList]
    | future inner =>
      cases placeholder (image (future inner)) with
      | tuple others => cases others <;> rfl
      | primitive | named | list | option | result | handle | future | stream => rfl
    | primitive | named | list | option | result | handle | stream => rfl

/-- Whether a type is a tuple of no more than one type. -/
def isShortTuple : TypeExpr → Bool
  | tuple [] | tuple [_] => true
  | _ => false

end TypeExpr

end WitBridge
