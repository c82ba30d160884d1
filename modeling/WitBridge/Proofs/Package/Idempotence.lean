import WitBridge.Proofs.Package.Image

/-!
# What has come by way of the IR once

What a name, a type or a member becomes by way of the IR becomes itself when it goes that way
again. Only the results of functions do not: a tuple of one type loses a layer each time.
-/
namespace WitBridge

open Raising (placeholder)

/-- The image of a name is spelled in segments and is its own image. -/
theorem KebabName.image_image (name : KebabName) : name.image.image = name.image := by
  have segmented : Ir.IsSegmented name.image.text.toList := by
    obtain ⟨c, rest, shape, lower⟩ := name.begins
    obtain ⟨first, found, letters⟩ := Ir.letters_of_head_wordsOf rest lower
    rw [← shape] at found
    change Ir.IsSegmented (Ir.Name.ofText name.text).kebab.toList
    rw [kebab_ofText, String.toList_ofList]
    exact Ir.isSegmented_spelled (Ir.isWord_of_mem_wordsOf _ name.not_isUpper) found letters
  exact (name.image.image_eq_iff.2 segmented).symm

/-- The image of an identifier is its own image. -/
theorem Identifier.image_image (name : Identifier) : name.image.image = name.image :=
  congrArg (Identifier.mk false) name.bare.image_image

namespace TypeExpr

/-- What stands for an image is its own image, if the image is. -/
theorem image_placeholder {type : Option TypeExpr} (kept : imageOption type = type) :
    (placeholder type).image = some (placeholder type) := by
  cases type with
  | none => rfl
  | some type => exact kept

mutual
/-- The image of a type is its own image. -/
theorem image_image (type : TypeExpr) : imageOption type.image = type.image := by
  cases type with
  | primitive kind => exact congrArg (some ∘ primitive) kind.image_image
  | named name => exact congrArg (some ∘ named) name.image_image
  | list element | option element =>
    simp only [image, imageOption, image_placeholder (image_image element)]
    rfl
  | result ok err =>
    simp only [image, imageOption, imageOption_imageOption ok, imageOption_imageOption err]
  | tuple elements => simp only [image, imageOption, imageList_imageList elements]
  | handle => rfl
  | future inner => exact imageOption_imageOption inner
  | stream element =>
    simp only [image, imageOption, image_placeholder (imageOption_imageOption element)]
    rfl
/-- The image of a type that may be missing is its own image. -/
theorem imageOption_imageOption (type : Option TypeExpr) :
    imageOption (imageOption type) = imageOption type := by
  cases type with
  | none => rfl
  | some type => exact image_image type
/-- The images of types are their own images. -/
theorem imageList_imageList (types : List TypeExpr) :
    imageList (imageList types) = imageList types := by
  cases types with
  | nil => rfl
  | cons first rest =>
    simp only [imageList, image_placeholder (image_image first), imageList_imageList rest]
    rfl
end

/-- What stands for a type is its own image. -/
theorem image_imaged (type : TypeExpr) : type.imaged.image = some type.imaged :=
  image_placeholder type.image_image

/-- What stands for a type stands for itself. -/
theorem imaged_imaged (type : TypeExpr) : type.imaged.imaged = type.imaged := by
  rw [imaged, image_imaged]
  rfl

end TypeExpr

/-- The image of a field is its own image. -/
theorem Field.image_image (field : Field) : field.image.image = field.image := by
  simp only [image, Identifier.image_image, TypeExpr.imaged_imaged]

/-- The image of a parameter is its own image. -/
theorem Parameter.image_image (parameter : Parameter) :
    parameter.image.image = parameter.image := by
  simp only [image, Identifier.image_image, TypeExpr.imaged_imaged]

/-- The image of a case is its own image. -/
theorem Case.image_image (case : Case) : case.image.image = case.image := by
  obtain ⟨name, payload, docs⟩ := case
  cases payload <;>
    simp only [image, Option.map_none, Option.map_some, Identifier.image_image,
      TypeExpr.imaged_imaged]

/-- The image of a definition is its own image. -/
theorem Definition.image_image (body : Definition) : body.image.image = body.image := by
  cases body with
  | record fields => simp [image, Function.comp_def, Field.image_image]
  | variant cases =>
    cases none : cases.all (·.payload.isNone) with
    | true => simp [image, none, Function.comp_def, Identifier.image_image]
    | false =>
      have some : (cases.map Case.image).all (·.payload.isNone) = false := by
        simpa only [List.all_map, Function.comp_def, Case.image, Option.isNone_map] using none
      rw [image, if_neg (by simp [none]), image, if_neg (by simp [some]), List.map_map]
      simp only [Function.comp_def, Case.image_image]
  | enum cases => simp [image, Function.comp_def, Identifier.image_image]
  | flags | resource => rfl
  | synonym target => simp [image, TypeExpr.imaged_imaged]

/-- The image of a type definition is its own image. -/
theorem TypeDefinition.image_image (definition : TypeDefinition) :
    definition.image.image = definition.image := by
  simp only [image, Identifier.image_image, Definition.image_image, Documentation.text_ofText]

end WitBridge
