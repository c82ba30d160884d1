import WitBridge.Lowering
import WitBridge.Mapping.Defaults
import WitBridge.Package.Comparison
import WitBridge.Proofs.Diagnostic
import WitBridge.Raising

/-!
# What the default mappings say

With the default mappings each primitive type becomes a basic type of the SDK, and each basic type
a primitive type again: the common one of its sort. Lists, options and results become the
containers of the SDK, and these become them again.
-/
namespace WitBridge

namespace Primitive

/-- The basic type of the SDK that a primitive type becomes. -/
def basic : Primitive → String
  | bool => "Bool"
  | char => "Char"
  | string => "String"
  | f32 | f64 => "Float"
  | u8 | u16 | u32 | u64 | s8 | s16 | s32 | s64 => "Int"

/-- The primitive type that the basic type of a primitive type becomes. -/
def image (kind : Primitive) : Primitive :=
  if kind.isInteger then u32 else if kind.isFloat then f64 else kind

/-- The image of a primitive type is its own image. -/
theorem image_image (kind : Primitive) : kind.image.image = kind.image := by
  cases kind <;> rfl

/-- A primitive type agrees with what it becomes. -/
theorem agrees_image (kind : Primitive) : kind.agrees kind.image = true := by
  cases kind <;> rfl

/-- A primitive type and what it becomes have one basic type. -/
theorem basic_image (kind : Primitive) : kind.image.basic = kind.basic := by
  cases kind <;> rfl

end Primitive

namespace ContainerKind

/-- The word of a container. -/
def external : ContainerKind → String
  | list => "list"
  | option => "option"
  | result => "result"

/-- The module of the SDK that defines a container, and the name that it has there. -/
def sdkName : ContainerKind → String
  | list => "List"
  | option => "Maybe"
  | result => "Result"

/-- The type of the SDK for a container. -/
def sdk (kind : ContainerKind) : Ir.QualifiedName :=
  .sdk kind.sdkName kind.sdkName

end ContainerKind

namespace Lowering

/-- Lowering with the default mappings, where nothing is refused. -/
def lenient : Lowering where
  registry := Mapping.witRegistry

/-- A primitive type is lowered to its basic type. -/
theorem value_primitive (kind : Primitive) :
    (lenient.primitive kind).value = .basics kind.basic := by
  have checked : ∀ kind ∈ Primitive.all,
      (lenient.primitive kind).value = .basics kind.basic := by decide +kernel
  exact checked kind kind.mem_all

/-- What is lost of a primitive type is no error. -/
theorem mild_primitive (kind : Primitive) : (lenient.primitive kind).Mild := by
  have checked : ∀ kind ∈ Primitive.all, ∀ diagnostic ∈ (lenient.primitive kind).diagnostics,
      diagnostic.severity ≠ .error := by decide +kernel
  exact checked kind kind.mem_all

/-- A container is lowered to the type of the SDK. -/
theorem containerName_lenient (kind : ContainerKind) :
    lenient.containerName kind.external kind.sdkName = kind.sdk := by
  cases kind <;> decide +kernel

/-- A list is lowered to the list of the SDK. -/
theorem listOf_lenient (element : Ir.TypeExpr) :
    lenient.listOf element = .reference (.sdk "List" "List") [element] :=
  congrArg (Ir.TypeExpr.reference · [element]) (containerName_lenient .list)

/-- An option is lowered to the option of the SDK. -/
theorem optionOf_lenient (inner : Ir.TypeExpr) :
    lenient.optionOf inner = .reference (.sdk "Maybe" "Maybe") [inner] :=
  congrArg (Ir.TypeExpr.reference · [inner]) (containerName_lenient .option)

/-- A result is lowered to the result of the SDK. -/
theorem resultOf_lenient (ok err : Ir.TypeExpr) :
    lenient.resultOf ok err = .reference (.sdk "Result" "Result") [err, ok] :=
  congrArg (Ir.TypeExpr.reference · [err, ok]) (containerName_lenient .result)

end Lowering

namespace Raising

/-- A basic type is raised to the common primitive type of its sort. -/
theorem target_basics (kind : Primitive) :
    target Mapping.witRegistry (.sdk "Basics" kind.basic) 0 =
      pure (some (.primitive kind.image)) := by
  -- The common types stand for all: a type and the common one of its sort have one basic type.
  have checked : ∀ kind ∈ Primitive.all, kind.image = kind →
      target Mapping.witRegistry (.sdk "Basics" kind.basic) 0 =
        ⟨some (.primitive kind), []⟩ := by decide +kernel
  rw [← kind.basic_image]
  exact checked kind.image kind.image.mem_all kind.image_image

/-- A container of the SDK with its parameters is raised to the container. -/
theorem target_container (kind : ContainerKind) :
    target Mapping.witRegistry kind.sdk kind.arity = pure (some (.container kind)) := by
  rw [Reported.pure_eq]
  cases kind <;> decide +kernel

end Raising

end WitBridge
