import WitBridge.Mapping.Builder

/-!
# Default mappings of WIT

Every integer type maps to `Int` and both floating-point types to `Float`, so of each only
one spelling holds both ways: `u32` and `f64`. The others map to the IR only and are
reported as lossy.
-/
namespace WitBridge.Mapping

/-- The name of the binding. -/
def witBinding : String := "wit"

/-- A default mapping of a type to a primitive kind of the IR. -/
def kindMapping (external kind : String) (oneWay : Option Direction := none) : Primitive :=
  { external := external, target := .primitive kind, oneWay := oneWay }

/-- The default mappings. -/
def witDefaults : Source where
  primitives :=
    [kindMapping "bool" "Bool", kindMapping "u32" "Int", kindMapping "f64" "Float",
     kindMapping "string" "String", kindMapping "char" "Char",
     kindMapping "u8" "Int" (some .toIr), kindMapping "u16" "Int" (some .toIr),
     kindMapping "u64" "Int" (some .toIr), kindMapping "s8" "Int" (some .toIr),
     kindMapping "s16" "Int" (some .toIr), kindMapping "s32" "Int" (some .toIr),
     kindMapping "s64" "Int" (some .toIr), kindMapping "f32" "Float" (some .toIr)]
  containers :=
    [{ external := "list", target := "Morphir.SDK:List:List" },
     { external := "option", target := "Morphir.SDK:Maybe:Maybe" },
     { external := "result", target := "Morphir.SDK:Result:Result", arity := .fixed 2 },
     { external := "tuple", target := "tuple", arity := .variadic }]

/-- The registry of WIT with a user's settings, if there are any. -/
def witRegistry (config : Option Config := none) : Registry :=
  let builder := Builder.withDefaults { binding := witBinding } witDefaults
  match config with
  | some config => (builder.withConfig config).build
  | none => builder.build

end WitBridge.Mapping
