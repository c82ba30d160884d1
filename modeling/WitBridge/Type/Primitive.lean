/-!
# Primitive types

The thirteen primitive types of WIT and their spellings. The spelling is also the key under
which a type mapping of the kind is registered.
-/
namespace WitBridge

/-- A primitive type. -/
inductive Primitive where
  | u8 | u16 | u32 | u64 | s8 | s16 | s32 | s64 | f32 | f64 | bool | char | string
  deriving DecidableEq, Repr

namespace Primitive

/-- Every primitive type. -/
def all : List Primitive :=
  [u8, u16, u32, u64, s8, s16, s32, s64, f32, f64, bool, char, string]

/-- The reserved word that names the type. -/
def spelling : Primitive → String
  | u8 => "u8"
  | u16 => "u16"
  | u32 => "u32"
  | u64 => "u64"
  | s8 => "s8"
  | s16 => "s16"
  | s32 => "s32"
  | s64 => "s64"
  | f32 => "f32"
  | f64 => "f64"
  | bool => "bool"
  | char => "char"
  | string => "string"

/-- The primitive type that a word names. -/
def ofSpelling? (word : String) : Option Primitive :=
  all.find? (·.spelling = word)

/-- Whether the type is one of the eight integer types. -/
def isInteger : Primitive → Bool
  | u8 | u16 | u32 | u64 | s8 | s16 | s32 | s64 => true
  | _ => false

/-- Whether the type is one of the two floating-point types. -/
def isFloat : Primitive → Bool
  | f32 | f64 => true
  | _ => false

/-- Every primitive type is listed. -/
theorem mem_all (kind : Primitive) : kind ∈ all := by
  cases kind <;> decide

/-- A spelling names the type it belongs to. -/
theorem ofSpelling?_spelling (kind : Primitive) : ofSpelling? kind.spelling = some kind := by
  cases kind <;> decide

end Primitive

end WitBridge
