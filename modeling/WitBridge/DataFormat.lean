/-!
# Data formats

Settings may be written in more than one format. What the reader of a record needs of a
format is how its values are taken apart: records into fields, lists into items, and texts,
truth values and integers into themselves. Each view fails on a value of another kind.
-/
namespace WitBridge

/-- How the values of a data format are taken apart. -/
structure DataFormat (V : Type) where
  /-- The values of the fields of a record, in the order of their names; a field that is not
  given has none. -/
  fields? : List String → V → Option (List (Option V))
  /-- The items of a list. -/
  items? : V → Option (List V)
  /-- The text of a string. -/
  text? : V → Option String
  /-- A truth value. -/
  bool? : V → Option Bool
  /-- An integer of 32 bits. -/
  int32? : V → Option Int

namespace DataFormat

variable {V α : Type}

/-- The items of a list, each read. -/
def listOf? (format : DataFormat V) (read : V → Option α) (value : V) : Option (List α) := do
  (← format.items? value).mapM read

/-- An integer if 32 bits hold it. -/
def narrow? (value : Int) : Option Int :=
  if Int32.minValue.toInt ≤ value ∧ value ≤ Int32.maxValue.toInt then some value else none

/-- A field that takes a default if it is not given. -/
def fieldOr (default : α) (read : V → Option α) : Option V → Option α
  | none => some default
  | some value => read value

end DataFormat

end WitBridge
