import WitBridge.DataFormat
import WitBridge.Json.Value

/-!
# Records in JSON

A record is an object with a member for each field, or an array of its fields in order. Other
members of an object are passed over, but no field is given twice; an array may stop early
but holds no more than the fields. A choice between records is told by a tag: the member
`kind` of an object, or the first item of an array.
-/
namespace WitBridge.Json

/-- How many levels arrays and objects may nest. -/
def nestingLimit : Nat := 127

namespace Value

/-- The text of a string. -/
def text? : Value → Option String
  | string text => text
  | _ => none

/-- The items of an array. -/
def items? : Value → Option (List Value)
  | array items => some items
  | _ => none

/-- A truth value. -/
def bool? : Value → Option Bool
  | bool value => some value
  | _ => none

/-- An integer of 32 bits. -/
def int32? : Value → Option Int
  | number value => do DataFormat.narrow? (← value.integer?)
  | _ => none

/-- The items of an array, each read. -/
def listOf? {α : Type} (read : Value → Option α) (value : Value) : Option (List α) := do
  (← value.items?).mapM read

end Value

/-- The values given for a name. -/
def valuesOf (members : List (Option String × Value)) (name : String) : List Value :=
  members.filterMap fun (found, value) => if found = some name then some value else none

/-- The values of the fields of a record, in the order of their names; a field that is not given
has none. -/
def Value.fields? (names : List String) : Value → Option (List (Option Value))
  | .array items =>
    if items.length ≤ names.length then
      some (items.map some ++ List.replicate (names.length - items.length) none)
    else none
  | .object members =>
    if members.all (·.1.isSome) && names.all (fun name => (valuesOf members name).length ≤ 1) then
      some (names.map fun name => (valuesOf members name).head?)
    else none
  | _ => none

/-- How records are read from JSON. -/
def dataFormat : DataFormat Value where
  fields? := Value.fields?
  items? := Value.items?
  text? := Value.text?
  bool? := Value.bool?
  int32? := Value.int32?

/-- The tag of a choice and the record without it. -/
def Value.tagged? : Value → Option (Value × Value)
  | .array (tag :: rest) => some (tag, .array rest)
  | .object members =>
    match valuesOf members "kind" with
    | [tag] => some (tag, .object (members.filter (·.1 ≠ some "kind")))
    | _ => none
  | _ => none

end WitBridge.Json
