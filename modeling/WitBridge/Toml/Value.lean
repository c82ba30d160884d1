import WitBridge.DataFormat

/-!
# TOML values

The values of TOML, and how records are read from them. A table remembers how it came to be,
because that decides what may still be added to it.
-/
namespace WitBridge.Toml

/-- How a table came to be. -/
inductive Origin where
  /-- Written between braces, and so complete. -/
  | inline
  /-- Opened by a heading of its own. -/
  | heading
  /-- Passed through by the heading of a table within it. -/
  | passage
  /-- Passed through by a dotted name. -/
  | dotted
  deriving DecidableEq, Repr

/-- A TOML value. Numbers with a fraction and points in time keep their spelling. -/
inductive Value where
  | string (text : String)
  | integer (value : Int)
  | float (spelling : String)
  | bool (value : Bool)
  | time (spelling : String)
  | array (items : List Value)
  /-- A table with its entries in order. -/
  | table (origin : Origin) (entries : List (String × Value))
  /-- The tables opened one after the other by headings of one name. -/
  | tables (elements : List (List (String × Value)))
  deriving Repr

namespace Value

/-- The items of an array. -/
def items? : Value → Option (List Value)
  | array items => some items
  | tables elements => some (elements.map (table .heading))
  | _ => none

/-- The text of a string. -/
def text? : Value → Option String
  | string text => some text
  | _ => none

/-- A truth value. -/
def bool? : Value → Option Bool
  | bool value => some value
  | _ => none

/-- An integer of 32 bits. -/
def int32? : Value → Option Int
  | integer value => DataFormat.narrow? value
  | _ => none

/-- The fields of a record: the entries of a table, or the items of an array in the order of the
names. Other entries and items are passed over. -/
def fields? (names : List String) : Value → Option (List (Option Value))
  | table _ entries => some (names.map fun name => entries.lookup name)
  | array items =>
    some ((items.take names.length).map some
      ++ List.replicate (names.length - items.length) none)
  | _ => none

end Value

/-- How records are read from TOML. -/
def dataFormat : DataFormat Value where
  fields? := Value.fields?
  items? := Value.items?
  text? := Value.text?
  bool? := Value.bool?
  int32? := Value.int32?

end WitBridge.Toml
