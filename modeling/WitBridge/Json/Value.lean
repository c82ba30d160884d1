import WitBridge.Numeral

/-!
# JSON values

A value as its text spells it. An object keeps its members in order, repeated names included;
a number keeps its digits; and a string whose escapes spell no text, such as half of a
surrogate pair, is kept as such, for whether that is a fault depends on where it stands.
-/
namespace WitBridge.Json

/-- A number as written. -/
structure Number where
  /-- Whether a minus sign stands in front. -/
  negative : Bool := false
  /-- The digits before the point. -/
  whole : List Char
  /-- The digits after the point, if there is one. -/
  fraction : Option (List Char) := none
  /-- Whether the exponent is negative, and its digits. -/
  exponent : Option (Bool × List Char) := none
  deriving DecidableEq, Repr

/-- A JSON value. -/
inductive Value where
  | null
  | bool (value : Bool)
  | number (value : Number)
  /-- A string, with no text if its escapes spell none. -/
  | string (text : Option String)
  | array (items : List Value)
  | object (members : List (Option String × Value))
  deriving Repr

namespace Number

/-- The value of an integer literal. A literal with a point or an exponent is none, and neither
is the negative zero. -/
def integer? (number : Number) : Option Int :=
  match number.fraction, number.exponent with
  | none, none =>
    let size := Text.decimal number.whole
    if number.negative then (if size = 0 then none else some (-size)) else some size
  | _, _ => none

/-- Add digits to the end of a number while it stays below 2^64: the number, and how many
digits are left. -/
def absorb (value : Nat) : List Char → Nat × Nat
  | [] => (value, 0)
  | c :: rest =>
    let next := value * 10 + Text.decimal [c]
    if next < UInt64.size then absorb next rest else (value, rest.length + 1)

/-- The exponent, zero if there is none. -/
def power (number : Number) : Int :=
  match number.exponent with
  | some (true, digits) => -(Text.decimal digits : Int)
  | some (false, digits) => Text.decimal digits
  | none => 0

/-- Whether the number is finite in double precision. Only so many digits count as stay below
2^64; they and the power of ten that puts the point in its place are rounded one by one, and
so is their product. -/
def isFinite (number : Number) : Bool :=
  let fraction := number.fraction.getD []
  let (significand, wholeLeft) := absorb 0 number.whole
  let (significand, fractionLeft) := absorb significand fraction
  Double.isFiniteProduct significand
    (number.power + wholeLeft + fractionLeft - fraction.length)

/-- The characters of the number. -/
def chars (number : Number) : List Char :=
  let fraction := match number.fraction with
    | some digits => '.' :: digits
    | none => []
  let exponent := match number.exponent with
    | some (negative, digits) => 'e' :: (if negative then '-' :: digits else digits)
    | none => []
  (if number.negative then ['-'] else []) ++ number.whole ++ fraction ++ exponent

end Number

namespace Value

/-- A string that is a text. -/
def text (text : String) : Value :=
  string (some text)

/-- An object with given names and values. -/
def ofFields (fields : List (String × Value)) : Value :=
  object (fields.map fun (name, value) => (some name, value))

mutual
/-- Whether every string of a value is a text, every number is finite, and arrays and objects
nest at most `levels` deep. -/
def isPlain (levels : Nat) : Value → Bool
  | null | bool _ => true
  | number value => value.isFinite
  | string text => text.isSome
  | array items => 0 < levels && isPlainItems (levels - 1) items
  | object members => 0 < levels && isPlainMembers (levels - 1) members
/-- Whether every item is plain. -/
def isPlainItems (levels : Nat) : List Value → Bool
  | [] => true
  | item :: rest => isPlain levels item && isPlainItems levels rest
/-- Whether every name is a text and every value is plain. -/
def isPlainMembers (levels : Nat) : List (Option String × Value) → Bool
  | [] => true
  | (name, value) :: rest =>
    name.isSome && isPlain levels value && isPlainMembers levels rest
end

end Value

end WitBridge.Json
