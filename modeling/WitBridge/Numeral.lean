/-!
# Numerals

Decimal and hexadecimal digits, the numbers that they spell, and which of these are finite as
doubles. A double holds 53 significant bits. A number is rounded to the nearest double, and one
halfway between two goes to the even one; from half a unit past the greatest finite double on, it
becomes infinite.
-/
namespace WitBridge

namespace Text

/-- The number that a run of decimal digits spells. -/
def decimal (digits : List Char) : Nat :=
  digits.foldl (fun value digit => value * 10 + (digit.toNat - '0'.toNat)) 0

/-- The value of a hexadecimal digit. -/
def hexDigit? (c : Char) : Option Nat :=
  if '0' ≤ c ∧ c ≤ '9' then some (c.toNat - '0'.toNat)
  else if 'a' ≤ c ∧ c ≤ 'f' then some (c.toNat - 'a'.toNat + 10)
  else if 'A' ≤ c ∧ c ≤ 'F' then some (c.toNat - 'A'.toNat + 10)
  else none

/-- The number that digits of a base spell, if each is a digit of it. -/
def numeral? (base : Nat) (digits : List Char) : Option Nat :=
  digits.foldlM (fun value digit => do
    let size ← hexDigit? digit
    if size < base then some (value * base + size) else none) 0

/-- A run of one or more decimal digits and the text after it. -/
def readDigits (text : List Char) : Option (List Char × List Char) :=
  match text.takeWhile Char.isDigit with
  | [] => none
  | digits => some (digits, text.dropWhile Char.isDigit)

end Text

namespace Double

/-- A natural number to 53 significant bits, a tie to the even neighbour. -/
def round (n : Nat) : Nat :=
  let unit := Nat.pow 2 (n.log2 + 1 - 53)
  let below := n / unit
  let twice := 2 * (n % unit)
  if twice < unit ∨ twice = unit ∧ below % 2 = 0 then below * unit else (below + 1) * unit

/-- The least number that rounds to infinity: half a unit past the greatest finite double. -/
def overflow : Nat :=
  Nat.pow 2 1024 - Nat.pow 2 970

/-- The greatest exponent of ten that a finite double has. -/
def maxPower : Nat := 308

/-- Whether the number that digits count in a power of ten is finite. -/
def isFiniteDecimal (digits : List Char) (power : Int) : Bool :=
  let digits := digits.dropWhile (· = '0')
  if digits.isEmpty || digits.length + power ≤ maxPower then true
  else if power > maxPower then false
  else if power ≥ 0 then Text.decimal digits * Nat.pow 10 power.toNat < overflow
  else Text.decimal digits < overflow * Nat.pow 10 (-power).toNat

/-- Whether a number times a power of ten is finite where both are rounded before they are
multiplied. A negative power divides, which leaves the number finite. -/
def isFiniteProduct (n : Nat) (power : Int) : Bool :=
  if n = 0 || power ≤ 0 then true
  else if power > maxPower then false
  else round n * round (Nat.pow 10 power.toNat) < overflow

end Double

end WitBridge
