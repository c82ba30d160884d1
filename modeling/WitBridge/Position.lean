/-!
# Positions in a text

A position counts the bytes, lines and columns passed over from the start of a text. Offsets
count the bytes of the UTF-8 form from zero; lines and columns count from one, and a column
is one character wide whatever its number of bytes.
-/
namespace WitBridge

/-- A place in a source text. -/
structure Position where
  /-- Bytes before this place. -/
  offset : Nat
  /-- Line, from 1. -/
  line : Nat
  /-- Column in characters, from 1. -/
  column : Nat
  deriving DecidableEq, Repr

namespace Position

/-- The place before the first character. -/
def start : Position := ⟨0, 1, 1⟩

/-- The place after one more character; a newline begins the next line. -/
def advance (position : Position) (c : Char) : Position :=
  if c = '\n' then ⟨position.offset + 1, position.line + 1, 1⟩
  else ⟨position.offset + c.utf8Size, position.line, position.column + 1⟩

/-- The place after a run of characters. -/
def advanceOver (position : Position) (text : List Char) : Position :=
  text.foldl advance position

/-- Line and column as messages show them. -/
def display (position : Position) : String :=
  s!"{position.line}:{position.column}"

/-- Passing over nothing stays in place. -/
@[simp]
theorem advanceOver_nil (position : Position) : position.advanceOver [] = position := rfl

/-- Passing over one character first is passing over the whole. -/
@[simp]
theorem advanceOver_cons (position : Position) (c : Char) (text : List Char) :
    position.advanceOver (c :: text) = (position.advance c).advanceOver text := rfl

/-- Passing over two runs is passing over their concatenation. -/
theorem advanceOver_append (position : Position) (left right : List Char) :
    position.advanceOver (left ++ right) = (position.advanceOver left).advanceOver right := by
  simp [advanceOver]

end Position

end WitBridge
