/-!
# Character properties and blanks

A table of a character property lists its code points as closed ranges in rising order.
Membership is a search of the table. The characters with the property `White_Space` are blank, and
blanks are removed from the ends of a text.
-/
namespace WitBridge.Text

/-- Whether a character lies in one of the closed ranges of code points. -/
def inRanges (ranges : List (Nat × Nat)) (c : Char) : Bool :=
  ranges.any fun range => range.1 ≤ c.toNat && c.toNat ≤ range.2

/-- Code points with the property `White_Space`. -/
def blankRanges : List (Nat × Nat) :=
  [(0x9, 0xd), (0x20, 0x20), (0x85, 0x85), (0xa0, 0xa0), (0x1680, 0x1680), (0x2000, 0x200a),
   (0x2028, 0x2029), (0x202f, 0x202f), (0x205f, 0x205f), (0x3000, 0x3000)]

/-- Whether a character is white space in the sense of the standard. -/
def isBlank (c : Char) : Bool :=
  inRanges blankRanges c

/-- The text without the blanks at its end. -/
def trimEnd (text : List Char) : List Char :=
  (text.reverse.dropWhile isBlank).reverse

/-- The text without the blanks at its two ends. -/
def trim (text : List Char) : List Char :=
  trimEnd (text.dropWhile isBlank)

/-- Nothing is left of the empty text. -/
theorem trimEnd_nil : trimEnd [] = [] := rfl

/-- A text that ends in a character that is not blank loses nothing. -/
theorem trimEnd_append_singleton {text : List Char} {c : Char} (dark : isBlank c = false) :
    trimEnd (text ++ [c]) = text ++ [c] := by
  simp [trimEnd, dark]

end WitBridge.Text
