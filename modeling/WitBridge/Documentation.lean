import WitBridge.Text.Pieces

/-!
# Documentation

Documentation is a list of lines. As one text its lines are joined by newlines, and a text
is split into lines at its newlines; the empty text is the absence of documentation.
-/
namespace WitBridge

/-- Lines of documentation, in order. -/
structure Documentation where
  /-- The lines, without newlines. -/
  lines : List String := []
  deriving DecidableEq, Repr, Inhabited

namespace Documentation

/-- The lines of a text; the empty text has none. -/
def ofText (text : String) : Documentation :=
  if text = "" then ⟨[]⟩
  else ⟨(Text.pieces '\n' text.toList).map String.ofList⟩

/-- The lines as one text. -/
def text (docs : Documentation) : String :=
  String.ofList (Text.join '\n' (docs.lines.map String.toList))

/-- Whether there are no lines. -/
def isEmpty (docs : Documentation) : Bool :=
  docs.lines.isEmpty

/-- A text is the text of its lines. -/
theorem text_ofText (text : String) : (ofText text).text = text := by
  unfold ofText
  split
  · next empty => subst empty; rfl
  · simp [Documentation.text, Function.comp_def, Text.join_pieces]

end Documentation

end WitBridge
