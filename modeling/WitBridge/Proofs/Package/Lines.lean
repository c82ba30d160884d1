import WitBridge.Proofs.Package.Reread

/-!
# Signs of written lines

The lines of a document differ in how far they are set in, which changes no sign. Lines of
documentation are kept for the token after them.
-/
namespace WitBridge

open Token (signs)

namespace Line

/-- The characters of lines that are set in some steps more. -/
def chars (layout : Layout) (depth : Nat) (lines : List Line) : List Char :=
  lines.flatMap fun line =>
    List.replicate ((line.depth + depth) * layout.indent) ' ' ++ line.text.toList ++ ['\n']

variable (layout : Layout) (depth : Nat)

/-- Rendered lines are the characters of the lines. -/
theorem toList_join_render (lines : List Line) :
    (String.join (lines.map (render layout))).toList = chars layout 0 lines := by
  simp [chars, render, List.flatMap_map]

@[simp]
theorem chars_nil : chars layout depth [] = [] := rfl

@[simp]
theorem chars_append (first second : List Line) :
    chars layout depth (first ++ second) =
      chars layout depth first ++ chars layout depth second := by
  simp [chars]

/-- A line further in is a line at more depth. -/
theorem chars_map_deeper (lines : List Line) :
    chars layout depth (lines.map deeper) = chars layout (depth + 1) lines := by
  simp only [chars, List.flatMap_map, deeper, Nat.add_assoc, Nat.add_comm 1]

/-- The lines of several parts are the parts in order. -/
theorem chars_flatMap {α : Type} (part : α → List Line) (items : List α) :
    chars layout depth (items.flatMap part) = items.flatMap fun item =>
      chars layout depth (part item) := by
  simp [chars, List.flatMap_assoc]

/-- A line at the margin of its part. -/
theorem signs_chars_flush (docs : List String) (text : String) (rest : List Char) :
    signs docs (chars layout depth [flush text] ++ rest) =
      signs docs (text.toList ++ '\n' :: rest) := by
  simp [chars, flush]

/-- A block: its heading, its body further in, and its closing brace. -/
theorem signs_chars_block (docs : List String) (heading : String) (body : List Line)
    (rest : List Char) :
    signs docs (chars layout depth (block heading body) ++ rest) =
      signs docs (heading.toList ++ ' ' :: '\x7b' :: '\n' ::
        (chars layout (depth + 1) body ++
          (List.replicate (depth * layout.indent) ' ' ++ '\x7d' :: '\n' :: rest))) := by
  have shape : block heading body =
      [flush (heading ++ " \x7b")] ++ (body.map deeper ++ [flush "\x7d"]) := by simp [block]
  rw [shape, chars_append, List.append_assoc, signs_chars_flush, chars_append, chars_map_deeper]
  simp [chars, flush]

/-- A block with a keyword and a name in its heading. -/
theorem signs_chars_heading (k : Token.Keyword) (docs : List String) (name : String)
    (body : List Line) (rest : List Char) :
    signs docs (chars layout depth (block (k.spelling ++ " " ++ name) body) ++ rest) =
      ⟨.keyword k, k.spelling, docs⟩ :: signs [] (name.toList ++ ' ' :: '\x7b' :: '\n' ::
        (chars layout (depth + 1) body ++
          (List.replicate (depth * layout.indent) ' ' ++ '\x7d' :: '\n' :: rest))) := by
  have shape : ∀ tail, (k.spelling ++ " " ++ name).toList ++ tail =
      k.spelling.toList ++ ' ' :: (name.toList ++ tail) := by simp
  rw [signs_chars_block, shape, Token.signs_keyword k docs (by simp; decide), Token.signs_space]

end Line

namespace Documentation

/-- A written line of documentation is kept without the blanks at its end. -/
theorem signs_line (docs : List String) (line : String) (rest : List Char)
    (single : '\n' ∉ line.toList) :
    signs docs ((if line = "" then "///" else "/// " ++ line).toList ++ '\n' :: rest) =
      signs (docs ++ [String.ofList (Text.trimEnd line.toList)]) rest := by
  by_cases empty : line = ""
  · subst empty
    have found : (Token.Trivia.line ['/']).doc? = some (String.ofList (Text.trimEnd [])) := rfl
    exact Token.signs_line docs rest (by decide) found
  · have shape : (if line = "" then "///" else "/// " ++ line).toList ++ '\n' :: rest =
        '/' :: '/' :: (('/' :: ' ' :: line.toList) ++ '\n' :: rest) := by simp [empty]
    have found : (Token.Trivia.line ('/' :: ' ' :: line.toList)).doc? =
        some (String.ofList (Text.trimEnd line.toList)) := rfl
    rw [shape]
    exact Token.signs_line docs rest (by simpa using single) found

/-- Written documentation is kept for the token after it. -/
theorem signs_lineList (layout : Layout) (depth : Nat) {written : Documentation}
    (rest : List Char) (single : written.SingleLines) :
    signs [] (Line.chars layout depth (written.lineList layout) ++ rest) =
      signs (written.reread layout).lines rest := by
  unfold lineList reread
  split
  · obtain ⟨lines⟩ := written
    have general : ∀ (lines : List String), (∀ line ∈ lines, '\n' ∉ line.toList) →
        ∀ docs : List String,
          signs docs (Line.chars layout depth (lines.map fun line =>
            Line.flush (if line = "" then "///" else "/// " ++ line)) ++ rest) =
          signs (docs ++ lines.map fun line => String.ofList (Text.trimEnd line.toList)) rest := by
      intro lines
      induction lines with
      | nil => intro _ docs; simp
      | cons line more ih =>
        intro single docs
        rw [List.map_cons, ← List.singleton_append, Line.chars_append, List.append_assoc,
          Line.signs_chars_flush, signs_line docs line _ (single line (by simp)),
          ih (fun other member => single other (List.mem_cons_of_mem _ member))]
        simp
    simpa using general lines single []
  · rfl

/-- What is documented and then stands on a line. -/
theorem signs_documented (layout : Layout) (depth : Nat) {written : Documentation} (text : String)
    (rest : List Char) (single : written.SingleLines) :
    signs [] (Line.chars layout depth (written.lineList layout ++ [.flush text]) ++ rest) =
      signs (written.reread layout).lines (text.toList ++ '\n' :: rest) := by
  rw [Line.chars_append, List.append_assoc, signs_lineList layout depth _ single,
    Line.signs_chars_flush]

end Documentation

end WitBridge
