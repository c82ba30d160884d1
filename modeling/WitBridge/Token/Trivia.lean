import WitBridge.Text.Blank

/-!
# Trivia

What may stand between two tokens: blanks, line comments and block comments, which nest. A
line comment that opens with exactly three slashes is documentation. Reading trivia loses
nothing: the characters of the items and the text after them give the text back.
-/
namespace WitBridge.Token

/-- A blank or a comment. -/
inductive Trivia where
  | blank (c : Char)
  /-- A line comment: the text after its two slashes, the newline excluded. -/
  | line (body : List Char)
  /-- A block comment: the text after its opening, with the closing if there is one. -/
  | block (body : List Char)
  deriving DecidableEq, Repr

namespace Trivia

/-- The four characters that separate tokens. -/
def isSeparator (c : Char) : Bool :=
  c = ' ' || c = '\t' || c = '\r' || c = '\n'

/-- The characters of an item. -/
def chars : Trivia → List Char
  | blank c => [c]
  | line body => '/' :: '/' :: body
  | block body => '/' :: '*' :: body

/-- The line of documentation that an item carries: the text after three slashes, less one
leading space and all blanks at the end. A fourth slash makes it an ordinary comment. -/
def doc? : Trivia → Option String
  | line ('/' :: '/' :: _) => none
  | line ('/' :: ' ' :: text) => some (String.ofList (Text.trimEnd text))
  | line ('/' :: text) => some (String.ofList (Text.trimEnd text))
  | _ => none

/-- The body of a block comment inside `depth` open blocks, and the text after it. A block that
is never closed reaches to the end of the text. -/
def splitBlock : Nat → List Char → List Char × List Char
  | 0, rest => ([], rest)
  | _ + 1, [] => ([], [])
  | depth + 1, '/' :: '*' :: rest =>
    let (body, after) := splitBlock (depth + 2) rest
    ('/' :: '*' :: body, after)
  | depth + 1, '*' :: '/' :: rest =>
    let (body, after) := splitBlock depth rest
    ('*' :: '/' :: body, after)
  | depth + 1, c :: rest =>
    let (body, after) := splitBlock (depth + 1) rest
    (c :: body, after)

/-- The item at the front of a text, if there is one, and the text after it. -/
def next? : List Char → Option (Trivia × List Char)
  | [] => none
  | '/' :: '/' :: rest => some (line (rest.takeWhile (· ≠ '\n')), rest.dropWhile (· ≠ '\n'))
  | '/' :: '*' :: rest =>
    let (body, after) := splitBlock 1 rest
    some (block body, after)
  | c :: rest => if isSeparator c then some (blank c, rest) else none

/-- The two parts of a block give the text back. -/
theorem splitBlock_append (depth : Nat) (text : List Char) :
    (splitBlock depth text).1 ++ (splitBlock depth text).2 = text := by
  fun_induction splitBlock depth text <;> simp_all

/-- An item and the text after it give the text back. -/
theorem chars_append_of_next? {text rest : List Char} {item : Trivia}
    (found : next? text = some (item, rest)) : item.chars ++ rest = text := by
  revert found
  fun_cases next? text
  case case1 => simp
  case case2 tail => rintro ⟨⟩; simp [chars]
  case case3 tail body after split =>
    rintro ⟨⟩
    have whole := splitBlock_append 1 tail
    rw [split] at whole
    simpa [chars] using whole
  case case4 => rintro ⟨⟩; rfl
  case case5 => simp

/-- Every item has a character. -/
theorem length_chars_pos (item : Trivia) : 0 < item.chars.length := by
  cases item <;> simp [chars]

/-- An item takes characters off the text. -/
theorem length_lt_of_next? {text rest : List Char} {item : Trivia}
    (found : next? text = some (item, rest)) : rest.length < text.length := by
  have whole := congrArg List.length (chars_append_of_next? found)
  have := length_chars_pos item
  simp at whole
  omega

/-- All trivia at the front of a text, and the text after it. -/
def span (text : List Char) : List Trivia × List Char :=
  match _found : next? text with
  | none => ([], text)
  | some (item, rest) =>
    let (items, after) := span rest
    (item :: items, after)
termination_by text.length
decreasing_by exact length_lt_of_next? _found

/-- The lines of documentation in a run of trivia, in order. -/
def docs (items : List Trivia) : List String :=
  items.filterMap doc?

/-- The trivia and the text after it give the text back. -/
theorem chars_append_span (text : List Char) :
    (span text).1.flatMap chars ++ (span text).2 = text := by
  fun_induction span text with
  | case1 => rfl
  | case2 text item rest found items after split ih =>
    rw [split] at ih
    simp only [List.flatMap_cons, List.append_assoc, ih]
    exact chars_append_of_next? found

/-- No trivia is left at the front. -/
theorem next?_span (text : List Char) : next? (span text).2 = none := by
  fun_induction span text with
  | case1 text found => exact found
  | case2 text item rest found items after split ih => simpa [split] using ih

end Trivia

end WitBridge.Token
