import WitBridge.Text.Case
import WitBridge.Text.Pieces

/-!
# Names of the IR

A name is a list of words. It is read from any spelling whose words are told apart by
capitals, by the change between letters and digits, or by characters that are neither, and it
is written in camel, title or kebab case. A path is a list of names, written with dots.
-/
namespace WitBridge.Ir

/-- The words of a text in lower case. A word is a letter with the small letters after it, or a
run of digits; everything else separates words. -/
def wordsOf : List Char → List (List Char)
  | [] => []
  | c :: rest =>
    if c.isAlpha then
      (c :: rest.takeWhile Char.isLower).map Char.toLower :: wordsOf (rest.dropWhile Char.isLower)
    else if c.isDigit then
      (c :: rest.takeWhile Char.isDigit) :: wordsOf (rest.dropWhile Char.isDigit)
    else wordsOf rest
termination_by text => text.length
decreasing_by
  · have := (List.dropWhile_suffix (l := rest) Char.isLower).length_le; simp; omega
  · have := (List.dropWhile_suffix (l := rest) Char.isDigit).length_le; simp; omega
  · simp

/-- A hyphen before each capital but the first character. -/
def hyphenate : List Char → List Char
  | [] => []
  | c :: rest => c :: rest.flatMap fun d => if d.isUpper then ['-', d] else [d]

/-- The kebab case of a text in camel case. -/
def camelToKebab (text : String) : String :=
  String.ofList (Text.lower (hyphenate text.toList))

/-- A name as a list of words. -/
structure Name where
  words : List String
  deriving DecidableEq, Repr

namespace Name

/-- The name that a text spells. -/
def ofText (text : String) : Name :=
  ⟨(wordsOf text.toList).map String.ofList⟩

/-- Whether the name has no words. -/
def isEmpty (name : Name) : Bool :=
  name.words.isEmpty

/-- Words run together, each with a capital. -/
def capitalized (words : List String) : String :=
  String.join (words.map fun word => String.ofList (Text.capitalize word.toList))

/-- The name with a capital at each word but the first. -/
def camel (name : Name) : String :=
  match name.words with
  | [] => ""
  | first :: rest => first ++ capitalized rest

/-- The name with a capital at each word. -/
def title (name : Name) : String :=
  capitalized name.words

/-- The name in kebab case. -/
def kebab (name : Name) : String :=
  camelToKebab name.camel

end Name

/-- A path as a list of names. -/
structure Path where
  names : List Name
  deriving DecidableEq, Repr

namespace Path

/-- The path that a text spells with dots; segments without words are left out. -/
def ofText (text : String) : Path :=
  ⟨((Text.pieces '.' text.toList).map fun piece => Name.ofText (String.ofList piece)).filter
    (!·.isEmpty)⟩

/-- The last name of the path. -/
def last? (path : Path) : Option Name :=
  path.names.getLast?

/-- The path in title case with dots between its names. -/
def display (path : Path) : String :=
  ".".intercalate (path.names.map Name.title)

end Path

end WitBridge.Ir
