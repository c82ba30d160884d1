import WitBridge.Token.Kind
import WitBridge.Token.Trivia
import WitBridge.Text.Quoted

/-!
# Lexemes

A text is cut into lexemes, each with the trivia before it, and the trivia at its end. A word
or a run of digits is as long as possible; a character that begins no token is a lexeme of its
own, so cutting never fails. The lexemes in order give the text back, character by character.
-/
namespace WitBridge.Token

/-- Whether a character begins a word. -/
def isWordStart (c : Char) : Bool :=
  c.isAlpha || c = '_'

/-- Whether a character continues a word. -/
def isWordPart (c : Char) : Bool :=
  c.isAlphanum || c = '-' || c = '_'

/-- The mark that a single character stands for. A slash is a mark only where it opens no
comment, which the trivia before it has settled. -/
def Mark.ofChar? : Char → Option Mark
  | '(' => some .leftParen
  | ')' => some .rightParen
  | '{' => some .leftBrace
  | '}' => some .rightBrace
  | '<' => some .leftAngle
  | '>' => some .rightAngle
  | ',' => some .comma
  | ':' => some .colon
  | ';' => some .semicolon
  | '=' => some .equal
  | '*' => some .star
  | '/' => some .slash
  | '.' => some .dot
  | '@' => some .atSign
  | '%' => some .percent
  | _ => none

/-- A token without its place: the trivia before it, its kind and its characters. -/
structure Lexeme where
  /-- Trivia between the token before and this one. -/
  gap : List Trivia
  /-- What the token is. -/
  kind : Kind
  /-- The characters of the token. -/
  text : List Char
  deriving DecidableEq, Repr

namespace Lexeme

/-- The kind and characters of the token at the front of a text that begins with the character
`c`, and the text after it. -/
def cut (c : Char) (rest : List Char) : Kind × List Char × List Char :=
  match Mark.ofChar? c with
  | some mark => (.mark mark, [c], rest)
  | none =>
    if c = '-' then
      match rest with
      | '>' :: after => (.mark .arrow, ['-', '>'], after)
      | _ => (.invalid, ['-'], rest)
    else if c.isDigit then
      (.integer, c :: rest.takeWhile Char.isDigit, rest.dropWhile Char.isDigit)
    else if isWordStart c then
      let word := c :: rest.takeWhile isWordPart
      let kind := if word = ['_'] then .mark .underscore else .ofWord (String.ofList word)
      (kind, word, rest.dropWhile isWordPart)
    else (.invalid, [c], rest)

/-- The lexeme at the front of a text, unless only trivia is left, and the text after it. -/
def next? (text : List Char) : Option (Lexeme × List Char) :=
  match Trivia.span text with
  | (_, []) => none
  | (gap, c :: rest) =>
    let (kind, word, after) := cut c rest
    some (⟨gap, kind, word⟩, after)

/-- The message that an invalid token carries in place of its characters. -/
def complaint : List Char → String
  | ['-'] => "unexpected '-'"
  | c :: _ => s!"unexpected character {Text.quotedChar c}"
  | [] => ""

/-- The value of the token: its characters, or what is wrong with them. -/
def value (lexeme : Lexeme) : String :=
  match lexeme.kind with
  | .invalid => complaint lexeme.text
  | _ => String.ofList lexeme.text

/-- All characters of the lexeme, its trivia first. -/
def chars (lexeme : Lexeme) : List Char :=
  lexeme.gap.flatMap Trivia.chars ++ lexeme.text

/-- A token and the text after it give the text back. -/
theorem cut_append (c : Char) (rest : List Char) :
    (cut c rest).2.1 ++ (cut c rest).2.2 = c :: rest := by
  unfold cut
  split
  · rfl
  · split
    · split <;> simp_all
    · split
      · simp
      · split <;> simp

/-- A token has a character. -/
theorem cut_ne_nil (c : Char) (rest : List Char) : (cut c rest).2.1 ≠ [] := by
  unfold cut
  split
  · simp
  · split
    · split <;> simp
    · split
      · simp
      · split <;> simp

/-- A lexeme and the text after it give the text back. -/
theorem chars_append_of_next? {text rest : List Char} {lexeme : Lexeme}
    (found : next? text = some (lexeme, rest)) : lexeme.chars ++ rest = text := by
  unfold next? at found
  have whole := Trivia.chars_append_span text
  split at found
  · simp at found
  · next gap c tail split =>
    rw [split] at whole
    obtain ⟨rfl, rfl⟩ := by simpa using found
    simp only [chars, List.append_assoc]
    rw [cut_append]
    exact whole

/-- The token of a lexeme has a character. -/
theorem text_ne_nil_of_next? {text rest : List Char} {lexeme : Lexeme}
    (found : next? text = some (lexeme, rest)) : lexeme.text ≠ [] := by
  unfold next? at found
  split at found
  · simp at found
  · next gap c tail split =>
    obtain ⟨rfl, rfl⟩ := by simpa using found
    exact cut_ne_nil c tail

/-- A lexeme takes characters off the text. -/
theorem length_lt_of_next? {text rest : List Char} {lexeme : Lexeme}
    (found : next? text = some (lexeme, rest)) : rest.length < text.length := by
  have whole := congrArg List.length (chars_append_of_next? found)
  have := List.length_pos_iff.2 (text_ne_nil_of_next? found)
  simp [chars] at whole
  omega

/-- All lexemes of a text. -/
def scan (text : List Char) : List Lexeme :=
  match _found : next? text with
  | none => []
  | some (lexeme, rest) => lexeme :: scan rest
termination_by text.length
decreasing_by exact length_lt_of_next? _found

/-- The trivia after the last lexeme of a text. -/
def tail (text : List Char) : List Trivia :=
  match _found : next? text with
  | none => (Trivia.span text).1
  | some (_, rest) => tail rest
termination_by text.length
decreasing_by exact length_lt_of_next? _found

/-- Where no lexeme is left the text is all trivia. -/
theorem chars_span_of_next?_eq_none {text : List Char} (none_left : next? text = none) :
    (Trivia.span text).1.flatMap Trivia.chars = text := by
  have whole := Trivia.chars_append_span text
  unfold next? at none_left
  split at none_left
  · next gap split => rw [split] at whole ⊢; simpa using whole
  · simp at none_left

/-- Cutting loses nothing: the lexemes and the trivia at the end give the text back. -/
theorem chars_append_tail (text : List Char) :
    (scan text).flatMap chars ++ (tail text).flatMap Trivia.chars = text := by
  fun_induction scan text with
  | case1 text found =>
    rw [tail]
    split
    · simpa using chars_span_of_next?_eq_none found
    · simp_all
  | case2 text lexeme rest found ih =>
    rw [tail]
    split
    · simp_all
    · next other again =>
      obtain ⟨rfl, rfl⟩ := by simpa [found] using again
      simp only [List.flatMap_cons, List.append_assoc, ih]
      exact chars_append_of_next? found

end Lexeme

end WitBridge.Token
