import Mathlib.Data.List.DropRight
import Mathlib.Data.List.TakeWhile
import WitBridge.Proofs.Token.Sign

/-!
# What tokens say of their text

The documentation before a token is in lines without newlines and without blanks at their ends.
A word has the kind of its characters. A number is a run of digits, and an identifier begins with
no digit.
-/
namespace WitBridge.Token

/-- A line of documentation as it is kept: without a newline and without blanks at its end. -/
def IsDocLine (line : String) : Prop :=
  '\n' ∉ line.toList ∧ Text.trimEnd line.toList = line.toList

/-- A part of a version: digits, or a text that begins with something else. -/
def IsSegment (text : List Char) : Prop :=
  (∀ c ∈ text, c.isDigit = true) ∨ ∃ c ∈ text.head?, c.isDigit = false

/-- What a token of a source text says of its characters. -/
structure Tidy (token : Token) : Prop where
  /-- The documentation is in tidy lines. -/
  docs : ∀ line ∈ token.docs, IsDocLine line
  /-- A word has the kind of its characters. -/
  word : token.kind.isWord = true → token.kind = .ofWord token.value
  /-- A number is a run of digits. -/
  integer : token.kind = .integer → ∀ c ∈ token.value.toList, c.isDigit = true
  /-- An identifier begins with another character than a digit. -/
  identifier : token.kind = .identifier → ∃ c ∈ token.value.toList.head?, c.isDigit = false

/-- A number or an identifier may be a part of a version. -/
theorem Tidy.segment {token : Token} (tidy : token.Tidy)
    (numeric : token.kind = .integer ∨ token.kind = .identifier) :
    IsSegment token.value.toList :=
  numeric.imp tidy.integer tidy.identifier

/-- Removing blanks from the end twice removes no more than once. -/
theorem trimEnd_trimEnd (text : List Char) :
    Text.trimEnd (Text.trimEnd text) = Text.trimEnd text := by
  simp only [Text.trimEnd, List.reverse_reverse, List.dropWhile_idempotent]

/-- No character is new after blanks are removed from the end. -/
theorem mem_of_mem_trimEnd {c : Char} {text : List Char} (member : c ∈ Text.trimEnd text) :
    c ∈ text := by
  rw [Text.trimEnd, List.mem_reverse] at member
  exact List.mem_reverse.1 ((List.dropWhile_sublist _).mem member)

/-- The text of a comment that is documentation is kept without blanks at its end. -/
theorem isDocLine_of_doc? {item : Trivia} {line : String}
    (single : ∀ body, item = .line body → '\n' ∉ body) (found : item.doc? = some line) :
    IsDocLine line := by
  have kept : ∀ text : List Char, '\n' ∉ text → IsDocLine (String.ofList (Text.trimEnd text)) := by
    intro text absent
    refine ⟨?_, ?_⟩
    · rw [String.toList_ofList]
      exact fun member => absent (mem_of_mem_trimEnd member)
    · rw [String.toList_ofList, trimEnd_trimEnd]
  unfold Trivia.doc? at found
  split at found
  · contradiction
  · next text =>
    cases found
    exact kept text fun member => single _ rfl (by simp [member])
  · next text _ _ =>
    cases found
    exact kept text fun member => single _ rfl (by simp [member])
  · contradiction

/-- A line comment ends before its newline. -/
theorem Trivia.single_of_next? {text rest : List Char} {item : Trivia}
    (found : Trivia.next? text = some (item, rest)) :
    ∀ body, item = .line body → '\n' ∉ body := by
  rintro body rfl member
  unfold Trivia.next? at found
  split at found
  · contradiction
  · next tail =>
    simp only [Option.some.injEq, Prod.mk.injEq, Trivia.line.injEq] at found
    rw [← found.1] at member
    simpa using List.mem_takeWhile_imp member
  · simp at found
  · split at found <;> simp at found

/-- The documentation in the trivia at the front of a text is tidy. -/
theorem isDocLine_of_mem_docs (text : List Char) :
    ∀ line ∈ Trivia.docs (Trivia.span text).1, IsDocLine line := by
  fun_induction Trivia.span text with
  | case1 => simp [Trivia.docs]
  | case2 text item rest found items after split ih =>
    rw [split] at ih
    intro line member
    rw [Trivia.docs, List.filterMap_cons] at member
    split at member
    · exact ih line member
    · next kept =>
      rcases List.mem_cons.1 member with rfl | member
      · exact isDocLine_of_doc? (Trivia.single_of_next? found) kept
      · exact ih line member

/-- A word at the front of a text has the kind of its characters. -/
theorem Lexeme.kind_cut (c : Char) (rest : List Char)
    (isWord : (Lexeme.cut c rest).1.isWord = true) :
    (Lexeme.cut c rest).1 = .ofWord (String.ofList (Lexeme.cut c rest).2.1) := by
  unfold Lexeme.cut at isWord ⊢
  split at isWord
  · contradiction
  · simp only
    split at isWord
    · split at isWord <;> contradiction
    · split at isWord
      · contradiction
      · split at isWord
        · next hyphen digit start =>
          simp only [hyphen, digit, start, ↓reduceIte, Bool.false_eq_true] at isWord ⊢
          split at isWord
          · contradiction
          · next other => rw [if_neg other]
        · contradiction

/-- A number at the front of a text is a run of digits. -/
theorem Lexeme.digits_cut (c : Char) (rest : List Char)
    (number : (Lexeme.cut c rest).1 = .integer) :
    ∀ d ∈ (Lexeme.cut c rest).2.1, d.isDigit = true := by
  unfold Lexeme.cut at number ⊢
  split at number
  · contradiction
  · simp only
    split at number
    · split at number <;> contradiction
    · next hyphen =>
      split at number
      · next digit =>
        simp only [hyphen, digit, ↓reduceIte]
        intro d member
        rcases List.mem_cons.1 member with rfl | member
        · exact digit
        · exact List.mem_takeWhile_imp member
      · split at number
        · simp only at number
          split at number
          · contradiction
          · have isWord := Kind.isWord_ofWord (String.ofList (c :: rest.takeWhile isWordPart))
            rw [number] at isWord
            contradiction
        · contradiction

/-- An identifier at the front of a text begins with no digit. -/
theorem Lexeme.head_cut (c : Char) (rest : List Char)
    (isName : (Lexeme.cut c rest).1 = .identifier) :
    ∃ d ∈ (Lexeme.cut c rest).2.1.head?, d.isDigit = false := by
  unfold Lexeme.cut at isName ⊢
  split at isName
  · contradiction
  · simp only
    split at isName
    · split at isName <;> contradiction
    · next hyphen =>
      split at isName
      · contradiction
      · next digit =>
        split at isName
        · next start =>
          simp only [hyphen, digit, start, ↓reduceIte]
          exact ⟨c, rfl, by simpa using digit⟩
        · contradiction

/-- What a lexeme says of its characters, wherever it stands. -/
theorem tidy_ofLexeme {text rest : List Char} {lexeme : Lexeme} (position : Position)
    (found : Lexeme.next? text = some (lexeme, rest)) : (ofLexeme position lexeme).Tidy := by
  have tidyDocs := isDocLine_of_mem_docs text
  obtain ⟨c, tail, spanned, cut⟩ := Lexeme.exists_cut_of_next? found
  rw [spanned] at tidyDocs
  have value (valid : lexeme.kind ≠ .invalid) :
      (ofLexeme position lexeme).value = String.ofList lexeme.text := Lexeme.value_of_valid valid
  have word := Lexeme.kind_cut c tail
  have digits := Lexeme.digits_cut c tail
  have head := Lexeme.head_cut c tail
  rw [cut] at word digits head
  refine ⟨tidyDocs, fun isWord => ?_, fun number => ?_, fun isName => ?_⟩
  · exact (word isWord).trans (congrArg Kind.ofWord (Lexeme.value_of_isWord isWord).symm)
  · have kind : lexeme.kind = .integer := number
    rw [value (by simp [kind]), String.toList_ofList]
    exact digits kind
  · have kind : lexeme.kind = .identifier := isName
    rw [value (by simp [kind]), String.toList_ofList]
    exact head kind

/-- All tokens of a text are tidy. -/
theorem tidy_of_mem_placed (text : List Char) (position : Position) :
    ∀ token ∈ placed position (Lexeme.scan text), token.Tidy := by
  fun_induction Lexeme.scan text generalizing position with
  | case1 => simp [placed]
  | case2 text lexeme rest found ih =>
    intro token member
    rcases List.mem_cons.1 member with rfl | member
    · exact tidy_ofLexeme position found
    · exact ih _ token member

end WitBridge.Token

namespace WitBridge.TokenStream

/-- Whether every token of a stream is tidy and the last one is the end of the input. -/
structure Tidy (stream : TokenStream) : Prop where
  /-- The tokens ahead are tidy. -/
  ahead : ∀ token ∈ stream.ahead, token.Tidy
  /-- The last token is tidy. -/
  final : stream.final.Tidy
  /-- The last token is the end of the input. -/
  ended : stream.final.kind = .endOfInput

/-- The token at hand is tidy. -/
theorem Tidy.current {stream : TokenStream} (tidy : stream.Tidy) : stream.current.Tidy := by
  unfold TokenStream.current
  cases tokens : stream.ahead with
  | nil => exact tidy.final
  | cons token more => exact tidy.ahead token (by simp [tokens])

/-- A stream stays tidy past its token. -/
theorem Tidy.advance {stream : TokenStream} (tidy : stream.Tidy) : stream.advance.Tidy := by
  unfold TokenStream.advance
  split
  · have last : Token.Tidy { stream.final with docs := [] } :=
      ⟨by simp, tidy.final.word, tidy.final.integer, tidy.final.identifier⟩
    exact ⟨by simp, last, tidy.ended⟩
  · next token more tokens =>
    exact ⟨fun other member => tidy.ahead other (by simp [tokens, member]), tidy.final, tidy.ended⟩

/-- The documentation at the end of a text is tidy. -/
theorem isDocLine_of_mem_tail (text : List Char) :
    ∀ line ∈ Token.Trivia.docs (Token.Lexeme.tail text), Token.IsDocLine line := by
  fun_induction Token.Lexeme.tail text with
  | case1 text _ => exact Token.isDocLine_of_mem_docs text
  | case2 text _ rest _ ih => exact ih

/-- The tokens of a source text are tidy. -/
theorem tidy_ofSource (source : String) : (ofSource source).Tidy where
  ahead := Token.tidy_of_mem_placed source.toList .start
  final := ⟨isDocLine_of_mem_tail source.toList, nofun, nofun, nofun⟩
  ended := rfl

end WitBridge.TokenStream
