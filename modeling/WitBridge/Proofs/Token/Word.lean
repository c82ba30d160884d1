import WitBridge.Proofs.Parser.Reads

/-!
# Words and identifiers

A word of a text is more than a name: it may have capitals and underscores in it, and any number of
hyphens at its end. So not every word is a name, but every name is one word, and one that is escaped
is a mark and a word.
-/
namespace WitBridge

/-- A text in kebab case is of small letters, digits and hyphens, begins with a letter and does not
end in a hyphen. -/
theorem isKebab_iff {text : List Char} :
    isKebab text = true ↔
      (∀ c ∈ text, c.isLower = true ∨ c.isDigit = true ∨ c = '-') ∧
        (∃ c ∈ text.head?, c.isAlpha = true) ∧ text.getLast? ≠ some '-' := by
  cases text with
  | nil => simp [isKebab]
  | cons c rest =>
    have parts : rest.all isNamePart = true ↔
        ∀ d ∈ rest, d.isLower = true ∨ d.isDigit = true ∨ d = '-' := by
      simp [isNamePart, or_assoc]
    have first : c.isLower = true ↔
        (c.isLower = true ∨ c.isDigit = true ∨ c = '-') ∧ c.isAlpha = true := by
      refine ⟨fun lower => ⟨.inl lower, (Text.case_of_isLower lower).2.2.1⟩, ?_⟩
      rintro ⟨lower | digit | rfl, alpha⟩
      · exact lower
      · simp [(Text.case_of_isDigit digit).2.2.1] at alpha
      · exact absurd alpha (by decide)
    have last : c.isLower = true →
        ((c :: rest).getLast? ≠ some '-' ↔ rest.getLast? ≠ some '-') := by
      intro lower
      cases rest with
      | nil => simpa using (Text.case_of_isLower lower).2.2.2.2.2.2.2
      | cons d more => rw [List.getLast?_cons_cons]
    rw [isKebab, Bool.and_eq_true, Bool.and_eq_true, bne_iff_ne, parts, List.forall_mem_cons]
    constructor
    · rintro ⟨⟨lower, inside⟩, ending⟩
      exact ⟨⟨(first.1 lower).1, inside⟩, ⟨c, rfl, (first.1 lower).2⟩, (last lower).2 ending⟩
    · rintro ⟨⟨part, inside⟩, ⟨d, found, alpha⟩, ending⟩
      obtain rfl : c = d := by simpa using found
      have lower := first.2 ⟨part, alpha⟩
      exact ⟨⟨lower, inside⟩, (last lower).1 ending⟩

namespace Token

open Kind (isWord_ofWord)

/-- A word at the front of a text begins as words do. -/
theorem Lexeme.start_of_cut {c : Char} {tail word rest : List Char} {kind : Kind}
    (cut : Lexeme.cut c tail = (kind, word, rest)) (isWord : kind.isWord = true) :
    isWordStart c = true ∧ ∃ more, word = c :: more := by
  unfold Lexeme.cut at cut
  split at cut
  · cases cut
    contradiction
  · split at cut
    · split at cut <;> cases cut <;> contradiction
    · split at cut
      · cases cut
        contradiction
      · split at cut
        · next start =>
          cases cut
          exact ⟨start, _, rfl⟩
        · cases cut
          contradiction

/-- The words of a text begin as words do. -/
theorem start_of_mem_placed {text : List Char} {position : Position} {token : Token}
    (member : token ∈ placed position (Lexeme.scan text)) (isWord : token.kind.isWord = true) :
    ∃ c ∈ token.value.toList.head?, isWordStart c = true := by
  fun_induction Lexeme.scan text generalizing position with
  | case1 => simp [placed] at member
  | case2 text lexeme rest found ih =>
    rcases List.mem_cons.1 member with rfl | member
    · obtain ⟨c, tail, -, cut⟩ := Lexeme.exists_cut_of_next? found
      obtain ⟨start, more, shape⟩ := Lexeme.start_of_cut cut isWord
      have value : (ofLexeme position lexeme).value.toList = c :: more := by
        rw [ofLexeme, Lexeme.value_of_isWord isWord, String.toList_ofList, shape]
      exact ⟨c, by rw [value]; rfl, start⟩
    · exact ih member

end Token

namespace TokenStream

open Token (Kind Sign signs)

/-- A name in kebab case is one word. -/
theorem ahead_of_name (name : KebabName) :
    ∃ word, (ofSource name.text).ahead = [word] ∧ word.kind.isWord = true ∧
      word.value = name.text := by
  have shown : (ofSource name.text).ahead.map Token.sign =
      [⟨.ofWord name.text, name.text, []⟩] := by
    have text : name.text.toList = name.text.toList ++ [] := by simp
    rw [(shows_ofSource _).ahead, text, Token.signs_name name [] Token.loose_nil, Token.signs_nil]
  obtain ⟨word, ahead, sign⟩ := List.map_eq_singleton_iff.1 shown
  refine ⟨word, ahead, ?_, congrArg Sign.value sign⟩
  rw [show word.kind = _ from congrArg Sign.kind sign]
  exact Kind.isWord_ofWord name.text

/-- A name in kebab case behind the mark of an escape is the mark and a word. -/
theorem ahead_of_escaped (name : KebabName) :
    ∃ mark word, (ofSource ("%" ++ name.text)).ahead = [mark, word] ∧
      mark.kind = .mark .percent ∧ word.kind.isWord = true ∧ word.value = name.text := by
  have shown : (ofSource ("%" ++ name.text)).ahead.map Token.sign =
      [⟨.mark .percent, "%", []⟩, ⟨.ofWord name.text, name.text, []⟩] := by
    have text : ("%" ++ name.text).toList = '%' :: (name.text.toList ++ []) := by simp
    rw [(shows_ofSource _).ahead, text, Token.signs_lone [] _ rfl,
      Token.signs_name name [] Token.loose_nil, Token.signs_nil]
  obtain ⟨mark, others, ahead, first, later⟩ := List.map_eq_cons_iff.1 shown
  obtain ⟨word, rfl, sign⟩ := List.map_eq_singleton_iff.1 later
  refine ⟨mark, word, ahead, congrArg Sign.kind first, ?_, congrArg Sign.value sign⟩
  rw [show word.kind = _ from congrArg Sign.kind sign]
  exact Kind.isWord_ofWord name.text

end TokenStream

namespace Identifier

/-- A text that does not begin with the mark of an escape spells an identifier if it is in kebab
case. -/
theorem exists_ofText_iff {text : String} (bare : '%' ∉ text.toList.head?) :
    (∃ name, ofText text = .ok name) ↔ isKebab text.toList = true := by
  have read : ofText text = (KebabName.ofText .identifier text).map (⟨false, ·⟩) := by
    unfold ofText
    split
    · next rest shape => simp [shape] at bare
    · rfl
  rw [read, KebabName.ofText]
  split
  · next kebab => simp [Except.map, kebab]
  · next other => simp [Except.map, other]

/-- Identifiers and words of a text. A text that spells an identifier is one word with the text as
its value, or, where it begins with the mark of an escape, the mark and a word with the rest as its
value. And of the words of any text just those spell an identifier that are of small letters, digits
and hyphens, begin with a letter and do not end in a hyphen. -/
theorem words_ofText (source : String) :
    (∀ name, ofText source = .ok name →
      ('%' ∉ source.toList.head? → ∃ word, (TokenStream.ofSource source).ahead = [word] ∧
        word.kind.isWord = true ∧ word.value = source) ∧
      ∀ rest : String, source = "%" ++ rest → ∃ mark word,
        (TokenStream.ofSource source).ahead = [mark, word] ∧ mark.kind = .mark .percent ∧
          word.kind.isWord = true ∧ word.value = rest) ∧
    ∀ token ∈ (TokenStream.ofSource source).ahead, token.kind.isWord = true →
      ((∃ name, ofText token.value = .ok name) ↔
        (∀ c ∈ token.value.toList, c.isLower = true ∨ c.isDigit = true ∨ c = '-') ∧
          (∃ c ∈ token.value.toList.head?, c.isAlpha = true) ∧
          token.value.toList.getLast? ≠ some '-') := by
  refine ⟨fun name read => ?_, fun token member isWord => ?_⟩
  · obtain ⟨escaped, bare⟩ := name
    have text := text_of_ofText read
    cases escaped with
    | false =>
      obtain rfl : bare.text = source := text
      refine ⟨fun _ => TokenStream.ahead_of_name bare, fun rest shape => ?_⟩
      -- A name in kebab case does not begin with the mark.
      have kebab := bare.kebab
      rw [shape] at kebab
      simp [isKebab, show '%'.isLower = false by decide] at kebab
    | true =>
      obtain rfl : "%" ++ bare.text = source := text
      refine ⟨fun apart => absurd (by simp) apart, fun rest shape => ?_⟩
      obtain rfl : bare.text = rest := by simpa using shape
      exact TokenStream.ahead_of_escaped bare
  · obtain ⟨c, front, start⟩ := Token.start_of_mem_placed member isWord
    have apart : '%' ∉ token.value.toList.head? := by
      intro found
      obtain rfl := Option.mem_unique front found
      exact absurd start (by decide)
    rw [exists_ofText_iff apart, isKebab_iff]

/-- A reserved word behind the mark of an escape is an identifier, and so is the word on its own. -/
theorem words_ofText_escaped :
    (∃ mark word, (TokenStream.ofSource "%type").ahead = [mark, word] ∧
      mark.kind = .mark .percent ∧ word.kind.isWord = true ∧ word.value = "type" ∧
      ∃ name, ofText word.value = .ok name) := by
  obtain ⟨read, accepts⟩ := words_ofText "%type"
  obtain ⟨mark, word, ahead, percent, isWord, value⟩ :=
    (read ⟨true, ⟨"type", by decide⟩⟩ (by rfl)).2 "type" rfl
  refine ⟨mark, word, ahead, percent, isWord, value, ?_⟩
  rw [accepts word (by simp [ahead]) isWord, value]
  exact isKebab_iff.1 (by decide)

end Identifier

end WitBridge
