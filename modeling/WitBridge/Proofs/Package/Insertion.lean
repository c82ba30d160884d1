import WitBridge.Proofs.Package.Blindness
import WitBridge.Proofs.Text.Slice
import WitBridge.Proofs.Token.Insertion

/-!
# Layout and comments carry no meaning

Blanks and ordinary comments may be put at the front of a text and behind any of its tokens: the
text has the same signs as before and so spells the same package or none. What is put in begins
with a blank, for a comment behind a word, a number or a mark may be taken into the token.
-/
namespace WitBridge

open String (utf8Len)

/-- A text with another one put in at an offset in bytes. -/
def Text.insert (text : String) (place : Nat) (filler : String) : String :=
  slice text 0 place ++ filler ++ slice text place text.utf8ByteSize

/-- What is put in stands between the characters before the place and those after it. -/
theorem Text.toList_insert {text : String} {before after : List Char}
    (whole : text.toList = before ++ after) (filler : List Char) :
    (insert text (utf8Len before) (String.ofList filler)).toList = before ++ (filler ++ after) := by
  rw [insert, slice_front whole, slice_back whole]
  simp

namespace TokenStream

/-- Texts of the same signs make streams that are alike. -/
theorem alike_ofSource {source other : String} (alike : Token.Alike source.toList other.toList) :
    (ofSource source).Alike (ofSource other) := by
  refine ⟨?_, ?_⟩
  · simp only [ofSource, Token.map_sign_placed, alike.signs]
  · simp only [ofSource, Token.endAfter, Token.sign, alike.docs]

/-- A token that is taken is ahead, or it ends the input. -/
theorem mem_ahead_of_mem_take {stream : TokenStream} (ended : stream.final.kind = .endOfInput)
    {count : Nat} {token : Token} (member : token ∈ stream.take count)
    (running : token.kind ≠ .endOfInput) : token ∈ stream.ahead := by
  induction count generalizing stream with
  | zero => simp [take] at member
  | succ count ih =>
    obtain ⟨_ | ⟨first, rest⟩, final⟩ := stream
    · rcases List.mem_cons.1 member with rfl | later
      · exact absurd ended running
      · exact @ih ⟨[], { final with docs := [] }⟩ ended later
    · rcases List.mem_cons.1 member with rfl | later
      · exact List.mem_cons_self
      · exact List.mem_cons_of_mem _ (@ih ⟨rest, final⟩ ended later)

/-- A place at the front of a text or behind one of its tokens is one behind a lexeme. -/
theorem exists_endsLexeme (source : String) (place : Nat)
    (between : place = 0 ∨ ∃ count, ∃ token ∈ (ofSource source).take count,
      token.kind ≠ .endOfInput ∧ token.stop.offset = place) :
    ∃ before after, source.toList = before ++ after ∧ Token.EndsLexeme before after ∧
      place = utf8Len before := by
  rcases between with rfl | ⟨count, token, taken, running, rfl⟩
  · exact ⟨[], source.toList, rfl, .nil, rfl⟩
  · have ahead : token ∈ Token.placed .start (Token.Lexeme.scan source.toList) :=
      mem_ahead_of_mem_take rfl taken running
    exact @Token.exists_endsLexeme_of_mem_placed [] source.toList token ahead

end TokenStream

/-- Blanks and ordinary comments that are put at the front of a text or behind one of its tokens
leave all kinds, values and documentation of its tokens, however many are taken, and the package
that it spells, if it spells one. -/
theorem Package.toOption_parse_insert (source : String) (place : Nat) {blank : Char}
    {filler : List Char}
    (between : place = 0 ∨ ∃ count, ∃ token ∈ (TokenStream.ofSource source).take count,
      token.kind ≠ .endOfInput ∧ token.stop.offset = place)
    (separates : Token.Trivia.isSeparator blank = true)
    (gap : Token.Gap Token.IsOrdinary False filler) :
    let edited := Text.insert source place (String.ofList (blank :: filler))
    (∀ count, ((TokenStream.ofSource edited).take count).map Token.sign =
      ((TokenStream.ofSource source).take count).map Token.sign) ∧
      (parse edited).toOption = (parse source).toOption := by
  intro edited
  obtain ⟨before, after, whole, ends, rfl⟩ :=
    TokenStream.exists_endsLexeme source place between
  have characters : edited.toList = before ++ (blank :: filler ++ after) :=
    Text.toList_insert whole _
  have signs : Token.Alike edited.toList source.toList := by
    rw [characters, whole]
    exact ends.alike separates gap
  have alike := TokenStream.alike_ofSource signs
  exact ⟨alike.map_sign_take, toOption_parse_eq alike⟩

/-- Nested comments and a rule of slashes behind a name change nothing. -/
theorem Package.toOption_parse_insert_nested :
    let source := "world w \x7b import a: func(); \x7d"
    let filler := "/*/**/ **/////x\n".toList
    let edited := Text.insert source 7 (String.ofList (' ' :: filler))
    edited = "world w /*/**/ **/////x\n \x7b import a: func(); \x7d" ∧
      Token.Gap Token.IsOrdinary False filler ∧ (parse source).toOption.isSome ∧
      (parse edited).toOption = (parse source).toOption := by
  intro source filler edited
  have comment : Token.IsBlock "/*/**/ **/".toList :=
    ⟨"/**/ **/".toList, rfl, by decide, by decide⟩
  have rule : Token.IsOrdinary "//x".toList := fun _ => ⟨['x'], rfl⟩
  have gap : Token.Gap Token.IsOrdinary False filler :=
    .block comment (.line (by decide) rule (.inl rfl) (.blank rfl .nil))
  have between : ∃ count, ∃ token ∈ (TokenStream.ofSource source).take count,
      token.kind ≠ .endOfInput ∧ token.stop.offset = 7 :=
    ⟨2, ⟨.identifier, "w", ⟨6, 1, 7⟩, ⟨7, 1, 8⟩, []⟩, by decide +kernel, by decide, rfl⟩
  refine ⟨by decide +kernel, gap, by decide +kernel, ?_⟩
  exact (toOption_parse_insert source 7 (.inr between) rfl gap).2

end WitBridge
