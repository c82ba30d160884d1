import WitBridge.Proofs.Text.Slice
import WitBridge.Proofs.Token.Gap

/-!
# Places of tokens

The tokens of a text tell where they stand. Each starts and stops at a place of the text, its value
is the text between the two unless the token is invalid, and what is between two tokens is a
stretch of blanks and comments. So no character of the text is lost: it is in a token or in a gap.
At the end of the text stands the end of the input, which stays there however often it is asked for.
-/
namespace WitBridge

open String (utf8Len)

namespace Token

/-- What the places of a token say of the text. -/
structure Exact (source : String) (token : Token) : Prop where
  /-- The token starts at a place of the text. -/
  start : token.start.IsAt source
  /-- The token stops at a place of the text. -/
  stop : token.stop.IsAt source
  /-- The value of a token that is not invalid is its text. -/
  value : token.kind ≠ .endOfInput → token.kind ≠ .invalid →
    token.value = Text.slice source token.start.offset token.stop.offset
  /-- Every token but the end of the input has a character. -/
  inhabited : token.kind ≠ .endOfInput → token.start.offset < token.stop.offset
  /-- The end of the input stands at the end of the text. -/
  ended : token.kind = .endOfInput →
    token.start.offset = source.utf8ByteSize ∧ token.stop.offset = source.utf8ByteSize

/-- Whether a token is the next one behind a place of the text. -/
structure Follows (source : String) (place : Position) (token : Token) : Prop where
  /-- The token does not start before the place. -/
  offset_le : place.offset ≤ token.start.offset
  /-- There are only blanks and comments between the place and the token. -/
  gap : Gap (fun _ => True) (token.kind = .endOfInput)
    (Text.slice source place.offset token.start.offset).toList

/-- Whether tokens stand in the text one behind the other, the first behind a given place. -/
inductive Sequence (source : String) : Position → List Token → Prop
  | nil {place : Position} : Sequence source place []
  | cons {place : Position} {token : Token} {rest : List Token} (exact' : token.Exact source)
      (follows : token.Follows source place) (more : Sequence source token.stop rest) :
      Sequence source place (token :: rest)

/-- Where a stretch may be the last of a text it may be so under a weaker condition. -/
theorem Gap.mono {allows : List Char → Prop} {isLast weaker : Prop} {text : List Char}
    (gap : Gap allows isLast text) (follows : isLast → weaker) : Gap allows weaker text := by
  induction gap with
  | nil => exact .nil
  | blank separates _ ih => exact .blank separates ih
  | line single allowed ends _ ih =>
    exact .line single allowed (ends.imp_right (.imp_right follows)) ih
  | block isBlock _ ih => exact .block isBlock ih
  | openBlock last isOpen => exact .openBlock (follows last) isOpen

/-- What is cut off the front of a text is not the end of the input. -/
theorem Lexeme.kind_cut_ne (c : Char) (rest : List Char) :
    (Lexeme.cut c rest).1 ≠ .endOfInput := by
  have word : ∀ text, Kind.ofWord text ≠ .endOfInput := by
    intro text same
    have isWord := Kind.isWord_ofWord text
    rw [same] at isWord
    contradiction
  unfold Lexeme.cut
  split
  · simp
  · split
    · split <;> simp
    · split
      · simp
      · split
        · simp only
          split
          · simp
          · exact word _
        · simp

variable {source : String} {before text rest : List Char} {lexeme : Lexeme}

/-- Where no lexeme is left the trivia at the end is that at the front. -/
theorem Lexeme.tail_of_next?_eq_none (missing : Lexeme.next? text = none) :
    Lexeme.tail text = (Trivia.span text).1 := by
  rw [Lexeme.tail]
  split
  · rfl
  · next found => rw [missing] at found; contradiction

/-- The trivia at the end is behind the first lexeme. -/
theorem Lexeme.tail_of_next? (found : Lexeme.next? text = some (lexeme, rest)) :
    Lexeme.tail text = Lexeme.tail rest := by
  rw [Lexeme.tail]
  split
  · next missing => rw [found] at missing; contradiction
  · next other again => rw [found] at again; cases again; rfl

/-- The token of a lexeme starts behind the trivia in front of it. -/
theorem start_ofLexeme (before : List Char) (lexeme : Lexeme) :
    (ofLexeme (Position.start.advanceOver before) lexeme).start =
      Position.start.advanceOver (before ++ lexeme.gap.flatMap Trivia.chars) := by
  rw [Position.advanceOver_append]
  rfl

/-- The end of the input starts behind the last trivia. -/
theorem start_endAfter (before : List Char) (gap : List Trivia) :
    (endAfter (Position.start.advanceOver before) gap).start =
      Position.start.advanceOver (before ++ gap.flatMap Trivia.chars) := by
  rw [Position.advanceOver_append]
  rfl

/-- The place behind a lexeme. -/
theorem stop_ofLexeme (before : List Char) (lexeme : Lexeme) :
    (ofLexeme (Position.start.advanceOver before) lexeme).stop =
      Position.start.advanceOver (before ++ lexeme.chars) := by
  rw [Position.advanceOver_append, Lexeme.chars, Position.advanceOver_append]
  rfl

/-- A lexeme at the front of the text behind some characters is a token of the text. -/
theorem exact_ofLexeme (whole : source.toList = before ++ text)
    (found : Lexeme.next? text = some (lexeme, rest)) :
    (ofLexeme (Position.start.advanceOver before) lexeme).Exact source ∧
      (ofLexeme (Position.start.advanceOver before) lexeme).Follows source
        (Position.start.advanceOver before) ∧ lexeme.kind ≠ .endOfInput := by
  have parts := Lexeme.chars_append_of_next? found
  have inhabited := Lexeme.text_ne_nil_of_next? found
  obtain ⟨c, tail, spanned, cut⟩ := Lexeme.exists_cut_of_next? found
  have kind : lexeme.kind ≠ .endOfInput := by
    have other := Lexeme.kind_cut_ne c tail
    rwa [cut] at other
  have gap : Gap (fun _ => True) False (lexeme.gap.flatMap Trivia.chars) := by
    have front := Trivia.gap_span text
    rw [spanned] at front
    exact front.mono (by simp)
  generalize place : lexeme.gap.flatMap Trivia.chars = filler at gap
  have shape : source.toList = before ++ filler ++ lexeme.text ++ rest := by
    rw [whole, ← parts, Lexeme.chars, place]
    simp
  have start : (ofLexeme (Position.start.advanceOver before) lexeme).start =
      Position.start.advanceOver (before ++ filler) := by
    rw [start_ofLexeme, place]
  have stop : (ofLexeme (Position.start.advanceOver before) lexeme).stop =
      Position.start.advanceOver (before ++ filler ++ lexeme.text) := by
    rw [stop_ofLexeme, Lexeme.chars, place, List.append_assoc]
  have front : source.toList = before ++ filler ++ (lexeme.text ++ rest) := by
    rw [shape, List.append_assoc]
  refine ⟨⟨?_, ?_, ?_, ?_, ?_⟩, ⟨?_, ?_⟩, kind⟩
  · rw [start]
    exact Position.isAt_advanceOver front
  · rw [stop]
    exact Position.isAt_advanceOver shape
  · intro _ valid
    rw [start, stop, Position.offset_advanceOver_start, Position.offset_advanceOver_start,
      Text.slice_of_toList shape]
    exact Lexeme.value_of_valid valid
  · intro _
    rw [start, stop, Position.offset_advanceOver_start, Position.offset_advanceOver_start]
    exact Text.utf8Len_lt_append _ inhabited
  · exact fun same => absurd same kind
  · rw [start, Position.offset_advanceOver_start, Position.offset_advanceOver_start,
      String.utf8Len_append]
    exact Nat.le_add_right _ _
  · rw [start, Position.offset_advanceOver_start, Position.offset_advanceOver_start,
      Text.slice_of_toList front, String.toList_ofList]
    exact gap.mono (by simp)

/-- Where only trivia is left the end of the input is the next token. -/
theorem exact_endAfter (whole : source.toList = before ++ text)
    (missing : Lexeme.next? text = none) :
    (endAfter (Position.start.advanceOver before) (Trivia.span text).1).Exact source ∧
      (endAfter (Position.start.advanceOver before) (Trivia.span text).1).Follows source
        (Position.start.advanceOver before) := by
  have all := Lexeme.chars_span_of_next?_eq_none missing
  have gap := Trivia.gap_span text
  rw [all] at gap
  have place : (endAfter (Position.start.advanceOver before) (Trivia.span text).1).start =
      Position.start.advanceOver (before ++ text) := by
    rw [start_endAfter, all]
  have stop : (endAfter (Position.start.advanceOver before) (Trivia.span text).1).stop =
      Position.start.advanceOver (before ++ text) := place
  have size : (Position.start.advanceOver (before ++ text)).offset = source.utf8ByteSize := by
    rw [Position.offset_advanceOver_start, ← whole, String.utf8Len_toList]
  have all : source.toList = before ++ text ++ [] := by rw [List.append_nil, whole]
  have isAt := Position.isAt_advanceOver all
  refine ⟨⟨place ▸ isAt, stop ▸ isAt, fun other => absurd rfl other, fun other => absurd rfl other,
    fun _ => ⟨place ▸ size, stop ▸ size⟩⟩, ⟨?_, ?_⟩⟩
  · rw [place, Position.offset_advanceOver_start, Position.offset_advanceOver_start,
      String.utf8Len_append]
    exact Nat.le_add_right _ _
  · rw [place, Position.offset_advanceOver_start, Position.offset_advanceOver_start,
      Text.slice_of_toList all, String.toList_ofList]
    exact gap.mono fun _ => rfl

/-- The tokens of the text behind some characters and the end of the input stand one behind the
other. -/
theorem sequence_placed (whole : source.toList = before ++ text) :
    Sequence source (Position.start.advanceOver before)
      (placed (Position.start.advanceOver before) (Lexeme.scan text) ++
        [endAfter (Position.start.advanceOver (before ++ (Lexeme.scan text).flatMap Lexeme.chars))
          (Lexeme.tail text)]) := by
  fun_induction Lexeme.scan text generalizing before with
  | case1 text missing =>
    obtain ⟨exact', follows⟩ := exact_endAfter whole missing
    rw [List.flatMap_nil, List.append_nil, Lexeme.tail_of_next?_eq_none missing]
    exact .cons exact' follows .nil
  | case2 text lexeme rest found ih =>
    obtain ⟨exact', follows, -⟩ := exact_ofLexeme whole found
    have parts := Lexeme.chars_append_of_next? found
    have behind : source.toList = before ++ lexeme.chars ++ rest := by
      rw [whole, ← parts, List.append_assoc]
    have more := ih behind
    rw [placed, List.cons_append, Lexeme.tail_of_next? found, List.flatMap_cons,
      ← List.append_assoc]
    refine .cons exact' follows ?_
    rwa [stop_ofLexeme]

/-- No token before the end of the text is the end of the input. -/
theorem kind_ne_of_mem_placed (text : List Char) (position : Position) :
    ∀ token ∈ placed position (Lexeme.scan text), token.kind ≠ .endOfInput := by
  fun_induction Lexeme.scan text generalizing position with
  | case1 => simp [placed]
  | case2 text lexeme rest found ih =>
    intro token member
    rcases List.mem_cons.1 member with rfl | member
    · have whole : (String.ofList text).toList = [] ++ text := by simp
      exact (exact_ofLexeme whole found).2.2
    · exact ih _ token member

/-- There are no more tokens than characters. -/
theorem length_placed_le (text : List Char) (position : Position) :
    (placed position (Lexeme.scan text)).length ≤ text.length := by
  fun_induction Lexeme.scan text generalizing position with
  | case1 => simp [placed]
  | case2 text lexeme rest found ih =>
    have shorter := Lexeme.length_lt_of_next? found
    have more := ih (ofLexeme position lexeme).stop
    simp only [placed, List.length_cons]
    omega

end Token

namespace TokenStream

/-- The end of the input stays once it is reached. -/
theorem kind_of_mem_take {stream : TokenStream} (ended : stream.ahead = []) (count : Nat) :
    ∀ token ∈ stream.take count, token.kind = stream.final.kind := by
  induction count generalizing stream with
  | zero => simp [take]
  | succ count ih =>
    have moved : stream.advance = ⟨[], { stream.final with docs := [] }⟩ := by
      simp [advance, ended]
    intro token member
    rcases List.mem_cons.1 member with rfl | member
    · simp [current, ended]
    · rw [moved] at member
      exact @ih ⟨[], { stream.final with docs := [] }⟩ rfl token member

/-- Tokens that are taken one by one stand in the text as the tokens of the stream do. -/
theorem sequence_take {source : String} {place : Position} {stream : TokenStream}
    (ended : stream.final.kind = .endOfInput)
    (sequence : Token.Sequence source place (stream.ahead ++ [stream.final])) (count : Nat) :
    Token.Sequence source place (stream.take count) := by
  induction count generalizing stream place with
  | zero => exact .nil
  | succ count ih =>
    rw [take]
    cases tokens : stream.ahead with
    | nil =>
      rw [tokens] at sequence
      cases sequence with
      | cons exact' follows _ =>
        have current : stream.current = stream.final := by simp [current, tokens]
        have moved : stream.advance = ⟨[], { stream.final with docs := [] }⟩ := by
          simp [advance, tokens]
        obtain ⟨first, last⟩ := exact'.ended ended
        have again : Token.Exact source { stream.final with docs := [] } :=
          ⟨exact'.start, exact'.stop, exact'.value, exact'.inhabited, exact'.ended⟩
        have nothing :
            Text.slice source stream.final.stop.offset stream.final.start.offset = "" := by
          simp [Text.slice, String.Pos.Raw.extract, first, last]
        have stays : Token.Follows source stream.final.stop { stream.final with docs := [] } :=
          ⟨Nat.le_of_eq (last.trans first.symm), by rw [nothing]; exact .nil⟩
        rw [current, moved]
        exact .cons exact' follows (ih ended (.cons again stays .nil))
    | cons token more =>
      have current : stream.current = token := by simp [current, tokens]
      have moved : stream.advance = ⟨more, stream.final⟩ := by simp [advance, tokens]
      rw [tokens] at sequence
      cases sequence with
      | cons exact' follows rest =>
        rw [current, moved]
        exact .cons exact' follows (@ih _ ⟨more, stream.final⟩ ended rest)

/-- After the end of the input there is only the end of the input. -/
theorem pairwise_take {stream : TokenStream} (ended : stream.final.kind = .endOfInput)
    (running : ∀ token ∈ stream.ahead, token.kind ≠ .endOfInput) (count : Nat) :
    (stream.take count).Pairwise fun token later =>
      token.kind = .endOfInput → later.kind = .endOfInput := by
  induction count generalizing stream with
  | zero => exact .nil
  | succ count ih =>
    rw [take]
    cases tokens : stream.ahead with
    | nil =>
      have moved : stream.advance = ⟨[], { stream.final with docs := [] }⟩ := by
        simp [advance, tokens]
      rw [moved]
      refine .cons (fun later member _ => ?_) (ih ended nofun)
      exact (@kind_of_mem_take ⟨[], _⟩ rfl count later member).trans ended
    | cons token more =>
      have current : stream.current = token := by simp [current, tokens]
      have moved : stream.advance = ⟨more, stream.final⟩ := by simp [advance, tokens]
      rw [current, moved]
      refine .cons (fun _ _ same => ?_) (ih ended fun other member => ?_)
      · exact absurd same (running token (by simp [tokens]))
      · exact running other (by simp [tokens, member])

/-- The end of the input is reached after the tokens ahead. -/
theorem exists_end_mem_take {stream : TokenStream} (ended : stream.final.kind = .endOfInput)
    {count : Nat} (enough : stream.ahead.length < count) :
    ∃ token ∈ stream.take count, token.kind = .endOfInput := by
  induction count generalizing stream with
  | zero => contradiction
  | succ count ih =>
    rw [take]
    cases tokens : stream.ahead with
    | nil => exact ⟨stream.current, by simp, by simpa [current, tokens] using ended⟩
    | cons token more =>
      have moved : stream.advance = ⟨more, stream.final⟩ := by simp [advance, tokens]
      have fewer : more.length < count := by simpa [tokens] using enough
      obtain ⟨last, member, kind⟩ := @ih ⟨more, stream.final⟩ ended fewer
      exact ⟨last, by simp [moved, member], kind⟩

/-- The tokens of a text, as many as are asked for, stand in it one behind the other with only
blanks and comments between them. Once the end of the input is reached it stays, and it is reached
after no more tokens than the text has characters. -/
theorem sequence_take_ofSource (source : String) (count : Nat) :
    Token.Sequence source .start ((ofSource source).take count) ∧
      ((ofSource source).take count).Pairwise (fun token later =>
        token.kind = .endOfInput → later.kind = .endOfInput) ∧
      ∃ token ∈ (ofSource source).take (source.length + 1), token.kind = .endOfInput := by
  have ended : (ofSource source).final.kind = .endOfInput := rfl
  have whole : source.toList = [] ++ source.toList := rfl
  refine ⟨?_, ?_, ?_⟩
  · have sequence := Token.sequence_placed whole
    exact sequence_take ended sequence count
  · exact pairwise_take ended (Token.kind_ne_of_mem_placed source.toList .start) count
  · have bound := Token.length_placed_le source.toList .start
    rw [String.length_toList] at bound
    exact exists_end_mem_take ended (Nat.lt_succ_of_le bound)

end TokenStream

end WitBridge
