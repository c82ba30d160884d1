import WitBridge.Proofs.Token.Exactness

/-!
# Documentation and the tokens after it

Comments divide a text whatever its tokens are: read from the left, a character that opens no
comment is a part of its own, a line comment goes to the end of its line, and a block comment to the
place where its level is back at zero, or to the end of the text. A text is divided in one way only.

The documentation of a text is that of its line comments of three slashes. Each line of it is with
the first token that starts behind the comment, in the order of the comments, and the tokens have no
other documentation. So none is lost, doubled or moved.
-/
namespace WitBridge

open String (utf8Len)

namespace Token

/-- A part of a text as comments divide it. -/
inductive Part where
  /-- A character outside comments. -/
  | plain (c : Char)
  /-- A line comment: the text after its two slashes. -/
  | line (body : List Char)
  /-- A block comment, with its delimiters. -/
  | block (text : List Char)
  deriving DecidableEq, Repr

namespace Part

/-- The characters of a part. -/
def chars : Part → List Char
  | plain c => [c]
  | line body => '/' :: '/' :: body
  | block text => text

/-- The line of documentation of a part: a line comment with a third slash and no fourth one has
the text after the third as documentation, less one leading space and all blanks at the end. -/
def documentation? : Part → Option String
  | line ('/' :: text) =>
    if text.head? = some '/' then none
    else
      let unspaced := if text.head? = some ' ' then text.tail else text
      some (String.ofList (Text.trimEnd unspaced))
  | _ => none

end Part

/-- How comments divide a text. -/
inductive Divides : List Part → List Char → Prop
  | nil : Divides [] []
  /-- A character that opens no comment. -/
  | plain {c : Char} {parts : List Part} {rest : List Char}
      (opens : c = '/' → ∀ d ∈ rest.head?, d ≠ '/' ∧ d ≠ '*') (more : Divides parts rest) :
      Divides (.plain c :: parts) (c :: rest)
  /-- A line comment goes on to a newline, or to the end of the text. -/
  | line {body : List Char} {parts : List Part} {rest : List Char} (single : '\n' ∉ body)
      (ends : ∀ c ∈ rest.head?, c = '\n') (more : Divides parts rest) :
      Divides (.line body :: parts) ('/' :: '/' :: (body ++ rest))
  | block {comment : List Char} {parts : List Part} {rest : List Char} (isBlock : IsBlock comment)
      (more : Divides parts rest) : Divides (.block comment :: parts) (comment ++ rest)
  /-- A block comment that is never closed takes the rest of the text. -/
  | openBlock {comment : List Char} (isOpen : IsOpenBlock comment) :
      Divides [.block comment] comment

section Unique

/-- The parts of a text, found from the left. -/
def partsOf : List Char → List Part
  | [] => []
  | '/' :: '/' :: rest =>
    .line (rest.takeWhile (· ≠ '\n')) :: partsOf (rest.dropWhile (· ≠ '\n'))
  | '/' :: '*' :: rest =>
    .block ('/' :: '*' :: (Trivia.splitBlock 1 rest).1) :: partsOf (Trivia.splitBlock 1 rest).2
  | c :: rest => .plain c :: partsOf rest
termination_by text => text.length
decreasing_by
  · have := (List.dropWhile_suffix (l := rest) (· ≠ '\n')).length_le
    exact Nat.lt_succ_of_le (Nat.le_succ_of_le this)
  · have := congrArg List.length (Trivia.splitBlock_append 1 rest)
    simp at this ⊢
    omega
  · simp

/-- A division of a text is into its parts as they are found. -/
theorem Divides.eq_partsOf {parts : List Part} {text : List Char} (divides : Divides parts text) :
    parts = partsOf text := by
  induction divides with
  | nil => rw [partsOf]
  | @plain c parts rest opens more ih =>
    rw [partsOf, ih]
    · rintro after rfl rfl
      exact (opens rfl '/' rfl).1 rfl
    · rintro after rfl rfl
      exact (opens rfl '*' rfl).2 rfl
  | @line body parts rest single ends more ih =>
    have inside : ∀ c ∈ body, decide (c ≠ '\n') = true := fun c member =>
      decide_eq_true fun same => single (same ▸ member)
    have outside : ∀ c ∈ rest.head?, decide (c ≠ '\n') = false := fun c member => by
      simpa using ends c member
    obtain ⟨taken, dropped⟩ := Text.takeWhile_append_of_head inside outside
    rw [partsOf, taken, dropped, ih]
  | @block comment parts rest isBlock more ih =>
    obtain ⟨body, rfl, closes⟩ := isBlock
    rw [List.cons_append, List.cons_append, partsOf,
      Trivia.splitBlock_append_of_closes rest closes, ih]
  | @openBlock comment isOpen =>
    obtain ⟨body, rfl, stays⟩ := isOpen
    rw [partsOf, Trivia.splitBlock_of_staysOpen stays, partsOf]

/-- A text is divided in one way. -/
theorem Divides.unique {parts others : List Part} {text : List Char}
    (divides : Divides parts text) (other : Divides others text) : parts = others :=
  divides.eq_partsOf.trans other.eq_partsOf.symm

end Unique

section Division

/-- An item of trivia as a part of the text. -/
def Part.ofTrivia : Trivia → Part
  | .blank c => plain c
  | .line body => line body
  | .block body => block ('/' :: '*' :: body)

@[simp]
theorem Part.chars_ofTrivia (item : Trivia) : (ofTrivia item).chars = item.chars := by
  cases item <;> rfl

/-- Trivia has the characters of its parts. -/
theorem Part.flatMap_chars_ofTrivia (gap : List Trivia) :
    (gap.map ofTrivia).flatMap chars = gap.flatMap Trivia.chars := by
  simp [List.flatMap_map]

/-- An item of trivia documents what the part does. -/
@[simp]
theorem Part.documentation?_ofTrivia (item : Trivia) :
    (ofTrivia item).documentation? = item.doc? := by
  fun_cases Trivia.doc? item with
  | case1 => rfl
  | case2 => rfl
  | case3 text slash space =>
    cases text with
    | nil => rfl
    | cons c rest =>
      have first : c ≠ '/' := fun same => slash rest (by rw [same])
      have second : c ≠ ' ' := fun same => space rest (by rw [same])
      simp [ofTrivia, documentation?, first, second]
  | case4 item ordinary spaced documented =>
    cases item with
    | blank | block => rfl
    | line body =>
      cases body with
      | nil => rfl
      | cons c rest =>
        have first : c ≠ '/' := fun same => documented rest (by rw [same])
        simp [ofTrivia, documentation?, first]

/-- The parts of a lexeme: its trivia, and each character of its token. -/
def Lexeme.parts (lexeme : Lexeme) : List Part :=
  lexeme.gap.map Part.ofTrivia ++ lexeme.text.map Part.plain

/-- An item of trivia at the front of a text is a part of it. -/
theorem Divides.trivia {parts : List Part} {text rest : List Char} {item : Trivia}
    (found : Trivia.next? text = some (item, rest)) (more : Divides parts rest) :
    Divides (Part.ofTrivia item :: parts) text := by
  have single := Trivia.single_of_next? found
  revert found single
  fun_cases Trivia.next? text
  case case1 => simp
  case case2 tail =>
    rintro ⟨⟩ single
    have ends : ∀ c ∈ (tail.dropWhile (· ≠ '\n')).head?, c = '\n' := by
      intro c found
      have outside := List.head?_dropWhile_not (· ≠ '\n') tail
      rw [Option.mem_def.1 found] at outside
      simpa using outside
    have line := Divides.line (single _ rfl) ends more
    rwa [List.takeWhile_append_dropWhile] at line
  case case3 tail body after split =>
    rintro ⟨⟩ -
    have whole := Trivia.splitBlock_append 1 tail
    have closes := Trivia.closes_splitBlock 1 tail
    rw [split] at whole closes
    rw [← whole]
    rcases closes with closes | ⟨rfl, stays⟩
    · exact .block ⟨body, rfl, closes⟩ more
    · -- The comment takes the rest of the text, so there is nothing left to divide.
      obtain rfl : parts = [] := by rw [more.eq_partsOf, partsOf]
      rw [List.append_nil]
      exact .openBlock ⟨body, rfl, stays⟩
  case case4 c tail _ _ separates =>
    rintro ⟨⟩ -
    refine .plain (fun slash => ?_) more
    rw [slash] at separates
    contradiction
  case case5 => simp

/-- The trivia at the front of a text divides it as far as it goes. -/
theorem divides_span (text : List Char) (parts : List Part)
    (more : Divides parts (Trivia.span text).2) :
    Divides ((Trivia.span text).1.map Part.ofTrivia ++ parts) text := by
  fun_induction Trivia.span text with
  | case1 => exact more
  | case2 text item rest found items after split ih =>
    rw [split] at ih
    exact .trivia found (ih more)

/-- There is no slash in a token, save for a slash on its own. -/
theorem Lexeme.slash_of_cut {c : Char} {tail word rest : List Char} {kind : Kind}
    (cut : Lexeme.cut c tail = (kind, word, rest)) :
    '/' ∉ word ∨ c = '/' ∧ word = ['/'] ∧ rest = tail := by
  unfold Lexeme.cut at cut
  split at cut
  · cases cut
    by_cases slash : c = '/'
    · exact .inr ⟨slash, by rw [slash], rfl⟩
    · exact .inl (by simpa using Ne.symm slash)
  · next mark =>
    have other : c ≠ '/' := by
      rintro rfl
      contradiction
    split at cut
    · split at cut <;> cases cut <;> exact .inl (by decide)
    · split at cut
      · cases cut
        refine .inl (List.not_mem_cons_of_ne_of_not_mem other.symm fun member => ?_)
        exact absurd (List.mem_takeWhile_imp member) (by decide)
      · split at cut
        · cases cut
          refine .inl (List.not_mem_cons_of_ne_of_not_mem other.symm fun member => ?_)
          exact absurd (List.mem_takeWhile_imp member) (by decide)
        · cases cut
          exact .inl (by simpa using other.symm)

/-- Characters that are no slashes open no comment. -/
theorem Divides.word {parts : List Part} {word rest : List Char} (absent : '/' ∉ word)
    (more : Divides parts rest) : Divides (word.map Part.plain ++ parts) (word ++ rest) := by
  induction word with
  | nil => exact more
  | cons c word ih =>
    obtain ⟨first, others⟩ : '/' ≠ c ∧ '/' ∉ word := by simpa using absent
    exact .plain (fun slash => absurd slash.symm first) (ih others)

/-- The token at the front of a text divides it character by character. -/
theorem divides_cut {c : Char} {tail word rest : List Char} {kind : Kind} {parts : List Part}
    (dark : Trivia.next? (c :: tail) = none) (cut : Lexeme.cut c tail = (kind, word, rest))
    (more : Divides parts rest) : Divides (word.map Part.plain ++ parts) (c :: tail) := by
  rcases Lexeme.slash_of_cut cut with absent | ⟨rfl, rfl, rfl⟩
  · have whole := Lexeme.cut_append c tail
    rw [cut] at whole
    exact whole ▸ .word absent more
  · refine .plain (fun _ d found => ?_) more
    obtain ⟨after, rfl⟩ := List.head?_eq_some_iff.1 found
    constructor <;> rintro rfl <;> contradiction

/-- The parts of the lexemes of a text and of the trivia at its end divide the text. -/
theorem divides_scan (text : List Char) :
    Divides ((Lexeme.scan text).flatMap Lexeme.parts ++ (Lexeme.tail text).map Part.ofTrivia)
      text := by
  fun_induction Lexeme.scan text with
  | case1 text missing =>
    rw [List.flatMap_nil, List.nil_append, Lexeme.tail_of_next?_eq_none missing]
    have none_left : (Trivia.span text).2 = [] := by
      unfold Lexeme.next? at missing
      split at missing
      · next spanned => rw [spanned]
      · contradiction
    have all := divides_span text [] (none_left ▸ .nil)
    rwa [List.append_nil] at all
  | case2 text lexeme rest found ih =>
    obtain ⟨c, tail, spanned, cut⟩ := Lexeme.exists_cut_of_next? found
    have dark := Trivia.next?_span text
    rw [spanned] at dark
    have front := divides_span text (lexeme.text.map Part.plain ++ _)
      (by rw [spanned]; exact divides_cut dark cut ih)
    rw [spanned] at front
    rw [Lexeme.tail_of_next? found, List.flatMap_cons, Lexeme.parts]
    simpa using front

end Division

/-- A comment of documentation in a text. -/
structure DocComment where
  /-- Bytes of the text up to the end of the comment. -/
  stop : Nat
  /-- Its line of documentation. -/
  line : String
  deriving DecidableEq, Repr

/-- The comments of documentation among parts that begin at a given offset. -/
def docComments (offset : Nat) : List Part → List DocComment
  | [] => []
  | part :: rest =>
    let stop := offset + utf8Len part.chars
    (part.documentation?.map (⟨stop, ·⟩)).toList ++ docComments stop rest

/-- The first token that starts behind a comment. -/
def DocComment.next? (comment : DocComment) (tokens : List Token) : Option Token :=
  tokens.find? (comment.stop ≤ ·.start.offset)

section Comments

/-- The lines of the comments are the lines of the parts. -/
theorem map_line_docComments (offset : Nat) (parts : List Part) :
    (docComments offset parts).map DocComment.line = parts.filterMap Part.documentation? := by
  induction parts generalizing offset with
  | nil => rfl
  | cons part rest ih =>
    rw [docComments, List.map_append, ih, List.filterMap_cons]
    cases part.documentation? <;> rfl

/-- The comments of two runs of parts are those of the one and those of the other behind it. -/
theorem docComments_append (offset : Nat) (parts others : List Part) :
    docComments offset (parts ++ others) =
      docComments offset parts ++
        docComments (offset + utf8Len (parts.flatMap Part.chars)) others := by
  induction parts generalizing offset with
  | nil => rfl
  | cons part rest ih =>
    simp only [List.cons_append, docComments, ih, List.append_assoc, List.flatMap_cons,
      String.utf8Len_append, Nat.add_assoc]

/-- There are no comments among characters. -/
theorem docComments_plain (offset : Nat) (word : List Char) :
    docComments offset (word.map Part.plain) = [] := by
  induction word generalizing offset with
  | nil => rfl
  | cons c word ih => rw [List.map_cons, docComments, ih]; rfl

/-- Only a comment has documentation, so there are characters in a part that has. -/
theorem Part.chars_ne_nil {part : Part} {line : String}
    (documented : part.documentation? = some line) : part.chars ≠ [] := by
  cases part with
  | plain | block => simp [documentation?] at documented
  | line body => exact nofun

/-- A comment ends behind the place where the parts begin, and not behind their end. -/
theorem stop_of_mem_docComments {offset : Nat} {parts : List Part} {comment : DocComment}
    (member : comment ∈ docComments offset parts) :
    offset < comment.stop ∧ comment.stop ≤ offset + utf8Len (parts.flatMap Part.chars) := by
  induction parts generalizing offset with
  | nil => simp [docComments] at member
  | cons part rest ih =>
    rw [List.flatMap_cons, String.utf8Len_append]
    rcases List.mem_append.1 member with first | later
    · obtain ⟨line, documented, rfl⟩ := by simpa using first
      have bytes : utf8Len part.chars ≠ 0 :=
        mt String.utf8Len_eq_zero.1 (Part.chars_ne_nil documented)
      exact ⟨by simp only; omega, by simp only; omega⟩
    · have := ih later
      omega

end Comments

/-- Whether tokens from a given offset on have the comments as their documentation: the comments
between the offset and the first token are that token's, and so on from behind it. -/
inductive Attached : Nat → List DocComment → List Token → Prop
  | nil {offset : Nat} : Attached offset [] []
  | cons {offset behind : Nat} {own later : List DocComment} {token : Token} {rest : List Token}
      (start_le : offset ≤ token.start.offset) (lt_behind : token.start.offset < behind)
      (between : ∀ comment ∈ own, offset < comment.stop ∧ comment.stop ≤ token.start.offset)
      (docs : token.docs = own.map DocComment.line) (more : Attached behind later rest) :
      Attached offset (own ++ later) (token :: rest)

namespace Attached

variable {offset : Nat} {comments : List DocComment} {tokens : List Token}

/-- Tokens start at the offset or behind it. -/
theorem start_le (attached : Attached offset comments tokens) :
    ∀ token ∈ tokens, offset ≤ token.start.offset := by
  induction attached with
  | nil => simp
  | cons first lt_behind _ _ _ ih =>
    rw [List.forall_mem_cons]
    exact ⟨first, fun token member => by have := ih token member; omega⟩

/-- Comments end behind the offset. -/
theorem lt_stop (attached : Attached offset comments tokens) :
    ∀ comment ∈ comments, offset < comment.stop := by
  induction attached with
  | nil => simp
  | cons first lt_behind between _ _ ih =>
    rw [List.forall_mem_append]
    exact ⟨fun comment member => (between comment member).1,
      fun comment member => by have := ih comment member; omega⟩

/-- All lines of the comments are in the documentation of the tokens, in the same order. -/
theorem flatMap_docs (attached : Attached offset comments tokens) :
    tokens.flatMap Token.docs = comments.map DocComment.line := by
  induction attached with
  | nil => rfl
  | cons _ _ _ docs _ ih => rw [List.flatMap_cons, List.map_append, docs, ih]

/-- Behind each comment there is a token. -/
theorem exists_next? (attached : Attached offset comments tokens) :
    ∀ comment ∈ comments, ∃ token, comment.next? tokens = some token := by
  induction attached with
  | nil => simp
  | cons _ _ between _ _ ih =>
    rw [List.forall_mem_append]
    refine ⟨fun comment member => ⟨_, List.find?_cons_of_pos ?_⟩, fun comment member => ?_⟩
    · exact decide_eq_true (between comment member).2
    · rw [DocComment.next?, List.find?_cons]
      split
      · exact ⟨_, rfl⟩
      · exact ih comment member

/-- The documentation of a token is of the comments that it is the first token behind. -/
theorem docs_eq (attached : Attached offset comments tokens) :
    ∀ token ∈ tokens, token.docs =
      (comments.filter fun comment => comment.next? tokens = some token).map
        DocComment.line := by
  induction attached with
  | nil => simp
  | @cons offset behind own later first rest _ lt_behind between docs more ih =>
    have nearest : ∀ comment ∈ own, comment.next? (first :: rest) = some first :=
      fun comment member => List.find?_cons_of_pos (decide_eq_true (between comment member).2)
    have farther : ∀ comment ∈ later, comment.next? (first :: rest) = comment.next? rest := by
      intro comment member
      have := more.lt_stop comment member
      exact List.find?_cons_of_neg (by simp; omega)
    -- The tokens behind the first start behind it, so none of them is the same token.
    have apart : ∀ token ∈ rest, first ≠ token := by
      rintro token member rfl
      have := more.start_le first member
      omega
    rw [List.forall_mem_cons]
    refine ⟨?_, fun token member => ?_⟩
    · have mine : own.filter (fun comment => comment.next? (first :: rest) = some first) = own :=
        List.filter_eq_self.2 fun comment member => decide_eq_true (nearest comment member)
      have others :
          later.filter (fun comment => comment.next? (first :: rest) = some first) = [] := by
        refine List.filter_eq_nil_iff.2 fun comment member same => ?_
        rw [farther comment member] at same
        exact apart first (List.mem_of_find?_eq_some (of_decide_eq_true same)) rfl
      rw [List.filter_append, mine, others, List.append_nil, docs]
    · have others :
          own.filter (fun comment => comment.next? (first :: rest) = some token) = [] := by
        refine List.filter_eq_nil_iff.2 fun comment mine same => ?_
        rw [nearest comment mine] at same
        exact apart token member (Option.some.inj (of_decide_eq_true same))
      have theirs :
          later.filter (fun comment => comment.next? (first :: rest) = some token) =
            later.filter (fun comment => comment.next? rest = some token) :=
        List.filter_congr fun comment member => by rw [farther comment member]
      rw [List.filter_append, others, theirs, List.nil_append, ih token member]

end Attached

/-- The documentation in trivia is that of the parts that the trivia is divided into. -/
theorem docs_eq_docComments (offset : Nat) (gap : List Trivia) :
    Trivia.docs gap = (docComments offset (gap.map Part.ofTrivia)).map DocComment.line := by
  rw [map_line_docComments, List.filterMap_map, Trivia.docs]
  exact List.filterMap_congr fun item _ => (Part.documentation?_ofTrivia item).symm

/-- The comments in trivia end inside it. -/
theorem stop_of_mem_gap {offset : Nat} {gap : List Trivia} {comment : DocComment}
    (member : comment ∈ docComments offset (gap.map Part.ofTrivia)) :
    offset < comment.stop ∧ comment.stop ≤ offset + utf8Len (gap.flatMap Trivia.chars) := by
  rw [← Part.flatMap_chars_ofTrivia]
  exact stop_of_mem_docComments member

/-- The comments of a lexeme and of what is behind it: all of its own are in its trivia, for its
token is divided into characters. -/
theorem docComments_parts (offset : Nat) (lexeme : Lexeme) (others : List Part) :
    docComments offset (lexeme.parts ++ others) =
      docComments offset (lexeme.gap.map Part.ofTrivia) ++
        docComments (offset + utf8Len lexeme.chars) others := by
  have size : utf8Len lexeme.chars =
      utf8Len ((lexeme.gap.map Part.ofTrivia).flatMap Part.chars) +
        utf8Len ((lexeme.text.map Part.plain).flatMap Part.chars) := by
    rw [Lexeme.chars, String.utf8Len_append, Part.flatMap_chars_ofTrivia]
    simp [List.flatMap_map, Part.chars]
  rw [Lexeme.parts, List.append_assoc, docComments_append, docComments_append, docComments_plain,
    List.nil_append, size, Nat.add_assoc]

/-- The tokens of the text behind some characters and the end of the input have its comments as
their documentation. -/
theorem attached_placed (before text : List Char) :
    Attached (utf8Len before)
      (docComments (utf8Len before)
        ((Lexeme.scan text).flatMap Lexeme.parts ++ (Lexeme.tail text).map Part.ofTrivia))
      (placed (Position.start.advanceOver before) (Lexeme.scan text) ++
        [endAfter (Position.start.advanceOver (before ++ (Lexeme.scan text).flatMap Lexeme.chars))
          (Lexeme.tail text)]) := by
  fun_induction Lexeme.scan text generalizing before with
  | case1 text missing =>
    let gap := Lexeme.tail text
    have place : (endAfter (Position.start.advanceOver before) gap).start.offset =
        utf8Len before + utf8Len (gap.flatMap Trivia.chars) := by
      rw [start_endAfter, Position.offset_advanceOver_start, String.utf8Len_append]
    rw [List.flatMap_nil, List.flatMap_nil, List.append_nil, List.nil_append,
      ← List.append_nil (docComments _ _)]
    refine .cons ?_ (Nat.lt_succ_self _) (fun comment member => ?_) (docs_eq_docComments _ _) .nil
    · rw [place]
      exact Nat.le_add_right _ _
    · rw [place]
      exact stop_of_mem_gap member
  | case2 text lexeme rest found ih =>
    have place : (ofLexeme (Position.start.advanceOver before) lexeme).start.offset =
        utf8Len before + utf8Len (lexeme.gap.flatMap Trivia.chars) := by
      rw [start_ofLexeme, Position.offset_advanceOver_start, String.utf8Len_append]
    have bytes : utf8Len lexeme.text ≠ 0 :=
      mt String.utf8Len_eq_zero.1 (Lexeme.text_ne_nil_of_next? found)
    have more := ih (before ++ lexeme.chars)
    rw [placed, List.cons_append, Lexeme.tail_of_next? found, List.flatMap_cons,
      List.flatMap_cons, ← List.append_assoc before, stop_ofLexeme, List.append_assoc,
      docComments_parts, ← String.utf8Len_append]
    refine .cons ?_ ?_ (fun comment member => ?_) (docs_eq_docComments _ _) more
    · rw [place]
      exact Nat.le_add_right _ _
    · rw [place, String.utf8Len_append, Lexeme.chars, String.utf8Len_append]
      omega
    · rw [place]
      exact stop_of_mem_gap member

end Token

namespace TokenStream

open Token (Divides docComments)

/-- The tokens of a stream are taken up to its end. -/
theorem take_length_succ (stream : TokenStream) :
    stream.take (stream.ahead.length + 1) = stream.ahead ++ [stream.final] := by
  obtain ⟨ahead, final⟩ := stream
  induction ahead with
  | nil => rfl
  | cons token rest ih => exact congrArg (token :: ·) ih

/-- Whether tokens are those of a stream up to the first end of the input. -/
def UpToEnd (stream : TokenStream) (tokens : List Token) : Prop :=
  ∃ front final, tokens = front ++ [final] ∧ stream.take tokens.length = tokens ∧
    (∀ token ∈ front, token.kind ≠ .endOfInput) ∧ final.kind = .endOfInput

/-- Documentation is neither lost nor doubled nor moved. Comments divide a text in one way. The
tokens up to the first end of the input have the lines of the comments of three slashes as their
documentation, all of them and in the order of the text. A line is in the documentation of the first
token that starts behind its comment, and that token's documentation is of such comments alone. -/
theorem documentation_ofSource (source : String) :
    ∃ parts tokens, (∀ other, Divides other source.toList ↔ other = parts) ∧
      (ofSource source).UpToEnd tokens ∧
      tokens.flatMap Token.docs = parts.filterMap Token.Part.documentation? ∧
      (∀ comment ∈ docComments 0 parts,
        ∃ token, comment.next? tokens = some token ∧ comment.line ∈ token.docs) ∧
      ∀ token ∈ tokens, token.docs =
        ((docComments 0 parts).filter fun comment => comment.next? tokens = some token).map
          Token.DocComment.line := by
  have divides := Token.divides_scan source.toList
  have attached := Token.attached_placed [] source.toList
  have taken := take_length_succ (ofSource source)
  refine ⟨_, (ofSource source).ahead ++ [(ofSource source).final],
    fun other => ⟨fun found => found.unique divides, fun same => same ▸ divides⟩,
    ⟨_, _, rfl, ?_, Token.kind_ne_of_mem_placed source.toList .start, rfl⟩, ?_,
    fun comment member => ?_, attached.docs_eq⟩
  · rwa [List.length_append]
  · rw [← Token.map_line_docComments 0]
    exact attached.flatMap_docs
  · obtain ⟨token, found⟩ := attached.exists_next? comment member
    refine ⟨token, found, ?_⟩
    rw [attached.docs_eq token (List.mem_of_find?_eq_some found)]
    exact List.mem_map_of_mem (List.mem_filter.2 ⟨member, decide_eq_true found⟩)

/-- Comments of four slashes and of blocks document nothing. -/
example : ((ofSource "/// a\n//// b\n/* /// c */ x ///d").take 2).map Token.docs =
    [["a"], ["d"]] := by decide +kernel

end TokenStream

end WitBridge
