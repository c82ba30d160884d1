import WitBridge.Proofs.Token.Exactness

/-!
# Blanks and comments between tokens

Blanks and ordinary comments may be put between two tokens, or in front of the first, and the tokens
keep their kinds, values and documentation. What is put there begins with a blank, so it does not
make the token before it longer, and its comments are closed, so nothing after it is lost.

A token is cut by what stands in it and by one character after it. So what follows a token may be
exchanged for a text that begins alike, or for one that begins with a blank.
-/
namespace WitBridge.Token

/-- Whether a text may stand in place of what follows a token: both begin alike, or the text begins
with a blank. -/
def Exchanges (rest other : List Char) : Prop :=
  other.head? = rest.head? ∨ ∃ c ∈ other.head?, Trivia.isSeparator c = true

/-- A text that is exchanged has no character of a class in front if the first had none and no
blank is of the class. -/
theorem Exchanges.head {rest other : List Char} {p : Char → Bool} (exchanges : Exchanges rest other)
    (dark : ∀ c, Trivia.isSeparator c = true → p c = false)
    (outside : ∀ c ∈ rest.head?, p c = false) : ∀ c ∈ other.head?, p c = false := by
  intro c member
  rcases exchanges with same | ⟨d, front, separates⟩
  · exact outside c (same ▸ member)
  · rw [Option.mem_unique member front]
    exact dark d separates

/-- A blank is one of four characters. -/
theorem eq_of_isSeparator {c : Char} (separates : Trivia.isSeparator c = true) :
    c = ' ' ∨ c = '\t' ∨ c = '\r' ∨ c = '\n' := by
  simpa [Trivia.isSeparator, or_assoc] using separates

/-- A text that begins in another way than a class still does so after an exchange. -/
theorem Exchanges.head_ne {rest other : List Char} {d : Char} (exchanges : Exchanges rest other)
    (dark : Trivia.isSeparator d = false) (outside : ∀ c ∈ rest.head?, c ≠ d) :
    ∀ c ∈ other.head?, c ≠ d := by
  have apart := exchanges.head (p := (· == d))
    (fun c separates => by
      rw [beq_eq_false_iff_ne]
      rintro rfl
      rw [separates] at dark
      contradiction)
    (fun c member => by simpa using outside c member)
  exact fun c member => by simpa using apart c member

/-- A run of characters of a class is as long after an exchange of what follows it. -/
theorem Exchanges.takeWhile {tail other : List Char} {p : Char → Bool}
    (exchanges : Exchanges (tail.dropWhile p) other)
    (dark : ∀ c, Trivia.isSeparator c = true → p c = false) :
    (tail.takeWhile p ++ other).takeWhile p = tail.takeWhile p ∧
      (tail.takeWhile p ++ other).dropWhile p = other := by
  refine Text.takeWhile_append_of_head (fun c member => List.mem_takeWhile_imp member) ?_
  refine exchanges.head dark fun c member => ?_
  have outside := List.head?_dropWhile_not p tail
  rwa [Option.mem_def.1 member] at outside

variable {text rest other : List Char} {c : Char} {kind : Kind}

/-- The same token is cut where what follows it is exchanged. -/
theorem Lexeme.cut_of_exchanges {tail word : List Char}
    (cut : Lexeme.cut c tail = (kind, word, rest)) (exchanges : Exchanges rest other) :
    ∃ more, word = c :: more ∧ Lexeme.cut c (more ++ other) = (kind, word, other) := by
  unfold Lexeme.cut at cut
  split at cut
  · next m mark =>
    cases cut
    exact ⟨[], rfl, by simp [Lexeme.cut, mark]⟩
  · next mark =>
    split at cut
    · next hyphen =>
      subst hyphen
      split at cut
      · next after =>
        cases cut
        exact ⟨['>'], rfl, by simp [Lexeme.cut, mark]⟩
      · next alone =>
        cases cut
        have apart : ∀ d ∈ other.head?, d ≠ '>' := by
          refine exchanges.head_ne (by decide) fun d member same => ?_
          obtain ⟨more, rfl⟩ := List.head?_eq_some_iff.1 member
          exact alone more (by rw [same])
        refine ⟨[], rfl, ?_⟩
        cases other with
        | nil => rfl
        | cons d after =>
          have apart : d ≠ '>' := apart d rfl
          simp [Lexeme.cut, mark, apart]
    · next hyphen =>
      split at cut
      · next digit =>
        cases cut
        obtain ⟨taken, dropped⟩ := exchanges.takeWhile fun d separates => by
          rcases eq_of_isSeparator separates with rfl | rfl | rfl | rfl <;> rfl
        exact ⟨_, rfl, by simp [Lexeme.cut, mark, hyphen, digit, taken, dropped]⟩
      · next digit =>
        split at cut
        · next start =>
          cases cut
          obtain ⟨taken, dropped⟩ := exchanges.takeWhile fun d separates => by
            rcases eq_of_isSeparator separates with rfl | rfl | rfl | rfl <;> rfl
          refine ⟨_, rfl, ?_⟩
          simp only [Lexeme.cut, mark, hyphen, digit, start, taken, dropped, ↓reduceIte,
            Bool.false_eq_true]
        · next start =>
          cases cut
          exact ⟨[], rfl, by simp [Lexeme.cut, mark, hyphen, digit, start]⟩

/-- Where no trivia is in front of a token there is none after an exchange of what follows it. -/
theorem Trivia.next?_of_exchanges {tail word more : List Char}
    (dark : Trivia.next? (c :: tail) = none)
    (cut : Lexeme.cut c tail = (kind, word, rest)) (shape : word = c :: more)
    (exchanges : Exchanges rest other) : Trivia.next? (c :: (more ++ other)) = none := by
  have separates : Trivia.isSeparator c = false := by
    cases blank : Trivia.isSeparator c with
    | false => rfl
    | true =>
      rcases eq_of_isSeparator blank with rfl | rfl | rfl | rfl <;>
        simp [Trivia.next?, Trivia.isSeparator] at dark
  refine next?_eq_none _ separates ?_
  rintro rfl
  obtain ⟨rfl, rfl⟩ : word = ['/'] ∧ rest = tail := by
    simp only [Lexeme.cut, Mark.ofChar?, Prod.mk.injEq] at cut
    exact ⟨cut.2.1.symm, cut.2.2.symm⟩
  cases shape
  have line : ∀ d ∈ rest.head?, d ≠ '/' := by
    rintro d member rfl
    obtain ⟨after, rfl⟩ := List.head?_eq_some_iff.1 member
    simp [Trivia.next?] at dark
  have block : ∀ d ∈ rest.head?, d ≠ '*' := by
    rintro d member rfl
    obtain ⟨after, rfl⟩ := List.head?_eq_some_iff.1 member
    simp [Trivia.next?] at dark
  exact fun d member => ⟨exchanges.head_ne (by decide) line d member,
    exchanges.head_ne (by decide) block d member⟩

/-- A blank is an item of trivia. -/
theorem Trivia.next?_blank (rest : List Char) (blank : Trivia.isSeparator c = true) :
    Trivia.next? (c :: rest) = some (.blank c, rest) := by
  rcases eq_of_isSeparator blank with rfl | rfl | rfl | rfl <;> rfl

/-- A line comment that ends in a newline is an item of trivia. -/
theorem Trivia.next?_line {body : List Char} (single : '\n' ∉ body)
    (ends : rest.head? = some '\n') :
    Trivia.next? ('/' :: '/' :: (body ++ rest)) = some (.line body, rest) := by
  have inside : ∀ d ∈ body, decide (d ≠ '\n') = true := by
    intro d member
    exact decide_eq_true fun same => single (same ▸ member)
  have outside : ∀ d ∈ rest.head?, decide (d ≠ '\n') = false := by
    rw [ends]
    simp
  obtain ⟨taken, dropped⟩ := Text.takeWhile_append_of_head inside outside
  simp only [Trivia.next?, taken, dropped]

/-- A closed block comment is an item of trivia. -/
theorem Trivia.next?_block {body : List Char} (rest : List Char) (closes : Closes 1 body) :
    Trivia.next? ('/' :: '*' :: (body ++ rest)) = some (.block body, rest) := by
  simp only [Trivia.next?, Trivia.splitBlock_append_of_closes rest closes]

/-- An item of trivia stays in front where what follows it is exchanged for a text that begins
alike. -/
theorem Trivia.next?_of_head {item : Trivia} (found : Trivia.next? text = some (item, rest))
    (inhabited : rest ≠ []) (front : other.head? = rest.head?) :
    Trivia.next? (item.chars ++ other) = some (item, other) := by
  have single := Trivia.single_of_next? found
  revert found single
  fun_cases Trivia.next? text
  case case1 => simp
  case case2 tail =>
    rintro ⟨⟩ single
    -- A line comment ends where the text behind it begins with its newline.
    refine Trivia.next?_line (single _ rfl) ?_
    rw [front]
    obtain ⟨d, more, shape⟩ := List.exists_cons_of_ne_nil inhabited
    have newline := List.head?_dropWhile_not (· ≠ '\n') tail
    rw [shape] at newline ⊢
    simpa using newline
  case case3 tail body rest closed =>
    rintro ⟨⟩ -
    have closes := Trivia.closes_splitBlock 1 tail
    rw [closed] at closes
    exact Trivia.next?_block _ (closes.resolve_right fun open' => inhabited open'.1)
  case case4 d tail _ _ separates =>
    rintro ⟨⟩ -
    exact Trivia.next?_blank _ separates
  case case5 => simp

/-- The trivia in front of a token stays the same where the text from the token on is exchanged for
one that begins alike. -/
theorem Trivia.span_of_front {gap : List Trivia} {tail after : List Char}
    (spanned : Trivia.span text = (gap, c :: tail)) (dark : Trivia.next? (c :: after) = none) :
    Trivia.span (gap.flatMap Trivia.chars ++ c :: after) = (gap, c :: after) := by
  fun_induction Trivia.span text generalizing gap with
  | case1 text missing =>
    cases spanned
    rw [List.flatMap_nil, List.nil_append, Trivia.span]
    split
    · rfl
    · next found => rw [dark] at found; contradiction
  | case2 text item rest found items left split ih =>
    cases spanned
    have whole := Trivia.chars_append_span rest
    rw [split] at whole
    have front : (items.flatMap Trivia.chars ++ c :: after).head? = rest.head? := by
      rw [← whole]
      cases items.flatMap Trivia.chars <;> rfl
    have inhabited : rest ≠ [] := by
      rw [← whole]
      simp
    have same := Trivia.next?_of_head found inhabited front
    rw [List.flatMap_cons, List.append_assoc, Trivia.span_of_next? same, ih split]

/-- The same lexeme is in front where what follows it is exchanged. -/
theorem Lexeme.next?_of_exchanges {lexeme : Lexeme}
    (found : Lexeme.next? text = some (lexeme, rest)) (exchanges : Exchanges rest other) :
    Lexeme.next? (lexeme.chars ++ other) = some (lexeme, other) := by
  have dark := Trivia.next?_span text
  obtain ⟨c, tail, spanned, cut⟩ := Lexeme.exists_cut_of_next? found
  rw [spanned] at dark
  obtain ⟨more, whole, again⟩ := Lexeme.cut_of_exchanges cut exchanges
  have front := Trivia.next?_of_exchanges dark cut whole exchanges
  rw [Lexeme.chars, whole, List.append_assoc, List.cons_append, Lexeme.next?,
    Trivia.span_of_front spanned front]
  simp only [again]

/-- Whether the text after two slashes makes an ordinary comment: it does not begin with a slash,
or with two of them. -/
def IsOrdinary (body : List Char) : Prop :=
  ['/'] <+: body → ['/', '/'] <+: body

/-- An ordinary comment is no documentation. -/
theorem IsOrdinary.doc? {body : List Char} (ordinary : IsOrdinary body) :
    (Trivia.line body).doc? = none := by
  by_cases slash : ['/'] <+: body
  · obtain ⟨tail, rfl⟩ := ordinary slash
    rfl
  · unfold Trivia.doc?
    split
    · rfl
    · next shape =>
      cases shape
      exact absurd ⟨_, rfl⟩ slash
    · next shape =>
      cases shape
      exact absurd ⟨_, rfl⟩ slash
    · rfl

/-- A closed stretch without documentation is passed over, and so are its items. -/
theorem Trivia.span_of_gap {filler : List Char} (gap : Gap IsOrdinary False filler) :
    ∃ items, Trivia.docs items = [] ∧ ∀ text,
      Trivia.span (filler ++ text) = (items ++ (Trivia.span text).1, (Trivia.span text).2) := by
  induction gap with
  | nil => exact ⟨[], rfl, fun _ => rfl⟩
  | @blank c rest separates _ ih =>
    obtain ⟨items, silent, spans⟩ := ih
    refine ⟨.blank c :: items, by simpa [Trivia.docs, Trivia.doc?] using silent, fun text => ?_⟩
    rw [List.cons_append, Trivia.span_of_next? (Trivia.next?_blank _ separates), spans]
    rfl
  | @line body rest single ordinary ends _ ih =>
    obtain ⟨items, silent, spans⟩ := ih
    refine ⟨.line body :: items, ?_, fun text => ?_⟩
    · simpa [Trivia.docs, ordinary.doc?] using silent
    · have newline : (rest ++ text).head? = some '\n' := by
        obtain ⟨tail, rfl⟩ := List.head?_eq_some_iff.1 (ends.resolve_right (·.2))
        rfl
      rw [List.cons_append, List.cons_append, List.append_assoc,
        Trivia.span_of_next? (Trivia.next?_line single newline), spans]
      rfl
  | @block comment rest isBlock _ ih =>
    obtain ⟨body, rfl, closes⟩ := isBlock
    obtain ⟨items, silent, spans⟩ := ih
    refine ⟨.block body :: items, by simpa [Trivia.docs, Trivia.doc?] using silent, fun text => ?_⟩
    rw [List.append_assoc, List.cons_append, List.cons_append,
      Trivia.span_of_next? (Trivia.next?_block _ closes), spans]
    rfl
  | openBlock last _ => exact last.elim

/-- Whether two texts have the same signs and end in the same documentation. -/
structure Alike (text other : List Char) : Prop where
  /-- The signs of the tokens are the same. -/
  signs : (Lexeme.scan text).map Lexeme.sign = (Lexeme.scan other).map Lexeme.sign
  /-- The documentation before the end of the input is the same. -/
  docs : Trivia.docs (Lexeme.tail text) = Trivia.docs (Lexeme.tail other)

/-- A closed stretch without documentation in front changes no sign. -/
theorem alike_of_gap {filler : List Char} (gap : Gap IsOrdinary False filler) (text : List Char) :
    Alike (filler ++ text) text := by
  obtain ⟨items, silent, spans⟩ := Trivia.span_of_gap gap
  have docs : ∀ more, Trivia.docs (items ++ more) = Trivia.docs more := by
    intro more
    simpa [Trivia.docs, List.filterMap_append] using silent
  have same : Lexeme.next? (filler ++ text) =
      (Lexeme.next? text).map fun found =>
        ({ found.1 with gap := items ++ found.1.gap }, found.2) := by
    unfold Lexeme.next?
    rw [spans]
    rcases Trivia.span text with ⟨front, _ | ⟨c, tail⟩⟩ <;> rfl
  cases ahead : Lexeme.next? text with
  | none =>
    rw [ahead] at same
    refine ⟨?_, ?_⟩
    · rw [Lexeme.scan_of_next?_eq_none ahead, Lexeme.scan_of_next?_eq_none same]
    · rw [Lexeme.tail_of_next?_eq_none ahead, Lexeme.tail_of_next?_eq_none same, spans, docs]
  | some pair =>
    obtain ⟨lexeme, after⟩ := pair
    rw [ahead] at same
    refine ⟨?_, ?_⟩
    · rw [Lexeme.scan_of_next? ahead, Lexeme.scan_of_next? same]
      simp only [List.map_cons, Lexeme.sign, docs, Lexeme.value]
    · rw [Lexeme.tail_of_next? ahead, Lexeme.tail_of_next? same]

/-- Whether a text ends where a lexeme of the whole ends: it is made of lexemes of the whole. -/
inductive EndsLexeme : List Char → List Char → Prop
  | nil {after : List Char} : EndsLexeme [] after
  | cons {lexeme : Lexeme} {before after : List Char}
      (found : Lexeme.next? (lexeme.chars ++ (before ++ after)) = some (lexeme, before ++ after))
      (more : EndsLexeme before after) : EndsLexeme (lexeme.chars ++ before) after

/-- A stretch without documentation that begins with a blank may be put behind a lexeme. -/
theorem EndsLexeme.alike {before after filler : List Char} (ends : EndsLexeme before after)
    (blank : Trivia.isSeparator c = true) (gap : Gap IsOrdinary False filler) :
    Alike (before ++ (c :: filler ++ after)) (before ++ after) := by
  induction ends with
  | nil => exact alike_of_gap (.blank blank gap) _
  | @cons lexeme before after found more ih =>
    have exchanges : Exchanges (before ++ after) (before ++ (c :: filler ++ after)) := by
      cases before with
      | nil => exact .inr ⟨c, rfl, blank⟩
      | cons d tail => exact .inl rfl
    have again := Lexeme.next?_of_exchanges found exchanges
    rw [List.append_assoc, List.append_assoc]
    refine ⟨?_, ?_⟩
    · rw [Lexeme.scan_of_next? found, Lexeme.scan_of_next? again, List.map_cons, List.map_cons,
        ih.signs]
    · rw [Lexeme.tail_of_next? found, Lexeme.tail_of_next? again, ih.docs]

open String (utf8Len) in
/-- The offset behind a token is that behind a lexeme. -/
theorem exists_endsLexeme_of_mem_placed {front : List Char} (text : List Char) {token : Token}
    (member : token ∈ placed (Position.start.advanceOver front) (Lexeme.scan text)) :
    ∃ before after, text = before ++ after ∧ EndsLexeme before after ∧
      token.stop.offset = utf8Len (front ++ before) := by
  fun_induction Lexeme.scan text generalizing front with
  | case1 => simp [placed] at member
  | case2 text lexeme rest found ih =>
    have whole := Lexeme.chars_append_of_next? found
    rcases List.mem_cons.1 member with rfl | member
    · refine ⟨lexeme.chars, rest, whole.symm, ?_, ?_⟩
      · have ends : EndsLexeme (lexeme.chars ++ []) rest :=
          .cons (by rwa [List.nil_append, whole]) .nil
        rwa [List.append_nil] at ends
      · rw [stop_ofLexeme, Position.offset_advanceOver_start]
    · rw [stop_ofLexeme] at member
      obtain ⟨before, after, rfl, ends, offset⟩ := ih member
      refine ⟨lexeme.chars ++ before, after, ?_, .cons (by rwa [whole]) ends, ?_⟩
      · rw [← whole, List.append_assoc]
      · rw [offset, List.append_assoc]

end WitBridge.Token
