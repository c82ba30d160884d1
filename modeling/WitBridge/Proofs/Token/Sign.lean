import WitBridge.Name
import WitBridge.Proofs.Text.Runs
import WitBridge.Token

/-!
# Signs of a text

A sign is a token without its place. The signs of a text follow from its front: a blank is
passed over, a line of documentation is kept for the next token, and a word, a number or a mark
at the front is the first sign if the text after it does not make it longer. So the signs of a
text that is put together from such pieces are known piece by piece.
-/
namespace WitBridge.Token

/-- A token without its place. -/
structure Sign where
  /-- What the token is. -/
  kind : Kind
  /-- Its characters, or the complaint of an invalid token. -/
  value : String
  /-- The documentation before it. -/
  docs : List String
  deriving DecidableEq, Repr

/-- The sign of a token. -/
def sign (token : Token) : Sign := ⟨token.kind, token.value, token.docs⟩

/-- The sign of a lexeme. -/
def Lexeme.sign (lexeme : Lexeme) : Sign :=
  ⟨lexeme.kind, lexeme.value, Trivia.docs lexeme.gap⟩

/-- Placing lexemes does not change their signs. -/
theorem map_sign_placed (position : Position) (lexemes : List Lexeme) :
    (placed position lexemes).map sign = lexemes.map Lexeme.sign := by
  induction lexemes generalizing position with
  | nil => rfl
  | cons first rest ih =>
    simp only [placed, List.map_cons, ih]
    rfl

/-- Signs with more documentation in front of the first. -/
def documented (docs : List String) : List Sign → List Sign
  | [] => []
  | first :: rest => { first with docs := docs ++ first.docs } :: rest

/-- The signs of a text that follows some documentation. -/
def signs (docs : List String) (text : List Char) : List Sign :=
  documented docs ((Lexeme.scan text).map Lexeme.sign)

/-- No documentation changes nothing. -/
@[simp]
theorem documented_nil (list : List Sign) : documented [] list = list := by
  cases list <;> rfl

/-- An item of trivia and the trivia after it. -/
theorem Trivia.span_of_next? {text rest : List Char} {item : Trivia}
    (found : Trivia.next? text = some (item, rest)) :
    Trivia.span text = (item :: (Trivia.span rest).1, (Trivia.span rest).2) := by
  rw [Trivia.span]
  split
  · next missing => rw [found] at missing; contradiction
  · next other tail again =>
    rw [found] at again
    cases again
    rfl

/-- A lexeme is cut off behind the trivia at the front of a text. -/
theorem Lexeme.exists_cut_of_next? {text rest : List Char} {lexeme : Lexeme}
    (found : Lexeme.next? text = some (lexeme, rest)) :
    ∃ c tail, Trivia.span text = (lexeme.gap, c :: tail) ∧
      Lexeme.cut c tail = (lexeme.kind, lexeme.text, rest) := by
  unfold Lexeme.next? at found
  split at found
  · contradiction
  · next gap c tail spanned =>
    cases found
    exact ⟨c, tail, spanned, rfl⟩

/-- The value of a lexeme that is not invalid is its characters. -/
theorem Lexeme.value_of_valid {lexeme : Lexeme} (valid : lexeme.kind ≠ .invalid) :
    lexeme.value = String.ofList lexeme.text := by
  unfold Lexeme.value
  split
  · next same => exact absurd same valid
  · rfl

/-- The value of a word is its characters. -/
theorem Lexeme.value_of_isWord {lexeme : Lexeme} (isWord : lexeme.kind.isWord = true) :
    lexeme.value = String.ofList lexeme.text := by
  refine Lexeme.value_of_valid fun same => ?_
  rw [same] at isWord
  contradiction

/-- The lexemes of a text whose front is known. -/
theorem Lexeme.scan_of_next? {text rest : List Char} {lexeme : Lexeme}
    (found : Lexeme.next? text = some (lexeme, rest)) :
    Lexeme.scan text = lexeme :: Lexeme.scan rest := by
  rw [Lexeme.scan]
  split
  · next missing => rw [found] at missing; contradiction
  · next other tail again =>
    rw [found] at again
    cases again
    rfl

/-- A text with nothing but trivia has no lexemes. -/
theorem Lexeme.scan_of_next?_eq_none {text : List Char} (missing : Lexeme.next? text = none) :
    Lexeme.scan text = [] := by
  rw [Lexeme.scan]
  split
  · rfl
  · next found => rw [missing] at found; contradiction

/-- Trivia at the front leaves its documentation to the signs of the text after it. -/
theorem signs_of_trivia {text rest : List Char} {item : Trivia} (docs : List String)
    (found : Trivia.next? text = some (item, rest)) :
    signs docs text = signs (docs ++ item.doc?.toList) rest := by
  have spanned := Trivia.span_of_next? found
  have same : Lexeme.next? text =
      (Lexeme.next? rest).map fun (lexeme, after) =>
        ({ lexeme with gap := item :: lexeme.gap }, after) := by
    unfold Lexeme.next?
    rw [spanned]
    rcases Trivia.span rest with ⟨gap, _ | ⟨c, tail⟩⟩ <;> rfl
  cases ahead : Lexeme.next? rest with
  | none =>
    rw [ahead] at same
    simp only [signs, Lexeme.scan_of_next?_eq_none ahead, Lexeme.scan_of_next?_eq_none same,
      List.map_nil, documented]
  | some pair =>
    obtain ⟨lexeme, after⟩ := pair
    rw [ahead] at same
    simp only [signs, Lexeme.scan_of_next? ahead, Lexeme.scan_of_next? same, List.map_cons,
      documented, Lexeme.sign, Trivia.docs, List.filterMap_cons]
    cases item.doc? <;> simp [Lexeme.value]

/-- Where no trivia is at the front, the first sign is cut there. -/
theorem signs_of_cut {c : Char} {rest : List Char} (docs : List String)
    (dark : Trivia.next? (c :: rest) = none) :
    signs docs (c :: rest) =
      ⟨(Lexeme.cut c rest).1, Lexeme.value ⟨[], (Lexeme.cut c rest).1, (Lexeme.cut c rest).2.1⟩,
        docs⟩ :: signs [] (Lexeme.cut c rest).2.2 := by
  have spanned : Trivia.span (c :: rest) = ([], c :: rest) := by
    rw [Trivia.span]
    split
    · rfl
    · next found => rw [dark] at found; contradiction
  have found : Lexeme.next? (c :: rest) =
      some (⟨[], (Lexeme.cut c rest).1, (Lexeme.cut c rest).2.1⟩, (Lexeme.cut c rest).2.2) := by
    unfold Lexeme.next?
    rw [spanned]
  rw [signs, Lexeme.scan_of_next? found, List.map_cons, signs, documented_nil]
  simp [documented, Lexeme.sign, Trivia.docs]

/-- Nothing is left of the empty text. -/
@[simp]
theorem signs_nil (docs : List String) : signs docs [] = [] := by
  have missing : Lexeme.next? [] = none := by
    unfold Lexeme.next? Trivia.span
    rfl
  simp [signs, Lexeme.scan_of_next?_eq_none missing, documented]

/-- Whether a text does not make a word in front of it longer. -/
def Loose (text : List Char) : Prop :=
  ∀ c ∈ text.head?, isWordPart c = false

@[simp]
theorem loose_nil : Loose [] := by simp [Loose]

@[simp]
theorem loose_cons {c : Char} {rest : List Char} : Loose (c :: rest) ↔ isWordPart c = false := by
  simp [Loose]

/-- A blank is passed over. -/
theorem signs_blank {c : Char} (docs : List String) (rest : List Char)
    (blank : Trivia.isSeparator c = true) : signs docs (c :: rest) = signs docs rest := by
  have found : Trivia.next? (c :: rest) = some (.blank c, rest) := by
    unfold Trivia.next?
    split
    · contradiction
    · next shape => cases shape; exact absurd blank (by decide)
    · next shape => cases shape; exact absurd blank (by decide)
    · next shape => cases shape; simp [blank]
  simpa [Trivia.doc?] using signs_of_trivia docs found

@[simp]
theorem signs_space (docs : List String) (rest : List Char) :
    signs docs (' ' :: rest) = signs docs rest :=
  signs_blank docs rest (by decide)

@[simp]
theorem signs_newline (docs : List String) (rest : List Char) :
    signs docs ('\n' :: rest) = signs docs rest :=
  signs_blank docs rest (by decide)

/-- Any number of spaces is passed over. -/
@[simp]
theorem signs_replicate (docs : List String) (count : Nat) (rest : List Char) :
    signs docs (List.replicate count ' ' ++ rest) = signs docs rest := by
  induction count with
  | zero => rfl
  | succ count ih => simpa [List.replicate_succ] using ih

/-- A comment of three slashes is documentation up to the end of its line. -/
theorem signs_line {body : List Char} {doc : String} (docs : List String) (rest : List Char)
    (single : '\n' ∉ body) (found : (Trivia.line body).doc? = some doc) :
    signs docs ('/' :: '/' :: (body ++ '\n' :: rest)) = signs (docs ++ [doc]) rest := by
  have inside : ∀ c ∈ body, decide (c ≠ '\n') = true := by
    intro c member
    simp only [ne_eq, decide_not, Bool.not_eq_eq_eq_not, Bool.not_true, decide_eq_false_iff_not]
    rintro rfl
    exact single member
  have outside : ∀ c ∈ ('\n' :: rest).head?, decide (c ≠ '\n') = false := by simp
  obtain ⟨taken, dropped⟩ := Text.takeWhile_append_of_head inside outside
  have line : Trivia.next? ('/' :: '/' :: (body ++ '\n' :: rest)) =
      some (.line body, '\n' :: rest) := by
    simp only [Trivia.next?, taken, dropped]
  rw [signs_of_trivia docs line, found, signs_newline]
  rfl

/-- A character that opens no trivia. -/
theorem next?_eq_none {c : Char} (rest : List Char) (dark : Trivia.isSeparator c = false)
    (open' : c = '/' → ∀ d ∈ rest.head?, d ≠ '/' ∧ d ≠ '*') : Trivia.next? (c :: rest) = none := by
  unfold Trivia.next?
  split
  · rfl
  · next shape => cases shape; exact absurd rfl (open' rfl '/' (by simp)).1
  · next shape => cases shape; exact absurd rfl (open' rfl '*' (by simp)).2
  · next shape => cases shape; simp [dark]

/-- A mark is a sign of its own; a slash is one if it opens no comment. -/
theorem signs_mark {c : Char} {m : Mark} (docs : List String) (rest : List Char)
    (found : Mark.ofChar? c = some m)
    (open' : c = '/' → ∀ d ∈ rest.head?, d ≠ '/' ∧ d ≠ '*') :
    signs docs (c :: rest) = ⟨.mark m, String.ofList [c], docs⟩ :: signs [] rest := by
  have dark : Trivia.isSeparator c = false := by
    revert found
    fun_cases Mark.ofChar? c <;> first | (intro; rfl) | simp
  have cut : Lexeme.cut c rest = (.mark m, [c], rest) := by
    simp [Lexeme.cut, found]
  rw [signs_of_cut docs (next?_eq_none rest dark open'), cut]
  rfl

/-- The mark of a character that begins no comment, so of each but the slash. -/
def Mark.lone? (c : Char) : Option Mark :=
  if c = '/' then none else ofChar? c

/-- A mark that begins no comment is a sign of its own. -/
theorem signs_lone {c : Char} {m : Mark} (docs : List String) (rest : List Char)
    (found : Mark.lone? c = some m) :
    signs docs (c :: rest) = ⟨.mark m, String.ofList [c], docs⟩ :: signs [] rest := by
  obtain ⟨other, mark⟩ : c ≠ '/' ∧ Mark.ofChar? c = some m := by
    simpa [Mark.lone?] using found
  exact signs_mark docs rest mark fun slash => absurd slash other

/-- An arrow is one sign. -/
theorem signs_arrow (docs : List String) (rest : List Char) :
    signs docs ('-' :: '>' :: rest) = ⟨.mark .arrow, "->", docs⟩ :: signs [] rest := by
  have dark : Trivia.next? ('-' :: '>' :: rest) = none :=
    next?_eq_none _ (by decide) (fun slash => absurd slash (by decide))
  rw [signs_of_cut docs dark]
  rfl

/-- Whether a text is one word, other than the underscore. -/
def isWordText : List Char → Bool
  | [] => false
  | c :: rest => isWordStart c && rest.all isWordPart && c :: rest != ['_']

/-- The first character of a word is no mark, hyphen, digit or blank. -/
theorem not_mark_of_isWordStart {c : Char} (start : isWordStart c = true) :
    Mark.ofChar? c = none ∧ c ≠ '-' ∧ c ≠ '/' ∧ c.isDigit = false ∧
      Trivia.isSeparator c = false := by
  have digit : c.isDigit = false := by
    cases digit : c.isDigit with
    | false => rfl
    | true =>
      obtain ⟨-, -, alpha, -, -, -, underscore⟩ := Text.case_of_isDigit digit
      simp [isWordStart, alpha, underscore] at start
  have apart : ∀ d : Char, isWordStart d = false → c ≠ d := by
    rintro d dark rfl
    rw [start] at dark
    contradiction
  refine ⟨?_, apart '-' (by decide), apart '/' (by decide), digit, ?_⟩
  · unfold Mark.ofChar?
    split <;> first | rfl | exact absurd start (by decide)
  · simp [Trivia.isSeparator, apart ' ' (by decide), apart '\t' (by decide),
      apart '\r' (by decide), apart '\n' (by decide)]

/-- A word is one sign where the text after it does not make it longer. -/
theorem signs_word {word rest : List Char} (docs : List String) (isWord : isWordText word = true)
    (loose : Loose rest) :
    signs docs (word ++ rest) =
      ⟨.ofWord (String.ofList word), String.ofList word, docs⟩ :: signs [] rest := by
  cases word with
  | nil => exact absurd isWord (by decide)
  | cons c tail =>
    simp only [isWordText, Bool.and_eq_true, List.all_eq_true, bne_iff_ne, ne_eq] at isWord
    obtain ⟨⟨start, inside⟩, other⟩ := isWord
    obtain ⟨mark, hyphen, slash, digit, dark⟩ := not_mark_of_isWordStart start
    obtain ⟨taken, dropped⟩ := Text.takeWhile_append_of_head inside loose
    have cut : Lexeme.cut c (tail ++ rest) =
        (.ofWord (String.ofList (c :: tail)), c :: tail, rest) := by
      simp [Lexeme.cut, mark, hyphen, digit, start, taken, dropped, other]
    have value : Lexeme.value ⟨[], .ofWord (String.ofList (c :: tail)), c :: tail⟩ =
        String.ofList (c :: tail) := by
      unfold Lexeme.value
      split
      · next same =>
        have isWord := Kind.isWord_ofWord (String.ofList (c :: tail))
        rw [show Kind.ofWord (String.ofList (c :: tail)) = .invalid from same] at isWord
        contradiction
      · rfl
    rw [List.cons_append, signs_of_cut docs (next?_eq_none _ dark fun same => absurd same slash),
      cut, value]

/-- No word is a mark. -/
theorem Kind.ofWord_ne_mark (word : String) (m : Mark) : Kind.ofWord word ≠ .mark m := by
  intro same
  have isWord := Kind.isWord_ofWord word
  rw [same] at isWord
  contradiction

/-- A reserved word is one sign. -/
theorem signs_reserved {kind : Kind} {word : String} {rest : List Char} (docs : List String)
    (member : kind ∈ Kind.reserved) (spelled : kind.spelling? = some word) (loose : Loose rest) :
    signs docs (word.toList ++ rest) = ⟨kind, word, docs⟩ :: signs [] rest := by
  have words : ∀ kind ∈ Kind.reserved,
      kind.spelling?.map (fun word => isWordText word.toList) = some true := by decide
  have isWord : isWordText word.toList = true := by simpa [spelled] using words kind member
  rw [signs_word docs isWord loose, String.ofList_toList,
    Kind.ofWord_reserved kind member word spelled]

/-- A keyword is one sign. -/
theorem signs_keyword (k : Keyword) {rest : List Char} (docs : List String) (loose : Loose rest) :
    signs docs (k.spelling.toList ++ rest) = ⟨.keyword k, k.spelling, docs⟩ :: signs [] rest :=
  signs_reserved docs (by cases k <;> decide) rfl loose

/-- The word of a built-in type is one sign. -/
theorem signs_builtin (b : Builtin) {rest : List Char} (docs : List String) (loose : Loose rest) :
    signs docs (b.spelling.toList ++ rest) = ⟨.builtin b, b.spelling, docs⟩ :: signs [] rest := by
  have member : Kind.builtin b ∈ Kind.reserved := by
    cases b with
    | primitive kind => cases kind <;> decide
    | _ => decide
  exact signs_reserved docs member rfl loose

/-- A name in kebab case is one word. -/
theorem isWordText_of_isKebab {text : List Char} (kebab : isKebab text = true) :
    isWordText text = true := by
  cases text with
  | nil => exact absurd kebab (by decide)
  | cons c rest =>
    simp only [isKebab, Bool.and_eq_true, List.all_eq_true] at kebab
    obtain ⟨⟨lower, parts⟩, -⟩ := kebab
    have start : isWordStart c = true := by simp [isWordStart, Text.case_of_isLower lower]
    have inside : ∀ d ∈ rest, isWordPart d = true := by
      intro d member
      have part := parts d member
      simp only [isNamePart, Bool.or_eq_true, decide_eq_true_eq] at part
      rcases part with (lower | digit) | hyphen
      · simp [isWordPart, Char.isAlphanum, Text.case_of_isLower lower]
      · simp [isWordPart, Char.isAlphanum, digit]
      · simp [isWordPart, hyphen]
    have other : c ≠ '_' := by
      rintro rfl
      exact absurd lower (by decide)
    simpa [isWordText, start, other] using inside

/-- A name in kebab case is one sign. -/
theorem signs_name (name : KebabName) {rest : List Char} (docs : List String)
    (loose : Loose rest) :
    signs docs (name.text.toList ++ rest) =
      ⟨.ofWord name.text, name.text, docs⟩ :: signs [] rest := by
  rw [signs_word docs (isWordText_of_isKebab name.kebab) loose, String.ofList_toList]

/-- An underscore on its own is a mark. -/
theorem signs_underscore {rest : List Char} (docs : List String) (loose : Loose rest) :
    signs docs ('_' :: rest) = ⟨.mark .underscore, "_", docs⟩ :: signs [] rest := by
  obtain ⟨mark, hyphen, slash, digit, dark⟩ := not_mark_of_isWordStart (c := '_') (by decide)
  have inside : ∀ c ∈ ([] : List Char), isWordPart c = true := by simp
  obtain ⟨taken, dropped⟩ := Text.takeWhile_append_of_head inside loose
  have cut : Lexeme.cut '_' rest = (.mark .underscore, ['_'], rest) := by
    simp only [List.nil_append] at taken dropped
    simp [Lexeme.cut, mark, digit, taken, dropped, show isWordStart '_' = true by decide]
  rw [signs_of_cut docs (next?_eq_none _ dark fun same => absurd same slash), cut]
  rfl

/-- A run of digits is one sign where no digit follows. -/
theorem signs_integer {digits rest : List Char} (docs : List String) (inhabited : digits ≠ [])
    (inside : ∀ c ∈ digits, c.isDigit = true) (outside : ∀ c ∈ rest.head?, c.isDigit = false) :
    signs docs (digits ++ rest) = ⟨.integer, String.ofList digits, docs⟩ :: signs [] rest := by
  cases digits with
  | nil => exact absurd rfl inhabited
  | cons c tail =>
    have digit : c.isDigit = true := inside c (by simp)
    have apart : ∀ d : Char, d.isDigit = false → c ≠ d := by
      rintro d dark rfl
      rw [digit] at dark
      contradiction
    have mark : Mark.ofChar? c = none := by
      unfold Mark.ofChar?
      split <;> first | rfl | exact absurd digit (by decide)
    have dark : Trivia.isSeparator c = false := by
      simp [Trivia.isSeparator, apart ' ' (by decide), apart '\t' (by decide),
        apart '\r' (by decide), apart '\n' (by decide)]
    obtain ⟨taken, dropped⟩ :=
      Text.takeWhile_append_of_head
        (fun d member => inside d (List.mem_cons_of_mem c member)) outside
    have cut : Lexeme.cut c (tail ++ rest) = (.integer, c :: tail, rest) := by
      simp [Lexeme.cut, mark, apart '-' (by decide), digit, taken, dropped]
    rw [List.cons_append,
      signs_of_cut docs (next?_eq_none _ dark fun same => absurd same (apart '/' (by decide))), cut]
    rfl

end WitBridge.Token
