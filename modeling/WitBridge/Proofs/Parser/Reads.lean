import WitBridge.Parser
import WitBridge.Proofs.Token.Sign

/-!
# What a parser reads

A parser reads a value from a list of signs if on every stream with these signs ahead it
returns the value and leaves a given list of signs. It takes the value if it also leaves fewer
signs than it found. Both pass from the steps of a parser to the whole, and a repetition reads
the list of what its item reads, for its item takes a sign each time.
-/
namespace WitBridge

open Token (Sign Kind signs Loose)

/-- The signs ahead of a stream, before the end of the input. -/
structure TokenStream.Shows (stream : TokenStream) (list : List Sign) : Prop where
  /-- The tokens ahead have these signs. -/
  ahead : stream.ahead.map Token.sign = list
  /-- The last token is the end of the input. -/
  ended : stream.final.kind = .endOfInput

/-- The kind of the first sign; where there is none the input ends. -/
def Token.front : List Sign → Kind
  | [] => .endOfInput
  | first :: _ => first.kind

open Token (front)

namespace TokenStream

variable {stream : TokenStream} {first : Sign} {rest list : List Sign}

/-- Every list of signs is shown by a stream. -/
theorem exists_shows (list : List Sign) : ∃ stream : TokenStream, stream.Shows list := by
  refine ⟨⟨list.map fun sign => ⟨sign.kind, sign.value, .start, .start, sign.docs⟩,
    ⟨.endOfInput, "", .start, .start, []⟩⟩, ?_, rfl⟩
  simp [Function.comp_def, Token.sign]

/-- The tokens of a source text have the signs of the text. -/
theorem shows_ofSource (source : String) : (ofSource source).Shows (signs [] source.toList) :=
  ⟨by simp [ofSource, Token.map_sign_placed, signs], rfl⟩

/-- A stream that shows a sign holds its token. -/
theorem Shows.exists_token (shows : stream.Shows (first :: rest)) :
    ∃ token tokens, stream.ahead = token :: tokens ∧ token.sign = first ∧
      tokens.map Token.sign = rest := by
  obtain ⟨ahead, -⟩ := shows
  cases tokens : stream.ahead with
  | nil => simp [tokens] at ahead
  | cons token more =>
    rw [tokens, List.map_cons, List.cons.injEq] at ahead
    exact ⟨token, more, rfl, ahead.1, ahead.2⟩

/-- The token at hand has the first sign. -/
theorem Shows.sign_current (shows : stream.Shows (first :: rest)) :
    stream.current.sign = first := by
  obtain ⟨token, tokens, ahead, same, -⟩ := shows.exists_token
  simp [current, ahead, same]

/-- Past its token a stream shows the signs after the first. -/
theorem Shows.advance (shows : stream.Shows (first :: rest)) : stream.advance.Shows rest := by
  obtain ⟨token, tokens, ahead, -, same⟩ := shows.exists_token
  have moved : stream.advance = ⟨tokens, stream.final⟩ := by simp [TokenStream.advance, ahead]
  exact ⟨by rw [moved]; exact same, by rw [moved]; exact shows.ended⟩

/-- The token at hand is of the first kind. -/
theorem Shows.kind_current (shows : stream.Shows list) : stream.current.kind = front list := by
  cases list with
  | nil =>
    have empty : stream.ahead = [] := List.map_eq_nil_iff.1 shows.ahead
    simpa [current, empty, front] using shows.ended
  | cons first rest => exact congrArg Sign.kind shows.sign_current

/-- The token after the one at hand is of the second kind. -/
theorem Shows.kind_peek (shows : stream.Shows (first :: rest)) :
    stream.peek.kind = front rest := by
  have moved := shows.advance.kind_current
  obtain ⟨token, tokens, ahead, -⟩ := shows.exists_token
  simpa [peek, current, TokenStream.advance, ahead] using moved

/-- There are as many tokens as signs. -/
theorem Shows.length_ahead (shows : stream.Shows list) : stream.ahead.length = list.length := by
  rw [← shows.ahead, List.length_map]

end TokenStream

namespace Parser

variable {α β : Type} {parser : Parser α} {next : α → Parser β} {value : α} {found : β}
  {before middle left rest : List Sign} {kind : Kind} {docs : List String} {text : String}

/-- The parser returns the value on every stream that shows the signs before, and leaves the
signs after. -/
structure Reads (parser : Parser α) (before : List Sign) (value : α) (left : List Sign) :
    Prop where
  /-- No sign is added. -/
  length_le : left.length ≤ before.length
  /-- The value is returned. -/
  run : ∀ stream : TokenStream, stream.Shows before →
    ∃ rest, parser.run stream = .ok (value, rest) ∧ rest.Shows left

/-- The parser reads the value and takes a sign. -/
structure Takes (parser : Parser α) (before : List Sign) (value : α) (left : List Sign) :
    Prop where
  /-- A sign is taken. -/
  length_lt : left.length < before.length
  /-- The value is returned. -/
  run : ∀ stream : TokenStream, stream.Shows before →
    ∃ rest, parser.run stream = .ok (value, rest) ∧ rest.Shows left

/-- To take a value is to read it. -/
theorem Takes.reads (takes : Takes parser before value left) : Reads parser before value left :=
  ⟨Nat.le_of_lt takes.length_lt, takes.run⟩

/-- A step and the steps after it. -/
theorem Reads.bind (first : Reads parser before value middle)
    (second : Reads (next value) middle found left) :
    Reads (parser >>= next) before found left := by
  refine ⟨Nat.le_trans second.length_le first.length_le, fun stream shows => ?_⟩
  obtain ⟨rest, ran, shown⟩ := first.run stream shows
  obtain ⟨last, again, done⟩ := second.run rest shown
  exact ⟨last, by rw [StateT.run_bind, ran]; exact again, done⟩

/-- A step that takes a sign and the steps after it. -/
theorem Takes.bind (first : Takes parser before value middle)
    (second : Reads (next value) middle found left) :
    Takes (parser >>= next) before found left :=
  ⟨Nat.lt_of_le_of_lt second.length_le first.length_lt, (first.reads.bind second).run⟩

/-- A step and steps after it that take a sign. -/
theorem Takes.after (first : Reads parser before value middle)
    (second : Takes (next value) middle found left) :
    Takes (parser >>= next) before found left :=
  ⟨Nat.lt_of_lt_of_le second.length_lt first.length_le, (first.bind second.reads).run⟩

/-- A value that is there is read from nothing. -/
theorem reads_pure (value : α) (list : List Sign) : Reads (pure value) list value list :=
  ⟨Nat.le_refl _, fun stream shows => ⟨stream, rfl, shows⟩⟩

/-- What follows the token at hand depends on its sign. -/
theorem reads_current {step : Token → Parser β} {first : Sign}
    (each : ∀ token : Token, token.sign = first → Reads (step token) (first :: rest) found left) :
    Reads (current >>= step) (first :: rest) found left := by
  refine ⟨(each ⟨first.kind, first.value, .start, .start, first.docs⟩ rfl).length_le,
    fun stream shows => ?_⟩
  exact (each stream.current shows.sign_current).run stream shows

/-- What follows the token at hand depends on its sign, and a sign is taken. -/
theorem takes_current {step : Token → Parser β} {first : Sign}
    (each : ∀ token : Token, token.sign = first → Takes (step token) (first :: rest) found left) :
    Takes (current >>= step) (first :: rest) found left :=
  ⟨(each ⟨first.kind, first.value, .start, .start, first.docs⟩ rfl).length_lt,
    (reads_current fun token same => (each token same).reads).run⟩

/-- What follows the token at hand depends on the kind in front. -/
theorem reads_front {step : Token → Parser β}
    (each : ∀ token : Token, token.kind = front before → Reads (step token) before found left) :
    Reads (current >>= step) before found left := by
  refine ⟨(each ⟨front before, "", .start, .start, []⟩ rfl).length_le, fun stream shows => ?_⟩
  exact (each stream.current shows.kind_current).run stream shows

/-- What follows the token at hand depends on the kind in front, and a sign is taken. -/
theorem takes_front {step : Token → Parser β}
    (each : ∀ token : Token, token.kind = front before → Takes (step token) before found left) :
    Takes (current >>= step) before found left :=
  ⟨(each ⟨front before, "", .start, .start, []⟩ rfl).length_lt,
    (reads_front fun token same => (each token same).reads).run⟩

/-- What follows the stream depends on its signs. -/
theorem reads_get {step : TokenStream → Parser β}
    (each : ∀ stream : TokenStream, stream.Shows before → Reads (step stream) before found left)
    (length_le : left.length ≤ before.length) :
    Reads (get >>= step) before found left :=
  ⟨length_le, fun stream shows => (each stream shows).run stream shows⟩

/-- A parser that stops returns nothing. -/
theorem run_unexpected_ne_ok (expected : String) (stream : TokenStream)
    (result : α × TokenStream) : (unexpected expected : Parser α).run stream ≠ .ok result := by
  intro found
  simp only [unexpected, current, bind_assoc, pure_bind, StateT.run_bind, StateT.run_get] at found
  split at found
  · cases found
  · cases found

/-- A parser takes nothing where it stops. -/
theorem Takes.front_ne (takes : Takes parser before value left)
    (stops : ∀ stream : TokenStream, stream.current.kind = kind →
      ∀ result, parser.run stream ≠ .ok result) : front before ≠ kind := by
  intro same
  obtain ⟨stream, shows⟩ := TokenStream.exists_shows before
  obtain ⟨rest, ran, -⟩ := takes.run stream shows
  exact stops stream (shows.kind_current.trans same) _ ran

/-- The kind at hand is looked at. -/
theorem reads_check (kind : Kind) (list : List Sign) :
    Reads (check kind) list (decide (front list = kind)) list := by
  refine ⟨Nat.le_refl _, fun stream shows => ⟨stream, ?_, shows⟩⟩
  rw [← shows.kind_current]
  rfl

/-- The documentation at hand is looked at. -/
theorem reads_docs (first : Sign) (rest : List Sign) :
    Reads Parser.docs (first :: rest) ⟨first.docs⟩ (first :: rest) := by
  refine ⟨Nat.le_refl _, fun stream shows => ⟨stream, ?_, shows⟩⟩
  rw [← shows.sign_current]
  rfl

/-- The token at hand is taken. -/
theorem takes_advance (first : Sign) (rest : List Sign) :
    Takes (discard advance) (first :: rest) () rest :=
  ⟨Nat.lt_succ_self _, fun stream shows => ⟨stream.advance, rfl, shows.advance⟩⟩

/-- A token of the kind asked for is taken. -/
theorem takes_expect (kind : Kind) (value : String) (docs : List String) (rest : List Sign) :
    Takes (discard (expect kind)) (⟨kind, value, docs⟩ :: rest) () rest := by
  refine ⟨Nat.lt_succ_self _, fun stream shows => ⟨stream.advance, ?_, shows.advance⟩⟩
  have same : decide (stream.current.kind = kind) = true := by simp [shows.kind_current, front]
  have ran : (expect kind).run stream = .ok (stream.current, stream.advance) := by
    change (if decide (stream.current.kind = kind) = true then advance
      else unexpected kind.display).run stream = _
    rw [if_pos same]
    rfl
  change ((fun _ => ()) <$> expect kind).run stream = _
  rw [StateT.run_map, ran]
  rfl

/-- A token of another kind than expected stops the parser. -/
theorem run_expect_ne_ok {stream : TokenStream} (other : stream.current.kind ≠ kind)
    (result : Token × TokenStream) : (expect kind).run stream ≠ .ok result := by
  change (if decide (stream.current.kind = kind) = true then advance
    else unexpected kind.display).run stream ≠ _
  rw [if_neg (by simpa using other)]
  exact run_unexpected_ne_ok _ _ _

/-- What begins with documentation and a keyword has the keyword in front. -/
theorem Takes.front_keyword {k : Token.Keyword} {step : Documentation → Parser β}
    (takes : Takes (do let docs ← Parser.docs; keyword k; step docs) before found left) :
    front before = .keyword k := by
  refine Decidable.byContradiction fun other =>
    takes.front_ne (fun stream same result ran => ?_) rfl
  have kind : stream.current.kind ≠ .keyword k := same ▸ other
  cases expected : (expect (.keyword k)).run stream with
  | ok pair => exact run_expect_ne_ok kind pair expected
  | error fault =>
    have stopped : (do let docs ← Parser.docs; keyword k; step docs : Parser β).run stream =
        .error fault := by
      change (((fun _ => ()) <$> expect (.keyword k)) >>= fun _ =>
        step ⟨stream.current.docs⟩).run stream = _
      rw [StateT.run_bind, StateT.run_map, expected]
      rfl
    rw [stopped] at ran
    contradiction

/-- A token of the kind that is accepted is taken. -/
theorem takes_accept (kind : Kind) (value : String) (docs : List String) (rest : List Sign) :
    Takes (accept kind) (⟨kind, value, docs⟩ :: rest) true rest := by
  have same : decide (front (⟨kind, value, docs⟩ :: rest) = kind) = true := by simp [front]
  refine .after (reads_check _ _) ?_
  simp only [same, ↓reduceIte]
  exact (takes_advance _ _).bind (reads_pure _ _)

/-- A character that is a mark is in front. -/
theorem front_mark {c : Char} {m : Token.Mark} (docs : List String) (rest : List Char)
    (found : Token.Mark.lone? c = some m) :
    front (signs docs (c :: rest)) = .mark m := by
  rw [Token.signs_lone docs rest found]
  rfl

/-- A mark is one sign more. -/
theorem length_signs_mark {c : Char} {m : Token.Mark} (docs : List String) (rest : List Char)
    (found : Token.Mark.lone? c = some m) :
    (signs docs (c :: rest)).length = (signs [] rest).length + 1 := by
  rw [Token.signs_lone docs rest found]
  rfl

/-- A mark is taken. -/
theorem takes_mark {c : Char} {m : Token.Mark} (docs : List String) (rest : List Char)
    (found : Token.Mark.lone? c = some m) :
    Takes (mark m) (signs docs (c :: rest)) () (signs [] rest) := by
  rw [Token.signs_lone docs rest found]
  exact takes_expect _ _ docs _

/-- A mark is accepted. -/
theorem takes_accept_mark {c : Char} {m : Token.Mark} (docs : List String) (rest : List Char)
    (found : Token.Mark.lone? c = some m) :
    Takes (accept (.mark m)) (signs docs (c :: rest)) true (signs [] rest) := by
  rw [Token.signs_lone docs rest found]
  exact takes_accept _ _ docs _

/-- A slash before a name is accepted. -/
theorem takes_accept_slash {rest : List Char} (docs : List String)
    (plain : ∀ d ∈ rest.head?, d ≠ '/' ∧ d ≠ '*') :
    Takes (accept (.mark .slash)) (signs docs ('/' :: rest)) true (signs [] rest) := by
  rw [Token.signs_mark docs rest rfl fun _ => plain]
  exact takes_accept _ _ docs _

/-- A slash before a name is taken where it must stand. -/
theorem takes_slash {rest : List Char} (docs : List String)
    (plain : ∀ d ∈ rest.head?, d ≠ '/' ∧ d ≠ '*') :
    Takes (mark .slash) (signs docs ('/' :: rest)) () (signs [] rest) := by
  rw [Token.signs_mark docs rest rfl fun _ => plain]
  exact takes_expect _ _ docs _

/-- A keyword is in front. -/
theorem front_keyword {rest : List Char} (k : Token.Keyword) (docs : List String)
    (loose : Loose rest) : front (signs docs (k.spelling.toList ++ rest)) = .keyword k := by
  rw [Token.signs_keyword k docs loose]
  rfl

/-- A keyword is taken. -/
theorem takes_keyword {rest : List Char} (k : Token.Keyword) (docs : List String)
    (loose : Loose rest) :
    Takes (keyword k) (signs docs (k.spelling.toList ++ rest)) () (signs [] rest) := by
  rw [Token.signs_keyword k docs loose]
  exact takes_expect _ _ docs _

/-- A keyword is accepted. -/
theorem takes_accept_keyword {rest : List Char} (k : Token.Keyword) (docs : List String)
    (loose : Loose rest) :
    Takes (accept (.keyword k)) (signs docs (k.spelling.toList ++ rest)) true
      (signs [] rest) := by
  rw [Token.signs_keyword k docs loose]
  exact takes_accept _ _ docs _

/-- A token of another kind is left. -/
theorem reads_accept_of_ne (other : front before ≠ kind) :
    Reads (accept kind) before false before := by
  have same : decide (front before = kind) = false := by simp [other]
  refine .bind (reads_check _ _) ?_
  simp only [same, Bool.false_eq_true, ↓reduceIte]
  exact reads_pure _ _

/-- A word that is no name by itself is read where it is allowed. -/
theorem takes_name {escaped anyWord : Bool} {what : String} {name : KebabName}
    (isName : kind = .identifier ∨ (escaped || anyWord) ∧ kind.isWord) :
    Takes (do
      let token ← current
      if token.kind = .identifier || ((escaped || anyWord) && token.kind.isWord) then
        match KebabName.ofText .identifier token.value with
        | .ok bare =>
          discard advance
          return (⟨escaped, bare⟩ : Identifier)
        | .error fault => refuse token.start (.badName what fault)
      else unexpected what) (⟨kind, name.text, docs⟩ :: rest) ⟨escaped, name⟩ rest := by
  apply takes_current
  intro token same
  have found : token.kind = kind ∧ token.value = name.text :=
    ⟨congrArg Sign.kind same, congrArg Sign.value same⟩
  have allowed : (decide (token.kind = .identifier) ||
      ((escaped || anyWord) && token.kind.isWord)) = true := by
    simpa [found.1] using isName
  simp only [allowed, ↓reduceIte, found.2, KebabName.ofText_text]
  exact (takes_advance _ _).bind (reads_pure _ _)

/-- A name with its escape is taken, whatever word it is. -/
theorem takes_identifier_escaped {value : String} {inner : List String} {name : KebabName}
    (what : String) (anyWord : Bool) (isWord : kind.isWord = true) :
    Takes (identifier what anyWord)
      (⟨.mark .percent, value, docs⟩ :: ⟨kind, name.text, inner⟩ :: rest) ⟨true, name⟩ rest :=
  (takes_accept _ _ _ _).bind (takes_name (.inr ⟨rfl, isWord⟩)).reads

/-- A name without an escape is taken if it is not reserved. -/
theorem takes_identifier_bare {name : KebabName} (what : String) (anyWord : Bool) :
    Takes (identifier what anyWord) (⟨.identifier, name.text, docs⟩ :: rest) ⟨false, name⟩ rest :=
  .after (reads_accept_of_ne (by simp [front])) (takes_name (.inl rfl))

/-- A word is taken as the name of a vendor or package. -/
theorem takes_word {name : KebabName} (what : String) (role : NameRole)
    (isWord : kind.isWord = true) :
    Takes (word what role) (⟨kind, name.text, docs⟩ :: rest) name rest := by
  apply takes_current
  intro token same
  have found : token.kind = kind ∧ token.value = name.text :=
    ⟨congrArg Sign.kind same, congrArg Sign.value same⟩
  simp only [found.1, isWord, ↓reduceIte, found.2, KebabName.ofText_text]
  exact (takes_advance _ _).bind (reads_pure _ _)

/-- A parser that is given fuel by the tokens ahead reads what it reads with enough fuel. -/
theorem reads_fuelled {parser : Nat → Parser α}
    (within : ∀ fuel, before.length < fuel → Reads (parser fuel) before value left) :
    Reads (fun stream => parser (stream.ahead.length + 1) stream) before value left := by
  refine ⟨(within _ (Nat.lt_succ_self _)).length_le, fun stream shows => ?_⟩
  exact (within (stream.ahead.length + 1)
    (by rw [shows.length_ahead]; exact Nat.lt_succ_self _)).run stream shows

/-- The characters that may follow an item of a list or a type. -/
def closers : List Char := [',', ';', '>', ')', '}']

/-- Whether a text is empty or begins with a closing character. -/
def Closes (text : List Char) : Prop :=
  ∀ c ∈ text.head?, c ∈ closers

@[simp]
theorem closes_cons {c : Char} {text : List Char} : Closes (c :: text) ↔ c ∈ closers := by
  simp [Closes]

/-- A closing character does not make a word in front of it longer. -/
theorem Closes.loose {text : List Char} (closes : Closes text) : Loose text := by
  intro c member
  have table : (closers.all fun c => !Token.isWordPart c) = true := by decide
  simpa using List.all_eq_true.1 table c (closes c member)

/-- What stands in front of a text that is empty or begins with a closing character. -/
def closingKinds : List Kind :=
  .endOfInput :: closers.filterMap fun c => (Token.Mark.ofChar? c).map .mark

/-- A text that begins with a closing character has the sign of that character in front. -/
theorem Closes.front_ne {text : List Char} (closes : Closes text) {kind : Kind}
    (other : kind ∉ closingKinds) : front (signs docs text) ≠ kind := by
  rintro rfl
  cases text with
  | nil =>
    have last : front (signs docs []) = .endOfInput := by simp [front]
    rw [last] at other
    exact other List.mem_cons_self
  | cons c tail =>
    have listed : c ∈ closers := by simpa using closes
    have table : (closers.all fun c => (Token.Mark.ofChar? c).isSome && c != '/') = true := by
      decide
    have single := List.all_eq_true.1 table c listed
    rw [Bool.and_eq_true, bne_iff_ne] at single
    obtain ⟨m, mark⟩ := Option.isSome_iff_exists.1 single.1
    rw [Token.signs_mark docs tail mark fun slash => absurd slash single.2] at other
    apply other
    exact List.mem_cons_of_mem _ (List.mem_filterMap.2 ⟨c, listed, by rw [mark]; rfl⟩)

section Lists

variable {entry : Type} {item : Parser α} {close : Kind} {written : entry → List Char}
  {read : entry → α} {entries : List entry} {tail : List Char}

/-- No item is read where the token at hand closes them. -/
theorem reads_itemsWithin_nil {fuel : Nat} (closed : front before = close) :
    Reads (itemsWithin close item (fuel + 1)) before [] before := by
  refine .bind (reads_check _ _) ?_
  rw [if_pos (decide_eq_true closed)]
  exact reads_pure _ _

/-- An item is read and the items behind it. -/
theorem reads_itemsWithin_cons {fuel : Nat} {values : List α} (begun : front before ≠ close)
    (first : Reads item before value middle)
    (rest : Reads (itemsWithin close item fuel) middle values left) :
    Reads (itemsWithin close item (fuel + 1)) before (value :: values) left := by
  refine .bind (reads_check _ _) ?_
  rw [if_neg (by simpa using begun)]
  exact first.bind (rest.bind (reads_pure _ _))

/-- No item of a row with commas is read where the token at hand closes it. -/
theorem reads_commaItemsWithin_nil {fuel : Nat} (closed : front before = close) :
    Reads (commaItemsWithin close item (fuel + 1)) before [] before := by
  refine .bind (reads_check _ _) ?_
  rw [if_pos (decide_eq_true closed)]
  exact reads_pure _ _

/-- An item without a comma behind it is the last of its row. -/
theorem reads_commaItemsWithin_last {fuel : Nat} (begun : front before ≠ close)
    (first : Reads item before value left) (last : front left ≠ .mark .comma) :
    Reads (commaItemsWithin close item (fuel + 1)) before [value] left := by
  refine .bind (reads_check _ _) ?_
  rw [if_neg (by simpa using begun)]
  exact first.bind (.bind (reads_accept_of_ne last) (reads_pure _ _))

/-- An item is read, the comma behind it and the rest of its row. -/
theorem reads_commaItemsWithin_cons {fuel : Nat} {values : List α} {behind : List Sign}
    (begun : front before ≠ close) (first : Reads item before value middle)
    (comma : Reads (accept (.mark .comma)) middle true behind)
    (rest : Reads (commaItemsWithin close item fuel) behind values left) :
    Reads (commaItemsWithin close item (fuel + 1)) before (value :: values) left := by
  refine .bind (reads_check _ _) ?_
  rw [if_neg (by simpa using begun)]
  exact first.bind (comma.bind (rest.bind (reads_pure _ _)))

/-- Items up to the token that closes them, with enough fuel. -/
theorem reads_itemsWithin (fuel : Nat)
    (each : ∀ e ∈ entries, ∀ rest,
      Takes item (signs [] (written e ++ rest)) (read e) (signs [] rest) ∧
        front (signs [] (written e ++ rest)) ≠ close)
    (closed : front (signs [] tail) = close)
    (enough : (signs [] (entries.flatMap written ++ tail)).length < fuel) :
    Reads (itemsWithin close item fuel) (signs [] (entries.flatMap written ++ tail))
      (entries.map read) (signs [] tail) := by
  induction entries generalizing fuel with
  | nil =>
    obtain ⟨fuel, rfl⟩ := Nat.exists_eq_add_one_of_ne_zero (Nat.ne_zero_of_lt enough)
    exact reads_itemsWithin_nil closed
  | cons e more ih =>
    obtain ⟨fuel, rfl⟩ := Nat.exists_eq_add_one_of_ne_zero (Nat.ne_zero_of_lt enough)
    simp only [List.flatMap_cons, List.append_assoc] at enough ⊢
    obtain ⟨first, begun⟩ := each e (by simp) (more.flatMap written ++ tail)
    have rest := ih fuel (fun e member => each e (List.mem_cons_of_mem _ member))
      (Nat.lt_of_lt_of_le first.length_lt (Nat.le_of_lt_succ enough))
    exact reads_itemsWithin_cons begun first.reads rest

/-- Items up to the token that closes them. -/
theorem reads_itemsUntil
    (each : ∀ e ∈ entries, ∀ rest,
      Takes item (signs [] (written e ++ rest)) (read e) (signs [] rest) ∧
        front (signs [] (written e ++ rest)) ≠ close)
    (closed : front (signs [] tail) = close) :
    Reads (itemsUntil close item) (signs [] (entries.flatMap written ++ tail))
      (entries.map read) (signs [] tail) :=
  reads_fuelled fun fuel => reads_itemsWithin fuel each closed

/-- Items of which each stands on a line and has a comma behind it, with enough fuel. -/
theorem reads_commaItemsWithin_lines (fuel : Nat)
    (each : ∀ e ∈ entries, ∀ rest, Closes rest →
      Takes item (signs [] (written e ++ rest)) (read e) (signs [] rest) ∧
        front (signs [] (written e ++ rest)) ≠ close)
    (closed : front (signs [] tail) = close)
    (enough : (signs [] (entries.flatMap (written · ++ [',', '\n']) ++ tail)).length < fuel) :
    Reads (commaItemsWithin close item fuel)
      (signs [] (entries.flatMap (written · ++ [',', '\n']) ++ tail))
      (entries.map read) (signs [] tail) := by
  induction entries generalizing fuel with
  | nil =>
    obtain ⟨fuel, rfl⟩ := Nat.exists_eq_add_one_of_ne_zero (Nat.ne_zero_of_lt enough)
    exact reads_commaItemsWithin_nil closed
  | cons e more ih =>
    obtain ⟨fuel, rfl⟩ := Nat.exists_eq_add_one_of_ne_zero (Nat.ne_zero_of_lt enough)
    have shape : (e :: more).flatMap (written · ++ [',', '\n']) ++ tail =
        written e ++ ',' :: '\n' :: (more.flatMap (written · ++ [',', '\n']) ++ tail) := by simp
    rw [shape] at enough ⊢
    have closes : Closes (',' :: '\n' :: (more.flatMap (written · ++ [',', '\n']) ++ tail)) := by
      simp [closers]
    obtain ⟨first, begun⟩ := each e (by simp) _ closes
    have comma := takes_accept_mark [] ('\n' :: (more.flatMap (written · ++ [',', '\n']) ++ tail))
      (show Token.Mark.lone? ',' = some .comma from rfl)
    rw [Token.signs_newline] at comma
    have rest := ih fuel (fun e member => each e (List.mem_cons_of_mem _ member))
      (Nat.lt_of_lt_of_le comma.length_lt
        (Nat.le_trans first.reads.length_le (Nat.le_of_lt_succ enough)))
    exact reads_commaItemsWithin_cons begun first.reads comma.reads rest

/-- Items of which each stands on a line and has a comma behind it. -/
theorem reads_commaItems_lines
    (each : ∀ e ∈ entries, ∀ rest, Closes rest →
      Takes item (signs [] (written e ++ rest)) (read e) (signs [] rest) ∧
        front (signs [] (written e ++ rest)) ≠ close)
    (closed : front (signs [] tail) = close) :
    Reads (commaItems close item)
      (signs [] (entries.flatMap (written · ++ [',', '\n']) ++ tail))
      (entries.map read) (signs [] tail) :=
  reads_fuelled fun fuel => reads_commaItemsWithin_lines fuel each closed

/-- Items with a comma and a space between them, with enough fuel. The items need to be read only
from fewer signs than a bound on the whole. -/
theorem reads_commaItemsWithin_row (fuel : Nat) {bound : Nat}
    (each : ∀ e ∈ entries, ∀ rest, Closes rest → (signs [] (written e ++ rest)).length < bound →
      Takes item (signs [] (written e ++ rest)) (read e) (signs [] rest) ∧
        front (signs [] (written e ++ rest)) ≠ close)
    (closed : front (signs [] tail) = close) (other : close ≠ .mark .comma) (closes : Closes tail)
    (inside : (signs [] (List.intercalate [',', ' '] (entries.map written) ++ tail)).length < bound)
    (enough :
      (signs [] (List.intercalate [',', ' '] (entries.map written) ++ tail)).length < fuel) :
    Reads (commaItemsWithin close item fuel)
      (signs [] (List.intercalate [',', ' '] (entries.map written) ++ tail))
      (entries.map read) (signs [] tail) := by
  induction entries generalizing fuel with
  | nil =>
    obtain ⟨fuel, rfl⟩ := Nat.exists_eq_add_one_of_ne_zero (Nat.ne_zero_of_lt enough)
    exact reads_commaItemsWithin_nil closed
  | cons e more ih =>
    obtain ⟨fuel, rfl⟩ := Nat.exists_eq_add_one_of_ne_zero (Nat.ne_zero_of_lt enough)
    cases more with
    | nil =>
      simp only [List.map_cons, List.map_nil, List.intercalate_singleton] at inside ⊢
      obtain ⟨first, begun⟩ := each e (by simp) tail closes inside
      exact reads_commaItemsWithin_last begun first.reads (closed ▸ other)
    | cons second more =>
      have shape : List.intercalate [',', ' '] ((e :: second :: more).map written) ++ tail =
          written e ++ ',' :: ' ' ::
            (List.intercalate [',', ' '] ((second :: more).map written) ++ tail) := by
        simp [List.intercalate_cons_cons]
      rw [shape] at inside enough ⊢
      have follows : Closes (',' :: ' ' ::
          (List.intercalate [',', ' '] ((second :: more).map written) ++ tail)) := by
        simp [closers]
      obtain ⟨first, begun⟩ := each e (by simp) _ follows inside
      have comma := takes_accept_mark []
        (' ' :: (List.intercalate [',', ' '] ((second :: more).map written) ++ tail))
        (show Token.Mark.lone? ',' = some .comma from rfl)
      rw [Token.signs_space] at comma
      have shorter := Nat.lt_of_lt_of_le comma.length_lt first.reads.length_le
      have rest := ih fuel (fun e member => each e (List.mem_cons_of_mem _ member))
        (Nat.lt_trans shorter inside) (Nat.lt_of_lt_of_le shorter (Nat.le_of_lt_succ enough))
      exact reads_commaItemsWithin_cons begun first.reads comma.reads rest

/-- Items with a comma and a space between them. -/
theorem reads_commaItems_row {bound : Nat}
    (each : ∀ e ∈ entries, ∀ rest, Closes rest → (signs [] (written e ++ rest)).length < bound →
      Takes item (signs [] (written e ++ rest)) (read e) (signs [] rest) ∧
        front (signs [] (written e ++ rest)) ≠ close)
    (closed : front (signs [] tail) = close) (other : close ≠ .mark .comma) (closes : Closes tail)
    (inside :
      (signs [] (List.intercalate [',', ' '] (entries.map written) ++ tail)).length < bound) :
    Reads (commaItems close item)
      (signs [] (List.intercalate [',', ' '] (entries.map written) ++ tail))
      (entries.map read) (signs [] tail) :=
  reads_fuelled fun fuel => reads_commaItemsWithin_row fuel each closed other closes inside

end Lists

end Parser

end WitBridge
