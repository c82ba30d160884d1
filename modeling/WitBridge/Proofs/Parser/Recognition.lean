import WitBridge.Proofs.Parser.Reads

/-!
# The tokens behind a value

Where a parser returns a value, it has passed some tokens at the front of its stream and has left
the rest as it was. These tokens spell the value: one token of its kind for a mark, a word with or
without an escape for a name, and so on for what is put together from them. The kind of the token
after them matters too, for a parser may look at it before it stops. The other way round, such
tokens are taken wherever they stand in front.
-/
namespace WitBridge

open Token (Kind)

namespace TokenStream

instance : HAppend (List Token) TokenStream TokenStream :=
  ⟨fun tokens rest => ⟨tokens ++ rest.ahead, rest.final⟩⟩

/-- Whether the last token of a stream is the end of the input. -/
def Ended (stream : TokenStream) : Prop := stream.final.kind = .endOfInput

variable {stream rest : TokenStream} {token : Token} {tokens others : List Token}

@[simp]
theorem ahead_append : (tokens ++ rest).ahead = tokens ++ rest.ahead := rfl

/-- Tokens in front of other tokens and a stream are all in front of the stream. -/
theorem append_append : tokens ++ (others ++ rest) = (tokens ++ others) ++ rest :=
  congrArg (TokenStream.mk · rest.final) (List.append_assoc _ _ _).symm

/-- The tokens of a source text end with the end of the input. -/
theorem ended_ofSource (source : String) : (ofSource source).Ended := rfl

/-- A token that is not the end of the input stands in front of the rest. -/
theorem Ended.eq_cons (ended : stream.Ended) (other : stream.current.kind ≠ .endOfInput) :
    stream = [stream.current] ++ stream.advance := by
  obtain ⟨_ | ⟨first, more⟩, final⟩ := stream
  · exact absurd ended other
  · rfl

/-- Tokens and what is behind them are determined by how many are behind them. -/
theorem append_inj {other : TokenStream} (same : tokens ++ rest = others ++ other)
    (length : rest.ahead.length = other.ahead.length) : tokens = others ∧ rest = other := by
  obtain ⟨ahead, final⟩ := TokenStream.mk.inj same
  obtain ⟨front, back⟩ := List.append_inj' ahead length
  exact ⟨front, congr (congrArg TokenStream.mk back) final⟩

/-- What is behind the token at hand is at hand when this is taken. -/
theorem kind_current_advance (stream : TokenStream) :
    stream.advance.current.kind = stream.peek.kind := by
  obtain ⟨_ | ⟨first, more⟩, final⟩ := stream <;> rfl

end TokenStream

/-- Whether tokens spell a name: a word that is not reserved, or an escape and any word. -/
inductive Identifier.Derives : List Token → Identifier → Prop
  | bare {token : Token} {name : KebabName} (kind : token.kind = .identifier)
    (value : token.value = name.text) : Derives [token] ⟨false, name⟩
  | escaped {mark token : Token} {name : KebabName} (escape : mark.kind = .mark .percent)
    (word : token.kind.isWord = true) (value : token.value = name.text) :
    Derives [mark, token] ⟨true, name⟩

namespace Parser

variable {α β : Type} {parser : Parser α} {next : α → Parser β} {stream rest : TokenStream}
  {value : α} {found : β} {kind : Kind} {done : Unit}

/-- Where two steps return a value, so did the first. -/
theorem exists_of_run_bind (ran : (parser >>= next).run stream = .ok (found, rest)) :
    ∃ value middle, parser.run stream = .ok (value, middle) ∧
      (next value).run middle = .ok (found, rest) := by
  rw [StateT.run_bind] at ran
  cases step : parser.run stream with
  | error fault => rw [step] at ran; contradiction
  | ok pair => rw [step] at ran; exact ⟨pair.1, pair.2, rfl, ran⟩

/-- Looking at the kind at hand takes nothing. -/
theorem of_run_check {same : Bool} (ran : (check kind).run stream = .ok (same, rest)) :
    same = decide (stream.current.kind = kind) ∧ rest = stream := by
  cases ran
  exact ⟨rfl, rfl⟩

/-- The token that is asked for stands in front of what is left. -/
theorem exists_of_run_expect (ran : (discard (expect kind)).run stream = .ok (done, rest))
    (ended : stream.Ended) (inner : kind ≠ .endOfInput) :
    ∃ token : Token, token.kind = kind ∧ stream = [token] ++ rest := by
  change (expect kind >>= fun _ => pure ()).run stream = _ at ran
  obtain ⟨token, middle, expected, returned⟩ := exists_of_run_bind ran
  cases returned
  have same : stream.current.kind = kind :=
    Decidable.byContradiction fun other => run_expect_ne_ok other _ expected
  obtain ⟨found, place, checked, taken⟩ := exists_of_run_bind expected
  obtain ⟨rfl, rfl⟩ := of_run_check checked
  rw [if_pos (by simpa using same)] at taken
  cases taken
  exact ⟨place.current, same, ended.eq_cons (same ▸ inner)⟩

/-- A mark stands in front of what is left. -/
theorem exists_of_run_mark {m : Token.Mark} (ran : (mark m).run stream = .ok (done, rest))
    (ended : stream.Ended) : ∃ token : Token, token.kind = .mark m ∧ stream = [token] ++ rest :=
  exists_of_run_expect ran ended (by simp)

/-- A token is taken if it is of the kind that is accepted, and it is left if it is not. -/
theorem of_run_accept {taken : Bool} (ran : (accept kind).run stream = .ok (taken, rest))
    (ended : stream.Ended) (inner : kind ≠ .endOfInput) :
    (taken = true ∧ ∃ token : Token, token.kind = kind ∧ stream = [token] ++ rest) ∨
      (taken = false ∧ stream.current.kind ≠ kind ∧ rest = stream) := by
  obtain ⟨found, place, checked, left⟩ := exists_of_run_bind ran
  obtain ⟨rfl, rfl⟩ := of_run_check checked
  by_cases same : place.current.kind = kind
  · rw [if_pos (by simpa using same)] at left
    cases left
    exact .inl ⟨rfl, place.current, same, ended.eq_cons (same ▸ inner)⟩
  · rw [if_neg (by simpa using same)] at left
    cases left
    exact .inr ⟨rfl, same, rfl⟩

/-- A mark is taken if it is at hand, and nothing is taken if it is not. -/
theorem of_run_accept_mark {m : Token.Mark} {taken : Bool}
    (ran : (accept (.mark m)).run stream = .ok (taken, rest)) (ended : stream.Ended) :
    (taken = true ∧ ∃ token : Token, token.kind = .mark m ∧ stream = [token] ++ rest) ∨
      (taken = false ∧ stream.current.kind ≠ .mark m ∧ rest = stream) :=
  of_run_accept ran ended (by simp)

/-- A token at hand that is accepted is taken. -/
theorem run_accept (same : stream.current.kind = kind) :
    (accept kind).run stream = .ok (true, stream.advance) := by
  have checked : decide (stream.current.kind = kind) = true := by simpa using same
  change (if decide (stream.current.kind = kind) = true then _ else _ : Parser _).run stream = _
  rw [if_pos checked]
  rfl

/-- Another token than the one that is accepted stays. -/
theorem run_accept_other (other : stream.current.kind ≠ kind) :
    (accept kind).run stream = .ok (false, stream) := by
  have checked : ¬ decide (stream.current.kind = kind) = true := by simpa using other
  change (if decide (stream.current.kind = kind) = true then _ else _ : Parser _).run stream = _
  rw [if_neg checked]
  rfl

/-- What follows the token at hand runs on the same stream. -/
theorem of_run_current {step : Token → Parser β}
    (ran : (current >>= step).run stream = .ok (found, rest)) :
    (step stream.current).run stream = .ok (found, rest) :=
  ran

/-- What follows the documentation at hand runs on the same stream. -/
theorem of_run_docs {step : Documentation → Parser β}
    (ran : (Parser.docs >>= step).run stream = .ok (found, rest)) :
    (step ⟨stream.current.docs⟩).run stream = .ok (found, rest) :=
  ran

/-- What follows a look at the stream runs on it. -/
theorem of_run_get {step : TokenStream → Parser β}
    (ran : (get >>= step).run stream = .ok (found, rest)) :
    (step stream).run stream = .ok (found, rest) :=
  ran

/-- Whether all values that a parser returns have a property. -/
def Returns (parser : Parser α) (property : α → Prop) : Prop :=
  ∀ ⦃stream value rest⦄, parser.run stream = .ok (value, rest) → property value

/-- A value that is there has its properties. -/
theorem returns_pure {property : α → Prop} (holds : property value) :
    Returns (pure value) property := by
  rintro _ _ _ ⟨⟩
  exact holds

/-- What the last steps return has the property, whatever the first has returned. -/
theorem returns_bind {property : β → Prop}
    (each : ∀ value, Returns (next value) property) : Returns (parser >>= next) property := by
  intro stream found rest ran
  obtain ⟨value, middle, -, onward⟩ := exists_of_run_bind ran
  exact each value onward

/-- A parser whose value is not used: what comes of it can be exchanged. -/
theorem run_closed {closing : Parser β} {value' : α}
    (ran : (closing >>= fun _ => pure value).run stream = .ok (value', rest)) :
    value = value' ∧
      ∀ other : α, (closing >>= fun _ => pure other).run stream = .ok (other, rest) := by
  obtain ⟨last, middle, closed, returned⟩ := exists_of_run_bind ran
  obtain ⟨rfl, rfl⟩ := Prod.mk.inj (Except.ok.inj returned)
  refine ⟨rfl, fun other => ?_⟩
  rw [StateT.run_bind, closed]
  rfl

/-- The token at hand stands in front of what the steps behind it run on. -/
theorem exists_of_run_advance {step : Unit → Parser β} (same : stream.current.kind = kind)
    (ran : (discard advance >>= step).run stream = .ok (found, rest)) (ended : stream.Ended)
    (inner : kind ≠ .endOfInput) :
    ∃ (word : Token) (behind : TokenStream), word.kind = kind ∧ stream = [word] ++ behind ∧
      (step ()).run behind = .ok (found, rest) :=
  ⟨stream.current, stream.advance, same, ended.eq_cons (same ▸ inner), ran⟩

/-- Whether the tokens behind each value that a parser returns stand in a relation to the value and
the kind of the token after them. -/
def Recognizes (parser : Parser α) (derives : Kind → List Token → α → Prop) : Prop :=
  ∀ ⦃stream value rest⦄, parser.run stream = .ok (value, rest) → stream.Ended →
    ∃ tokens, stream = tokens ++ rest ∧ derives rest.current.kind tokens value

/-- A kind that is allowed for a name is the kind of a word. -/
theorem isWord_of_allowed {any : Bool}
    (allowed : (decide (kind = .identifier) || (any && kind.isWord)) = true) :
    kind.isWord = true := by
  simp only [Bool.or_eq_true, decide_eq_true_eq, Bool.and_eq_true] at allowed
  rcases allowed with rfl | ⟨-, isWord⟩
  · rfl
  · exact isWord

/-- A name is derived from the tokens that are taken for it. -/
theorem recognizes_identifier {what : String} :
    Recognizes (identifier what) fun _ tokens name => name.Derives tokens := by
  intro stream name rest ran ended
  obtain ⟨escaped, middle, accepted, named⟩ := exists_of_run_bind ran
  have word := of_run_current named
  split at word
  case isFalse => exact absurd word (run_unexpected_ne_ok _ _ _)
  case isTrue allowed =>
    split at word
    case h_2 => contradiction
    case h_1 bare read =>
      cases word
      have value := KebabName.text_of_ofText read
      rcases of_run_accept_mark accepted ended with
        ⟨rfl, mark, escape, rfl⟩ | ⟨rfl, -, rfl⟩
      · have isWord := isWord_of_allowed allowed
        have inner : middle.current.kind ≠ .endOfInput := fun same => by
          rw [same] at isWord
          contradiction
        have left : middle.Ended := ended
        refine ⟨[mark, middle.current], ?_, .escaped escape isWord value.symm⟩
        exact congrArg (fun later : TokenStream => [mark] ++ later) (left.eq_cons inner)
      · have same : middle.current.kind = .identifier := by simpa using allowed
        refine ⟨[middle.current], ?_, .bare same value.symm⟩
        exact ended.eq_cons (by rw [same]; simp)

section Completeness

open Token (Sign)

variable {left before : List Sign} {token : Token}

/-- What follows the token at hand depends on the kind of the token in front. -/
theorem takes_current_token {step : Token → Parser β} (same : token.kind = kind)
    (each : ∀ other : Token, other.kind = kind →
      Takes (step other) (token.sign :: before) found left) :
    Takes (current >>= step) (token.sign :: before) found left :=
  takes_current fun other alike => each other ((congrArg Sign.kind alike).trans same)

/-- The token of a mark is taken. -/
theorem takes_mark_token {m : Token.Mark} (same : token.kind = .mark m) :
    Takes (mark m) (token.sign :: left) () left := by
  rw [Token.sign, same]
  exact takes_expect _ _ _ _

/-- The token of a mark is accepted. -/
theorem takes_accept_token {m : Token.Mark} (same : token.kind = .mark m) :
    Takes (accept (.mark m)) (token.sign :: left) true left := by
  rw [Token.sign, same]
  exact takes_accept _ _ _ _

end Completeness

end Parser

/-- A name is taken where its tokens are in front. -/
theorem Identifier.Derives.takes {tokens : List Token} {name : Identifier}
    (derives : name.Derives tokens) (what : String) (left : List Token.Sign) :
    Parser.Takes (Parser.identifier what) (tokens.map Token.sign ++ left) name left := by
  cases derives with
  | bare same value =>
    rw [List.map_singleton, List.singleton_append, Token.sign, same, value]
    exact Parser.takes_identifier_bare what false
  | escaped escape word value =>
    simp only [List.map_cons, List.map_nil, List.cons_append, List.nil_append, Token.sign, escape,
      value]
    exact Parser.takes_identifier_escaped what false word

end WitBridge
