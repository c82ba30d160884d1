import WitBridge.Parser
import WitBridge.Proofs.Token.Sign

/-!
# Parsers do not see places

Two streams are alike if they hold the same signs: tokens of the same kinds, values and
documentation, wherever these stand. Two parsers agree if on streams that are alike both return
related values and leave streams that are alike, or both stop at faults of one sort. A parser that
agrees with itself on equal values is blind to places: what it returns is a matter of the signs
alone. Tokens may differ in their places, so the values that agree are related and not always equal.
-/
namespace WitBridge

/-- Whether two streams hold the same signs. -/
structure TokenStream.Alike (stream other : TokenStream) : Prop where
  /-- The same signs are ahead. -/
  ahead : stream.ahead.map Token.sign = other.ahead.map Token.sign
  /-- The same documentation stands before the end of the input. -/
  final : stream.final.sign = other.final.sign

/-- Tokens of one sign are of one kind. -/
theorem Token.kind_eq_of_sign {token other : Token} (same : token.sign = other.sign) :
    token.kind = other.kind :=
  congrArg Sign.kind same

/-- Tokens of one sign have one value. -/
theorem Token.value_eq_of_sign {token other : Token} (same : token.sign = other.sign) :
    token.value = other.value :=
  congrArg Sign.value same

/-- Tokens of one sign have the same documentation. -/
theorem Token.docs_eq_of_sign {token other : Token} (same : token.sign = other.sign) :
    token.docs = other.docs :=
  congrArg Sign.docs same

namespace TokenStream.Alike

variable {stream other : TokenStream}

/-- Each of two streams that are alike is like the other. -/
theorem symm (alike : stream.Alike other) : other.Alike stream :=
  ⟨alike.ahead.symm, alike.final.symm⟩

/-- As many tokens are ahead. -/
theorem length_eq (alike : stream.Alike other) : stream.ahead.length = other.ahead.length := by
  simpa using congrArg List.length alike.ahead

/-- The tokens in front of two streams have one sign. -/
theorem sign_headD {tokens others : List Token} {final final' : Token}
    (same : tokens.map Token.sign = others.map Token.sign) (last : final.sign = final'.sign) :
    (tokens.headD final).sign = (others.headD final').sign := by
  cases tokens with
  | nil => rw [List.map_eq_nil_iff.1 same.symm]; exact last
  | cons token rest =>
    obtain ⟨token', rest', rfl, head, -⟩ := List.map_eq_cons_iff.1 same.symm
    exact head.symm

/-- The tokens at hand have one sign. -/
theorem current (alike : stream.Alike other) : stream.current.sign = other.current.sign :=
  sign_headD alike.ahead alike.final

/-- The tokens after those at hand have one sign. -/
theorem peek (alike : stream.Alike other) : stream.peek.sign = other.peek.sign :=
  sign_headD (by rw [List.map_tail, List.map_tail, alike.ahead]) alike.final

/-- What is left after the tokens at hand is alike. -/
theorem advance (alike : stream.Alike other) : stream.advance.Alike other.advance := by
  obtain ⟨tokens, final⟩ := stream
  obtain ⟨others, final'⟩ := other
  obtain ⟨ahead, last⟩ := alike
  cases tokens with
  | nil =>
    obtain rfl := List.map_eq_nil_iff.1 ahead.symm
    simp only [Token.sign, Token.Sign.mk.injEq] at last
    exact ⟨rfl, by simp [TokenStream.advance, Token.sign, last]⟩
  | cons token rest =>
    obtain ⟨token', rest', rfl, -, tail⟩ := List.map_eq_cons_iff.1 ahead.symm
    exact ⟨tail.symm, last⟩

/-- Taken one by one, the tokens have the same signs. -/
theorem map_sign_take (alike : stream.Alike other) (count : Nat) :
    (stream.take count).map Token.sign = (other.take count).map Token.sign := by
  induction count generalizing stream other with
  | zero => rfl
  | succ count ih => simp only [take, List.map_cons, alike.current, ih alike.advance]

end TokenStream.Alike

namespace Parser

variable {α β : Type}

/-- Whether two outcomes are related values with streams that are alike, or both are faults of one
sort. -/
inductive Accord (related : α → α → Prop) :
    Except SourceFault (α × TokenStream) → Except SourceFault (α × TokenStream) → Prop
  | ok {value value' : α} {rest rest' : TokenStream} (values : related value value')
      (alike : rest.Alike rest') : Accord related (.ok (value, rest)) (.ok (value', rest'))
  | error {fault fault' : SourceFault} (sort : fault'.isLexical = fault.isLexical) :
    Accord related (.error fault) (.error fault')

/-- On streams that are alike, both parsers return related values or both stop. -/
def Agree (related : α → α → Prop) (parser parser' : Parser α) : Prop :=
  ∀ stream stream' : TokenStream, stream.Alike stream' →
    Accord related (parser.run stream) (parser'.run stream')

/-- Where tokens stand makes no difference to a parser. -/
abbrev Blind (parser : Parser α) : Prop := Agree Eq parser parser

variable {related : α → α → Prop} {goal : β → β → Prop} {parser parser' : Parser α}
  {next next' : α → Parser β}

/-- Steps that agree, and steps after them that agree. -/
theorem Agree.bind (first : Agree related parser parser')
    (second : ∀ value value', related value value' → Agree goal (next value) (next' value')) :
    Agree goal (parser >>= next) (parser' >>= next') := by
  intro stream stream' alike
  have step := first stream stream' alike
  rw [StateT.run_bind, StateT.run_bind]
  generalize parser.run stream = found at step
  generalize parser'.run stream' = found' at step
  cases step with
  | ok values left => exact second _ _ values _ _ left
  | error sort => exact .error sort

/-- A step that is blind, and steps after it that agree on what it returns. -/
theorem Blind.bind {next next' : α → Parser β} (first : Blind parser)
    (second : ∀ value, Agree goal (next value) (next' value)) :
    Agree goal (parser >>= next) (parser >>= next') :=
  Agree.bind first fun value _ same => same ▸ second value

/-- Related values agree. -/
theorem agree_pure {value value' : α} (values : related value value') :
    Agree related (pure value) (pure value') :=
  fun _ _ alike => .ok values alike

/-- A value is returned wherever the tokens stand. -/
theorem blind_pure (value : α) : Blind (pure value : Parser α) := agree_pure rfl

/-- Parsers that stop agree if their faults are of one sort. -/
theorem agree_refuse (position position' : Position) {cause cause' : SourceFault.Cause}
    (sort : SourceFault.isLexical ⟨position', cause'⟩ = SourceFault.isLexical ⟨position, cause⟩) :
    Agree related (refuse position cause) (refuse position' cause') :=
  fun _ _ _ => .error sort

/-- The tokens at hand have one sign. -/
theorem agree_current : Agree (fun token token' => token.sign = token'.sign) current current :=
  fun _ _ alike => .ok alike.current alike

/-- The streams themselves are alike. -/
theorem agree_get : Agree TokenStream.Alike (get : Parser TokenStream) get :=
  fun _ _ alike => .ok alike alike

/-- A parser that stops stops wherever the tokens stand. -/
theorem agree_unexpected (expected expected' : String) :
    Agree related (unexpected expected) (unexpected expected') := by
  refine agree_current.bind fun token token' same => ?_
  rw [Token.kind_eq_of_sign same]
  split <;> exact agree_refuse _ _ rfl

/-- Whether the token at hand is of a kind is a matter of its sign. -/
theorem blind_check (kind : Token.Kind) : Blind (check kind) := by
  refine agree_current.bind fun token token' same => ?_
  rw [Token.kind_eq_of_sign same]
  exact blind_pure _

/-- The documentation at hand is a matter of the sign. -/
theorem blind_docs : Blind Parser.docs := by
  refine agree_current.bind fun token token' same => ?_
  rw [Token.docs_eq_of_sign same]
  exact blind_pure _

/-- A token is taken from both streams. -/
theorem agree_advance : Agree (fun token token' => token.sign = token'.sign) advance advance :=
  fun _ _ alike => .ok alike.current alike.advance

/-- Values that are left unused need only be related. -/
theorem Agree.discard (agree : Agree related parser parser) : Blind (discard parser) :=
  show Agree Eq (parser >>= fun _ => pure ()) _ from agree.bind fun _ _ _ => blind_pure ()

/-- A token is taken. -/
theorem blind_advance : Blind (discard advance) := agree_advance.discard

/-- A token that is asked for is taken. -/
theorem blind_expect (kind : Token.Kind) : Blind (discard (expect kind)) := by
  have taken :
      Agree (fun token token' => token.sign = token'.sign) (expect kind) (expect kind) := by
    refine (blind_check kind).bind fun same => ?_
    split
    · exact agree_advance
    · exact agree_unexpected _ _
  exact taken.discard

/-- A mark is taken. -/
theorem blind_mark (m : Token.Mark) : Blind (mark m) := blind_expect _

/-- A keyword is taken. -/
theorem blind_keyword (k : Token.Keyword) : Blind (keyword k) := blind_expect _

/-- A token is taken if it is of the kind that is accepted. -/
theorem blind_accept (kind : Token.Kind) : Blind (accept kind) := by
  refine (blind_check kind).bind fun same => ?_
  split
  · exact blind_advance.bind fun _ => blind_pure true
  · exact blind_pure false

/-- A name is read. -/
theorem blind_identifier (what : String) (anyWord : Bool) : Blind (identifier what anyWord) := by
  refine (blind_accept _).bind fun escaped => agree_current.bind fun token token' same => ?_
  rw [Token.kind_eq_of_sign same, Token.value_eq_of_sign same]
  split
  · split
    · exact blind_advance.bind fun _ => blind_pure _
    · exact agree_refuse _ _ rfl
  · exact agree_unexpected _ _

/-- A word is read. -/
theorem blind_word (what : String) (role : NameRole) : Blind (word what role) := by
  refine agree_current.bind fun token token' same => ?_
  rw [Token.kind_eq_of_sign same, Token.value_eq_of_sign same]
  split
  · split
    · exact blind_advance.bind fun _ => blind_pure _
    · exact agree_refuse _ _ rfl
  · exact agree_unexpected _ _

/-- A parser that is given as many steps as tokens are ahead is given equally many. -/
theorem blind_fuel {parser : Nat → Parser α} (each : ∀ fuel, Blind (parser fuel)) :
    Blind fun stream => parser (stream.ahead.length + 1) stream := by
  intro stream stream' alike
  have same := each (stream.ahead.length + 1) stream stream' alike
  show Accord Eq (parser (stream.ahead.length + 1) stream)
    (parser (stream'.ahead.length + 1) stream')
  rw [← alike.length_eq]
  exact same

section Lists

variable {item : Parser α} (close : Token.Kind) (each : Blind item)
include each

/-- Items up to a closing token are read, with any fuel. -/
theorem blind_itemsWithin (fuel : Nat) : Blind (itemsWithin close item fuel) := by
  induction fuel with
  | zero => exact agree_unexpected _ _
  | succ fuel ih =>
    refine (blind_check close).bind fun closed => ?_
    split
    · exact blind_pure _
    · refine each.bind fun first => ih.bind fun rest => ?_
      exact blind_pure _

/-- Items up to a closing token are read. -/
theorem blind_itemsUntil : Blind (itemsUntil close item) :=
  blind_fuel (blind_itemsWithin close each)

/-- Items with commas between them are read, with any fuel. -/
theorem blind_commaItemsWithin (fuel : Nat) : Blind (commaItemsWithin close item fuel) := by
  induction fuel with
  | zero => exact agree_unexpected _ _
  | succ fuel ih =>
    refine (blind_check close).bind fun closed => ?_
    split
    · exact blind_pure _
    · refine each.bind fun first => (blind_accept _).bind fun more => ?_
      split
      · exact ih.bind fun rest => blind_pure _
      · exact blind_pure _

/-- Items with commas between them are read. -/
theorem blind_commaItems : Blind (commaItems close item) :=
  blind_fuel (blind_commaItemsWithin close each)

omit each in
/-- Items in braces are read. -/
theorem blind_bracedItems (each : Blind item) : Blind (bracedItems item) := by
  refine (blind_mark _).bind fun _ => (blind_commaItems _ each).bind fun items => ?_
  exact (blind_mark _).bind fun _ => blind_pure _

end Lists

end Parser

end WitBridge
