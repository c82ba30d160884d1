import WitBridge.Proofs.Type.Grammar
import WitBridge.Proofs.Type.Reading

/-!
# The type parser accepts its grammar

Where tokens that spell a type stand in front, the parser takes them and returns the type: each
rule of the grammar has its step, and there is fuel for as many steps as there are tokens. Together
with the grammar behind each type that is returned this pins the parser down: a text is split into
a type and a rest in at most one way, the parser finds it, and stops at a fault where there is none.
In particular a written type is read to its end as the type it was written from.
-/
namespace WitBridge.TypeExpr

open Token (Kind Sign front)
open WitBridge.Parser (Reads Takes reads_pure takes_advance takes_current_token takes_mark_token
  takes_accept_token)

variable {α : Type} {item : Parser α} {value : α} {fuel : Nat} {kind : Kind}
  {inner tokens : List Token} {left : List Sign}

/-- What follows a word depends on its kind, on the bracket that opens behind it and on the one that
closes. -/
theorem Enclosed.takes (enclosed : Enclosed kind inner tokens) {step : Token → Parser α}
    (each : ∀ word opening closing token : Token, opening.kind = .mark .leftAngle →
      closing.kind = .mark .rightAngle → token.kind = kind →
        Takes (step token) (word.sign :: opening.sign ::
          (inner.map Token.sign ++ closing.sign :: left)) value left) :
    Takes (Parser.current >>= step) (tokens.map Token.sign ++ left) value left := by
  obtain @⟨word, opening, closing, same, opens, closes⟩ := enclosed
  have shape : (word :: opening :: (inner ++ [closing])).map Token.sign ++ left =
      word.sign :: opening.sign :: (inner.map Token.sign ++ closing.sign :: left) := by simp
  rw [shape]
  exact takes_current_token same fun token alike =>
    each word opening closing token opens closes alike

/-- The tokens between the brackets are fewer. -/
theorem Enclosed.length_lt (enclosed : Enclosed kind inner tokens) :
    inner.length < tokens.length := by
  obtain ⟨same, opens, closes⟩ := enclosed
  simp only [List.length_cons, List.length_append, List.length_nil]
  omega

/-- An item is taken with the angle brackets around it. -/
theorem takes_brackets {opening closing : Token} (opens : opening.kind = .mark .leftAngle)
    (closes : closing.kind = .mark .rightAngle)
    (reads : Reads item (inner.map Token.sign ++ closing.sign :: left) value
      (closing.sign :: left)) :
    Takes (angled item) (opening.sign :: (inner.map Token.sign ++ closing.sign :: left)) value
      left :=
  (takes_mark_token opens).bind
    (reads.bind ((takes_mark_token closes).reads.bind (reads_pure _ _)))

/-- An item is taken with the angle brackets around it where they are optional. -/
theorem reads_optional_brackets {opening closing : Token}
    (opens : opening.kind = .mark .leftAngle) (closes : closing.kind = .mark .rightAngle)
    (reads : Reads item (inner.map Token.sign ++ closing.sign :: left) value
      (closing.sign :: left)) :
    Reads (optionalAngled item) (opening.sign :: (inner.map Token.sign ++ closing.sign :: left))
      (some value) left := by
  refine .bind (Parser.reads_check _ _) ?_
  have found : front (opening.sign :: (inner.map Token.sign ++ closing.sign :: left)) =
      .mark .leftAngle := opens
  rw [if_pos (decide_eq_true found)]
  exact (takes_brackets opens closes reads).reads.bind (reads_pure _ _)

/-- Whether a type is taken from tokens before a token of a kind, with some fuel. -/
def TakenWithin (fuel : Nat) (next : Kind) (tokens : List Token) (type : TypeExpr) : Prop :=
  ∀ left, front left = next →
    Takes (parseWithin fuel) (tokens.map Token.sign ++ left) type left

variable {next : Kind} {type ok err element : TypeExpr}

/-- A primitive is taken. -/
theorem takenWithin_primitive {word : Token} {primitive : Primitive}
    (same : word.kind = .builtin (.primitive primitive)) :
    TakenWithin (fuel + 1) next [word] (.primitive primitive) := by
  intro left _
  refine takes_current_token same fun token alike => ?_
  rw [alike]
  exact (takes_advance _ _).bind (reads_pure _ _)

/-- A list is taken if its element is. -/
theorem TakenWithin.list (each : TakenWithin fuel (.mark .rightAngle) inner element)
    (enclosed : Enclosed (.builtin .list) inner tokens) :
    TakenWithin (fuel + 1) next tokens (.list element) := by
  intro left _
  refine enclosed.takes fun word opening closing token opens closes alike => ?_
  rw [alike]
  have inside := takes_brackets opens closes (each (closing.sign :: left) closes).reads
  exact (takes_advance _ _).bind (inside.reads.bind (reads_pure _ _))

/-- An option is taken if its type is. -/
theorem TakenWithin.option (each : TakenWithin fuel (.mark .rightAngle) inner type)
    (enclosed : Enclosed (.builtin .option) inner tokens) :
    TakenWithin (fuel + 1) next tokens (.option type) := by
  intro left _
  refine enclosed.takes fun word opening closing token opens closes alike => ?_
  rw [alike]
  have inside := takes_brackets opens closes (each (closing.sign :: left) closes).reads
  exact (takes_advance _ _).bind (inside.reads.bind (reads_pure _ _))

/-- The sides of a result may be missing. -/
theorem takenWithin_bareResult {word : Token} (same : word.kind = .builtin .result)
    (ends : next ≠ .mark .leftAngle) :
    TakenWithin (fuel + 1) next [word] (.result none none) := by
  intro left follows
  refine takes_current_token same fun token alike => ?_
  rw [alike]
  refine (takes_advance _ _).bind (.bind (Parser.reads_accept_of_ne (follows ▸ ends)) ?_)
  exact reads_pure _ _

/-- A result is taken if its success is. -/
theorem takenWithin_ok (each : TakenWithin fuel (.mark .rightAngle) inner ok)
    (enclosed : Enclosed (.builtin .result) inner tokens) :
    TakenWithin (fuel + 1) next tokens (.result (some ok) none) := by
  intro left _
  refine enclosed.takes fun word opening closing token opens closes alike => ?_
  rw [alike]
  have success := each (closing.sign :: left) closes
  have last : front (closing.sign :: left) ≠ .mark .comma := by
    rw [show front (closing.sign :: left) = .mark .rightAngle from closes]
    nofun
  refine (takes_advance _ _).bind (.bind (takes_accept_token opens).reads ?_)
  refine .bind (Parser.reads_accept_of_ne (front_ne_mark success (by decide))) ?_
  refine success.reads.bind (.bind (Parser.reads_accept_of_ne last) ?_)
  exact (takes_mark_token closes).reads.bind (reads_pure _ _)

/-- A result is taken if both of its sides are. -/
theorem takenWithin_both {before behind : List Token} {comma : Token}
    (success : TakenWithin fuel (.mark .comma) before ok) (separates : comma.kind = .mark .comma)
    (failure : TakenWithin fuel (.mark .rightAngle) behind err)
    (enclosed : Enclosed (.builtin .result) (before ++ comma :: behind) tokens) :
    TakenWithin (fuel + 1) next tokens (.result (some ok) (some err)) := by
  intro left _
  refine enclosed.takes fun word opening closing token opens closes alike => ?_
  rw [alike, List.map_append, List.append_assoc, List.map_cons, List.cons_append]
  have first := success (comma.sign :: (behind.map Token.sign ++ closing.sign :: left)) separates
  have second := failure (closing.sign :: left) closes
  refine (takes_advance _ _).bind (.bind (takes_accept_token opens).reads ?_)
  refine .bind (Parser.reads_accept_of_ne (front_ne_mark first (by decide))) ?_
  refine first.reads.bind (.bind (takes_accept_token separates).reads (second.reads.bind ?_))
  exact (takes_mark_token closes).reads.bind (reads_pure _ _)

/-- A result whose success is left out is taken if its error is. -/
theorem takenWithin_err {blank comma : Token} (missing : blank.kind = .mark .underscore)
    (separates : comma.kind = .mark .comma)
    (each : TakenWithin fuel (.mark .rightAngle) inner err)
    (enclosed : Enclosed (.builtin .result) (blank :: comma :: inner) tokens) :
    TakenWithin (fuel + 1) next tokens (.result none (some err)) := by
  intro left _
  refine enclosed.takes fun word opening closing token opens closes alike => ?_
  rw [alike, List.map_cons, List.map_cons, List.cons_append, List.cons_append]
  have failure := each (closing.sign :: left) closes
  refine (takes_advance _ _).bind (.bind (takes_accept_token opens).reads ?_)
  refine .bind (takes_accept_token missing).reads ((takes_mark_token separates).reads.bind ?_)
  exact failure.reads.bind ((takes_mark_token closes).reads.bind (reads_pure _ _))

/-- The type of a future may be missing. -/
theorem takenWithin_bareFuture {word : Token} (same : word.kind = .builtin .future)
    (ends : next ≠ .mark .leftAngle) : TakenWithin (fuel + 1) next [word] (.future none) := by
  intro left follows
  refine takes_current_token same fun token alike => ?_
  rw [alike]
  have missing := reads_optionalAngled_of_ne (parseWithin fuel) (follows ▸ ends)
  exact (takes_advance _ _).bind (missing.bind (reads_pure _ _))

/-- A future is taken if its type is. -/
theorem TakenWithin.future (each : TakenWithin fuel (.mark .rightAngle) inner type)
    (enclosed : Enclosed (.builtin .future) inner tokens) :
    TakenWithin (fuel + 1) next tokens (.future (some type)) := by
  intro left _
  refine enclosed.takes fun word opening closing token opens closes alike => ?_
  rw [alike]
  have inside := reads_optional_brackets opens closes (each (closing.sign :: left) closes).reads
  exact (takes_advance _ _).bind (inside.bind (reads_pure _ _))

/-- The element of a stream may be missing. -/
theorem takenWithin_bareStream {word : Token} (same : word.kind = .builtin .stream)
    (ends : next ≠ .mark .leftAngle) : TakenWithin (fuel + 1) next [word] (.stream none) := by
  intro left follows
  refine takes_current_token same fun token alike => ?_
  rw [alike]
  have missing := reads_optionalAngled_of_ne (parseWithin fuel) (follows ▸ ends)
  exact (takes_advance _ _).bind (missing.bind (reads_pure _ _))

/-- A stream is taken if its element is. -/
theorem TakenWithin.stream (each : TakenWithin fuel (.mark .rightAngle) inner element)
    (enclosed : Enclosed (.builtin .stream) inner tokens) :
    TakenWithin (fuel + 1) next tokens (.stream (some element)) := by
  intro left _
  refine enclosed.takes fun word opening closing token opens closes alike => ?_
  rw [alike]
  have inside := reads_optional_brackets opens closes (each (closing.sign :: left) closes).reads
  exact (takes_advance _ _).bind (inside.bind (reads_pure _ _))

/-- A handle is taken if its tokens spell a name. -/
theorem takenWithin_handle {ownership : Ownership} {name : Identifier}
    (derives : name.Derives inner)
    (enclosed : Enclosed (.keyword ownership.keyword) inner tokens) :
    TakenWithin (fuel + 1) next tokens (.handle ownership name) := by
  intro left _
  refine enclosed.takes fun word opening closing token opens closes alike => ?_
  rw [alike]
  have inside := takes_brackets opens closes
    (derives.takes "resource name" (closing.sign :: left)).reads
  cases ownership with
  | own | borrow => exact (takes_advance _ _).bind (inside.reads.bind (reads_pure _ _))

/-- A name is taken as a type. -/
theorem takenWithin_named {name : Identifier} (derives : name.Derives tokens) :
    TakenWithin (fuel + 1) next tokens (.named name) := by
  intro left _
  have taken := derives.takes "type name" left
  cases derives with
  | bare same value =>
    refine takes_current_token same fun token alike => ?_
    rw [alike]
    exact taken.bind (reads_pure _ _)
  | escaped escape word value =>
    refine takes_current_token escape fun token alike => ?_
    rw [alike]
    exact taken.bind (reads_pure _ _)

/-- Whether types are read from tokens before a closing bracket, with some fuel for each and some
steps for all of them. -/
def RowWithin (fuel steps : Nat) (tokens : List Token) (types : List TypeExpr) : Prop :=
  ∀ left, front left = .mark .rightAngle →
    Reads (Parser.commaItemsWithin (.mark .rightAngle) (parseWithin fuel) steps)
      (tokens.map Token.sign ++ left) types left

/-- No type is read where the bracket is at hand. -/
theorem rowWithin_nil {steps : Nat} : RowWithin fuel (steps + 1) [] [] :=
  fun _ follows => Parser.reads_commaItemsWithin_nil follows

/-- The bracket is not at hand where a type is. -/
theorem front_ne_rightAngle {list : List Sign}
    (takes : Takes (parseWithin fuel) list type left) : front list ≠ .mark .rightAngle :=
  front_ne_mark takes (by decide)

/-- One type is read without a comma behind it. -/
theorem TakenWithin.one {steps : Nat}
    (each : TakenWithin fuel (.mark .rightAngle) tokens type) :
    RowWithin fuel (steps + 1) tokens [type] := by
  intro left follows
  have first := each left follows
  have last : front left ≠ .mark .comma := by
    rw [follows]
    nofun
  exact Parser.reads_commaItemsWithin_last (front_ne_rightAngle first) first.reads last

/-- One more type is read with a comma behind it. -/
theorem RowWithin.more {steps : Nat} {others : List Token} {comma : Token}
    {types : List TypeExpr} (row : RowWithin fuel steps others types)
    (each : TakenWithin fuel (.mark .comma) tokens type) (separates : comma.kind = .mark .comma) :
    RowWithin fuel (steps + 1) (tokens ++ comma :: others) (type :: types) := by
  intro left follows
  rw [List.map_append, List.append_assoc, List.map_cons, List.cons_append]
  have first := each (comma.sign :: (others.map Token.sign ++ left)) separates
  exact Parser.reads_commaItemsWithin_cons (front_ne_rightAngle first) first.reads
    (takes_accept_token separates).reads (row left follows)

/-- A tuple is taken if the row of its elements is read. -/
theorem takenWithin_tuple {elements : List TypeExpr}
    (row : ∀ steps, inner.length < steps → RowWithin fuel steps inner elements)
    (enclosed : Enclosed (.builtin .tuple) inner tokens) :
    TakenWithin (fuel + 1) next tokens (.tuple elements) := by
  intro left _
  refine enclosed.takes fun word opening closing token opens closes alike => ?_
  rw [alike]
  have items := Parser.reads_fuelled fun steps enough =>
    have fewer : inner.length < steps := by
      rw [List.length_append, List.length_map] at enough
      omega
    row steps fewer (closing.sign :: left) closes
  exact (takes_advance _ _).bind ((takes_brackets opens closes items).reads.bind (reads_pure _ _))

mutual
/-- A type is taken from the tokens it is derived from, if the fuel is more than they are. -/
theorem Derives.takenWithin {next : Kind} {tokens : List Token} {type : TypeExpr} :
    Derives next tokens type → ∀ fuel, tokens.length < fuel → TakenWithin fuel next tokens type
  | _, 0, enough => absurd enough (Nat.not_lt_zero _)
  | .primitive same, _ + 1, _ => takenWithin_primitive same
  | .named derives, _ + 1, _ => takenWithin_named derives
  | .list enclosed derives, fuel + 1, enough =>
    have fewer := enclosed.length_lt
    (derives.takenWithin fuel (by omega)).list enclosed
  | .option enclosed derives, fuel + 1, enough =>
    have fewer := enclosed.length_lt
    (derives.takenWithin fuel (by omega)).option enclosed
  | .bareResult same ends, _ + 1, _ => takenWithin_bareResult same ends
  | .ok enclosed derives, fuel + 1, enough =>
    have fewer := enclosed.length_lt
    takenWithin_ok (derives.takenWithin fuel (by omega)) enclosed
  | .both enclosed derives separates derives', fuel + 1, enough => by
    have fewer := enclosed.length_lt
    rw [List.length_append, List.length_cons] at fewer
    have success := derives.takenWithin fuel (by omega)
    exact takenWithin_both success separates (derives'.takenWithin fuel (by omega)) enclosed
  | .err enclosed missing separates derives, fuel + 1, enough => by
    have fewer := enclosed.length_lt
    rw [List.length_cons, List.length_cons] at fewer
    exact takenWithin_err missing separates (derives.takenWithin fuel (by omega)) enclosed
  | .tuple enclosed row, fuel + 1, enough =>
    have fewer := enclosed.length_lt
    takenWithin_tuple (row.within rfl fuel (by omega)) enclosed
  | .bareFuture same ends, _ + 1, _ => takenWithin_bareFuture same ends
  | .future enclosed derives, fuel + 1, enough =>
    have fewer := enclosed.length_lt
    (derives.takenWithin fuel (by omega)).future enclosed
  | .bareStream same ends, _ + 1, _ => takenWithin_bareStream same ends
  | .stream enclosed derives, fuel + 1, enough =>
    have fewer := enclosed.length_lt
    (derives.takenWithin fuel (by omega)).stream enclosed
  | .handle enclosed derives, _ + 1, _ => takenWithin_handle derives enclosed
/-- Types are read from the tokens that their row is derived from, if there are more steps than
tokens. -/
theorem Row.within {next : Kind} {tokens : List Token} {types : List TypeExpr} :
    Row next tokens types → next = .mark .rightAngle → ∀ fuel, tokens.length < fuel →
      ∀ steps, tokens.length < steps → RowWithin fuel steps tokens types
  | _, _, _, _, 0, enough => absurd enough (Nat.not_lt_zero _)
  | .nil, _, _, _, _ + 1, _ => rowWithin_nil
  | .one derives, closed, fuel, inside, _ + 1, _ => (closed ▸ derives.takenWithin fuel inside).one
  | .more derives separates row, closed, fuel, inside, steps + 1, enough => by
    rw [List.length_append, List.length_cons] at inside enough
    have first := derives.takenWithin fuel (by omega)
    exact (row.within closed fuel (by omega) steps (by omega)).more first separates
end

/-- Whether a stream is tokens that a type is derived from and then a rest. -/
def Splits (stream : TokenStream) (tokens : List Token) (type : TypeExpr) (rest : TokenStream) :
    Prop :=
  stream = tokens ++ rest ∧ Derives rest.current.kind tokens type

/-- Where a stream is split, the parser returns the type and leaves the rest. -/
theorem Splits.run {stream rest : TokenStream} {tokens : List Token} {type : TypeExpr}
    (splits : Splits stream tokens type rest) (ended : stream.Ended) :
    parser.run stream = .ok (type, rest) := by
  obtain ⟨rfl, derives⟩ := splits
  have behind : rest.Shows (rest.ahead.map Token.sign) := ⟨rfl, ended⟩
  have whole : (tokens ++ rest).Shows (tokens.map Token.sign ++ rest.ahead.map Token.sign) :=
    ⟨List.map_append, ended⟩
  have enough : tokens.length < (tokens ++ rest).ahead.length + 1 := by
    rw [TokenStream.ahead_append, List.length_append]
    omega
  obtain ⟨left, ran, shown⟩ :=
    (derives.takenWithin _ enough _ behind.kind_current.symm).run _ whole
  -- What is left shows the signs of the rest; that it is the rest follows from what was taken.
  obtain ⟨others, same, -⟩ := recognizes_parseWithin _ ran ended
  have length : rest.ahead.length = left.ahead.length := by
    rw [behind.length_ahead, shown.length_ahead]
  obtain ⟨-, rfl⟩ := TokenStream.append_inj same length
  exact ran

/-- The type parser accepts its grammar and nothing else: it returns a type and leaves a rest just
where the tokens before the rest spell the type, there is at most one such split of a text, and
where there is none the parser stops at a fault. -/
theorem run_parser_iff_splits (source : String) :
    (∀ type rest, parser.run (.ofSource source) = .ok (type, rest) ↔
      ∃ tokens, Splits (.ofSource source) tokens type rest) ∧
    (∀ tokens type rest tokens' type' rest',
      Splits (.ofSource source) tokens type rest → Splits (.ofSource source) tokens' type' rest' →
        tokens = tokens' ∧ type = type' ∧ rest = rest') ∧
    ((∀ tokens type rest, ¬ Splits (.ofSource source) tokens type rest) ↔
      ∃ fault, parser.run (.ofSource source) = .error fault) := by
  have ended := TokenStream.ended_ofSource source
  refine ⟨fun type rest => ⟨fun ran => parser_recognizes ran ended, ?_⟩, ?_, ?_⟩
  · rintro ⟨tokens, splits⟩
    exact splits.run ended
  · intro tokens type rest tokens' type' rest' first second
    have same := (first.run ended).symm.trans (second.run ended)
    cases same
    have both := first.1.symm.trans second.1
    exact ⟨(TokenStream.append_inj both rfl).1, rfl, rfl⟩
  · constructor
    · intro none
      cases ran : parser.run (.ofSource source) with
      | error fault => exact ⟨fault, rfl⟩
      | ok pair =>
        obtain ⟨tokens, splits⟩ := parser_recognizes ran ended
        exact absurd splits (none _ _ _)
    · rintro ⟨fault, stopped⟩ tokens type rest splits
      rw [splits.run ended] at stopped
      contradiction

/-- A comma may end the elements of a tuple, but not a list, and a result needs one of its sides
between brackets. -/
example : (parse "tuple<u8,>").isOk = true ∧ (parse "list<u8,>").isOk = false ∧
    (parse "result<_>").isOk = false := by
  decide +kernel

/-- A written type is read to the end of its text as the type with its names settled. -/
theorem run_parser_written (type : TypeExpr) :
    parser.run (.ofSource type.written) =
      .ok (type.settled, ⟨[], (TokenStream.ofSource type.written).final⟩) := by
  have shows := TokenStream.shows_ofSource type.written
  have closes : Parser.Closes [] := by simp [Parser.Closes]
  have taken := type.takes_written closes
  rw [List.append_nil, Token.signs_nil] at taken
  obtain ⟨rest, ran, shown⟩ := taken.run _ shows
  obtain ⟨tokens, same, -⟩ := parser_recognizes ran (TokenStream.ended_ofSource _)
  have empty : rest.ahead = [] := List.map_eq_nil_iff.1 shown.ahead
  have final : rest.final = (TokenStream.ofSource type.written).final := by rw [same]; rfl
  rw [ran, ← final, ← empty]

end WitBridge.TypeExpr
