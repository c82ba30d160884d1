import WitBridge.Proofs.Parser.Recognition
import WitBridge.Type.Parser

/-!
# The grammar of type expressions

A type expression is a word, a name, or a word with something in angle brackets behind it. The word
of a result, a future or a stream may also stand alone, but not before an opening bracket, so what
tokens spell depends on the token after them. A comma may end the elements of a tuple and nothing
else. Whatever the parser returns is spelled by the tokens it has taken: each of its steps takes
what one rule of the grammar has.
-/
namespace WitBridge

open Token (Kind Sign front)

/-- The keyword of a handle. -/
def Ownership.keyword : Ownership → Token.Keyword
  | own => .own
  | borrow => .borrow

namespace TypeExpr

/-- Whether tokens are a word of a kind and then some tokens between angle brackets. -/
inductive Enclosed (kind : Kind) (inner : List Token) : List Token → Prop
  | intro {word opening closing : Token} (same : word.kind = kind)
    (opens : opening.kind = .mark .leftAngle) (closes : closing.kind = .mark .rightAngle) :
    Enclosed kind inner (word :: opening :: (inner ++ [closing]))

mutual
/-- Whether tokens spell a type if a token of the given kind follows them. -/
inductive Derives : Kind → List Token → TypeExpr → Prop
  | primitive {next : Kind} {word : Token} {kind : Primitive}
    (same : word.kind = .builtin (.primitive kind)) : Derives next [word] (.primitive kind)
  | named {next : Kind} {tokens : List Token} {name : Identifier}
    (derives : name.Derives tokens) : Derives next tokens (.named name)
  | list {next : Kind} {inner tokens : List Token} {element : TypeExpr}
    (enclosed : Enclosed (.builtin .list) inner tokens)
    (derives : Derives (.mark .rightAngle) inner element) : Derives next tokens (.list element)
  | option {next : Kind} {inner tokens : List Token} {type : TypeExpr}
    (enclosed : Enclosed (.builtin .option) inner tokens)
    (derives : Derives (.mark .rightAngle) inner type) : Derives next tokens (.option type)
  | bareResult {next : Kind} {word : Token} (same : word.kind = .builtin .result)
    (ends : next ≠ .mark .leftAngle) : Derives next [word] (.result none none)
  | ok {next : Kind} {inner tokens : List Token} {ok : TypeExpr}
    (enclosed : Enclosed (.builtin .result) inner tokens)
    (derives : Derives (.mark .rightAngle) inner ok) : Derives next tokens (.result (some ok) none)
  | both {next : Kind} {left right tokens : List Token} {comma : Token} {ok err : TypeExpr}
    (enclosed : Enclosed (.builtin .result) (left ++ comma :: right) tokens)
    (derives : Derives (.mark .comma) left ok) (separates : comma.kind = .mark .comma)
    (derives' : Derives (.mark .rightAngle) right err) :
    Derives next tokens (.result (some ok) (some err))
  | err {next : Kind} {inner tokens : List Token} {blank comma : Token} {err : TypeExpr}
    (enclosed : Enclosed (.builtin .result) (blank :: comma :: inner) tokens)
    (missing : blank.kind = .mark .underscore) (separates : comma.kind = .mark .comma)
    (derives : Derives (.mark .rightAngle) inner err) :
    Derives next tokens (.result none (some err))
  | tuple {next : Kind} {inner tokens : List Token} {elements : List TypeExpr}
    (enclosed : Enclosed (.builtin .tuple) inner tokens)
    (row : Row (.mark .rightAngle) inner elements) : Derives next tokens (.tuple elements)
  | bareFuture {next : Kind} {word : Token} (same : word.kind = .builtin .future)
    (ends : next ≠ .mark .leftAngle) : Derives next [word] (.future none)
  | future {next : Kind} {inner tokens : List Token} {type : TypeExpr}
    (enclosed : Enclosed (.builtin .future) inner tokens)
    (derives : Derives (.mark .rightAngle) inner type) : Derives next tokens (.future (some type))
  | bareStream {next : Kind} {word : Token} (same : word.kind = .builtin .stream)
    (ends : next ≠ .mark .leftAngle) : Derives next [word] (.stream none)
  | stream {next : Kind} {inner tokens : List Token} {element : TypeExpr}
    (enclosed : Enclosed (.builtin .stream) inner tokens)
    (derives : Derives (.mark .rightAngle) inner element) :
    Derives next tokens (.stream (some element))
  | handle {next : Kind} {inner tokens : List Token} {ownership : Ownership} {name : Identifier}
    (enclosed : Enclosed (.keyword ownership.keyword) inner tokens)
    (derives : name.Derives inner) : Derives next tokens (.handle ownership name)
/-- Whether tokens spell types with commas between them, and perhaps one behind the last. -/
inductive Row : Kind → List Token → List TypeExpr → Prop
  | nil {next : Kind} : Row next [] []
  | one {next : Kind} {tokens : List Token} {type : TypeExpr} (derives : Derives next tokens type) :
    Row next tokens [type]
  | more {next : Kind} {tokens rest : List Token} {comma : Token} {type : TypeExpr}
    {types : List TypeExpr} (derives : Derives (.mark .comma) tokens type)
    (separates : comma.kind = .mark .comma) (row : Row next rest types) :
    Row next (tokens ++ comma :: rest) (type :: types)
end

open WitBridge.Parser (Recognizes exists_of_run_bind exists_of_run_mark of_run_accept_mark)

variable {α β : Type} {item : Parser α} {derives : Kind → List Token → α → Prop}
  {type : Parser TypeExpr} {stream rest : TokenStream} {value : α} {found : TypeExpr} {kind : Kind}

/-- An item stands in front of the bracket that closes it. -/
theorem exists_of_run_closed {make : α → β} {result : β} (each : Recognizes item derives)
    (ran : (do
      let value ← item
      Parser.mark .rightAngle
      return make value : Parser β).run stream = .ok (result, rest)) (ended : stream.Ended) :
    ∃ (value : α) (inner : List Token) (closing : Token), result = make value ∧
      stream = inner ++ ([closing] ++ rest) ∧ closing.kind = .mark .rightAngle ∧
      derives (.mark .rightAngle) inner value := by
  obtain ⟨value, middle, taken, closed⟩ := exists_of_run_bind ran
  obtain ⟨inner, rfl, spelled⟩ := each taken ended
  obtain ⟨_, left, last, returned⟩ := exists_of_run_bind closed
  obtain ⟨closing, closes, rfl⟩ := exists_of_run_mark last ended
  cases returned
  exact ⟨value, inner, closing, rfl, rfl, closes, closes ▸ spelled⟩

/-- An item between angle brackets, behind a word. -/
theorem exists_of_run_angled (each : Recognizes item derives)
    (ran : (angled item).run stream = .ok (value, rest)) (ended : stream.Ended) {word : Token}
    (same : word.kind = kind) :
    ∃ tokens inner, [word] ++ stream = tokens ++ rest ∧ Enclosed kind inner tokens ∧
      derives (.mark .rightAngle) inner value := by
  obtain ⟨_, behind, opened, onward⟩ := exists_of_run_bind ran
  obtain ⟨opening, opens, rfl⟩ := exists_of_run_mark opened ended
  obtain ⟨_, inner, closing, rfl, rfl, closes, spelled⟩ :=
    exists_of_run_closed each onward ended
  exact ⟨_, inner, by simp [TokenStream.append_append], .intro same opens closes, spelled⟩

/-- The sides of a result are missing, or stand between angle brackets. -/
theorem exists_of_run_resultSides (each : Recognizes type Derives)
    (ran : (resultSides type).run stream = .ok (found, rest)) (ended : stream.Ended) {word : Token}
    (same : word.kind = .builtin .result) :
    ∃ tokens, [word] ++ stream = tokens ++ rest ∧ Derives rest.current.kind tokens found := by
  obtain ⟨isOpen, behind, opened, onward⟩ := exists_of_run_bind ran
  rcases of_run_accept_mark opened ended with ⟨rfl, opening, opens, rfl⟩ | ⟨rfl, other, rfl⟩
  case inr =>
    cases onward
    exact ⟨[word], rfl, .bareResult same other⟩
  -- An underscore leaves out the success, and then a comma must follow; otherwise it may.
  obtain ⟨isBlank, first, blanked, sides⟩ := exists_of_run_bind onward
  rcases of_run_accept_mark blanked ended with ⟨rfl, blank, missing, rfl⟩ | ⟨rfl, -, rfl⟩
  case inl =>
    obtain ⟨_, second, separated, failure⟩ := exists_of_run_bind sides
    obtain ⟨comma, separates, rfl⟩ := exists_of_run_mark separated ended
    obtain ⟨err, inner, closing, rfl, rfl, closes, spelled⟩ :=
      exists_of_run_closed each failure ended
    refine ⟨_, ?_, .err (.intro same opens closes) missing separates spelled⟩
    simp [TokenStream.append_append]
  case inr =>
    obtain ⟨ok, middle, taken, more⟩ := exists_of_run_bind sides
    obtain ⟨left, rfl, spelled⟩ := each taken ended
    obtain ⟨both, second, separated, closed⟩ := exists_of_run_bind more
    rcases of_run_accept_mark separated ended with ⟨rfl, comma, separates, rfl⟩ | ⟨rfl, -, rfl⟩
    case inl =>
      obtain ⟨err, right, closing, rfl, rfl, closes, spelled'⟩ :=
        exists_of_run_closed each closed ended
      refine ⟨_, ?_, .both (.intro same opens closes) (separates ▸ spelled) separates spelled'⟩
      simp [TokenStream.append_append]
    case inr =>
      obtain ⟨_, behind, last, returned⟩ := exists_of_run_bind closed
      obtain ⟨closing, closes, rfl⟩ := exists_of_run_mark last ended
      cases returned
      refine ⟨_, ?_, .ok (.intro same opens closes) (closes ▸ spelled)⟩
      simp [TokenStream.append_append]

/-- Types with commas between them. -/
theorem recognizes_commaItemsWithin {close : Kind} (each : Recognizes type Derives) (fuel : Nat) :
    Recognizes (Parser.commaItemsWithin close type fuel) Row := by
  intro stream types rest ran ended
  induction fuel generalizing stream types with
  | zero => exact absurd ran (Parser.run_unexpected_ne_ok _ _ _)
  | succ fuel ih =>
    obtain ⟨isClosed, place, checked, onward⟩ := exists_of_run_bind ran
    obtain ⟨rfl, rfl⟩ := Parser.of_run_check checked
    split at onward
    case isTrue =>
      cases onward
      exact ⟨[], rfl, .nil⟩
    case isFalse =>
      obtain ⟨first, middle, taken, more⟩ := exists_of_run_bind onward
      obtain ⟨tokens, rfl, spelled⟩ := each taken ended
      obtain ⟨again, behind, separated, others⟩ := exists_of_run_bind more
      rcases of_run_accept_mark separated ended with ⟨rfl, comma, separates, rfl⟩ | ⟨rfl, -, rfl⟩
      case inl =>
        obtain ⟨found, left, read, returned⟩ := exists_of_run_bind others
        cases returned
        obtain ⟨tail, rfl, row⟩ := ih read ended
        refine ⟨tokens ++ comma :: tail, ?_, .more (separates ▸ spelled) separates row⟩
        simp [TokenStream.append_append]
      case inr =>
        cases others
        exact ⟨tokens, rfl, .one spelled⟩

/-- A word and perhaps an item between angle brackets behind it. -/
theorem of_run_optionalAngled {inside : Option α} (each : Recognizes item derives)
    (ran : (optionalAngled item).run stream = .ok (inside, rest)) (ended : stream.Ended)
    {word : Token} (same : word.kind = kind) :
    (inside = none ∧ rest = stream ∧ rest.current.kind ≠ .mark .leftAngle) ∨
      ∃ value tokens inner, inside = some value ∧ [word] ++ stream = tokens ++ rest ∧
        Enclosed kind inner tokens ∧ derives (.mark .rightAngle) inner value := by
  obtain ⟨isOpen, place, checked, onward⟩ := exists_of_run_bind ran
  obtain ⟨rfl, rfl⟩ := Parser.of_run_check checked
  split at onward
  case isTrue =>
    obtain ⟨value, left, read, returned⟩ := exists_of_run_bind onward
    cases returned
    obtain ⟨tokens, inner, shape, enclosed, spelled⟩ := exists_of_run_angled each read ended same
    exact .inr ⟨value, tokens, inner, rfl, shape, enclosed, spelled⟩
  case isFalse closed =>
    cases onward
    exact .inl ⟨rfl, rfl, by simpa using closed⟩

/-- Types with commas between them, as many as there are tokens for. -/
theorem recognizes_commaItems {close : Kind} (each : Recognizes type Derives) :
    Recognizes (Parser.commaItems close type) Row :=
  fun _ _ _ ran => recognizes_commaItemsWithin each _ ran

/-- A handle is derived from its word and the name of its resource. -/
theorem exists_of_run_handle (ownership : Ownership)
    (same : stream.current.kind = .keyword ownership.keyword)
    (ran : (do
      discard Parser.advance
      return handle ownership (← angled (Parser.identifier "resource name"))
        : Parser TypeExpr).run stream = .ok (found, rest)) (ended : stream.Ended) :
    ∃ tokens, stream = tokens ++ rest ∧ Derives rest.current.kind tokens found := by
  obtain ⟨word, behind, same, rfl, onward⟩ :=
    Parser.exists_of_run_advance same ran ended nofun
  obtain ⟨name, left, read, returned⟩ := exists_of_run_bind onward
  cases returned
  obtain ⟨tokens, inner, shape, enclosed, spelled⟩ :=
    exists_of_run_angled Parser.recognizes_identifier read ended same
  exact ⟨tokens, shape, .handle enclosed spelled⟩

/-- A type is derived from the tokens that were taken for it. -/
theorem recognizes_parseWithin (fuel : Nat) : Recognizes (parseWithin fuel) Derives := by
  induction fuel with
  | zero => exact fun _ _ _ ran => absurd ran (Parser.run_unexpected_ne_ok _ _ _)
  | succ fuel ih =>
    intro stream type rest ran ended
    have onward := Parser.of_run_current ran
    -- The kind of the token at hand decides which rule of the grammar it is.
    split at onward
    case h_1 kind same =>
      obtain ⟨word, behind, marked, rfl, inside⟩ :=
        Parser.exists_of_run_advance same onward ended nofun
      cases inside
      exact ⟨[word], rfl, .primitive marked⟩
    case h_2 same =>
      obtain ⟨word, behind, marked, rfl, inside⟩ :=
        Parser.exists_of_run_advance same onward ended nofun
      obtain ⟨element, left, read, returned⟩ := exists_of_run_bind inside
      cases returned
      obtain ⟨tokens, inner, shape, enclosed, spelled⟩ := exists_of_run_angled ih read ended marked
      exact ⟨tokens, shape, .list enclosed spelled⟩
    case h_3 same =>
      obtain ⟨word, behind, marked, rfl, inside⟩ :=
        Parser.exists_of_run_advance same onward ended nofun
      obtain ⟨element, left, read, returned⟩ := exists_of_run_bind inside
      cases returned
      obtain ⟨tokens, inner, shape, enclosed, spelled⟩ := exists_of_run_angled ih read ended marked
      exact ⟨tokens, shape, .option enclosed spelled⟩
    case h_4 same =>
      obtain ⟨word, behind, marked, rfl, inside⟩ :=
        Parser.exists_of_run_advance same onward ended nofun
      exact exists_of_run_resultSides ih inside ended marked
    case h_5 same =>
      obtain ⟨word, behind, marked, rfl, inside⟩ :=
        Parser.exists_of_run_advance same onward ended nofun
      obtain ⟨elements, left, read, returned⟩ := exists_of_run_bind inside
      cases returned
      obtain ⟨tokens, inner, shape, enclosed, row⟩ :=
        exists_of_run_angled (recognizes_commaItems ih) read ended marked
      exact ⟨tokens, shape, .tuple enclosed row⟩
    case h_6 same =>
      obtain ⟨word, behind, marked, rfl, inside⟩ :=
        Parser.exists_of_run_advance same onward ended nofun
      obtain ⟨parameter, left, read, returned⟩ := exists_of_run_bind inside
      cases returned
      rcases of_run_optionalAngled ih read ended marked with
        ⟨rfl, rfl, other⟩ | ⟨value, tokens, inner, rfl, shape, enclosed, spelled⟩
      · exact ⟨[word], rfl, .bareFuture marked other⟩
      · exact ⟨tokens, shape, .future enclosed spelled⟩
    case h_7 same =>
      obtain ⟨word, behind, marked, rfl, inside⟩ :=
        Parser.exists_of_run_advance same onward ended nofun
      obtain ⟨parameter, left, read, returned⟩ := exists_of_run_bind inside
      cases returned
      rcases of_run_optionalAngled ih read ended marked with
        ⟨rfl, rfl, other⟩ | ⟨value, tokens, inner, rfl, shape, enclosed, spelled⟩
      · exact ⟨[word], rfl, .bareStream marked other⟩
      · exact ⟨tokens, shape, .stream enclosed spelled⟩
    case h_8 same =>
      exact exists_of_run_handle .own same onward ended
    case h_9 same =>
      exact exists_of_run_handle .borrow same onward ended
    case h_10 | h_11 =>
      obtain ⟨name, left, read, returned⟩ := exists_of_run_bind onward
      cases returned
      obtain ⟨tokens, shape, spelled⟩ := Parser.recognizes_identifier read ended
      exact ⟨tokens, shape, .named spelled⟩
    case h_12 => exact absurd onward (Parser.run_unexpected_ne_ok _ _ _)

/-- A type is derived from the tokens that the parser takes for it. -/
theorem parser_recognizes : Recognizes parser Derives :=
  fun _ _ _ ran => recognizes_parseWithin _ ran

end TypeExpr
end WitBridge
