import WitBridge.Position
import WitBridge.Token.Lexeme

/-!
# Tokens

A token is a lexeme in its place: where it starts and stops, its value, and the lines of
documentation in the trivia before it. What a token says does not depend on where it stands,
so places are added in a pass of their own over the lexemes.

A stream is what a reader consumes: the tokens ahead and the end of the input, which never
runs out.
-/
namespace WitBridge

/-- A lexeme in its place. -/
structure Token where
  /-- What the token is. -/
  kind : Token.Kind
  /-- Its characters, or the complaint of an invalid token. -/
  value : String
  /-- The place of its first character. -/
  start : Position
  /-- The place after its last character. -/
  stop : Position
  /-- The documentation between the token before and this one. -/
  docs : List String
  deriving DecidableEq, Repr

namespace Token

/-- A lexeme whose trivia begins at a given place. -/
def ofLexeme (position : Position) (lexeme : Lexeme) : Token :=
  let start := position.advanceOver (lexeme.gap.flatMap Trivia.chars)
  { kind := lexeme.kind
    value := lexeme.value
    start := start
    stop := start.advanceOver lexeme.text
    docs := Trivia.docs lexeme.gap }

/-- Lexemes from a given place on, as tokens. -/
def placed (position : Position) : List Lexeme → List Token
  | [] => []
  | lexeme :: rest =>
    let token := ofLexeme position lexeme
    token :: placed token.stop rest

/-- The end of input after some trivia that begins at a given place. -/
def endAfter (position : Position) (gap : List Trivia) : Token :=
  let place := position.advanceOver (gap.flatMap Trivia.chars)
  { kind := .endOfInput, value := "", start := place, stop := place, docs := Trivia.docs gap }

end Token

/-- The tokens ahead of a reader. -/
structure TokenStream where
  /-- Tokens before the end of the input. -/
  ahead : List Token
  /-- The end of the input. -/
  final : Token
  deriving DecidableEq, Repr

namespace TokenStream

/-- The tokens of a source text. -/
def ofSource (source : String) : TokenStream :=
  let lexemes := Token.Lexeme.scan source.toList
  let last := Position.start.advanceOver (lexemes.flatMap Token.Lexeme.chars)
  ⟨Token.placed .start lexemes, Token.endAfter last (Token.Lexeme.tail source.toList)⟩

/-- The token at hand. -/
def current (stream : TokenStream) : Token :=
  stream.ahead.headD stream.final

/-- The token after the one at hand. -/
def peek (stream : TokenStream) : Token :=
  stream.ahead.tail.headD stream.final

/-- The stream past the token at hand; the end of the input stays, its documentation spent. -/
def advance (stream : TokenStream) : TokenStream :=
  match stream.ahead with
  | [] => ⟨[], { stream.final with docs := [] }⟩
  | _ :: rest => ⟨rest, stream.final⟩

/-- The next tokens, as many as asked for. -/
def take : Nat → TokenStream → List Token
  | 0, _ => []
  | count + 1, stream => stream.current :: take count stream.advance

/-- All tokens up to the first that is invalid or ends the input. -/
def untilFault (stream : TokenStream) : List Token :=
  match stream.ahead.dropWhile (·.kind ≠ .invalid) with
  | [] => stream.ahead ++ [stream.final]
  | faulty :: _ => stream.ahead.takeWhile (·.kind ≠ .invalid) ++ [faulty]

end TokenStream

end WitBridge
