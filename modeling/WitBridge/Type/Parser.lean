import WitBridge.Parser
import WitBridge.Type.Basic

/-!
# Reading type expressions

A type is a primitive, a name, or a container or handle with its parameters between angle
brackets. A result, future or stream may stand without parameters. Types nest no deeper than
there are tokens.
-/
namespace WitBridge.TypeExpr

/-- One item between angle brackets. -/
def angled {α : Type} (item : Parser α) : Parser α := do
  Parser.mark .leftAngle
  let found ← item
  Parser.mark .rightAngle
  return found

/-- One item between angle brackets, or nothing. -/
def optionalAngled {α : Type} (item : Parser α) : Parser (Option α) := do
  if ← Parser.check (.mark .leftAngle) then
    return some (← angled item)
  else
    return none

/-- What follows the word of a result: nothing, its success, or both sides, of which an
underscore leaves out the first. -/
def resultSides (type : Parser TypeExpr) : Parser TypeExpr := do
  if ← Parser.accept (.mark .leftAngle) then
    if ← Parser.accept (.mark .underscore) then
      Parser.mark .comma
      let err ← type
      Parser.mark .rightAngle
      return result none (some err)
    else
      let ok ← type
      if ← Parser.accept (.mark .comma) then
        let err ← type
        Parser.mark .rightAngle
        return result (some ok) (some err)
      else
        Parser.mark .rightAngle
        return result (some ok) none
  else
    return result none none

/-- A type that nests fewer than `fuel` types. -/
def parseWithin : Nat → Parser TypeExpr
  | 0 => Parser.unexpected "type"
  | fuel + 1 => do
    let token ← Parser.current
    match token.kind with
    | .builtin (.primitive kind) =>
      discard Parser.advance
      return primitive kind
    | .builtin .list =>
      discard Parser.advance
      return list (← angled (parseWithin fuel))
    | .builtin .option =>
      discard Parser.advance
      return option (← angled (parseWithin fuel))
    | .builtin .result =>
      discard Parser.advance
      resultSides (parseWithin fuel)
    | .builtin .tuple =>
      discard Parser.advance
      return tuple (← angled (Parser.commaItems (.mark .rightAngle) (parseWithin fuel)))
    | .builtin .future =>
      discard Parser.advance
      return future (← optionalAngled (parseWithin fuel))
    | .builtin .stream =>
      discard Parser.advance
      return stream (← optionalAngled (parseWithin fuel))
    | .keyword .own =>
      discard Parser.advance
      return handle .own (← angled (Parser.identifier "resource name"))
    | .keyword .borrow =>
      discard Parser.advance
      return handle .borrow (← angled (Parser.identifier "resource name"))
    | .identifier | .mark .percent => return named (← Parser.identifier "type name")
    | _ => Parser.unexpected "type"

/-- A type expression. -/
def parser : Parser TypeExpr := fun stream =>
  parseWithin (stream.ahead.length + 1) stream

/-- The type expression at the front of a source text; what follows it is not looked at. -/
def parse (source : String) : Except SourceFault TypeExpr :=
  (parser (TokenStream.ofSource source)).map (·.1)

end WitBridge.TypeExpr
