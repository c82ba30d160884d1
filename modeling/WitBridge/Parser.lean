import WitBridge.Documentation
import WitBridge.SourceFault

/-!
# Parsers over a token stream

A parser takes tokens off a stream or stops at a fault. The combinators here read single
tokens, names, and the two shapes of repetition of the grammar: items up to a closing token,
and items separated by commas of which the last may be followed by one. A repetition runs at
most once per token ahead, for every item takes a token.
-/
namespace WitBridge

/-- A reader of part of a document. -/
abbrev Parser (α : Type) := StateT TokenStream (Except SourceFault) α

namespace Parser

variable {α : Type}

/-- The token at hand. -/
def current : Parser Token := do
  return (← get).current

/-- Whether the token at hand is of a kind. -/
def check (kind : Token.Kind) : Parser Bool := do
  return (← current).kind = kind

/-- Take the token at hand. -/
def advance : Parser Token := do
  let token ← current
  modify TokenStream.advance
  return token

/-- Stop at a place. -/
def refuse (position : Position) (cause : SourceFault.Cause) : Parser α :=
  throw ⟨position, cause⟩

/-- Stop because the token at hand is not what is expected. -/
def unexpected (expected : String) : Parser α := do
  let token ← current
  match token.kind with
  | .invalid => refuse token.start (.invalidToken token.value)
  | _ => refuse token.start (.unexpected expected token)

/-- Take a token of a kind. -/
def expect (kind : Token.Kind) : Parser Token := do
  if ← check kind then advance else unexpected kind.display

/-- Take a mark. -/
def mark (m : Token.Mark) : Parser Unit := do
  discard (expect (.mark m))

/-- Take a keyword. -/
def keyword (k : Token.Keyword) : Parser Unit := do
  discard (expect (.keyword k))

/-- Take the token at hand if it is of a kind, and say whether it was. -/
def accept (kind : Token.Kind) : Parser Bool := do
  if ← check kind then
    discard advance
    return true
  else
    return false

/-- The documentation at the token at hand. -/
def docs : Parser Documentation := do
  return ⟨(← current).docs⟩

/-- An identifier, which a `%` may escape. A reserved word is a name if it is escaped or if
`anyWord` allows it. -/
def identifier (what : String) (anyWord : Bool := false) : Parser Identifier := do
  let escaped ← accept (.mark .percent)
  let token ← current
  if token.kind = .identifier || ((escaped || anyWord) && token.kind.isWord) then
    match KebabName.ofText .identifier token.value with
    | .ok bare =>
      discard advance
      return ⟨escaped, bare⟩
    | .error fault => refuse token.start (.badName what fault)
  else unexpected what

/-- A word, reserved or not, as the name of a vendor or a package. -/
def word (what : String) (role : NameRole) : Parser KebabName := do
  let token ← current
  if token.kind.isWord then
    match KebabName.ofText role token.value with
    | .ok name =>
      discard advance
      return name
    | .error fault => refuse token.start (.badName what fault)
  else unexpected what

/-- Items as long as the token at hand does not close them, at most `fuel` of them. -/
def itemsWithin (close : Token.Kind) (item : Parser α) : Nat → Parser (List α)
  | 0 => unexpected close.display
  | fuel + 1 => do
    if ← check close then
      return []
    else
      let first ← item
      let rest ← itemsWithin close item fuel
      return first :: rest

/-- Items up to the token that closes them, which stays. -/
def itemsUntil (close : Token.Kind) (item : Parser α) : Parser (List α) := fun stream =>
  itemsWithin close item (stream.ahead.length + 1) stream

/-- Items with commas between them, at most `fuel` of them. -/
def commaItemsWithin (close : Token.Kind) (item : Parser α) : Nat → Parser (List α)
  | 0 => unexpected close.display
  | fuel + 1 => do
    if ← check close then
      return []
    else
      let first ← item
      if ← accept (.mark .comma) then
        let rest ← commaItemsWithin close item fuel
        return first :: rest
      else
        return [first]

/-- Items with commas between them; the last may be followed by one too. -/
def commaItems (close : Token.Kind) (item : Parser α) : Parser (List α) := fun stream =>
  commaItemsWithin close item (stream.ahead.length + 1) stream

/-- Items with commas between them, in braces. -/
def bracedItems (item : Parser α) : Parser (List α) := do
  mark .leftBrace
  let items ← commaItems (.mark .rightBrace) item
  mark .rightBrace
  return items

end Parser

end WitBridge
