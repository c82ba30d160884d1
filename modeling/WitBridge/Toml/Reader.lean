import WitBridge.Toml.Literal
import WitBridge.Toml.Table

/-!
# Reading TOML

A document is read line by line into statements, which are then gathered into tables. Only an
array may go over several lines, with comments at their ends. Arrays and tables between
braces nest up to a limit, and a dotted name has no more parts than that.
-/
namespace WitBridge.Toml

/-- How many levels values may nest, and how many parts a name may have. -/
def nestingLimit : Nat := 79

/-- The text after a comment, if one comes next. -/
def skipComment : List Char → List Char
  | '#' :: rest => rest.dropWhile isPlain
  | text => text

/-- The text after the rest of a line in which nothing but a comment is left. -/
def skipLineEnd? (text : List Char) : Option (List Char) :=
  match skipComment (skipBlanks text) with
  | [] => some []
  | rest => lineBreak? rest

/-- The text after blank lines and comments; `comment` says that a comment is being passed
over. -/
def skipLines (comment : Bool) : List Char → List Char
  | [] => []
  | '\n' :: rest => skipLines false rest
  | '\r' :: '\n' :: rest => skipLines false rest
  | c :: rest =>
    if comment then (if isPlain c then skipLines true rest else c :: rest)
    else if c = '#' then skipLines true rest
    else if isBlank c then skipLines false rest
    else c :: rest

/-- Whether a character may stand in a name without quotes. -/
def isBare (c : Char) : Bool :=
  c.isAlphanum || c = '_' || c = '-'

/-- One part of a name. -/
def readPart (text : List Char) : Option (String × List Char) :=
  match readShortText text with
  | some (found, rest) => some (String.ofList found, rest)
  | none =>
    match text.takeWhile isBare with
    | [] => none
    | bare => some (String.ofList bare, text.dropWhile isBare)

/-- A dotted name of at most so many parts, with blanks around its parts. -/
def readKey : Nat → List Char → Option (Key × List Char)
  | 0, _ => none
  | parts + 1, text => do
    let (first, rest) ← readPart (skipBlanks text)
    match skipBlanks rest with
    | '.' :: rest =>
      let (key, rest) ← readKey parts rest
      return (⟨first :: key.path, key.name⟩, rest)
    | rest => return (⟨[], first⟩, rest)

/-- A name, an equals sign and a value. -/
def readAssignment (value : List Char → Option (Value × List Char)) (text : List Char) :
    Option (Assignment × List Char) := do
  let (key, rest) ← readKey nestingLimit text
  let (found, rest) ← value (skipBlanks (← skipChar? '=' rest))
  return (⟨key, found⟩, rest)

/-- The items of an array after its opening bracket, up to so many of them. The last item may
have a comma too. -/
def readItems (value : List Char → Option (Value × List Char)) :
    Nat → List Char → Option (List Value × List Char)
  | 0, _ => none
  | fuel + 1, text =>
    match skipLines false text with
    | ']' :: rest => some ([], rest)
    | text => do
      let (first, rest) ← value text
      match skipLines false rest with
      | ',' :: rest =>
        let (more, rest) ← readItems value fuel rest
        return (first :: more, rest)
      | ']' :: rest => return ([first], rest)
      | _ => none

/-- The assignments between braces after the opening brace, up to so many and at least one. -/
def readMembers (value : List Char → Option (Value × List Char)) :
    Nat → List Char → Option (List Assignment × List Char)
  | 0, _ => none
  | fuel + 1, text => do
    let (first, rest) ← readAssignment value text
    match skipBlanks rest with
    | ',' :: rest =>
      let (more, rest) ← readMembers value fuel rest
      return (first :: more, rest)
    | '}' :: rest => return ([first], rest)
    | _ => none

/-- A value that is a point in time or a number. -/
def readNumber (text : List Char) : Option (Value × List Char) :=
  let spelling := fun rest : List Char =>
    String.ofList (text.take (text.length - rest.length))
  match (skipDateTime? text).or (skipTime? text) with
  | some rest => some (.time (spelling rest), rest)
  | none =>
    match skipFloat? text with
    | some rest => some (.float (spelling rest), rest)
    | none => do
      let (value, rest) ← readInteger text
      return (.integer value, rest)

/-- A value within so many levels. -/
def readValue : Nat → List Char → Option (Value × List Char)
  | levels, text =>
    match text, levels with
    | 't' :: 'r' :: 'u' :: 'e' :: rest, _ => some (.bool true, rest)
    | 'f' :: 'a' :: 'l' :: 's' :: 'e' :: rest, _ => some (.bool false, rest)
    | '[' :: rest, levels + 1 => do
      let (items, rest) ← readItems (readValue levels) (rest.length + 1) rest
      return (.array items, rest)
    | '{' :: rest, levels + 1 =>
      match skipBlanks rest with
      | '}' :: rest => some (.table .inline [], rest)
      | _ => do
        let (members, rest) ← readMembers (readValue levels) (rest.length + 1) rest
        return (.table .inline (← Entries.fill .inline [] members), rest)
    | text, _ =>
      match readText text with
      | some (found, rest) => some (.string (String.ofList found), rest)
      | none => readNumber text

/-- The key of a heading and the closing brackets after it. -/
def readHeading (close : List Char) (text : List Char) : Option (Key × List Char) := do
  let (key, rest) ← readKey nestingLimit text
  if close.isPrefixOf rest then return (key, rest.drop close.length) else none

/-- A line that is not blank. -/
def readStatement : List Char → Option (Statement × List Char)
  | '[' :: '[' :: rest => do
    let (key, rest) ← readHeading [']', ']'] rest
    return (.heading (.element key), rest)
  | '[' :: rest => do
    let (key, rest) ← readHeading [']'] rest
    return (.heading (.table key), rest)
  | text => do
    let (found, rest) ← readAssignment (readValue nestingLimit) text
    return (.assignment found, rest)

/-- The statements of a text, up to so many of them. -/
def readStatements : Nat → List Char → Option (List Statement)
  | 0, _ => none
  | fuel + 1, text =>
    match skipLines false text with
    | [] => some []
    | text => do
      let (first, rest) ← readStatement text
      return first :: (← readStatements fuel (← skipLineEnd? rest))

/-- The text after the mark of its encoding, if it has one. -/
def skipEncodingMark : List Char → List Char
  | '\ufeff' :: rest => rest
  | text => text

/-- The table that a text spells. -/
def parse (text : String) : Option Value := do
  let chars := skipEncodingMark text.toList
  return .table .heading (← Entries.ofStatements (← readStatements (chars.length + 1) chars))

end WitBridge.Toml
