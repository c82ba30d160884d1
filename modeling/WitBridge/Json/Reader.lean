import WitBridge.Json.Value

/-!
# Reading JSON

The grammar of JSON without extensions: no trailing commas, no leading zeros, no bare control
characters in strings, and four kinds of blanks. A text is one value with blanks around it.
-/
namespace WitBridge.Json

/-- Whether a character is a blank of JSON. -/
def isSpace (c : Char) : Bool :=
  c = ' ' || c = '\t' || c = '\n' || c = '\r'

/-- The text after its blanks. -/
def skipSpace (text : List Char) : List Char :=
  text.dropWhile isSpace

/-- The value of four hexadecimal digits. -/
def hexUnit? (a b c d : Char) : Option Nat :=
  Text.numeral? 16 [a, b, c, d]

/-- The character that a one-letter escape stands for. -/
def escaped? : Char → Option Char
  | '"' => some '"'
  | '\\' => some '\\'
  | '/' => some '/'
  | 'b' => some '\x08'
  | 'f' => some '\x0c'
  | 'n' => some '\n'
  | 'r' => some '\r'
  | 't' => some '\t'
  | _ => none

/-- A part of a string: a character, or a UTF-16 unit given by its number. -/
inductive Fragment where
  | char (c : Char)
  | unit (code : Nat)
  deriving DecidableEq, Repr

/-- The parts of a string after its opening quote, and the text after its closing quote. -/
def readFragments : List Char → Option (List Fragment × List Char)
  | [] => none
  | '"' :: rest => some ([], rest)
  | '\\' :: 'u' :: a :: b :: c :: d :: rest => do
    let code ← hexUnit? a b c d
    let (more, rest) ← readFragments rest
    return (.unit code :: more, rest)
  | '\\' :: e :: rest => do
    let c ← escaped? e
    let (more, rest) ← readFragments rest
    return (.char c :: more, rest)
  | c :: rest => do
    if c.toNat < 0x20 then none
    let (more, rest) ← readFragments rest
    return (.char c :: more, rest)

/-- Whether a UTF-16 unit opens a pair. -/
def isHighSurrogate (code : Nat) : Bool :=
  0xd800 ≤ code && code < 0xdc00

/-- Whether a UTF-16 unit closes a pair. -/
def isLowSurrogate (code : Nat) : Bool :=
  0xdc00 ≤ code && code < 0xe000

/-- The text that the parts of a string spell; `none` if half of a pair stands alone. -/
def assemble : List Fragment → Option (List Char)
  | [] => some []
  | .char c :: rest => (c :: ·) <$> assemble rest
  | .unit high :: .unit low :: rest =>
    if isHighSurrogate high then
      if isLowSurrogate low then
        let code := 0x10000 + (high - 0xd800) * 0x400 + (low - 0xdc00)
        (Char.ofNat code :: ·) <$> assemble rest
      else none
    else if isLowSurrogate high then none
    else (Char.ofNat high :: ·) <$> assemble (.unit low :: rest)
  | .unit code :: rest =>
    if isHighSurrogate code || isLowSurrogate code then none
    else (Char.ofNat code :: ·) <$> assemble rest

/-- A string after its opening quote. -/
def readString (text : List Char) : Option (Option String × List Char) := do
  let (fragments, rest) ← readFragments text
  return ((assemble fragments).map String.ofList, rest)

/-- The digits after a point, if a point comes next. -/
def readFraction : List Char → Option (Option (List Char) × List Char)
  | '.' :: rest => do
    let (digits, rest) ← Text.readDigits rest
    return (some digits, rest)
  | text => some (none, text)

/-- The sign and digits of an exponent, if one comes next. -/
def readExponent : List Char → Option (Option (Bool × List Char) × List Char)
  | [] => some (none, [])
  | e :: rest =>
    if e = 'e' || e = 'E' then
      match rest with
      | '-' :: rest => do
        let (digits, rest) ← Text.readDigits rest
        return (some (true, digits), rest)
      | '+' :: rest => do
        let (digits, rest) ← Text.readDigits rest
        return (some (false, digits), rest)
      | rest => do
        let (digits, rest) ← Text.readDigits rest
        return (some (false, digits), rest)
    else some (none, e :: rest)

/-- A number without its sign. -/
def readUnsigned (negative : Bool) (text : List Char) : Option (Number × List Char) := do
  let (whole, rest) ← Text.readDigits text
  if whole.length ≠ 1 && whole.head? = some '0' then none
  let (fraction, rest) ← readFraction rest
  let (exponent, rest) ← readExponent rest
  return (⟨negative, whole, fraction, exponent⟩, rest)

/-- A number. -/
def readNumber : List Char → Option (Number × List Char)
  | '-' :: rest => readUnsigned true rest
  | text => readUnsigned false text

/-- Items with commas between them up to a closing character, at most `fuel` of them and at
least one. -/
def readItems {α : Type} (item : List Char → Option (α × List Char)) (close : Char) :
    Nat → List Char → Option (List α × List Char)
  | 0, _ => none
  | fuel + 1, text => do
    let (first, rest) ← item text
    match skipSpace rest with
    | [] => none
    | c :: rest =>
      if c = ',' then
        let (more, rest) ← readItems item close fuel rest
        return (first :: more, rest)
      else if c = close then return ([first], rest)
      else none

/-- A name, a colon and a value. -/
def readMember (value : List Char → Option (Value × List Char)) (text : List Char) :
    Option ((Option String × Value) × List Char) :=
  match skipSpace text with
  | '"' :: rest => do
    let (name, rest) ← readString rest
    match skipSpace rest with
    | ':' :: rest =>
      let (found, rest) ← value rest
      return ((name, found), rest)
    | _ => none
  | _ => none

/-- A value at the front of a text no longer than `fuel`, and the text after it. -/
def readValue : Nat → List Char → Option (Value × List Char)
  | 0, _ => none
  | fuel + 1, text =>
    match skipSpace text with
    | 'n' :: 'u' :: 'l' :: 'l' :: rest => some (.null, rest)
    | 't' :: 'r' :: 'u' :: 'e' :: rest => some (.bool true, rest)
    | 'f' :: 'a' :: 'l' :: 's' :: 'e' :: rest => some (.bool false, rest)
    | '"' :: rest => do
      let (found, rest) ← readString rest
      return (.string found, rest)
    | '[' :: rest =>
      match skipSpace rest with
      | ']' :: rest => some (.array [], rest)
      | _ => do
        let (items, rest) ← readItems (readValue fuel) ']' fuel rest
        return (.array items, rest)
    | '{' :: rest =>
      match skipSpace rest with
      | '}' :: rest => some (.object [], rest)
      | _ => do
        let (members, rest) ← readItems (readMember (readValue fuel)) '}' fuel rest
        return (.object members, rest)
    | other => do
      let (found, rest) ← readNumber other
      return (.number found, rest)

/-- The value that a text spells. -/
def parse (text : String) : Option Value := do
  let chars := text.toList
  let (value, rest) ← readValue (chars.length + 1) chars
  if (skipSpace rest).isEmpty then return value else none

end WitBridge.Json
