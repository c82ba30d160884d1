import WitBridge.Numeral

/-!
# TOML literals

The spellings of texts, numbers and points in time. A text stands between double quotes, with
escapes, or between single quotes, as it is; either quote written three times holds a text of
several lines, in which every line break counts as a newline. Each reader takes a literal
from the front of a text and gives what follows it.
-/
namespace WitBridge.Toml

/-- Whether a character is a blank within a line. -/
def isBlank (c : Char) : Bool :=
  c = ' ' || c = '\t'

/-- The text after its blanks. -/
def skipBlanks (text : List Char) : List Char :=
  text.dropWhile isBlank

/-- The text after the line break in front of it, if there is one. -/
def lineBreak? : List Char → Option (List Char)
  | '\n' :: rest => some rest
  | '\r' :: '\n' :: rest => some rest
  | _ => none

/-- Whether a character may stand as it is within a line: a tab, or no control. -/
def isPlain (c : Char) : Bool :=
  c = '\t' || (0x20 ≤ c.toNat && c.toNat ≠ 0x7f)

/-- The character that a one-letter escape stands for. -/
def escaped? : Char → Option Char
  | '"' => some '"'
  | '\\' => some '\\'
  | 'b' => some '\x08'
  | 'f' => some '\x0c'
  | 'n' => some '\n'
  | 'r' => some '\r'
  | 't' => some '\t'
  | _ => none

/-- The character of a code point given by its hexadecimal digits. -/
def codePoint? (digits : List Char) : Option Char := do
  let code ← Text.numeral? 16 digits
  if code.isValidChar then some (Char.ofNat code) else none

/-- Put a character in front of a text that was read. -/
def prepend (c : Char) : List Char × List Char → List Char × List Char
  | (found, rest) => (c :: found, rest)

/-- A text after its opening double quote. -/
def readBasic : List Char → Option (List Char × List Char)
  | [] => none
  | '"' :: rest => some ([], rest)
  | '\\' :: 'u' :: a :: b :: c :: d :: rest => do
    return prepend (← codePoint? [a, b, c, d]) (← readBasic rest)
  | '\\' :: 'U' :: a :: b :: c :: d :: e :: f :: g :: h :: rest => do
    return prepend (← codePoint? [a, b, c, d, e, f, g, h]) (← readBasic rest)
  | '\\' :: e :: rest => do return prepend (← escaped? e) (← readBasic rest)
  | c :: rest => do
    if isPlain c then return prepend c (← readBasic rest) else none

/-- A text after its opening single quote. -/
def readLiteral (text : List Char) : Option (List Char × List Char) :=
  match text.dropWhile fun c => isPlain c && c ≠ '\'' with
  | '\'' :: rest => some (text.takeWhile fun c => isPlain c && c ≠ '\'', rest)
  | _ => none

/-- The end of a text of several lines after three closing quotes: up to two quotes more belong
to the text. -/
def endQuotes (quote : Char) : List Char → List Char × List Char
  | [] => ([], [])
  | [c] => if c = quote then ([c], []) else ([], [c])
  | c :: d :: rest =>
    if c = quote then (if d = quote then ([c, d], rest) else ([c], d :: rest))
    else ([], c :: d :: rest)

/-- A text of several lines after its opening double quotes. A backslash at the end of a line
takes the line break and the blanks and line breaks after it away; `trimming` says that these
are being passed over. -/
def readLongBasic (trimming : Bool) : List Char → Option (List Char × List Char)
  | [] => none
  | '\n' :: rest =>
    if trimming then readLongBasic true rest
    else return prepend '\n' (← readLongBasic false rest)
  | '\r' :: '\n' :: rest =>
    if trimming then readLongBasic true rest
    else return prepend '\n' (← readLongBasic false rest)
  | '"' :: '"' :: '"' :: rest => some (endQuotes '"' rest)
  | '\\' :: 'u' :: a :: b :: c :: d :: rest => do
    return prepend (← codePoint? [a, b, c, d]) (← readLongBasic false rest)
  | '\\' :: 'U' :: a :: b :: c :: d :: e :: f :: g :: h :: rest => do
    return prepend (← codePoint? [a, b, c, d, e, f, g, h]) (← readLongBasic false rest)
  | '\\' :: e :: rest =>
    if (lineBreak? (skipBlanks (e :: rest))).isSome then readLongBasic true (e :: rest)
    else do return prepend (← escaped? e) (← readLongBasic false rest)
  | c :: rest =>
    if trimming && isBlank c then readLongBasic true rest
    else if isPlain c then do return prepend c (← readLongBasic false rest)
    else none

/-- A text of several lines after its opening single quotes. -/
def readLongLiteral : List Char → Option (List Char × List Char)
  | [] => none
  | '\'' :: '\'' :: '\'' :: rest => some (endQuotes '\'' rest)
  | '\r' :: '\n' :: rest => do return prepend '\n' (← readLongLiteral rest)
  | c :: rest => do
    if c = '\n' || isPlain c then return prepend c (← readLongLiteral rest) else none

/-- The text after the line break that may follow opening quotes. -/
def skipFirstBreak (text : List Char) : List Char :=
  (lineBreak? text).getD text

/-- A text of one line. -/
def readShortText : List Char → Option (List Char × List Char)
  | '"' :: rest => readBasic rest
  | '\'' :: rest => readLiteral rest
  | _ => none

/-- A text. -/
def readText : List Char → Option (List Char × List Char)
  | '"' :: '"' :: '"' :: rest => readLongBasic false (skipFirstBreak rest)
  | '\'' :: '\'' :: '\'' :: rest => readLongLiteral (skipFirstBreak rest)
  | text => readShortText text

/-- Digits that may each follow the one before after an underscore, without the underscores. -/
def moreDigits (isDigit : Char → Bool) : List Char → List Char × List Char
  | [] => ([], [])
  | '_' :: c :: rest =>
    if isDigit c then prepend c (moreDigits isDigit rest) else ([], '_' :: c :: rest)
  | c :: rest => if isDigit c then prepend c (moreDigits isDigit rest) else ([], c :: rest)

/-- One or more digits, with single underscores between them. -/
def readGrouped (isDigit : Char → Bool) : List Char → Option (List Char × List Char)
  | [] => none
  | c :: rest => if isDigit c then some (prepend c (moreDigits isDigit rest)) else none

/-- One or more decimal digits without a leading zero. -/
def readWhole (text : List Char) : Option (List Char × List Char) := do
  let (digits, rest) ← readGrouped Char.isDigit text
  if digits.length ≠ 1 && digits.head? = some '0' then none else return (digits, rest)

/-- A sign, if there is one: whether it is a minus, and the text after it. -/
def readSign : List Char → Bool × List Char
  | '-' :: rest => (true, rest)
  | '+' :: rest => (false, rest)
  | text => (false, text)

/-- A number of digits of a base. -/
def readNumeral (base : Nat) (text : List Char) : Option (Int × List Char) := do
  let (digits, rest) ← readGrouped (fun c => (Text.numeral? base [c]).isSome) text
  return ((← Text.numeral? base digits), rest)

/-- A decimal number with an optional sign. -/
def readDecimal (text : List Char) : Option (Int × List Char) := do
  let (negative, rest) := readSign text
  let (digits, rest) ← readWhole rest
  let size : Int := Text.decimal digits
  return (if negative then -size else size, rest)

/-- An integer without a bound: decimal, hexadecimal, octal or binary. -/
def readUnbounded : List Char → Option (Int × List Char)
  | '0' :: 'x' :: rest => readNumeral 16 rest
  | '0' :: 'o' :: rest => readNumeral 8 rest
  | '0' :: 'b' :: rest => readNumeral 2 rest
  | text => readDecimal text

/-- An integer of 64 bits. -/
def readInteger (text : List Char) : Option (Int × List Char) := do
  let (value, rest) ← readUnbounded text
  if Int64.minValue.toInt ≤ value ∧ value ≤ Int64.maxValue.toInt then return (value, rest)
  else none

/-- An exponent, if there is one. -/
def readExponent? : List Char → Option (Int × List Char)
  | [] => none
  | e :: rest => do
    if e ≠ 'e' && e ≠ 'E' then none
    let (negative, rest) := readSign rest
    let (digits, rest) ← readGrouped Char.isDigit rest
    let size : Int := Text.decimal digits
    return (if negative then -size else size, rest)

/-- The digits of a number with a fraction, an exponent or both, and the power of ten that they
count. -/
def readScaled (text : List Char) : Option ((List Char × Int) × List Char) := do
  let (whole, rest) ← readWhole text
  match rest with
  | '.' :: rest =>
    let (fraction, rest) ← readGrouped Char.isDigit rest
    let (power, rest) := (readExponent? rest).getD (0, rest)
    return ((whole ++ fraction, power - fraction.length), rest)
  | rest =>
    let (power, rest) ← readExponent? rest
    return ((whole, power), rest)

/-- The text after a number with a fraction, an exponent or both, or after infinity or no
number. A number too great to be finite is refused; below zero it is the negative infinity. -/
def skipFloat? (text : List Char) : Option (List Char) :=
  match readSign text with
  | (_, 'i' :: 'n' :: 'f' :: rest) => some rest
  | (_, 'n' :: 'a' :: 'n' :: rest) => some rest
  | (negative, unsigned) => do
    let ((digits, power), rest) ← readScaled unsigned
    if negative || Double.isFiniteDecimal digits power then return rest else none

/-- A number of exactly so many decimal digits. -/
def readFixed (width : Nat) (text : List Char) : Option (Nat × List Char) :=
  let digits := text.take width
  if digits.length = width && digits.all Char.isDigit then
    some (Text.decimal digits, text.drop width)
  else none

/-- The text after a given character. -/
def skipChar? (expected : Char) : List Char → Option (List Char)
  | [] => none
  | c :: rest => if c = expected then some rest else none

/-- The number of days of a month. -/
def daysOf (year month : Nat) : Nat :=
  if month = 2 then
    if year % 4 = 0 ∧ (year % 100 ≠ 0 ∨ year % 400 = 0) then 29 else 28
  else if month ∈ [4, 6, 9, 11] then 30
  else 31

/-- The text after a date. -/
def skipDate? (text : List Char) : Option (List Char) := do
  let (year, rest) ← readFixed 4 text
  let (month, rest) ← readFixed 2 (← skipChar? '-' rest)
  let (day, rest) ← readFixed 2 (← skipChar? '-' rest)
  if 1 ≤ month ∧ month ≤ 12 ∧ 1 ≤ day ∧ day ≤ daysOf year month then return rest else none

/-- The text after hours and minutes. -/
def skipMinutes? (text : List Char) : Option (List Char) := do
  let (hour, rest) ← readFixed 2 text
  let (minute, rest) ← readFixed 2 (← skipChar? ':' rest)
  if hour < 24 ∧ minute < 60 then return rest else none

/-- The text after a time of day. A minute may have a leap second. -/
def skipTime? (text : List Char) : Option (List Char) := do
  let (second, rest) ← readFixed 2 (← skipChar? ':' (← skipMinutes? text))
  if second ≤ 60 then
    match rest with
    | '.' :: rest => do return (← Text.readDigits rest).2
    | rest => return rest
  else none

/-- The text after the distance to universal time, if it is given. -/
def skipOffset : List Char → List Char
  | [] => []
  | c :: rest =>
    if c = 'Z' || c = 'z' then rest
    else if c = '+' || c = '-' then (skipMinutes? rest).getD (c :: rest)
    else c :: rest

/-- The text after a date with the time of day that may follow it. -/
def skipDateTime? (text : List Char) : Option (List Char) := do
  let rest ← skipDate? text
  match rest with
  | c :: time =>
    if c = 'T' || c = 't' || c = ' ' then
      return ((skipTime? time).map skipOffset).getD rest
    else return rest
  | [] => return rest

end WitBridge.Toml
