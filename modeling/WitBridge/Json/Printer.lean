import WitBridge.Json.Value

/-!
# Writing JSON

A value is written over several lines, two spaces further in for each level; an empty array
or object stays on one line. In strings only the quote, the backslash and the controls below
U+0020 are escaped.
-/
namespace WitBridge.Json

/-- A hexadecimal digit in lower case. -/
def hexChar (digit : Nat) : Char :=
  Nat.digitChar digit

/-- A character as it stands in a string. -/
def escapeChar (c : Char) : List Char :=
  if c = '"' then ['\\', '"']
  else if c = '\\' then ['\\', '\\']
  else if c = '\x08' then ['\\', 'b']
  else if c = '\t' then ['\\', 't']
  else if c = '\n' then ['\\', 'n']
  else if c = '\x0c' then ['\\', 'f']
  else if c = '\r' then ['\\', 'r']
  else if c.toNat < 0x20 then
    ['\\', 'u', '0', '0', hexChar (c.toNat / 16), hexChar (c.toNat % 16)]
  else [c]

/-- A text between quotes. -/
def writeString (text : List Char) : List Char :=
  '"' :: text.flatMap escapeChar ++ ['"']

/-- A newline and the indentation of a level. -/
def lineBreak (level : Nat) : List Char :=
  '\n' :: List.replicate (2 * level) ' '

mutual
/-- A value whose first line is already indented to its level. A string that spells no text is
written empty. -/
def writeValue (level : Nat) : Value → List Char
  | .null => ['n', 'u', 'l', 'l']
  | .bool true => ['t', 'r', 'u', 'e']
  | .bool false => ['f', 'a', 'l', 's', 'e']
  | .number value => value.chars
  | .string text => writeString (text.getD "").toList
  | .array [] => ['[', ']']
  | .array (first :: rest) =>
    '[' :: lineBreak (level + 1) ++ writeValue (level + 1) first ++ writeItems (level + 1) rest
      ++ lineBreak level ++ [']']
  | .object [] => ['{', '}']
  | .object ((name, first) :: rest) =>
    '{' :: lineBreak (level + 1) ++ writeString (name.getD "").toList ++ [':', ' ']
      ++ writeValue (level + 1) first ++ writeMembers (level + 1) rest
      ++ lineBreak level ++ ['}']
/-- Items after the first, each after a comma on a line of its own. -/
def writeItems (level : Nat) : List Value → List Char
  | [] => []
  | item :: rest => ',' :: lineBreak level ++ writeValue level item ++ writeItems level rest
/-- Members after the first, each after a comma on a line of its own. -/
def writeMembers (level : Nat) : List (Option String × Value) → List Char
  | [] => []
  | (name, value) :: rest =>
    ',' :: lineBreak level ++ writeString (name.getD "").toList ++ [':', ' ']
      ++ writeValue level value ++ writeMembers level rest
end

/-- A value as text. -/
def render (value : Value) : String :=
  String.ofList (writeValue 0 value)

end WitBridge.Json
