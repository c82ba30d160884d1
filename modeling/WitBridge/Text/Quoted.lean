import WitBridge.Text.Printable

/-!
# Quoted text

Messages show a text or a character between quotes so that every character can be seen: the
quote and the backslash take a backslash, the usual controls have short escapes, and every
other unprintable character is written by its code point in lower-case hexadecimal.
-/
namespace WitBridge.Text

/-- A character by its code point: a backslash, `u` and the hexadecimal digits in braces. -/
def codePointEscape (c : Char) : List Char :=
  ['\\', 'u', '\x7b'] ++ Nat.toDigits 16 c.toNat ++ ['\x7d']

/-- A character as it stands between quotes of the given kind. -/
def escapeWithin (quote c : Char) : List Char :=
  if c = '\x00' then ['\\', '0']
  else if c = '\t' then ['\\', 't']
  else if c = '\r' then ['\\', 'r']
  else if c = '\n' then ['\\', 'n']
  else if c = '\\' ∨ c = quote then ['\\', c]
  else if isPrintable c then [c]
  else codePointEscape c

/-- A text between double quotes. -/
def quoted (text : String) : String :=
  String.ofList ('"' :: text.toList.flatMap (escapeWithin '"') ++ ['"'])

/-- A character between single quotes. -/
def quotedChar (c : Char) : String :=
  String.ofList ('\'' :: escapeWithin '\'' c ++ ['\''])

end WitBridge.Text
