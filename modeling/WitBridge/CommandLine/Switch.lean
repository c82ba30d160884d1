import WitBridge.Numeral

/-!
# Commands and switches

The commands of the command line and the switches that each of them knows. A switch has a
long name and perhaps a letter, and some switches take a value.
-/
namespace WitBridge.CommandLine

/-- The commands. -/
inductive Command where
  | make | gen | build
  deriving DecidableEq, Repr

/-- What may be switched. -/
inductive Switch where
  | strict | indent | noComments | output | warningsAsErrors | typeMap | verbose | help | version
  deriving DecidableEq, Repr

/-- The kinds of values that switches take. -/
inductive Operand where
  /-- A path, which is not empty. -/
  | path
  /-- A number of spaces. -/
  | count
  deriving DecidableEq, Repr

/-- A number as a user writes it: decimal digits after an optional plus sign, of 64 bits. -/
def count? (text : String) : Option Nat :=
  let digits := match text.toList with
    | '+' :: digits => digits
    | digits => digits
  if digits.isEmpty || !digits.all Char.isDigit then none
  else if Text.decimal digits < UInt64.size then some (Text.decimal digits)
  else none

namespace Operand

/-- Whether a text is a value of the kind. -/
def accepts : Operand → String → Bool
  | path, text => text ≠ ""
  | count, text => (count? text).isSome

/-- The kind as the help names it. -/
def display : Operand → String
  | path => "PATH"
  | count => "INDENT"

end Operand

namespace Command

/-- The name of a command. -/
def name : Command → String
  | make => "make"
  | gen => "gen"
  | build => "build"

/-- All commands. -/
def all : List Command :=
  [make, gen, build]

/-- The command of a name. -/
def ofName? (text : String) : Option Command :=
  all.find? (·.name = text)

/-- What a command does. -/
def help : Command → String
  | make => "WIT source to Morphir IR JSON"
  | gen => "Morphir IR JSON to WIT source"
  | build => "WIT → IR → WIT with a round-trip check"

/-- What a command reads. -/
def inputHelp : Command → String
  | make | build => "WIT file, or - for stdin"
  | gen => "IR JSON file, or - for stdin"

/-- The switches that a command knows, in the order of its help: the switch that may also stand
in front of the command comes second. -/
def switches : Command → List Switch
  | make | build => [.strict, .verbose, .output, .warningsAsErrors, .typeMap, .help]
  | gen => [.indent, .verbose, .noComments, .output, .warningsAsErrors, .typeMap, .help]

end Command

namespace Switch

/-- The switches that may stand in front of a command. -/
def leading : List Switch :=
  [verbose, help, version]

/-- The name of a switch, which two hyphens open. -/
def name : Switch → String
  | strict => "strict"
  | indent => "indent"
  | noComments => "no-comments"
  | output => "output"
  | warningsAsErrors => "warnings-as-errors"
  | typeMap => "typemap"
  | verbose => "verbose"
  | help => "help"
  | version => "version"

/-- The letter of a switch, which one hyphen opens. -/
def letter? : Switch → Option Char
  | output => some 'o'
  | verbose => some 'v'
  | help => some 'h'
  | version => some 'V'
  | _ => none

/-- The kind of value that a switch takes. -/
def operand? : Switch → Option Operand
  | indent => some .count
  | output | typeMap => some .path
  | _ => none

/-- What a switch does. -/
def about : Switch → String
  | strict => "Reject flags and resources instead of approximating them"
  | indent => "Spaces per indentation level [default: 4]"
  | noComments => "Leave out /// documentation"
  | output => "Output file (defaults to stdout)"
  | warningsAsErrors => "Fail when any warning is reported"
  | typeMap => "TOML file with type mapping overrides"
  | verbose => "Log pipeline progress (debug level)"
  | help => "Print help"
  | version => "Print version"

end Switch

end WitBridge.CommandLine
