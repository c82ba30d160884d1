import WitBridge.Numeral
import WitBridge.Text.Pieces
import WitBridge.Text.Quoted

/-!
# Versions

A version is three 64-bit numbers, a pre-release part and build metadata, written
`1.2.3-alpha.1+nightly`. The numbers have no leading zero; the two last parts are identifiers
of letters, digits and hyphens joined by dots, and a pre-release identifier of digits alone
has no leading zero either. Reading stops at the first fault from the left.
-/
namespace WitBridge

/-- A version of a package. -/
structure Version where
  major : UInt64
  minor : UInt64
  patch : UInt64
  /-- The pre-release identifiers joined by dots; empty if there are none. -/
  pre : String := ""
  /-- The build identifiers joined by dots; empty if there are none. -/
  build : String := ""
  deriving DecidableEq, Repr

namespace Version

/-- A part of a version. -/
inductive Part where
  | major | minor | patch | pre | build
  deriving DecidableEq, Repr

/-- The part as messages name it. -/
def Part.display : Part → String
  | major => "major version number"
  | minor => "minor version number"
  | patch => "patch version number"
  | pre => "pre-release identifier"
  | build => "build metadata"

/-- Why a text is no version. -/
inductive Fault where
  | empty
  | unexpectedEnd (part : Part)
  | unexpectedWithin (part : Part) (c : Char)
  | unexpectedAfter (part : Part) (c : Char)
  | leadingZero (part : Part)
  | overflow (part : Part)
  | emptySegment (part : Part)
  deriving DecidableEq, Repr

/-- What the fault is. -/
def Fault.detail : Fault → String
  | empty => "empty string, expected a semver version"
  | unexpectedEnd part => s!"unexpected end of input while parsing {part.display}"
  | unexpectedWithin part c =>
    s!"unexpected character {Text.quotedChar c} while parsing {part.display}"
  | unexpectedAfter part c => s!"unexpected character {Text.quotedChar c} after {part.display}"
  | leadingZero part => s!"invalid leading zero in {part.display}"
  | overflow part => s!"value of {part.display} exceeds u64::MAX"
  | emptySegment part => s!"empty identifier segment in {part.display}"

/-- What the fault is and of what. -/
def Fault.message (fault : Fault) : String :=
  "invalid version: " ++ fault.detail

/-- The number at the front of a text and the text after it. -/
def readNumber (part : Part) (text : List Char) : Except Fault (UInt64 × List Char) :=
  match text.takeWhile Char.isDigit, text.dropWhile Char.isDigit with
  | [], [] => .error (.unexpectedEnd part)
  | [], c :: _ => .error (.unexpectedWithin part c)
  | '0' :: _ :: _, _ => .error (.leadingZero part)
  | digits, rest =>
    if Text.decimal digits < UInt64.size then .ok (UInt64.ofNat (Text.decimal digits), rest)
    else .error (.overflow part)

/-- The text after the dot that follows a number. -/
def readDot (part : Part) : List Char → Except Fault (List Char)
  | [] => .error (.unexpectedEnd part)
  | '.' :: rest => .ok rest
  | c :: _ => .error (.unexpectedAfter part c)

/-- Whether a character may stand in an identifier. -/
def isIdentifierPart (c : Char) : Bool :=
  c.isAlphanum || c = '-'

/-- What is wrong with an identifier, if anything is. -/
def identifierFault? (part : Part) : List Char → Option Fault
  | [] => some (.emptySegment part)
  | segment@('0' :: _ :: _) =>
    if part = .pre && segment.all Char.isDigit then some (.leadingZero part) else none
  | _ => none

/-- The identifiers at the front of a text, joined by dots as written, and the text after
them. -/
def readIdentifiers (part : Part) (text : List Char) : Except Fault (String × List Char) :=
  let isPart := fun c => isIdentifierPart c || c = '.'
  let body := text.takeWhile isPart
  match (Text.pieces '.' body).findSome? (identifierFault? part) with
  | some fault => .error fault
  | none => .ok (String.ofList body, text.dropWhile isPart)

/-- An optional part that a given character opens. -/
def readOptional (part : Part) (opening : Char) : List Char →
    Except Fault (Option String × List Char)
  | [] => .ok (none, [])
  | c :: rest =>
    if c = opening then (readIdentifiers part rest).map fun (found, after) => (some found, after)
    else .ok (none, c :: rest)

/-- The version that a text spells. -/
def ofText (text : String) : Except Fault Version := do
  if text = "" then throw .empty
  let (major, rest) ← readNumber .major text.toList
  let rest ← readDot .major rest
  let (minor, rest) ← readNumber .minor rest
  let rest ← readDot .minor rest
  let (patch, rest) ← readNumber .patch rest
  let (pre, rest) ← readOptional .pre '-' rest
  let (build, rest) ← readOptional .build '+' rest
  match rest with
  | [] => return ⟨major, minor, patch, pre.getD "", build.getD ""⟩
  | c :: _ =>
    let last := if build.isSome then .build else if pre.isSome then .pre else .patch
    throw (.unexpectedAfter last c)

/-- The version spelled by up to three segments; missing ones count as zero. -/
def ofSegments (segments : List String) : Except Fault Version :=
  ofText (".".intercalate (segments ++ List.replicate (3 - segments.length) "0"))

/-- A part after its opening character, or nothing for an empty part. -/
def suffix (opening part : String) : String :=
  if part = "" then "" else opening ++ part

/-- The version as text. -/
def display (version : Version) : String :=
  s!"{version.major}.{version.minor}.{version.patch}" ++ suffix "-" version.pre
    ++ suffix "+" version.build

end Version

end WitBridge
