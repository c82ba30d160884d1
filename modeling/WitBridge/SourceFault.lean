import WitBridge.Name
import WitBridge.Token
import WitBridge.Version

/-!
# Faults of a source text

Reading a source text ends at its first fault, which names the place of a token and says what
is wrong there.
-/
namespace WitBridge

/-- What is wrong at a token. -/
inductive SourceFault.Cause where
  /-- Characters that begin no token. -/
  | invalidToken (complaint : String)
  /-- A token other than what the grammar asks for. -/
  | unexpected (expected : String) (found : Token)
  /-- A word that is no name for what it is to name. -/
  | badName (what : String) (fault : NameFault)
  | badVersion (text : String) (fault : Version.Fault)
  | secondConstructor (resource : Identifier)
  deriving DecidableEq, Repr

/-- A fault at a place of the source. -/
structure SourceFault where
  position : Position
  cause : SourceFault.Cause
  deriving DecidableEq, Repr

namespace SourceFault

/-- A token as messages name it: its kind, and its value where the kind has many. -/
def describe (token : Token) : String :=
  match token.kind with
  | .identifier | .integer => s!"{token.kind.display} {Text.quoted token.value}"
  | kind => kind.display

/-- What is wrong, without the place. -/
def Cause.message : Cause → String
  | invalidToken complaint => complaint
  | unexpected expected found => s!"expected {expected}, got {describe found}"
  | badName what fault => s!"invalid {what} {Text.quoted fault.text}: {fault.reason}"
  | badVersion text fault => s!"invalid version {Text.quoted text}: {fault.message}"
  | secondConstructor resource => s!"resource {resource.text} declares more than one constructor"

/-- Whether the fault is in the characters rather than in the grammar. -/
def isLexical (fault : SourceFault) : Bool :=
  match fault.cause with
  | .invalidToken _ => true
  | _ => false

/-- What is wrong, without the place. -/
def detail (fault : SourceFault) : String :=
  fault.cause.message

/-- What is wrong and where. -/
def message (fault : SourceFault) : String :=
  let stage := if fault.isLexical then "lex" else "parse"
  s!"{stage} error at {fault.position.display}: {fault.detail}"

end SourceFault

end WitBridge
