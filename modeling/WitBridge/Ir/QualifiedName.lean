import WitBridge.Ir.Name
import WitBridge.Text.Blank
import WitBridge.Text.Quoted

/-!
# Qualified names

A definition of the IR is named by the path of its package, the path of its module and its
own name, written `Package.Path:Module.Path:localName`. A type reference is such a name or
the bare word of a primitive kind.
-/
namespace WitBridge.Ir

/-- A package path, a module path and a name in the module. -/
structure QualifiedName where
  packagePath : Path
  modulePath : Path
  localName : Name
  deriving DecidableEq, Repr

/-- Why a text is no type reference. -/
inductive ReferenceFault where
  | empty
  /-- Not three parts between colons, each with something in it. -/
  | notQualified (text : String)
  deriving DecidableEq, Repr

/-- What is wrong with the reference. -/
def ReferenceFault.message : ReferenceFault → String
  | empty => "invalid type reference: type reference cannot be empty"
  | notQualified text =>
    s!"invalid type reference: invalid FQName format {Text.quoted text}: " ++
      "expected 'Package:Module:name'"

namespace QualifiedName

/-- The name that a text spells: exactly three parts between colons, none of them blank. -/
def ofText (text : String) : Except ReferenceFault QualifiedName :=
  match Text.pieces ':' text.toList with
  | [package, module, name] =>
    if (Text.trim package).isEmpty || (Text.trim module).isEmpty || (Text.trim name).isEmpty then
      .error (.notQualified text)
    else
      .ok ⟨Path.ofText (String.ofList package), Path.ofText (String.ofList module),
        Name.ofText (String.ofList name)⟩
  | _ => .error (.notQualified text)

/-- The package of the SDK. -/
def sdkPackage : Path :=
  ⟨[⟨["morphir"]⟩, ⟨["s", "d", "k"]⟩]⟩

/-- A name in a module of the SDK. -/
def sdk (module name : String) : QualifiedName :=
  ⟨sdkPackage, ⟨[Name.ofText module]⟩, Name.ofText name⟩

/-- Whether the package begins with the two names of the SDK, in title case. -/
def isSdk (name : QualifiedName) : Bool :=
  match name.packagePath.names with
  | first :: second :: _ => first.title = "Morphir" && second.title = "SDK"
  | _ => false

/-- The last name of the module path in title case. -/
def moduleName (name : QualifiedName) : String :=
  (name.modulePath.last?.map Name.title).getD ""

/-- The name as text. -/
def display (name : QualifiedName) : String :=
  name.packagePath.display ++ ":" ++ name.modulePath.display ++ ":" ++ name.localName.camel

end QualifiedName

/-- The IR side of a type mapping. -/
inductive TypeReference where
  /-- A primitive kind such as `Int`. -/
  | primitive (kind : String)
  | qualified (name : QualifiedName)
  deriving DecidableEq, Repr

namespace TypeReference

/-- The reference that a text spells; a colon makes it a qualified name. -/
def ofText (text : String) : Except ReferenceFault TypeReference :=
  let trimmed := Text.trim text.toList
  if trimmed.isEmpty then .error .empty
  else if ':' ∈ trimmed then (QualifiedName.ofText (String.ofList trimmed)).map qualified
  else .ok (primitive (String.ofList trimmed))

/-- The reference as text. -/
def display : TypeReference → String
  | primitive kind => kind
  | qualified name => name.display

end TypeReference

end WitBridge.Ir
