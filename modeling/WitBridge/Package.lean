import WitBridge.Documentation
import WitBridge.Type.Basic
import WitBridge.Version

/-!
# Packages

The tree of a WIT document. A package holds interfaces and worlds; an interface holds type
definitions, functions and uses of other interfaces; a world imports and exports interfaces
and functions. A named type refers to its definition by name and is resolved by look-up.
-/
namespace WitBridge

/-- A field of a record. -/
structure Field where
  name : Identifier
  type : TypeExpr
  docs : Documentation := {}
  deriving DecidableEq, Repr

/-- A case of a variant. -/
structure Case where
  name : Identifier
  /-- The type that the case carries, if it carries one. -/
  payload : Option TypeExpr
  docs : Documentation := {}
  deriving DecidableEq, Repr

/-- A parameter of a function. -/
structure Parameter where
  name : Identifier
  type : TypeExpr
  deriving DecidableEq, Repr

/-- A function of an interface, resource or world. -/
structure Function where
  name : Identifier
  parameters : List Parameter := []
  /-- Empty for no result; several results stand for a tuple of them. -/
  results : List TypeExpr := []
  isAsync : Bool := false
  docs : Documentation := {}
  deriving DecidableEq, Repr

/-- A method of a resource. -/
structure Method where
  name : Identifier
  function : Function
  isStatic : Bool := false
  deriving DecidableEq, Repr

/-- What a type definition defines. -/
inductive Definition where
  | record (fields : List Field)
  | variant (cases : List Case)
  | enum (cases : List Identifier)
  | flags (flags : List Identifier)
  /-- A resource: the parameters of its constructor, if it has one, and its methods. -/
  | resource (constructor : Option (List Parameter)) (methods : List Method)
  /-- Another name for a type. -/
  | synonym (target : TypeExpr)
  deriving DecidableEq, Repr

/-- The keyword that opens a definition. -/
def Definition.keyword : Definition → String
  | record _ => "record"
  | variant _ => "variant"
  | enum _ => "enum"
  | flags _ => "flags"
  | resource _ _ => "resource"
  | synonym _ => "type"

/-- A named type definition. -/
structure TypeDefinition where
  name : Identifier
  body : Definition
  docs : Documentation := {}
  deriving DecidableEq, Repr

/-- The interface that a use or a world item points at. -/
inductive UsePath where
  /-- An interface of the same package. -/
  | sibling (name : Identifier)
  /-- An interface of another package, `vendor:package/interface@version`. -/
  | external (vendor package : KebabName) (interface : Identifier) (version : Option Version)
  deriving DecidableEq, Repr

namespace UsePath

/-- The name of the interface. -/
def interfaceName : UsePath → Identifier
  | sibling name => name
  | external _ _ interface _ => interface

/-- The path as text. -/
def display : UsePath → String
  | sibling name => name.text
  | external vendor package interface version =>
    let atVersion := match version with
      | some version => "@" ++ version.display
      | none => ""
    vendor.text ++ ":" ++ package.text ++ "/" ++ interface.text ++ atVersion

end UsePath

/-- A name taken from another interface. -/
structure UseItem where
  name : Identifier
  /-- The name it has here, if that differs. -/
  renamed : Option Identifier := none
  deriving DecidableEq, Repr

/-- A use of another interface: of some of its names, or of the whole under a name. -/
structure Use where
  path : UsePath
  items : List UseItem := []
  renamed : Option Identifier := none
  deriving DecidableEq, Repr

/-- An interface. -/
structure Interface where
  name : Identifier
  types : List TypeDefinition := []
  functions : List Function := []
  uses : List Use := []
  docs : Documentation := {}
  deriving DecidableEq, Repr

namespace Interface

/-- The first definition of a name. -/
def findType? (interface : Interface) (name : String) : Option TypeDefinition :=
  interface.types.find? (·.name.text = name)

/-- The first function of a name. -/
def findFunction? (interface : Interface) (name : String) : Option Function :=
  interface.functions.find? (·.name.text = name)

end Interface

/-- What a world imports or exports. -/
inductive WorldItem where
  /-- An interface spelled out in place. -/
  | inline (name : Identifier) (interface : Interface)
  /-- An interface defined elsewhere. -/
  | external (name : Identifier) (path : UsePath)
  | function (function : Function)
  deriving DecidableEq, Repr

/-- A world. -/
structure World where
  name : Identifier
  imports : List WorldItem := []
  exports : List WorldItem := []
  uses : List Use := []
  docs : Documentation := {}
  deriving DecidableEq, Repr

/-- The declaration that opens a document: `package vendor:nested/name@version;`. -/
structure PackageHeader where
  vendor : KebabName
  /-- The segments between the vendor and the name. -/
  nested : List KebabName := []
  name : KebabName
  version : Option Version := none
  docs : Documentation := {}
  deriving DecidableEq, Repr

/-- A document. -/
structure Package where
  header : Option PackageHeader := none
  interfaces : List Interface := []
  worlds : List World := []
  uses : List Use := []
  deriving DecidableEq, Repr

namespace Package

/-- The documentation of the package. -/
def docs (package : Package) : Documentation :=
  (package.header.map (·.docs)).getD {}

/-- The first interface of a name. -/
def findInterface? (package : Package) (name : String) : Option Interface :=
  package.interfaces.find? (·.name.text = name)

end Package

end WitBridge
