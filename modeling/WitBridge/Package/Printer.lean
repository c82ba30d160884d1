import WitBridge.Package
import WitBridge.Type.Printer

/-!
# Writing packages

A document is laid out as lines: one for each declaration and member, with the members of a
block one step further in and an empty line between the parts at the top. Documentation goes
in front of what it documents. A reserved word used as a name is written with its escape, so
the text can be read again.
-/
namespace WitBridge

/-- How a document is laid out. -/
structure Layout where
  /-- Spaces for each step inwards. -/
  indent : Nat := 4
  /-- Whether documentation is written. -/
  comments : Bool := true
  deriving DecidableEq, Repr

/-- A line of a document: its steps inwards and its text. -/
structure Line where
  depth : Nat
  text : String
  deriving DecidableEq, Repr

namespace Line

/-- A line at the margin. -/
def flush (text : String) : Line := ⟨0, text⟩

/-- The line one step further in. -/
def deeper (line : Line) : Line := ⟨line.depth + 1, line.text⟩

/-- Lines between a heading with an opening brace and a closing brace, one step further in. -/
def block (heading : String) (body : List Line) : List Line :=
  flush (heading ++ " \x7b") :: body.map deeper ++ [flush "\x7d"]

/-- The characters of a line with its newline. -/
def render (layout : Layout) (line : Line) : String :=
  String.ofList (List.replicate (line.depth * layout.indent) ' ') ++ line.text ++ "\n"

end Line

/-- Documentation as comment lines. -/
def Documentation.lineList (layout : Layout) (docs : Documentation) : List Line :=
  if layout.comments then
    docs.lines.map fun line => Line.flush (if line = "" then "///" else "/// " ++ line)
  else []

/-- A path as it is written. A reserved word needs its escape only where it stands alone. -/
def UsePath.written : UsePath → String
  | sibling name => name.written
  | path => path.display

/-- A name and what it is renamed to. -/
def UseItem.written (item : UseItem) : String :=
  match item.renamed with
  | some other => item.name.written ++ " as " ++ other.written
  | none => item.name.written

/-- What follows the path of a use: the names it takes, or the name it takes the whole under. -/
def Use.writtenTail (use : Use) : String :=
  match use.items, use.renamed with
  | [], none => ""
  | [], some other => " as " ++ other.written
  | items, _ => ".\x7b" ++ ", ".intercalate (items.map UseItem.written) ++ "\x7d"

/-- The line of a use. -/
def Use.lineList (use : Use) : List Line :=
  [.flush ("use " ++ use.path.written ++ use.writtenTail ++ ";")]

/-- `name: type` -/
def Parameter.written (parameter : Parameter) : String :=
  parameter.name.written ++ ": " ++ parameter.type.written

/-- Parameters with commas between them. -/
def Parameter.writtenList (parameters : List Parameter) : String :=
  ", ".intercalate (parameters.map Parameter.written)

namespace Function

/-- The results after an arrow; several are written as one tuple. -/
def writtenResults (function : Function) : String :=
  match function.results with
  | [] => ""
  | [result] => " -> " ++ result.written
  | results => " -> " ++ (TypeExpr.tuple results).written

/-- The type of a function. -/
def writtenType (function : Function) : String :=
  (if function.isAsync then "async " else "") ++ "func("
    ++ Parameter.writtenList function.parameters ++ ")" ++ function.writtenResults

/-- The name of a function and its type. -/
def signature (function : Function) : String :=
  function.name.written ++ ": " ++ function.writtenType

/-- A function of an interface. -/
def lineList (layout : Layout) (function : Function) : List Line :=
  function.docs.lineList layout ++ [.flush (function.signature ++ ";")]

end Function

/-- A field of a record. -/
def Field.lineList (layout : Layout) (field : Field) : List Line :=
  field.docs.lineList layout ++ [.flush (field.name.written ++ ": " ++ field.type.written ++ ",")]

/-- A case of a variant. -/
def Case.lineList (layout : Layout) (case : Case) : List Line :=
  let payload := match case.payload with
    | some type => "(" ++ type.written ++ ")"
    | none => ""
  case.docs.lineList layout ++ [.flush (case.name.written ++ payload ++ ",")]

/-- A method of a resource. -/
def Method.lineList (layout : Layout) (method : Method) : List Line :=
  method.function.docs.lineList layout ++
    [.flush (method.name.written ++ (if method.isStatic then ": static " else ": ")
      ++ method.function.writtenType ++ ";")]

/-- A name in a list of cases or flags. -/
def Identifier.entry (name : Identifier) : Line :=
  .flush (name.written ++ ",")

/-- A definition under a name as written. -/
def Definition.lineList (layout : Layout) (name : String) : Definition → List Line
  | record fields => Line.block ("record " ++ name) (fields.flatMap (Field.lineList layout))
  | variant cases => Line.block ("variant " ++ name) (cases.flatMap (Case.lineList layout))
  | enum cases => Line.block ("enum " ++ name) (cases.map Identifier.entry)
  | flags names => Line.block ("flags " ++ name) (names.map Identifier.entry)
  | resource none [] => [.flush ("resource " ++ name ++ ";")]
  | resource constructor methods =>
    Line.block ("resource " ++ name)
      (constructor.toList.map (fun parameters =>
          .flush ("constructor(" ++ Parameter.writtenList parameters ++ ");"))
        ++ methods.flatMap (Method.lineList layout))
  | synonym target => [.flush ("type " ++ name ++ " = " ++ target.written ++ ";")]

/-- A type definition. -/
def TypeDefinition.lineList (layout : Layout) (definition : TypeDefinition) : List Line :=
  definition.docs.lineList layout ++ definition.body.lineList layout definition.name.written

namespace Interface

/-- The members of an interface: uses, then types, then functions. -/
def memberLines (layout : Layout) (interface : Interface) : List Line :=
  interface.uses.flatMap Use.lineList
    ++ interface.types.flatMap (TypeDefinition.lineList layout)
    ++ interface.functions.flatMap (Function.lineList layout)

/-- An interface at the top of a document. -/
def lineList (layout : Layout) (interface : Interface) : List Line :=
  interface.docs.lineList layout
    ++ Line.block ("interface " ++ interface.name.written) (interface.memberLines layout)

end Interface

/-- A world item after the word for its direction. -/
def WorldItem.lineList (layout : Layout) (direction : String) : WorldItem → List Line
  | external _ path => [.flush (direction ++ " " ++ path.written ++ ";")]
  | inline name interface =>
    interface.docs.lineList layout
      ++ Line.block (direction ++ " " ++ name.written ++ ": interface")
        (interface.memberLines layout)
  | function found =>
    found.docs.lineList layout ++ [.flush (direction ++ " " ++ found.signature ++ ";")]

/-- A world. -/
def World.lineList (layout : Layout) (world : World) : List Line :=
  world.docs.lineList layout
    ++ Line.block ("world " ++ world.name.written)
      (world.uses.flatMap Use.lineList
        ++ world.imports.flatMap (WorldItem.lineList layout "import")
        ++ world.exports.flatMap (WorldItem.lineList layout "export"))

/-- The declaration that opens a document. -/
def PackageHeader.lineList (layout : Layout) (header : PackageHeader) : List Line :=
  let nested := String.join (header.nested.map (·.text ++ "/"))
  let version := match header.version with
    | some version => "@" ++ version.display
    | none => ""
  header.docs.lineList layout
    ++ [.flush ("package " ++ header.vendor.text ++ ":" ++ nested ++ header.name.text
      ++ version ++ ";")]

namespace Package

/-- The parts of a document: header and uses, then each interface, then each world. -/
def sections (layout : Layout) (package : Package) : List (List Line) :=
  let opening := package.header.toList.flatMap (PackageHeader.lineList layout)
    ++ package.uses.flatMap Use.lineList
  opening :: package.interfaces.map (Interface.lineList layout)
    ++ package.worlds.map (World.lineList layout)

/-- The document as text, with an empty line between parts that are not empty. -/
def render (layout : Layout) (package : Package) : String :=
  "\n".intercalate (((package.sections layout).filter (· ≠ [])).map fun lines =>
    String.join (lines.map (Line.render layout)))

end Package

end WitBridge
