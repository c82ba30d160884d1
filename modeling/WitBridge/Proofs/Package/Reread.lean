import WitBridge.Package.Comparison
import WitBridge.Package.Printer
import WitBridge.Proofs.Type.Reading
import WitBridge.Proofs.Version

/-!
# What is read from a written package

A package is read back from its text with three changes: a name that spells a reserved word
carries its escape, several results of a function are one tuple, and a line of documentation has
no blanks at its end, or there is no documentation at all where comments are not written. What
the text does not say is taken from what it says: the function of a method has the name of the
method, an interface in a world the name of its item, and a world item the name of its path.

A package is legible if nothing in it keeps its text from being read: no line of documentation
holds a newline, versions are plain, and where a name is written as it stands it is not reserved.
-/
namespace WitBridge

/-- Whether no line of documentation holds a newline. -/
def Documentation.SingleLines (docs : Documentation) : Prop :=
  ∀ line ∈ docs.lines, '\n' ∉ line.toList

/-- Documentation as it is read: without blanks at the ends of lines, if it is written. -/
def Documentation.reread (layout : Layout) (docs : Documentation) : Documentation :=
  if layout.comments then ⟨docs.lines.map fun line => String.ofList (Text.trimEnd line.toList)⟩
  else {}

/-- A parameter with its names settled. -/
def Parameter.settled (parameter : Parameter) : Parameter :=
  ⟨parameter.name.settled, parameter.type.settled⟩

/-- A function as it is read. -/
def Function.reread (layout : Layout) (function : Function) : Function where
  name := function.name.settled
  parameters := function.parameters.map Parameter.settled
  results := function.gatheredResults.map TypeExpr.settled
  isAsync := function.isAsync
  docs := function.docs.reread layout

/-- A field as it is read. -/
def Field.reread (layout : Layout) (field : Field) : Field :=
  ⟨field.name.settled, field.type.settled, field.docs.reread layout⟩

/-- A case as it is read. -/
def Case.reread (layout : Layout) (case : Case) : Case :=
  ⟨case.name.settled, case.payload.map TypeExpr.settled, case.docs.reread layout⟩

/-- A method as it is read; its function has the name of the method. -/
def Method.reread (layout : Layout) (method : Method) : Method where
  name := method.name.settled
  function := { method.function.reread layout with name := method.name.settled }
  isStatic := method.isStatic

/-- What a definition defines, as it is read. -/
def Definition.reread (layout : Layout) : Definition → Definition
  | record fields => record (fields.map (Field.reread layout))
  | variant cases => variant (cases.map (Case.reread layout))
  | enum cases => enum (cases.map Identifier.settled)
  | flags names => flags (names.map Identifier.settled)
  | resource constructor methods =>
    resource (constructor.map (·.map Parameter.settled)) (methods.map (Method.reread layout))
  | synonym target => synonym target.settled

/-- A type definition as it is read. -/
def TypeDefinition.reread (layout : Layout) (definition : TypeDefinition) : TypeDefinition :=
  ⟨definition.name.settled, definition.body.reread layout, definition.docs.reread layout⟩

/-- A path as it is read. -/
def UsePath.settled : UsePath → UsePath
  | sibling name => sibling name.settled
  | path => path

/-- A name taken from an interface, as it is read. -/
def UseItem.settled (item : UseItem) : UseItem :=
  ⟨item.name.settled, item.renamed.map Identifier.settled⟩

/-- A use as it is read; where it takes names it has no name for the whole. -/
def Use.reread (use : Use) : Use where
  path := use.path.settled
  items := use.items.map UseItem.settled
  renamed := if use.items = [] then use.renamed.map Identifier.settled else none

/-- An interface as it is read. -/
def Interface.reread (layout : Layout) (interface : Interface) : Interface where
  name := interface.name.settled
  types := interface.types.map (TypeDefinition.reread layout)
  functions := interface.functions.map (Function.reread layout)
  uses := interface.uses.map Use.reread
  docs := interface.docs.reread layout

/-- A world item as it is read; the name is that of the item or the path. -/
def WorldItem.reread (layout : Layout) : WorldItem → WorldItem
  | inline name interface =>
    inline name.settled { interface.reread layout with name := name.settled }
  | external _ path => external path.settled.interfaceName path.settled
  | function found => function (found.reread layout)

/-- A world as it is read. -/
def World.reread (layout : Layout) (world : World) : World where
  name := world.name.settled
  imports := world.imports.map (WorldItem.reread layout)
  exports := world.exports.map (WorldItem.reread layout)
  uses := world.uses.map Use.reread
  docs := world.docs.reread layout

/-- The declaration that opens a document, as it is read. -/
def PackageHeader.reread (layout : Layout) (header : PackageHeader) : PackageHeader :=
  { header with docs := header.docs.reread layout }

/-- A package as it is read. -/
def Package.reread (layout : Layout) (package : Package) : Package where
  header := package.header.map (PackageHeader.reread layout)
  interfaces := package.interfaces.map (Interface.reread layout)
  worlds := package.worlds.map (World.reread layout)
  uses := package.uses.map Use.reread

/-- Whether the documentation within a definition can be written. -/
def Definition.Legible : Definition → Prop
  | record fields => ∀ field ∈ fields, field.docs.SingleLines
  | variant cases => ∀ case ∈ cases, case.docs.SingleLines
  | resource _ methods => ∀ method ∈ methods, method.function.docs.SingleLines
  | enum _ | flags _ | synonym _ => True

/-- Whether a path can be read: the interface of another package is written as it stands. -/
def UsePath.Legible : UsePath → Prop
  | sibling _ => True
  | external _ _ interface version =>
    interface.settled = interface ∧ ∀ found ∈ version, found.Plain

/-- What an interface must keep so that its text can be read. -/
structure Interface.Legible (interface : Interface) : Prop where
  docs : interface.docs.SingleLines
  types : ∀ definition ∈ interface.types,
    definition.docs.SingleLines ∧ definition.body.Legible
  functions : ∀ function ∈ interface.functions, function.docs.SingleLines
  uses : ∀ use ∈ interface.uses, use.path.Legible

/-- The words behind the colon of a world item that open something else than a path. -/
def WorldItem.openers : List Token.Kind :=
  [.keyword .interface, .keyword .func, .keyword .async]

/-- Whether a world item can be read: the vendor of a path is read as a name, and its package is
told from what else may follow a name. -/
def WorldItem.Legible : WorldItem → Prop
  | inline _ interface => interface.Legible
  | external _ (.sibling _) => True
  | external _ (.external vendor package interface version) =>
    (UsePath.external vendor package interface version).Legible
      ∧ Token.Kind.isReserved vendor.text = false
      ∧ Token.Kind.ofWord package.text ∉ openers
  | function found => found.docs.SingleLines

/-- What a world must keep so that its text can be read. -/
structure World.Legible (world : World) : Prop where
  docs : world.docs.SingleLines
  imports : ∀ item ∈ world.imports, item.Legible
  exports : ∀ item ∈ world.exports, item.Legible
  uses : ∀ use ∈ world.uses, use.path.Legible

/-- What a package must keep so that its text can be read. -/
structure Package.Legible (package : Package) : Prop where
  header : ∀ header ∈ package.header,
    header.docs.SingleLines ∧ ∀ version ∈ header.version, version.Plain
  interfaces : ∀ interface ∈ package.interfaces, interface.Legible
  worlds : ∀ world ∈ package.worlds, world.Legible
  uses : ∀ use ∈ package.uses, use.path.Legible

end WitBridge
