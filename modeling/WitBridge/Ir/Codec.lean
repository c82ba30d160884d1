import WitBridge.Ir.Module
import WitBridge.Json.Printer
import WitBridge.Json.Reader
import WitBridge.Json.Record

/-!
# Modules as JSON

A module is written with its fields in a fixed order; empty documentation is left out. It is
read from any spelling of its records, as objects or as arrays. A type definition and a type
are choices told by their tag; what stands inside one is read as a whole first, so its
strings, numbers and nesting must be sound even where they are passed over. Inside such a
choice a tag may also be given by its number, and the word of an access may hold an empty
object in place of null.
-/
namespace WitBridge.Ir

open Json (Value)

/-- A name as JSON: its words. -/
def Name.toJson (name : Name) : Value :=
  .array (name.words.map .text)

/-- A path as JSON: its names. -/
def Path.toJson (path : Path) : Value :=
  .array (path.names.map Name.toJson)

/-- A qualified name as JSON. -/
def QualifiedName.toJson (name : QualifiedName) : Value :=
  .ofFields [("package_path", name.packagePath.toJson), ("module_path", name.modulePath.toJson),
    ("local_name", name.localName.toJson)]

/-- A name with a type as JSON. -/
def memberToJson (name : Name) (type : Value) : Value :=
  .ofFields [("name", name.toJson), ("tpe", type)]

namespace TypeExpr

mutual
/-- A type as JSON. -/
def toJson : TypeExpr → Value
  | var name => .ofFields [("kind", .text "Variable"), ("name", name.toJson)]
  | reference name parameters =>
    .ofFields [("kind", .text "Reference"), ("name", name.toJson),
      ("params", .array (listToJson parameters))]
  | tuple elements =>
    .ofFields [("kind", .text "Tuple"), ("elements", .array (listToJson elements))]
  | record fields =>
    .ofFields [("kind", .text "Record"), ("fields", .array (fieldsToJson fields))]
  | unit => .ofFields [("kind", .text "Unit")]
/-- Each type of a list as JSON. -/
def listToJson : List TypeExpr → List Value
  | [] => []
  | first :: rest => toJson first :: listToJson rest
/-- Each field of a record as JSON. -/
def fieldsToJson : List (Name × TypeExpr) → List Value
  | [] => []
  | (name, type) :: rest => memberToJson name (toJson type) :: fieldsToJson rest
end

end TypeExpr

/-- Members as JSON. -/
def membersToJson (members : List (Name × TypeExpr)) : Value :=
  .array (members.map fun (name, type) => memberToJson name type.toJson)

/-- The word of an access. -/
def Access.word : Access → String
  | everyone => "public"
  | owner => "private"

/-- Something with an access as JSON. -/
def Access.wrap (access : Access) (value : Value) : Value :=
  .ofFields [("access", .text access.word), ("value", value)]

/-- Something with documentation as JSON. -/
def documentedToJson (doc : String) (value : Value) : Value :=
  .ofFields ((if doc = "" then [] else [("doc", .text doc)]) ++ [("value", value)])

/-- A constructor as JSON. -/
def Constructor.toJson (constructor : Constructor) : Value :=
  .ofFields [("name", constructor.name.toJson), ("args", membersToJson constructor.arguments)]

/-- A definition with its type variables as JSON. -/
def TypeBody.toJson (parameters : List Name) : TypeBody → Value
  | synonym target =>
    .ofFields [("kind", .text "TypeAlias"), ("params", .array (parameters.map Name.toJson)),
      ("expr", target.toJson)]
  | custom access constructors =>
    .ofFields [("kind", .text "CustomType"), ("params", .array (parameters.map Name.toJson)),
      ("constructors", access.wrap (.array (constructors.map Constructor.toJson)))]

/-- A type entry as JSON. -/
def TypeEntry.toJson (entry : TypeEntry) : Value :=
  .ofFields [("name", entry.name.toJson),
    ("definition",
      entry.access.wrap (documentedToJson entry.doc (entry.body.toJson entry.parameters)))]

/-- A value entry as JSON. -/
def ValueEntry.toJson (entry : ValueEntry) : Value :=
  .ofFields [("name", entry.name.toJson),
    ("definition",
      entry.access.wrap (documentedToJson entry.doc
        (.ofFields [("inputs", membersToJson entry.inputs), ("output", entry.output.toJson)])))]

/-- A module as JSON. -/
def Module.toJson (module : Module) : Value :=
  .ofFields ([("types", .array (module.types.map TypeEntry.toJson)),
      ("values", .array (module.values.map ValueEntry.toJson))]
    ++ (module.doc.map fun doc => ("doc", .text doc)).toList)

/-- A name from JSON. -/
def Name.ofJson? (value : Value) : Option Name := do
  return ⟨← value.listOf? Value.text?⟩

/-- A path from JSON. -/
def Path.ofJson? (value : Value) : Option Path := do
  return ⟨← value.listOf? Name.ofJson?⟩

/-- A qualified name from JSON. -/
def QualifiedName.ofJson? (value : Value) : Option QualifiedName := do
  match ← value.fields? ["package_path", "module_path", "local_name"] with
  | [some package, some module, some name] =>
    return ⟨← Path.ofJson? package, ← Path.ofJson? module, ← Name.ofJson? name⟩
  | _ => none

/-- A name with something under a second field. -/
def memberOfJson? {α : Type} (field : String) (read : Value → Option α) (value : Value) :
    Option (Name × α) := do
  match ← value.fields? ["name", field] with
  | [some name, some found] => return (← Name.ofJson? name, ← read found)
  | _ => none

/-- Which of the tags a value gives: by its word or, inside another choice, by its number. -/
def tagOfJson? (tags : List String) (inside : Bool) : Value → Option String
  | .string (some word) => if word ∈ tags then some word else none
  | .number number => do
    let index ← number.integer?
    if inside ∧ 0 ≤ index then tags[index.toNat]? else none
  | _ => none

/-- The tags of types. -/
def TypeExpr.tags : List String :=
  ["Variable", "Reference", "Tuple", "Record", "Unit"]

/-- A type from JSON, nesting fewer than `fuel` types. -/
def TypeExpr.ofJsonWithin? : Nat → Bool → Value → Option TypeExpr
  | 0, _, _ => none
  | fuel + 1, inside, value => do
    let (tag, content) ← value.tagged?
    match ← tagOfJson? TypeExpr.tags inside tag with
    | "Variable" =>
      match ← content.fields? ["name"] with
      | [some name] => return .var (← Name.ofJson? name)
      | _ => none
    | "Reference" =>
      match ← content.fields? ["name", "params"] with
      | [some name, some parameters] =>
        return .reference (← QualifiedName.ofJson? name)
          (← parameters.listOf? (ofJsonWithin? fuel true))
      | _ => none
    | "Tuple" =>
      match ← content.fields? ["elements"] with
      | [some elements] => return .tuple (← elements.listOf? (ofJsonWithin? fuel true))
      | _ => none
    | "Record" =>
      match ← content.fields? ["fields"] with
      | [some fields] =>
        return .record (← fields.listOf? (memberOfJson? "tpe" (ofJsonWithin? fuel true)))
      | _ => none
    | _ =>
      let _ ← content.fields? []
      return .unit

/-- A type from JSON that stands inside another choice. -/
def TypeExpr.ofJsonInside? : Value → Option TypeExpr :=
  TypeExpr.ofJsonWithin? Json.nestingLimit true

/-- A type from JSON that stands in no other choice, below `depth` arrays and objects. -/
def TypeExpr.ofJson? (depth : Nat) (value : Value) : Option TypeExpr :=
  if value.isPlain (Json.nestingLimit - depth) then
    TypeExpr.ofJsonWithin? Json.nestingLimit false value
  else none

/-- An access from its word. -/
def Access.ofWord? : String → Option Access
  | "public" => some .everyone
  | "private" => some .owner
  | _ => none

/-- An access from JSON: its word, or an object that holds null under its word. -/
def Access.ofJson? (inside : Bool) : Value → Option Access
  | .string (some word) => Access.ofWord? word
  | .object [(some word, .null)] => Access.ofWord? word
  | .object [(some word, .object [])] => if inside then Access.ofWord? word else none
  | _ => none

/-- Something with an access from JSON. -/
def accessOfJson? {α : Type} (inside : Bool) (read : Value → Option α) (value : Value) :
    Option (Access × α) := do
  match ← value.fields? ["access", "value"] with
  | [some access, some found] => return (← Access.ofJson? inside access, ← read found)
  | _ => none

/-- Something with documentation from JSON. -/
def documentedOfJson? {α : Type} (read : Value → Option α) (value : Value) :
    Option (String × α) := do
  match ← value.fields? ["doc", "value"] with
  | [doc, some found] =>
    let doc ← match doc with
      | some doc => doc.text?
      | none => some ""
    return (doc, ← read found)
  | _ => none

/-- A constructor from JSON. -/
def Constructor.ofJson? (value : Value) : Option Constructor := do
  let (name, arguments) ←
    memberOfJson? "args" (Value.listOf? (memberOfJson? "tpe" TypeExpr.ofJsonInside?)) value
  return ⟨name, arguments⟩

/-- A definition with its type variables from JSON, below `depth` arrays and objects. -/
def TypeBody.ofJson? (depth : Nat) (value : Value) : Option (List Name × TypeBody) := do
  if !value.isPlain (Json.nestingLimit - depth) then none
  let (tag, content) ← value.tagged?
  match ← tagOfJson? ["TypeAlias", "CustomType"] false tag with
  | "TypeAlias" =>
    match ← content.fields? ["params", "expr"] with
    | [some parameters, some target] =>
      return (← parameters.listOf? Name.ofJson?, .synonym (← TypeExpr.ofJsonInside? target))
    | _ => none
  | _ =>
    match ← content.fields? ["params", "constructors"] with
    | [some parameters, some constructors] =>
      let parameters ← parameters.listOf? Name.ofJson?
      let (access, constructors) ←
        accessOfJson? true (Value.listOf? Constructor.ofJson?) constructors
      return (parameters, .custom access constructors)
    | _ => none

/-- A type entry from JSON; its definition stands below five arrays and objects. -/
def TypeEntry.ofJson? (value : Value) : Option TypeEntry := do
  let (name, access, doc, parameters, body) ←
    memberOfJson? "definition"
      (accessOfJson? false (documentedOfJson? (TypeBody.ofJson? 5))) value
  return { name := name, access := access, doc := doc, parameters := parameters, body := body }

/-- The inputs and the output of a value from JSON; the types of its inputs stand below eight
arrays and objects, the type of its output below six. -/
def signatureOfJson? (value : Value) : Option (List (Name × TypeExpr) × TypeExpr) := do
  match ← value.fields? ["inputs", "output"] with
  | [some inputs, some output] =>
    return (← inputs.listOf? (memberOfJson? "tpe" (TypeExpr.ofJson? 8)),
      ← TypeExpr.ofJson? 6 output)
  | _ => none

/-- A value entry from JSON. -/
def ValueEntry.ofJson? (value : Value) : Option ValueEntry := do
  let (name, access, doc, inputs, output) ←
    memberOfJson? "definition" (accessOfJson? false (documentedOfJson? signatureOfJson?)) value
  return { name := name, access := access, doc := doc, inputs := inputs, output := output }

/-- The documentation of a module, which may be absent or null. -/
def moduleDocOfJson? : Option Value → Option (Option String)
  | none | some .null => some none
  | some value => value.text?.map some

/-- A module from JSON. -/
def Module.ofJson? (value : Value) : Option Module := do
  match ← value.fields? ["types", "values", "doc"] with
  | [some types, some values, doc] =>
    return { types := ← types.listOf? TypeEntry.ofJson?
             values := ← values.listOf? ValueEntry.ofJson?
             doc := ← moduleDocOfJson? doc }
  | _ => none

/-- A module as JSON text. -/
def Module.render (module : Module) : String :=
  Json.render module.toJson

/-- The module that a JSON text spells. -/
def Module.parse? (text : String) : Option Module := do
  Module.ofJson? (← Json.parse text)

end WitBridge.Ir
