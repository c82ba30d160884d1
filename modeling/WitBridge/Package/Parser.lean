import WitBridge.Package
import WitBridge.Type.Parser

/-!
# Reading packages

The grammar of a document: an optional header, then interfaces, worlds and uses in any order.
Field, case and method names and the name of a variant may be reserved words; every other
reserved word needs its escape. Documentation stands in front of what it documents.
-/
namespace WitBridge

open WitBridge.Parser (mark keyword check accept expect advance current unexpected refuse
  identifier word)

/-- Version numbers joined by dots, at most `count` of them. A dot belongs to the version only
if a number follows it. -/
def Version.segments : Nat → Parser (List String)
  | 0 => pure []
  | count + 1 => do
    let token ← current
    if token.kind = .integer || token.kind = .identifier then
      discard advance
      let next := (← get).peek.kind
      if count ≠ 0 && (← check (.mark .dot)) && (next = .integer || next = .identifier) then
        discard advance
        return token.value :: (← segments count)
      else
        return [token.value]
    else unexpected "version number"

/-- A version of one to three numbers. -/
def Version.parser : Parser Version := do
  let start := (← current).start
  let segments ← Version.segments 3
  match Version.ofSegments segments with
  | .ok version => return version
  | .error fault => refuse start (.badVersion (".".intercalate segments) fault)

/-- A version after an at sign, or nothing. -/
def Version.optional : Parser (Option Version) := do
  if ← accept (.mark .atSign) then
    return some (← Version.parser)
  else
    return none

/-- The names after the vendor of a package, joined by slashes, at most `fuel` of them. -/
def PackageHeader.segments : Nat → Parser (List KebabName × KebabName)
  | 0 => unexpected "package name"
  | fuel + 1 => do
    let segment ← word "package name" .package
    if ← accept (.mark .slash) then
      let (nested, last) ← segments fuel
      return (segment :: nested, last)
    else
      return ([], segment)

/-- `package vendor:nested/name@version;` -/
def PackageHeader.parser : Parser PackageHeader := do
  let docs ← Parser.docs
  keyword .package
  let vendor ← word "package namespace" .vendor
  mark .colon
  let (nested, last) ← PackageHeader.segments ((← get).ahead.length + 1)
  let version ← Version.optional
  mark .semicolon
  return { vendor := vendor, nested := nested, name := last, version := version, docs := docs }

/-- The rest of `vendor:package/interface@version` after the colon. -/
def UsePath.parseExternal (vendor : KebabName) : Parser UsePath := do
  let package ← word "package name" .package
  mark .slash
  let interface ← identifier "interface name"
  let version ← Version.optional
  return .external vendor package interface version

/-- A path, which names another package if a colon follows its first word. -/
def UsePath.parser : Parser UsePath := do
  if (← get).peek.kind = .mark .colon then
    let vendor ← word "package namespace" .vendor
    mark .colon
    UsePath.parseExternal vendor
  else
    return .sibling (← identifier "interface name")

/-- A new name after `as`, or nothing. -/
def parseRenamed : Parser (Option Identifier) := do
  if ← accept (.keyword .as) then
    return some (← identifier "alias")
  else
    return none

/-- `name` or `name as other` -/
def UseItem.parser : Parser UseItem := do
  let item ← identifier "imported name"
  let renamed ← parseRenamed
  return ⟨item, renamed⟩

/-- `use path;`, `use path.{item, item};` or `use path as other;` -/
def Use.parser : Parser Use := do
  keyword .use
  let path ← UsePath.parser
  if ← accept (.mark .dot) then
    let items ← Parser.bracedItems UseItem.parser
    mark .semicolon
    return { path := path, items := items }
  else
    let renamed ← parseRenamed
    mark .semicolon
    return { path := path, renamed := renamed }

/-- `name: type` -/
def Parameter.parser : Parser Parameter := do
  let parameter ← identifier "parameter name"
  mark .colon
  return ⟨parameter, ← TypeExpr.parser⟩

/-- Parameters in parentheses. -/
def Parameter.list : Parser (List Parameter) := do
  mark .leftParen
  let parameters ← Parser.commaItems (.mark .rightParen) Parameter.parser
  mark .rightParen
  return parameters

/-- `async func(parameters) -> type` as the type of a function of a given name. -/
def Function.parseType (name : Identifier) (docs : Documentation) : Parser Function := do
  let isAsync ← accept (.keyword .async)
  keyword .func
  let parameters ← Parameter.list
  let results ← do
    if ← accept (.mark .arrow) then
      pure [← TypeExpr.parser]
    else
      pure []
  return { name := name, parameters := parameters, results := results, isAsync := isAsync,
           docs := docs }

/-- `name: type` as a field. -/
def Field.parser : Parser Field := do
  let docs ← Parser.docs
  let field ← identifier "field name" true
  mark .colon
  return ⟨field, ← TypeExpr.parser, docs⟩

/-- `name` or `name(type)` as a case. -/
def Case.parser : Parser Case := do
  let docs ← Parser.docs
  let case ← identifier "variant case name" true
  if ← accept (.mark .leftParen) then
    let payload ← TypeExpr.parser
    mark .rightParen
    return ⟨case, some payload, docs⟩
  else
    return ⟨case, none, docs⟩

/-- What stands between the braces of a resource. -/
inductive ResourceMember where
  | constructor (parameters : List Parameter)
  | method (method : Method)
  deriving DecidableEq, Repr

/-- The parameters of a constructor among the members. -/
def ResourceMember.constructor? : ResourceMember → Option (List Parameter)
  | constructor parameters => some parameters
  | method _ => none

/-- The method among the members. -/
def ResourceMember.method? : ResourceMember → Option Method
  | constructor _ => none
  | method found => some found

/-- `name: static func(parameters) -> type;` -/
def Method.parser : Parser Method := do
  let docs ← Parser.docs
  let method ← identifier "method name" true
  mark .colon
  let isStatic ← accept (.keyword .static)
  let function ← Function.parseType method docs
  mark .semicolon
  return ⟨method, function, isStatic⟩

/-- The members of a resource up to its closing brace, at most `fuel` of them; `built` says
whether a constructor came before, for a resource has one at most. -/
def ResourceMember.listWithin (resource : Identifier) : Nat → Bool → Parser (List ResourceMember)
  | 0, _ => unexpected "method name"
  | fuel + 1, built => do
    let token ← current
    if token.kind = .mark .rightBrace then
      return []
    else if token.kind = .keyword .constructor then
      discard advance
      let parameters ← Parameter.list
      mark .semicolon
      if built then
        refuse token.start (.secondConstructor resource)
      else
        return .constructor parameters :: (← listWithin resource fuel true)
    else
      let method ← Method.parser
      return .method method :: (← listWithin resource fuel built)

/-- The body of a resource after its name: a semicolon, or members in braces. -/
def Definition.parseResource (resource : Identifier) : Parser Definition := do
  if ← accept (.mark .semicolon) then
    return .resource none []
  else
    mark .leftBrace
    let members ← ResourceMember.listWithin resource ((← get).ahead.length + 1) false
    mark .rightBrace
    return .resource (members.findSome? (·.constructor?)) (members.filterMap (·.method?))

/-- What stands between the braces of an interface. -/
inductive InterfaceItem where
  | type (definition : TypeDefinition)
  | function (function : Function)
  | use (use : Use)
  deriving DecidableEq, Repr

namespace InterfaceItem

/-- The type definition, if the item is one. -/
def type? : InterfaceItem → Option TypeDefinition
  | type definition => some definition
  | _ => none

/-- The function, if the item is one. -/
def function? : InterfaceItem → Option Function
  | function found => some found
  | _ => none

/-- The use, if the item is one. -/
def use? : InterfaceItem → Option Use
  | use found => some found
  | _ => none

end InterfaceItem

/-- One item of an interface; the word in front tells which. -/
def InterfaceItem.parser : Parser InterfaceItem := do
  let docs ← Parser.docs
  match (← current).kind with
  | .keyword .type =>
    discard advance
    let type ← identifier "type name"
    mark .equal
    let target ← TypeExpr.parser
    mark .semicolon
    return .type ⟨type, .synonym target, docs⟩
  | .keyword .record =>
    discard advance
    let type ← identifier "record name"
    return .type ⟨type, .record (← Parser.bracedItems Field.parser), docs⟩
  | .keyword .variant =>
    discard advance
    let type ← identifier "variant name" true
    return .type ⟨type, .variant (← Parser.bracedItems Case.parser), docs⟩
  | .keyword .enum =>
    discard advance
    let type ← identifier "enum name"
    return .type ⟨type, .enum (← Parser.bracedItems (identifier "enum case")), docs⟩
  | .keyword .flags =>
    discard advance
    let type ← identifier "flags name"
    return .type ⟨type, .flags (← Parser.bracedItems (identifier "flag name")), docs⟩
  | .keyword .resource =>
    discard advance
    let type ← identifier "resource name"
    return .type ⟨type, ← Definition.parseResource type, docs⟩
  | .keyword .use => return .use (← Use.parser)
  | .identifier | .mark .percent =>
    let function ← identifier "function name"
    mark .colon
    let function ← Function.parseType function docs
    mark .semicolon
    return .function function
  | _ => unexpected "type, record, variant, enum, flags, resource, use, or function"

/-- The items of an interface in braces, under a name. -/
def Interface.parseBody (name : Identifier) (docs : Documentation) : Parser Interface := do
  mark .leftBrace
  let items ← Parser.itemsUntil (.mark .rightBrace) InterfaceItem.parser
  mark .rightBrace
  return { name := name, types := items.filterMap (·.type?),
           functions := items.filterMap (·.function?), uses := items.filterMap (·.use?),
           docs := docs }

/-- `interface name { … }` -/
def Interface.parser : Parser Interface := do
  let docs ← Parser.docs
  keyword .interface
  Interface.parseBody (← identifier "interface name") docs

/-- An import or export after its keyword: `name;`, `name: interface { … }`,
`name: func(…);` or `vendor:package/interface@version;`. -/
def WorldItem.parser (docs : Documentation) : Parser WorldItem := do
  let start := (← current).start
  let item ← identifier "import or export name"
  if ← accept (.mark .semicolon) then
    return .external item (.sibling item)
  else
    mark .colon
    match (← current).kind with
    | .keyword .interface =>
      discard advance
      return .inline item (← Interface.parseBody item docs)
    | .keyword .func | .keyword .async =>
      let function ← Function.parseType item docs
      mark .semicolon
      return .function function
    | _ =>
      match KebabName.ofText .vendor item.text with
      | .error fault => refuse start (.badName "package namespace" fault)
      | .ok vendor =>
        let path ← UsePath.parseExternal vendor
        mark .semicolon
        return .external path.interfaceName path

/-- What stands between the braces of a world. -/
inductive WorldMember where
  | imported (item : WorldItem)
  | exported (item : WorldItem)
  | use (use : Use)
  /-- An inclusion of another world, which is passed over. -/
  | included
  deriving DecidableEq, Repr

namespace WorldMember

/-- The import, if the member is one. -/
def imported? : WorldMember → Option WorldItem
  | imported item => some item
  | _ => none

/-- The export, if the member is one. -/
def exported? : WorldMember → Option WorldItem
  | exported item => some item
  | _ => none

/-- The use, if the member is one. -/
def use? : WorldMember → Option Use
  | use found => some found
  | _ => none

end WorldMember

/-- Pass over all tokens through the next semicolon, at most `fuel` of them. -/
def skipStatement : Nat → Parser Unit
  | 0 => unexpected (Token.Kind.mark .semicolon).display
  | fuel + 1 => do
    let token ← current
    if token.kind = .mark .semicolon then
      discard advance
    else if token.kind = .endOfInput || token.kind = .invalid then
      unexpected (Token.Kind.mark .semicolon).display
    else
      discard advance
      skipStatement fuel

/-- One member of a world. -/
def WorldMember.parser : Parser WorldMember := do
  let docs ← Parser.docs
  match (← current).kind with
  | .keyword .importWord =>
    discard advance
    return .imported (← WorldItem.parser docs)
  | .keyword .exportWord =>
    discard advance
    return .exported (← WorldItem.parser docs)
  | .keyword .use => return .use (← Use.parser)
  | .keyword .includeWord =>
    skipStatement ((← get).ahead.length + 1)
    return .included
  | _ => unexpected "import, export, use, or include"

/-- `world name { … }` -/
def World.parser : Parser World := do
  let docs ← Parser.docs
  keyword .world
  let world ← identifier "world name"
  mark .leftBrace
  let members ← Parser.itemsUntil (.mark .rightBrace) WorldMember.parser
  mark .rightBrace
  return { name := world, imports := members.filterMap (·.imported?),
           exports := members.filterMap (·.exported?), uses := members.filterMap (·.use?),
           docs := docs }

/-- What stands at the top of a document after its header. -/
inductive PackageItem where
  | interface (interface : Interface)
  | world (world : World)
  | use (use : Use)
  deriving DecidableEq, Repr

namespace PackageItem

/-- The interface, if the item is one. -/
def interface? : PackageItem → Option Interface
  | interface found => some found
  | _ => none

/-- The world, if the item is one. -/
def world? : PackageItem → Option World
  | world found => some found
  | _ => none

/-- The use, if the item is one. -/
def use? : PackageItem → Option Use
  | use found => some found
  | _ => none

end PackageItem

/-- One item of a document. -/
def PackageItem.parser : Parser PackageItem := do
  match (← current).kind with
  | .keyword .interface => return .interface (← Interface.parser)
  | .keyword .world => return .world (← World.parser)
  | .keyword .use => return .use (← Use.parser)
  | _ => unexpected "interface, world, or use"

namespace Package

/-- A document. -/
def parser : Parser Package := do
  let header ← do
    if ← check (.keyword .package) then
      pure (some (← PackageHeader.parser))
    else
      pure none
  let items ← Parser.itemsUntil .endOfInput PackageItem.parser
  return { header := header, interfaces := items.filterMap (·.interface?),
           worlds := items.filterMap (·.world?), uses := items.filterMap (·.use?) }

/-- The package that a source text spells. -/
def parse (source : String) : Except SourceFault Package :=
  (parser (TokenStream.ofSource source)).map (·.1)

end Package

end WitBridge
