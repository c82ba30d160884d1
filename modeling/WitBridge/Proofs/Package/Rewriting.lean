import WitBridge.Proofs.Package.WellRead

/-!
# Rewriting packages

A rewriting changes the names, the documentation and the results of a package wherever they
stand, and nothing else. Names of record fields, variants, cases and methods, which may be any
word, are changed by a function of their own. Of a package that was read from a source, what is
read from its written form is a rewriting, and a rewriting that only adds escapes and keeps the
documentation that is written does not change the written form.
-/
namespace WitBridge

/-- What is changed in a package. -/
structure Rewriting where
  /-- The change of a name. -/
  name : Identifier → Identifier
  /-- The change of the name of a record field, variant, case or method. -/
  member : Identifier → Identifier
  /-- The change of documentation. -/
  docs : Documentation → Documentation
  /-- The change of the results of a function. -/
  results : List TypeExpr → List TypeExpr

variable (change : Rewriting)

/-- A parameter with its names changed. -/
def Parameter.rewrite (parameter : Parameter) : Parameter :=
  ⟨change.name parameter.name, parameter.type.mapNames change.name⟩

/-- A function with its parts changed. -/
def Function.rewrite (function : Function) : Function where
  name := change.name function.name
  parameters := function.parameters.map (Parameter.rewrite change)
  results := (change.results function.results).map (TypeExpr.mapNames change.name)
  isAsync := function.isAsync
  docs := change.docs function.docs

/-- A field with its parts changed. -/
def Field.rewrite (field : Field) : Field :=
  ⟨change.member field.name, field.type.mapNames change.name, change.docs field.docs⟩

/-- A case with its parts changed. -/
def Case.rewrite (case : Case) : Case :=
  ⟨change.member case.name, case.payload.map (TypeExpr.mapNames change.name), change.docs case.docs⟩

/-- A method with its parts changed; its function has a name of the same sort. -/
def Method.rewrite (method : Method) : Method where
  name := change.member method.name
  function := { method.function.rewrite change with name := change.member method.function.name }
  isStatic := method.isStatic

/-- What a definition defines, with its parts changed. -/
def Definition.rewrite : Definition → Definition
  | record fields => record (fields.map (Field.rewrite change))
  | variant cases => variant (cases.map (Case.rewrite change))
  | enum names => enum (names.map change.name)
  | flags names => flags (names.map change.name)
  | resource constructor methods =>
    resource (constructor.map (·.map (Parameter.rewrite change)))
      (methods.map (Method.rewrite change))
  | synonym target => synonym (target.mapNames change.name)

/-- A type definition with its parts changed. -/
def TypeDefinition.rewrite (definition : TypeDefinition) : TypeDefinition where
  name := match definition.body with
    | .variant _ => change.member definition.name
    | _ => change.name definition.name
  body := definition.body.rewrite change
  docs := change.docs definition.docs

/-- A path with its names changed. -/
def UsePath.rewrite : UsePath → UsePath
  | sibling name => sibling (change.name name)
  | external vendor package interface version =>
    external vendor package (change.name interface) version

/-- A name taken from an interface, with its names changed. -/
def UseItem.rewrite (item : UseItem) : UseItem :=
  ⟨change.name item.name, item.renamed.map change.name⟩

/-- A use with its names changed. -/
def Use.rewrite (use : Use) : Use :=
  ⟨use.path.rewrite change, use.items.map (UseItem.rewrite change), use.renamed.map change.name⟩

/-- An interface with its parts changed. -/
def Interface.rewrite (interface : Interface) : Interface where
  name := change.name interface.name
  types := interface.types.map (TypeDefinition.rewrite change)
  functions := interface.functions.map (Function.rewrite change)
  uses := interface.uses.map (Use.rewrite change)
  docs := change.docs interface.docs

/-- A world item with its parts changed. -/
def WorldItem.rewrite : WorldItem → WorldItem
  | inline name interface => inline (change.name name) (interface.rewrite change)
  | external name path => external (change.name name) (path.rewrite change)
  | function found => function (found.rewrite change)

/-- A world with its parts changed. -/
def World.rewrite (world : World) : World where
  name := change.name world.name
  imports := world.imports.map (WorldItem.rewrite change)
  exports := world.exports.map (WorldItem.rewrite change)
  uses := world.uses.map (Use.rewrite change)
  docs := change.docs world.docs

/-- A package with its parts changed. -/
def Package.rewrite (package : Package) : Package where
  header := package.header.map fun header => { header with docs := change.docs header.docs }
  interfaces := package.interfaces.map (Interface.rewrite change)
  worlds := package.worlds.map (World.rewrite change)
  uses := package.uses.map (Use.rewrite change)

/-- Documentation is kept as it is where it is written, and is gone where it is not. -/
def Documentation.kept (layout : Layout) (docs : Documentation) : Documentation :=
  if layout.comments then docs else {}

/-- Documentation that is tidy is reread as it is kept. -/
theorem Documentation.Tidy.reread_eq {docs : Documentation} (tidy : docs.Tidy) (layout : Layout) :
    docs.reread layout = docs.kept layout := by
  unfold reread kept
  split
  · have same : ∀ line ∈ docs.lines, String.ofList (Text.trimEnd line.toList) = line := by
      intro line listed
      rw [(tidy line listed).2, String.ofList_toList]
    rw [map_eq_self same]
  · rfl

/-- A change that keeps settled names keeps a type with settled names. -/
theorem TypeExpr.mapNames_eq_self {change : Identifier → Identifier}
    (keeps : ∀ name, name.settled = name → change name = name) {type : TypeExpr}
    (settled : type.settled = type) : type.mapNames change = type := by
  induction type using TypeExpr.induct with
  | step type ih =>
  have inner : ∀ child ∈ type.children, child.mapNames change = child :=
    fun child listed => ih child listed (settled_child settled listed)
  have optional : ∀ found : Option TypeExpr, (∀ child ∈ found, child ∈ type.children) →
      found.map (mapNames change) = found := fun found listed =>
    option_map_eq_self fun child member => inner child (listed child member)
  cases type with
  | primitive kind => rfl
  | named name =>
    have fixed : name.settled = name := by simpa [TypeExpr.settled, mapNames] using settled
    exact congrArg named (keeps name fixed)
  | list element => exact congrArg list (inner element (by simp [children]))
  | option element => exact congrArg option (inner element (by simp [children]))
  | result ok err =>
    rw [mapNames, mapNamesOption_eq_map, mapNamesOption_eq_map,
      optional ok fun child found => by simp [children, Option.mem_def.1 found],
      optional err fun child found => by simp [children, Option.mem_def.1 found]]
  | tuple elements =>
    rw [mapNames, mapNamesList_eq_map]
    exact congrArg tuple (map_eq_self inner)
  | handle ownership resource =>
    have fixed : resource.settled = resource := by simpa [TypeExpr.settled, mapNames] using settled
    exact congrArg (handle ownership) (keeps resource fixed)
  | future element | stream element =>
    rw [mapNames, mapNamesOption_eq_map,
      optional element fun child found => by simp [children, Option.mem_def.1 found]]

/-- Whether a rewriting does to a package that was read what writing and reading does: it keeps
settled names and single results, settles the names of members, and keeps documentation that is
written. -/
structure Rewriting.Rereads (change : Rewriting) (layout : Layout) : Prop where
  name : ∀ name : Identifier, name.settled = name → change.name name = name
  member : ∀ name : Identifier, change.member name = name.settled
  docs : ∀ docs : Documentation, change.docs docs = docs.kept layout
  results : ∀ types : List TypeExpr, types.length ≤ 1 → change.results types = types

section Reread

variable {change : Rewriting} {layout : Layout} (rereads : change.Rereads layout)
include rereads

/-- A type that was read is kept. -/
theorem TypeExpr.settled_eq_rewrite {type : TypeExpr} (settled : type.settled = type) :
    type.settled = type.mapNames change.name := by
  rw [mapNames_eq_self rereads.name settled, settled]

/-- A parameter that was read is kept. -/
theorem Parameter.rewrite_eq_self {parameter : Parameter}
    (settled : parameter.settled = parameter) : parameter.rewrite change = parameter := by
  obtain ⟨name, type⟩ := parameter
  rw [Parameter.settled, Parameter.mk.injEq] at settled
  rw [rewrite, rereads.name name settled.1, TypeExpr.mapNames_eq_self rereads.name settled.2]

/-- Documentation that was read is reread as it is changed. -/
theorem Documentation.Tidy.reread_eq_rewrite {docs : Documentation} (tidy : docs.Tidy) :
    docs.reread layout = change.docs docs := by
  rw [tidy.reread_eq, rereads.docs]

/-- A function that was read is reread as it is changed. -/
theorem Function.reread_eq_rewrite {function : Function} (read : function.WellRead) :
    { function.rewrite change with name := function.name.settled } = function.reread layout := by
  have gathered : function.gatheredResults = function.results := by
    unfold gatheredResults
    match results : function.results with
    | [] => rfl
    | [result] => rfl
    | first :: second :: more => exact absurd read.oneResult (by simp [results])
  have parameters : function.parameters.map (Parameter.rewrite change) =
      function.parameters.map Parameter.settled :=
    List.map_congr_left fun parameter listed => by
      rw [Parameter.rewrite_eq_self rereads (read.parameters parameter listed),
        read.parameters parameter listed]
  have results : function.results.map (TypeExpr.mapNames change.name) =
      function.results.map TypeExpr.settled :=
    List.map_congr_left fun type listed =>
      (TypeExpr.settled_eq_rewrite rereads (read.results type listed)).symm
  rw [rewrite, reread, gathered, rereads.results _ read.oneResult, parameters, results,
    read.docs.reread_eq_rewrite rereads]

/-- A function under a settled name that was read is reread as it is changed. -/
theorem Function.reread_eq_rewrite_of_settled {function : Function}
    (settled : function.name.settled = function.name) (read : function.WellRead) :
    function.reread layout = function.rewrite change := by
  rw [← reread_eq_rewrite rereads read, settled]
  exact congrArg (fun name => { function.rewrite change with name := name })
    (rereads.name _ settled).symm

/-- A field that was read is reread as it is changed. -/
theorem Field.reread_eq_rewrite {field : Field} (read : field.WellRead) :
    field.reread layout = field.rewrite change := by
  rw [reread, rewrite, rereads.member, TypeExpr.settled_eq_rewrite rereads read.type,
    read.docs.reread_eq_rewrite rereads]

/-- A case that was read is reread as it is changed. -/
theorem Case.reread_eq_rewrite {case : Case} (read : case.WellRead) :
    case.reread layout = case.rewrite change := by
  have payload : case.payload.map TypeExpr.settled =
      case.payload.map (TypeExpr.mapNames change.name) :=
    Option.map_congr fun type found => TypeExpr.settled_eq_rewrite rereads (read.payload type found)
  rw [reread, rewrite, rereads.member, payload, read.docs.reread_eq_rewrite rereads]

/-- A method that was read is reread as it is changed. -/
theorem Method.reread_eq_rewrite {method : Method} (read : method.WellRead) :
    method.reread layout = method.rewrite change := by
  have function := Function.reread_eq_rewrite rereads read.function
  rw [reread, rewrite, rereads.member, rereads.member, read.name, ← function]

/-- Names that were read are kept. -/
theorem Identifier.map_settled_eq_rewrite {names : List Identifier}
    (settled : ∀ name ∈ names, name.settled = name) :
    names.map Identifier.settled = names.map change.name :=
  List.map_congr_left fun name listed => by
    rw [rereads.name name (settled name listed), settled name listed]

/-- A definition that was read is reread as it is changed. -/
theorem Definition.reread_eq_rewrite {body : Definition} (read : body.WellRead) :
    body.reread layout = body.rewrite change := by
  cases body with
  | record fields =>
    exact congrArg record (List.map_congr_left fun field listed =>
      Field.reread_eq_rewrite rereads (read field listed))
  | variant cases =>
    exact congrArg variant (List.map_congr_left fun case listed =>
      Case.reread_eq_rewrite rereads (read case listed))
  | enum names => exact congrArg enum (Identifier.map_settled_eq_rewrite rereads read)
  | flags names => exact congrArg flags (Identifier.map_settled_eq_rewrite rereads read)
  | resource constructor methods =>
    have parameters : constructor.map (·.map Parameter.settled) =
        constructor.map (·.map (Parameter.rewrite change)) :=
      Option.map_congr fun parameters found => List.map_congr_left fun parameter listed => by
        rw [Parameter.rewrite_eq_self rereads (read.1 parameters found parameter listed),
          read.1 parameters found parameter listed]
    have others : methods.map (Method.reread layout) = methods.map (Method.rewrite change) :=
      List.map_congr_left fun method listed =>
        Method.reread_eq_rewrite rereads (read.2 method listed)
    rw [reread, rewrite, parameters, others]
  | synonym target => exact congrArg synonym (TypeExpr.settled_eq_rewrite rereads read)

/-- A type definition that was read is reread as it is changed. -/
theorem TypeDefinition.reread_eq_rewrite {definition : TypeDefinition}
    (read : definition.WellRead) : definition.reread layout = definition.rewrite change := by
  obtain ⟨name, body, docs⟩ := definition
  have kept : body.keyword ≠ "variant" → name.settled = change.name name := fun other => by
    rw [rereads.name name (read.name other), read.name other]
  have named : name.settled = (rewrite change ⟨name, body, docs⟩).name := by
    cases body with
    | variant cases => exact (rereads.member name).symm
    | record | enum | flags | resource | synonym => exact kept (by simp [Definition.keyword])
  rw [reread, named, Definition.reread_eq_rewrite rereads read.body,
    read.docs.reread_eq_rewrite rereads]
  rfl

/-- A path that was read is kept. -/
theorem UsePath.settled_eq_rewrite {path : UsePath} (read : path.WellRead) :
    path.settled = path.rewrite change := by
  cases path with
  | sibling name => exact congrArg sibling (by rw [rereads.name name read]; exact read)
  | external vendor package interface version =>
    rw [UsePath.settled, rewrite, rereads.name interface read.1]
    exact nofun

/-- A use that was read is kept. -/
theorem Use.reread_eq_rewrite {use : Use} (read : use.WellRead) :
    use.reread = use.rewrite change := by
  have items : use.items.map UseItem.settled = use.items.map (UseItem.rewrite change) :=
    List.map_congr_left fun item listed => by
      have settled := read.items item listed
      obtain ⟨name, renamed⟩ := item
      rw [UseItem.settled, UseItem.mk.injEq] at settled
      have others : renamed.map change.name = renamed := option_map_eq_self fun found same => by
        rw [Option.mem_def.1 same] at settled
        exact rereads.name found (by simpa using settled.2)
      rw [UseItem.settled, UseItem.rewrite, rereads.name name settled.1, settled.1, settled.2,
        others]
  have renamed : (if use.items = [] then use.renamed.map Identifier.settled else none) =
      use.renamed.map change.name := by
    split
    · exact Option.map_congr fun name found => by
        rw [rereads.name name (read.renamed name found), read.renamed name found]
    · next taken => rw [read.whole taken, Option.map_none]
  rw [reread, rewrite, items, renamed, UsePath.settled_eq_rewrite rereads read.path]

/-- An interface that was read is reread as it is changed. -/
theorem Interface.reread_eq_rewrite {interface : Interface} (read : interface.WellRead) :
    interface.reread layout = interface.rewrite change := by
  have types : interface.types.map (TypeDefinition.reread layout) =
      interface.types.map (TypeDefinition.rewrite change) :=
    List.map_congr_left fun definition listed =>
      TypeDefinition.reread_eq_rewrite rereads (read.types definition listed)
  have functions : interface.functions.map (Function.reread layout) =
      interface.functions.map (Function.rewrite change) :=
    List.map_congr_left fun function listed =>
      Function.reread_eq_rewrite_of_settled rereads (read.functions function listed).1
        (read.functions function listed).2
  have uses : interface.uses.map Use.reread = interface.uses.map (Use.rewrite change) :=
    List.map_congr_left fun use listed => Use.reread_eq_rewrite rereads (read.uses use listed)
  rw [reread, rewrite, types, functions, uses, rereads.name _ read.name, read.name,
    read.docs.reread_eq_rewrite rereads]

/-- A world item that was read is reread as it is changed. -/
theorem WorldItem.reread_eq_rewrite {item : WorldItem} (read : item.WellRead) :
    item.reread layout = item.rewrite change := by
  cases item with
  | inline name interface =>
    obtain ⟨rfl, read⟩ := read
    have same := Interface.reread_eq_rewrite rereads read
    rw [reread, rewrite, same, rereads.name _ read.name, read.name]
    exact congrArg
      (fun name => inline interface.name { interface.rewrite change with name := name })
      (rereads.name _ read.name).symm
  | external name path =>
    obtain ⟨rfl, read, -⟩ := read
    rw [reread, rewrite, UsePath.settled_eq_rewrite rereads read]
    cases path <;> rfl
  | function found =>
    exact congrArg function (Function.reread_eq_rewrite_of_settled rereads read.1 read.2)

/-- A world that was read is reread as it is changed. -/
theorem World.reread_eq_rewrite {world : World} (read : world.WellRead) :
    world.reread layout = world.rewrite change := by
  have imports : world.imports.map (WorldItem.reread layout) =
      world.imports.map (WorldItem.rewrite change) :=
    List.map_congr_left fun item listed =>
      WorldItem.reread_eq_rewrite rereads (read.imports item listed)
  have exports : world.exports.map (WorldItem.reread layout) =
      world.exports.map (WorldItem.rewrite change) :=
    List.map_congr_left fun item listed =>
      WorldItem.reread_eq_rewrite rereads (read.exports item listed)
  have uses : world.uses.map Use.reread = world.uses.map (Use.rewrite change) :=
    List.map_congr_left fun use listed => Use.reread_eq_rewrite rereads (read.uses use listed)
  rw [reread, rewrite, imports, exports, uses, rereads.name _ read.name, read.name,
    read.docs.reread_eq_rewrite rereads]

/-- A package that was read is reread as it is changed. -/
theorem Package.reread_eq_rewrite {package : Package} (read : package.WellRead) :
    package.reread layout = package.rewrite change := by
  have header : package.header.map (PackageHeader.reread layout) =
      package.header.map fun header => { header with docs := change.docs header.docs } :=
    Option.map_congr fun header found => by
      rw [PackageHeader.reread, (read.header header found).docs.reread_eq_rewrite rereads]
  have interfaces : package.interfaces.map (Interface.reread layout) =
      package.interfaces.map (Interface.rewrite change) :=
    List.map_congr_left fun interface listed =>
      Interface.reread_eq_rewrite rereads (read.interfaces interface listed)
  have worlds : package.worlds.map (World.reread layout) =
      package.worlds.map (World.rewrite change) :=
    List.map_congr_left fun world listed =>
      World.reread_eq_rewrite rereads (read.worlds world listed)
  have uses : package.uses.map Use.reread = package.uses.map (Use.rewrite change) :=
    List.map_congr_left fun use listed => Use.reread_eq_rewrite rereads (read.uses use listed)
  rw [reread, rewrite, header, interfaces, worlds, uses]

end Reread

end WitBridge
