import WitBridge.Proofs.Documentation
import WitBridge.Proofs.Package.Revision
import WitBridge.Proofs.Type.Nodes

/-!
# Components of packages

The components of a package are its names, its documentation, its functions, methods and uses and
the items of its worlds, wherever they stand. A name that is a reserved word needs its escape,
unless it is that of a record field, of a variant, of a case or of a method. Vendors and packages
bear plain words, to which there is no escape; they are not among the names.

Of a package that is read all components are well formed. The rules of the grammar see to it one by
one, so it follows from what each of them reads.
-/
namespace WitBridge

open Token (Kind)

/-- What a name is the name of, as far as it matters to reserved words. -/
inductive NamePlace where
  | field | variant | case | method
  /-- Anything else that has a name or refers to one. -/
  | other
  deriving DecidableEq, Repr

/-- A component of a package. -/
inductive Component where
  | name (place : NamePlace) (name : Identifier)
  | docs (docs : Documentation)
  | function (function : Function)
  | method (method : Method)
  | use (use : Use)
  | worldItem (item : WorldItem)
  deriving DecidableEq, Repr

section Components

/-- The name that a type refers to itself, not by its children. -/
def TypeExpr.name? : TypeExpr → Option Identifier
  | named name => some name
  | handle _ resource => some resource
  | _ => none

/-- The components of a type are the names in it. -/
def TypeExpr.components (type : TypeExpr) : List Component :=
  (type.nodes.filterMap name?).map (.name .other)

/-- The components of a parameter. -/
def Parameter.components (parameter : Parameter) : List Component :=
  .name .other parameter.name :: parameter.type.components

/-- The components of a function whose name is that of something in a given place. -/
def Function.components (place : NamePlace) (function : Function) : List Component :=
  .function function :: .name place function.name :: .docs function.docs ::
    (function.parameters.flatMap Parameter.components ++
      function.results.flatMap TypeExpr.components)

/-- The components of a field. -/
def Field.components (field : Field) : List Component :=
  .name .field field.name :: .docs field.docs :: field.type.components

/-- The components of a case. -/
def Case.components (case : Case) : List Component :=
  .name .case case.name :: .docs case.docs :: case.payload.toList.flatMap TypeExpr.components

/-- The components of a method. -/
def Method.components (method : Method) : List Component :=
  .method method :: .name .method method.name :: method.function.components .method

/-- The components of the body of a definition. -/
def Definition.components : Definition → List Component
  | record fields => fields.flatMap Field.components
  | variant cases => cases.flatMap Case.components
  | enum names | flags names => names.map (.name .other)
  | resource constructor methods =>
    (constructor.getD []).flatMap Parameter.components ++ methods.flatMap Method.components
  | synonym target => target.components

/-- The place of the name of a definition. -/
def Definition.place : Definition → NamePlace
  | variant _ => .variant
  | _ => .other

/-- The components of a type definition. -/
def TypeDefinition.components (definition : TypeDefinition) : List Component :=
  .name definition.body.place definition.name :: .docs definition.docs ::
    definition.body.components

/-- The components of a use: the names in its path, and those that are taken or new. -/
def Use.components (use : Use) : List Component :=
  .use use :: .name .other use.path.interfaceName ::
    (use.items.flatMap (fun item => item.name :: item.renamed.toList) ++ use.renamed.toList).map
      (.name .other)

/-- The components of an interface. -/
def Interface.components (interface : Interface) : List Component :=
  .name .other interface.name :: .docs interface.docs ::
    (interface.types.flatMap TypeDefinition.components ++
      interface.functions.flatMap (Function.components .other) ++
      interface.uses.flatMap Use.components)

/-- The components of a world item. -/
def WorldItem.components (item : WorldItem) : List Component :=
  .worldItem item :: match item with
    | inline name interface => .name .other name :: interface.components
    | external name path => [.name .other name, .name .other path.interfaceName]
    | function found => found.components .other

/-- The components of a world. -/
def World.components (world : World) : List Component :=
  .name .other world.name :: .docs world.docs ::
    ((world.imports ++ world.exports).flatMap WorldItem.components ++
      world.uses.flatMap Use.components)

namespace Package

/-- The components of a package. -/
def components (package : Package) : List Component :=
  .docs package.docs ::
    (package.interfaces.flatMap Interface.components ++
      package.worlds.flatMap World.components ++ package.uses.flatMap Use.components)

/-- The vendor of the package, if it has a header. -/
def vendor? (package : Package) : Option KebabName :=
  package.header.map (·.vendor)

/-- The name of the package, if it has a header. -/
def name? (package : Package) : Option KebabName :=
  package.header.map (·.name)

/-- The names between the vendor and the name of the package. -/
def nested (package : Package) : List KebabName :=
  (package.header.map (·.nested)).getD []

/-- The version of the package. -/
def version? (package : Package) : Option Version :=
  package.header.bind (·.version)

/-- Whether a package is well formed beyond what its type says. -/
structure WellFormed (package : Package) : Prop where
  /-- The vendor and the name are both there or both missing. -/
  named : package.vendor?.isSome = package.name?.isSome
  /-- Without them there is nothing else that a header says. -/
  unnamed : package.vendor? = none →
    package.nested = [] ∧ package.version? = none ∧ package.docs = {}
  /-- A function has one result at most. -/
  oneResult : ∀ function, .function function ∈ package.components → function.results.length ≤ 1
  /-- A method has the name of its function. -/
  method : ∀ method, .method method ∈ package.components → method.name = method.function.name
  /-- An interface in a world has the name of its item. -/
  inline : ∀ name interface,
    .worldItem (.inline name interface) ∈ package.components → interface.name = name
  /-- An item of a world that is defined elsewhere has the name of the interface. -/
  external : ∀ name path,
    .worldItem (.external name path) ∈ package.components → name = path.interfaceName
  /-- A use has a new name for the whole only if it takes no names. -/
  use : ∀ use, .use use ∈ package.components → use.renamed ≠ none → use.items = []
  /-- A name that is a reserved word without an escape is that of a field, a variant, a case or a
  method. -/
  reserved : ∀ place name, .name place name ∈ package.components → name.escaped = false →
    Kind.isReserved name.text = true →
      place = .field ∨ place = .variant ∨ place = .case ∨ place = .method
  /-- No line of documentation has a newline in it or a blank at its end. -/
  docs : ∀ docs, .docs docs ∈ package.components → ∀ line ∈ docs.lines,
    '\n' ∉ line.toList ∧ ∀ c ∈ line.toList.getLast?, Text.isBlank c = false

end Package

end Components

section Read

/-- What is read as a component. -/
def Component.WellRead : Component → Prop
  | .name place found => place = .other → found.settled = found
  | .docs found => found.Tidy
  | .function found => found.results.length ≤ 1
  | .method found => found.function.name = found.name
  | .use found => found.items ≠ [] → found.renamed = none
  | .worldItem (.inline title interface) => interface.name = title
  | .worldItem (.external title path) => title = path.interfaceName
  | .worldItem (.function _) => True

/-- Settled names are well read in every place. -/
theorem Component.wellRead_names {names : List Identifier} {place : NamePlace}
    (settled : ∀ name ∈ names, name.settled = name) :
    ∀ component ∈ names.map (Component.name place), component.WellRead :=
  List.forall_mem_map.2 fun name member _ => settled name member

/-- The nodes of a type with settled names have settled names. -/
theorem TypeExpr.settled_node {type node : TypeExpr} (settled : type.settled = type)
    (member : node ∈ type.nodes) : node.settled = node := by
  induction type using TypeExpr.induct with
  | step type ih =>
    rcases mem_nodes_iff.1 member with rfl | ⟨child, listed, inside⟩
    · exact settled
    · exact ih child listed (settled_child settled listed) inside

/-- The names in a type with settled names are settled. -/
theorem TypeExpr.wellRead_components {type : TypeExpr} (settled : type.settled = type) :
    ∀ component ∈ type.components, component.WellRead := by
  refine Component.wellRead_names fun name listed => ?_
  obtain ⟨node, member, refers⟩ := List.mem_filterMap.1 listed
  have whole := settled_node settled member
  cases node with
  | named other =>
    cases refers
    simpa [TypeExpr.settled, mapNames] using whole
  | handle ownership other =>
    cases refers
    simpa [TypeExpr.settled, mapNames] using whole
  | _ => contradiction

/-- The components of a parameter that is read. -/
theorem Parameter.wellRead_components {parameter : Parameter}
    (settled : parameter.settled = parameter) :
    ∀ component ∈ parameter.components, component.WellRead := by
  obtain ⟨name, type⟩ := parameter
  obtain ⟨named, typed⟩ := Parameter.mk.inj settled
  exact List.forall_mem_cons.2 ⟨fun _ => named, TypeExpr.wellRead_components typed⟩

/-- The components of a function that is read, under a name that may stand in its place. -/
theorem Function.WellRead.components {function : Function} {place : NamePlace}
    (read : function.WellRead)
    (named : place = .other → function.name.settled = function.name) :
    ∀ component ∈ function.components place, component.WellRead := by
  simp only [Function.components, List.forall_mem_cons, List.forall_mem_append,
    List.forall_mem_flatMap]
  exact ⟨read.oneResult, named, read.docs,
    fun parameter listed => Parameter.wellRead_components (read.parameters parameter listed),
    fun type listed => TypeExpr.wellRead_components (read.results type listed)⟩

/-- The components of a field that is read. -/
theorem Field.WellRead.components {field : Field} (read : field.WellRead) :
    ∀ component ∈ field.components, component.WellRead := by
  simp only [Field.components, List.forall_mem_cons]
  exact ⟨nofun, read.docs, TypeExpr.wellRead_components read.type⟩

/-- The components of a case that is read. -/
theorem Case.WellRead.components {case : Case} (read : case.WellRead) :
    ∀ component ∈ case.components, component.WellRead := by
  simp only [Case.components, List.forall_mem_cons, List.forall_mem_flatMap]
  exact ⟨nofun, read.docs,
    fun type carried => TypeExpr.wellRead_components (read.payload type (by simpa using carried))⟩

/-- The components of a method that is read. -/
theorem Method.WellRead.components {method : Method} (read : method.WellRead) :
    ∀ component ∈ method.components, component.WellRead := by
  simp only [Method.components, List.forall_mem_cons]
  exact ⟨read.name, nofun, read.function.components nofun⟩

/-- The components of the body of a definition that is read. -/
theorem Definition.WellRead.components {body : Definition} (read : body.WellRead) :
    ∀ component ∈ body.components, component.WellRead := by
  cases body with
  | record fields =>
    exact List.forall_mem_flatMap.2 fun field listed => (read field listed).components
  | variant cases =>
    exact List.forall_mem_flatMap.2 fun case listed => (read case listed).components
  | enum names | flags names => exact Component.wellRead_names read
  | resource constructor methods =>
    obtain ⟨parameters, all⟩ := read
    refine List.forall_mem_append.2 ⟨List.forall_mem_flatMap.2 fun parameter listed => ?_,
      List.forall_mem_flatMap.2 fun method listed => (all method listed).components⟩
    cases constructor with
    | none => contradiction
    | some found =>
      exact Parameter.wellRead_components (parameters found rfl parameter listed)
  | synonym target => exact TypeExpr.wellRead_components read

/-- The name of a definition with the keyword of a variant is that of a variant. -/
theorem Definition.place_of_keyword {body : Definition} (keyword : body.keyword = "variant") :
    body.place = .variant := by
  cases body with
  | variant cases => rfl
  | _ => simp [Definition.keyword] at keyword

/-- The components of a type definition that is read. -/
theorem TypeDefinition.WellRead.components {definition : TypeDefinition}
    (read : definition.WellRead) : ∀ component ∈ definition.components, component.WellRead := by
  simp only [TypeDefinition.components, List.forall_mem_cons]
  refine ⟨fun other => read.name fun keyword => ?_, read.docs, read.body.components⟩
  rw [Definition.place_of_keyword keyword] at other
  contradiction

/-- The name of the interface in a path that is read is settled. -/
theorem UsePath.WellRead.interfaceName {path : UsePath} (read : path.WellRead) :
    path.interfaceName.settled = path.interfaceName := by
  cases path with
  | sibling name => exact read
  | external vendor package interface version => exact read.1

/-- The components of a use that is read. -/
theorem Use.WellRead.components {use : Use} (read : use.WellRead) :
    ∀ component ∈ use.components, component.WellRead := by
  rw [Use.components, List.forall_mem_cons, List.forall_mem_cons]
  refine ⟨read.whole, fun _ => read.path.interfaceName, Component.wellRead_names ?_⟩
  refine List.forall_mem_append.2 ⟨List.forall_mem_flatMap.2 fun item listed => ?_, ?_⟩
  · obtain ⟨name, renamed⟩ := item
    obtain ⟨settled, again⟩ := UseItem.mk.inj (read.items _ listed)
    refine List.forall_mem_cons.2 ⟨settled, fun other found => ?_⟩
    obtain rfl := by simpa using found
    simpa using again
  · simpa using read.renamed

/-- The components of an interface that is read. -/
theorem Interface.WellRead.components {interface : Interface} (read : interface.WellRead) :
    ∀ component ∈ interface.components, component.WellRead := by
  simp only [Interface.components, List.forall_mem_cons, List.forall_mem_append,
    List.forall_mem_flatMap]
  exact ⟨fun _ => read.name, read.docs,
    ⟨fun definition listed => (read.types definition listed).components,
      fun function listed =>
        (read.functions function listed).2.components
          fun _ => (read.functions function listed).1⟩,
    fun use listed => (read.uses use listed).components⟩

/-- The components of a world item that is read. -/
theorem WorldItem.WellRead.components {item : WorldItem} (read : item.WellRead) :
    ∀ component ∈ item.components, component.WellRead := by
  cases item with
  | inline name interface =>
    obtain ⟨rfl, inner⟩ := read
    refine List.forall_mem_cons.2 ⟨rfl, List.forall_mem_cons.2 ⟨fun _ => inner.name, ?_⟩⟩
    exact inner.components
  | external name path =>
    obtain ⟨rfl, inner, -⟩ := read
    have settled := inner.interfaceName
    exact List.forall_mem_cons.2 ⟨rfl, List.forall_mem_cons.2 ⟨fun _ => settled,
      List.forall_mem_singleton.2 fun _ => settled⟩⟩
  | function found =>
    exact List.forall_mem_cons.2 ⟨trivial, read.2.components fun _ => read.1⟩

/-- The components of a world that is read. -/
theorem World.WellRead.components {world : World} (read : world.WellRead) :
    ∀ component ∈ world.components, component.WellRead := by
  simp only [World.components, List.forall_mem_cons, List.forall_mem_append,
    List.forall_mem_flatMap]
  exact ⟨fun _ => read.name, read.docs,
    ⟨fun item listed => (read.imports item listed).components,
      fun item listed => (read.exports item listed).components⟩,
    fun use listed => (read.uses use listed).components⟩

namespace Package

variable {package : Package}

/-- The components of a package that is read. -/
theorem WellRead.components (read : package.WellRead) :
    ∀ component ∈ package.components, component.WellRead := by
  simp only [Package.components, List.forall_mem_cons, List.forall_mem_append,
    List.forall_mem_flatMap]
  exact ⟨read.tidy_docs,
    ⟨fun interface listed => (read.interfaces interface listed).components,
      fun world listed => (read.worlds world listed).components⟩,
    fun use listed => (read.uses use listed).components⟩

end Package

/-- A settled name without an escape is no reserved word. -/
theorem Identifier.not_reserved {name : Identifier} (settled : name.settled = name)
    (bare : name.escaped = false) : Kind.isReserved name.text = false := by
  have parts := congrArg Identifier.escaped settled
  rw [Identifier.settled, bare, Bool.false_or] at parts
  rwa [text, if_neg (by simp [bare])]

/-- There is no blank at the end of a text that loses nothing when it is trimmed there. -/
theorem Text.isBlank_of_trimEnd {text : List Char} (whole : trimEnd text = text) :
    ∀ c ∈ text.getLast?, isBlank c = false := by
  have front := List.head?_dropWhile_not isBlank text.reverse
  rw [← List.reverse_reverse (text.reverse.dropWhile isBlank),
    show (text.reverse.dropWhile isBlank).reverse = text from whole, List.head?_reverse] at front
  intro c last
  rwa [Option.mem_def.1 last] at front

namespace Package

variable {package : Package}

/-- A package that is read is well formed. -/
theorem WellRead.wellFormed (read : package.WellRead) : package.WellFormed := by
  have components := read.components
  refine ⟨?_, fun missing => ?_, fun function => components _, fun method listed => ?_,
    fun name interface => components _, fun name path => components _, fun use listed renamed => ?_,
    fun place name listed bare isReserved => ?_, fun docs listed line inside => ?_⟩
  · rw [vendor?, name?, Option.isSome_map, Option.isSome_map]
  · obtain ⟨header, interfaces, worlds, uses⟩ := package
    obtain rfl : header = none := by simpa [vendor?] using missing
    exact ⟨rfl, rfl, rfl⟩
  · exact (components _ listed).symm
  · exact Decidable.not_not.1 fun items => renamed (components _ listed items)
  · have elsewhere : place ≠ .other := by
      rintro rfl
      rw [Identifier.not_reserved (components _ listed rfl) bare] at isReserved
      contradiction
    cases place with
    | field | variant | case | method => simp
    | other => contradiction
  · obtain ⟨single, whole⟩ := components _ listed line inside
    exact ⟨single, Text.isBlank_of_trimEnd whole⟩

/-- A package that is read has a header if its text begins with the keyword of one, and else it has
none. -/
theorem vendor?_isSome_iff {source : String} (parsed : parse source = .ok package) :
    package.vendor?.isSome = true ↔
      (TokenStream.ofSource source).current.kind = .keyword .package := by
  have ran := (run_of_parse parsed).1
  by_cases headed : (TokenStream.ofSource source).current.kind = .keyword .package
  · rw [run_parser_headed headed] at ran
    obtain ⟨header, middle, opened, onward⟩ := Parser.exists_of_run_bind ran
    obtain ⟨found, last, read, returned⟩ := Parser.exists_of_run_bind onward
    obtain ⟨rfl, -⟩ := Prod.mk.inj (Except.ok.inj returned)
    exact iff_of_true rfl headed
  · rw [run_parser_headless headed] at ran
    obtain ⟨found, last, read, returned⟩ := Parser.exists_of_run_bind ran
    obtain ⟨rfl, -⟩ := Prod.mk.inj (Except.ok.inj returned)
    exact iff_of_false Bool.false_ne_true headed

/-- Every package that is read is well formed, whatever its source. It has a vendor and a name where
its text begins with the keyword of a header, and nothing of a header where it does not. -/
theorem wellFormed_of_parse {source : String} (parsed : parse source = .ok package) :
    package.WellFormed ∧ (package.vendor?.isSome = true ↔
      (TokenStream.ofSource source).current.kind = .keyword .package) :=
  ⟨(wellRead_of_parse parsed).wellFormed, vendor?_isSome_iff parsed⟩

/-- A variant and a method with reserved words for names, in a package whose own name is one too. -/
theorem wellFormed_of_parse_reserved :
    let text :=
      "///a \npackage p:list;interface i \x7bvariant own \x7b\x7dresource r \x7bas: func();\x7d\x7d"
    ∃ package, parse text = .ok package ∧ package.WellFormed ∧
      package.docs.lines = ["a"] ∧ package.name?.map (·.text) = some "list" ∧
      package.definitions.map (·.name.text) = ["own", "r"] := by
  intro text
  have known : (parse text).map (fun package => (package.docs.lines,
      package.name?.map (·.text), package.definitions.map (·.name.text))) =
      .ok (["a"], some "list", ["own", "r"]) := by decide +kernel
  obtain ⟨package, parsed, seen⟩ := map_eq_ok_iff.1 known
  obtain ⟨docs, members⟩ := Prod.mk.inj seen
  obtain ⟨name, definitions⟩ := Prod.mk.inj members
  exact ⟨package, parsed, (wellFormed_of_parse parsed).1, docs, name, definitions⟩

end Package

end Read

end WitBridge
