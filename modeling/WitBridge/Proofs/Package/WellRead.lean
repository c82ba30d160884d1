import WitBridge.Proofs.Package.Reread
import WitBridge.Proofs.Type.Settled

/-!
# What is read from any source

Whatever its source, a package that is read is well formed beyond what its type says: names are
reserved words only where the grammar lets any word be a name, documentation is in tidy lines,
versions are plain, a function has at most one result, and what the text does not say twice is
said once: a method has the name of its function, an interface in a world the name of its item.
-/
namespace WitBridge

/-- What is picked from items has a property if it follows from what the items have. -/
theorem of_mem_filterMap {α β : Type} {pick : α → Option β} {given : α → Prop}
    {wanted : β → Prop} {items : List α} (all : ∀ item ∈ items, given item)
    (each : ∀ item found, given item → pick item = some found → wanted found) :
    ∀ found ∈ items.filterMap pick, wanted found := by
  intro found listed
  obtain ⟨item, inside, picked⟩ := List.mem_filterMap.1 listed
  exact each item found (all item inside) picked

/-- What is read as a function, apart from its name. -/
structure Function.WellRead (function : Function) : Prop where
  parameters : ∀ parameter ∈ function.parameters, parameter.settled = parameter
  oneResult : function.results.length ≤ 1
  results : ∀ type ∈ function.results, type.settled = type
  docs : function.docs.Tidy

/-- What is read as a field; its name may be any word. -/
structure Field.WellRead (field : Field) : Prop where
  type : field.type.settled = field.type
  docs : field.docs.Tidy

/-- What is read as a case; its name may be any word. -/
structure Case.WellRead (case : Case) : Prop where
  payload : ∀ type ∈ case.payload, type.settled = type
  docs : case.docs.Tidy

/-- What is read as a method; its name may be any word, and its function has the same name. -/
structure Method.WellRead (method : Method) : Prop where
  function : method.function.WellRead
  name : method.function.name = method.name

/-- What is read as the body of a definition. -/
def Definition.WellRead : Definition → Prop
  | record fields => ∀ field ∈ fields, field.WellRead
  | variant cases => ∀ case ∈ cases, case.WellRead
  | enum names | flags names => ∀ name ∈ names, name.settled = name
  | resource constructor methods =>
    (∀ parameters ∈ constructor, ∀ parameter ∈ parameters, parameter.settled = parameter)
      ∧ ∀ method ∈ methods, method.WellRead
  | synonym target => target.settled = target

/-- What is read as a type definition; the name of a variant may be any word. -/
structure TypeDefinition.WellRead (definition : TypeDefinition) : Prop where
  name : definition.body.keyword ≠ "variant" → definition.name.settled = definition.name
  body : definition.body.WellRead
  docs : definition.docs.Tidy

/-- What is read as a path. -/
def UsePath.WellRead : UsePath → Prop
  | sibling name => name.settled = name
  | external _ _ interface version =>
    interface.settled = interface ∧ ∀ found ∈ version, found.Plain

/-- What is read as a use: one that takes names has no name for the whole. -/
structure Use.WellRead (use : Use) : Prop where
  path : use.path.WellRead
  items : ∀ item ∈ use.items, item.settled = item
  renamed : ∀ name ∈ use.renamed, name.settled = name
  whole : use.items ≠ [] → use.renamed = none

/-- What is read as an interface. -/
structure Interface.WellRead (interface : Interface) : Prop where
  name : interface.name.settled = interface.name
  types : ∀ definition ∈ interface.types, definition.WellRead
  functions : ∀ function ∈ interface.functions,
    function.name.settled = function.name ∧ function.WellRead
  uses : ∀ use ∈ interface.uses, use.WellRead
  docs : interface.docs.Tidy

/-- What is read as an item of a world. -/
def WorldItem.WellRead : WorldItem → Prop
  | inline name interface => interface.name = name ∧ interface.WellRead
  | external name path => name = path.interfaceName ∧ path.WellRead ∧ match path with
    | .sibling _ => True
    | .external vendor package _ _ =>
      Token.Kind.isReserved vendor.text = false ∧ Token.Kind.ofWord package.text ∉ openers
  | function found => found.name.settled = found.name ∧ found.WellRead

/-- What is read as a world. -/
structure World.WellRead (world : World) : Prop where
  name : world.name.settled = world.name
  imports : ∀ item ∈ world.imports, item.WellRead
  exports : ∀ item ∈ world.exports, item.WellRead
  uses : ∀ use ∈ world.uses, use.WellRead
  docs : world.docs.Tidy

/-- What is read as the declaration that opens a document. -/
structure PackageHeader.WellRead (header : PackageHeader) : Prop where
  version : ∀ version ∈ header.version, version.Plain
  docs : header.docs.Tidy

/-- What is read as a document. -/
structure Package.WellRead (package : Package) : Prop where
  header : ∀ header ∈ package.header, header.WellRead
  interfaces : ∀ interface ∈ package.interfaces, interface.WellRead
  worlds : ∀ world ∈ package.worlds, world.WellRead
  uses : ∀ use ∈ package.uses, use.WellRead

open WitBridge.Parser (Yields YieldsAt yields_pure yields_refuse yields_unexpected yields_current
  yields_get yields_check yields_docs yields_advance yields_mark yields_keyword yields_accept
  yields_identifier)

/-- The names of a parameter that is read are settled. -/
theorem Parameter.parser_yields : Yields Parameter.parser fun parameter =>
    parameter.settled = parameter := by
  apply (yields_identifier _ _).bind
  intro name settled
  apply (yields_mark _).bind
  intro _ _
  apply TypeExpr.parser_yields.bind
  intro type typed
  apply yields_pure
  rw [Parameter.settled, settled rfl, typed]

/-- The names of parameters that are read are settled. -/
theorem Parameter.yields_list : Yields Parameter.list fun parameters =>
    ∀ parameter ∈ parameters, parameter.settled = parameter := by
  apply (yields_mark _).bind
  intro _ _
  apply (Parser.yields_commaItems _ Parameter.parser_yields).bind
  intro parameters all
  exact (yields_mark _).bind fun _ _ => yields_pure all

/-- The type of a function is read under a name. -/
theorem Function.yields_parseType (name : Identifier) {docs : Documentation} (tidy : docs.Tidy) :
    Yields (parseType name docs) fun function => function.name = name ∧ function.WellRead := by
  apply (yields_accept _).bind
  intro isAsync _
  apply (yields_keyword _).bind
  intro _ _
  apply Parameter.yields_list.bind
  intro parameters all
  apply (yields_accept _).bind
  intro arrow _
  split
  · refine TypeExpr.parser_yields.bind fun type typed => yields_pure ⟨rfl, all, ?_, ?_, tidy⟩
    · simp
    · simpa using typed
  · exact yields_pure ⟨rfl, all, by simp, nofun, tidy⟩

/-- A field is read. -/
theorem Field.parser_yields : Yields Field.parser Field.WellRead := by
  apply yields_docs.bind
  intro docs tidy
  apply (yields_identifier _ _).bind
  intro name _
  apply (yields_mark _).bind
  intro _ _
  apply TypeExpr.parser_yields.bind
  intro type typed
  exact yields_pure ⟨typed, tidy⟩

/-- A case is read. -/
theorem Case.parser_yields : Yields Case.parser Case.WellRead := by
  apply yields_docs.bind
  intro docs tidy
  apply (yields_identifier _ _).bind
  intro name _
  apply (yields_accept _).bind
  intro carries _
  split
  · apply TypeExpr.parser_yields.bind
    intro type typed
    apply (yields_mark _).bind
    intro _ _
    exact yields_pure ⟨by simpa using typed, tidy⟩
  · exact yields_pure ⟨nofun, tidy⟩

/-- A method is read. -/
theorem Method.parser_yields : Yields Method.parser Method.WellRead := by
  apply yields_docs.bind
  intro docs tidy
  apply (yields_identifier _ _).bind
  intro name _
  apply (yields_mark _).bind
  intro _ _
  apply (yields_accept _).bind
  intro isStatic _
  apply (Function.yields_parseType name tidy).bind
  intro function found
  exact (yields_mark _).bind fun _ _ => yields_pure ⟨found.2, found.1⟩

/-- What is read as a member of a resource. -/
def ResourceMember.WellRead : ResourceMember → Prop
  | constructor parameters => ∀ parameter ∈ parameters, parameter.settled = parameter
  | method found => found.WellRead

/-- The members of a resource are read, with any fuel. -/
theorem ResourceMember.yields_listWithin (resource : Identifier) (fuel : Nat) (built : Bool) :
    Yields (listWithin resource fuel built) fun members => ∀ member ∈ members, member.WellRead := by
  induction fuel generalizing built with
  | zero => exact yields_unexpected _
  | succ fuel ih =>
    refine yields_current fun stream tidy => Yields.at ?_ tidy
    split
    · exact yields_pure nofun
    · split
      · apply yields_advance.discard.bind
        intro _ _
        apply Parameter.yields_list.bind
        intro parameters all
        apply (yields_mark _).bind
        intro _ _
        split
        · exact yields_refuse _ _
        · apply (ih true).bind
          intro rest others
          apply yields_pure
          exact List.forall_mem_cons.2 ⟨all, others⟩
      · apply Method.parser_yields.bind
        intro method read
        apply (ih built).bind
        intro rest others
        exact yields_pure (List.forall_mem_cons.2 ⟨read, others⟩)

/-- The body of a resource is read. -/
theorem Definition.yields_parseResource (resource : Identifier) :
    Yields (parseResource resource) Definition.WellRead := by
  apply (yields_accept _).bind
  intro empty _
  split
  · exact yields_pure ⟨nofun, nofun⟩
  · apply (yields_mark _).bind
    intro _ _
    apply yields_get
    intro stream
    apply (ResourceMember.yields_listWithin resource _ false).bind
    intro members all
    refine (yields_mark _).bind fun _ _ => yields_pure ⟨?_, ?_⟩
    · intro parameters found
      obtain ⟨member, listed, same⟩ := List.exists_of_findSome?_eq_some found
      cases member with
      | constructor others => cases same; exact all _ listed
      | method found => contradiction
    · refine of_mem_filterMap all fun member method read same => ?_
      cases member with
      | constructor others => contradiction
      | method found => cases same; exact read

/-- A path of another package is read, whose first word has the kind of the token at hand. -/
theorem UsePath.yieldsAt_parseExternal {stream : TokenStream} (tidy : stream.Tidy)
    (vendor : KebabName) :
    Parser.YieldsAt stream (parseExternal vendor) fun path => path.WellRead ∧
      ∃ package interface version, path = external vendor package interface version ∧
        Token.Kind.ofWord package.text = stream.current.kind := by
  apply (Parser.yieldsAt_word _ _ tidy).bind
  intro package kind
  apply (yields_mark _).bind
  intro _ _
  apply (yields_identifier _ _).bind
  intro interface settled
  apply Version.yields_optional.bind
  intro version plain
  apply yields_pure
  exact ⟨⟨settled rfl, plain⟩, package, interface, version, rfl, kind⟩

/-- A path is read. -/
theorem UsePath.parser_yields : Yields parser UsePath.WellRead := by
  apply yields_get
  intro stream
  split
  · apply (Parser.yields_word _ _).bind
    intro vendor _
    apply (yields_mark _).bind
    intro _ _
    exact fun _ tidy => (yieldsAt_parseExternal tidy vendor).mono fun _ read => read.1
  · exact (yields_identifier _ _).bind fun name settled => yields_pure (settled rfl)

/-- A new name that is read is settled. -/
theorem yields_renamed :
    Yields parseRenamed fun renamed => ∀ name ∈ renamed, name.settled = name := by
  apply (yields_accept _).bind
  intro present _
  split
  · apply (yields_identifier _ _).bind
    intro name settled
    apply yields_pure
    simpa using settled rfl
  · exact yields_pure nofun

/-- The names of an item of a use are settled. -/
theorem UseItem.parser_yields : Yields UseItem.parser fun item => item.settled = item := by
  apply (yields_identifier _ _).bind
  intro name settled
  apply yields_renamed.bind
  intro renamed all
  apply yields_pure
  rw [UseItem.settled, settled rfl, option_map_eq_self all]

/-- A use is read. -/
theorem Use.parser_yields : Yields Use.parser Use.WellRead := by
  apply (yields_keyword _).bind
  intro _ _
  apply UsePath.parser_yields.bind
  intro path read
  apply (yields_accept _).bind
  intro dot _
  split
  · apply (Parser.yields_bracedItems UseItem.parser_yields).bind
    intro items all
    exact (yields_mark _).bind fun _ _ => yields_pure ⟨read, all, nofun, fun _ => rfl⟩
  · apply yields_renamed.bind
    intro renamed all
    apply (yields_mark _).bind
    intro _ _
    exact yields_pure ⟨read, nofun, all, fun other => absurd rfl other⟩

/-- What is read as an item of an interface. -/
def InterfaceItem.WellRead : InterfaceItem → Prop
  | type definition => definition.WellRead
  | function found => found.name.settled = found.name ∧ found.WellRead
  | use found => found.WellRead

/-- A function that is read under its documentation is well read. -/
theorem InterfaceItem.yields_function {docs : Documentation} (tidy : docs.Tidy) :
    Yields (do
      let function ← Parser.identifier "function name"
      Parser.mark .colon
      let function ← Function.parseType function docs
      Parser.mark .semicolon
      return InterfaceItem.function function) InterfaceItem.WellRead := by
  apply (yields_identifier _ _).bind
  intro name settled
  apply (yields_mark _).bind
  intro _ _
  apply (Function.yields_parseType name tidy).bind
  intro function found
  exact (yields_mark _).bind fun _ _ => yields_pure ⟨found.1 ▸ settled rfl, found.2⟩

/-- An item of an interface is read. -/
theorem InterfaceItem.parser_yields : Yields InterfaceItem.parser InterfaceItem.WellRead := by
  refine yields_docs.bind fun docs tidy => yields_current fun stream _ => Yields.at ?_ ‹_›
  split
  · apply yields_advance.discard.bind
    intro _ _
    apply (yields_identifier _ _).bind
    intro name settled
    apply (yields_mark _).bind
    intro _ _
    apply TypeExpr.parser_yields.bind
    intro target typed
    exact (yields_mark _).bind fun _ _ => yields_pure ⟨fun _ => settled rfl, typed, tidy⟩
  · apply yields_advance.discard.bind
    intro _ _
    apply (yields_identifier _ _).bind
    intro name settled
    apply (Parser.yields_bracedItems Field.parser_yields).bind
    intro fields all
    exact yields_pure ⟨fun _ => settled rfl, all, tidy⟩
  · apply yields_advance.discard.bind
    intro _ _
    apply (yields_identifier _ _).bind
    intro name _
    apply (Parser.yields_bracedItems Case.parser_yields).bind
    intro cases all
    exact yields_pure ⟨fun other => absurd rfl other, all, tidy⟩
  · apply yields_advance.discard.bind
    intro _ _
    apply (yields_identifier _ _).bind
    intro name settled
    apply (Parser.yields_bracedItems (yields_identifier _ _)).bind
    intro names all
    exact yields_pure ⟨fun _ => settled rfl, fun name listed => all name listed rfl, tidy⟩
  · apply yields_advance.discard.bind
    intro _ _
    apply (yields_identifier _ _).bind
    intro name settled
    apply (Parser.yields_bracedItems (yields_identifier _ _)).bind
    intro names all
    exact yields_pure ⟨fun _ => settled rfl, fun name listed => all name listed rfl, tidy⟩
  · apply yields_advance.discard.bind
    intro _ _
    apply (yields_identifier _ _).bind
    intro name settled
    apply (Definition.yields_parseResource name).bind
    intro body read
    exact yields_pure ⟨fun _ => settled rfl, read, tidy⟩
  · exact Use.parser_yields.bind fun use read => yields_pure read
  · exact yields_function tidy
  · exact yields_function tidy
  · exact yields_unexpected _

/-- The body of an interface is read under a name. -/
theorem Interface.yields_parseBody {name : Identifier} {docs : Documentation}
    (settled : name.settled = name) (tidy : docs.Tidy) :
    Yields (parseBody name docs) fun interface => interface.name = name ∧ interface.WellRead := by
  apply (yields_mark _).bind
  intro _ _
  apply (Parser.yields_itemsUntil _ InterfaceItem.parser_yields).bind
  intro items all
  refine (yields_mark _).bind fun _ _ => yields_pure ⟨rfl, settled, ?_, ?_, ?_, tidy⟩
  · refine of_mem_filterMap all fun item definition read same => ?_
    cases item with
    | type definition => cases same; exact read
    | function _ => contradiction
    | use _ => contradiction
  · refine of_mem_filterMap all fun item function read same => ?_
    cases item with
    | type _ => contradiction
    | function function => cases same; exact read
    | use _ => contradiction
  · refine of_mem_filterMap all fun item use read same => ?_
    cases item with
    | type _ => contradiction
    | function _ => contradiction
    | use use => cases same; exact read

/-- An interface is read. -/
theorem Interface.parser_yields : Yields Interface.parser Interface.WellRead := by
  apply yields_docs.bind
  intro docs tidy
  apply (yields_keyword _).bind
  intro _ _
  apply (yields_identifier _ _).bind
  intro name settled
  exact (yields_parseBody (settled rfl) tidy).mono fun interface read => read.2

/-- A settled name that is also a word is not reserved. -/
theorem Identifier.unreserved_of_ofText {name : Identifier} {role : NameRole} {word : KebabName}
    (settled : name.settled = name) (read : KebabName.ofText role name.text = .ok word) :
    Token.Kind.isReserved word.text = false := by
  have text := KebabName.text_of_ofText read
  obtain ⟨escaped, bare⟩ := name
  cases escaped with
  | true =>
    have kebab := word.kebab
    rw [text] at kebab
    simp [Identifier.text, isKebab, show '%'.isLower = false by decide] at kebab
  | false =>
    rw [text]
    exact congrArg Identifier.escaped settled

/-- An item of a world is read. -/
theorem WorldItem.parser_yields {docs : Documentation} (tidy : docs.Tidy) :
    Yields (WorldItem.parser docs) WorldItem.WellRead := by
  refine yields_current fun _ _ => Yields.at ?_ ‹_›
  apply (yields_identifier _ _).bind
  intro name settled
  apply (yields_accept _).bind
  intro bare _
  split
  · exact yields_pure ⟨rfl, settled rfl, trivial⟩
  · refine (yields_mark _).bind fun _ _ => yields_current fun stream ahead => ?_
    split
    · refine Yields.at ?_ ahead
      apply yields_advance.discard.bind
      intro _ _
      apply (Interface.yields_parseBody (settled rfl) tidy).bind
      intro interface read
      exact yields_pure read
    · refine Yields.at ?_ ahead
      apply (Function.yields_parseType name tidy).bind
      intro function read
      exact (yields_mark _).bind fun _ _ => yields_pure ⟨read.1 ▸ settled rfl, read.2⟩
    · refine Yields.at ?_ ahead
      apply (Function.yields_parseType name tidy).bind
      intro function read
      exact (yields_mark _).bind fun _ _ => yields_pure ⟨read.1 ▸ settled rfl, read.2⟩
    · next notInterface notFunc notAsync =>
      split
      · exact Yields.at (yields_refuse _ _) ahead
      · next vendor found =>
        apply (UsePath.yieldsAt_parseExternal ahead vendor).bind
        intro path read
        apply (yields_mark _).bind
        intro _ _
        apply yields_pure
        obtain ⟨wellRead, package, interface, version, rfl, kind⟩ := read
        refine ⟨rfl, wellRead, ?_, ?_⟩
        · exact Identifier.unreserved_of_ofText (settled rfl) found
        · rw [kind]
          simpa [openers] using ⟨notInterface, notFunc, notAsync⟩

/-- What is read as a member of a world. -/
def WorldMember.WellRead : WorldMember → Prop
  | imported item | exported item => item.WellRead
  | use found => found.WellRead
  | included => True

/-- A statement that is passed over says nothing. -/
theorem yields_skipStatement (fuel : Nat) : Yields (skipStatement fuel) fun _ => True := by
  induction fuel with
  | zero => exact yields_unexpected _
  | succ fuel ih =>
    refine yields_current fun stream tidy => Yields.at ?_ tidy
    split
    · exact yields_advance.discard
    · split
      · exact yields_unexpected _
      · exact yields_advance.discard.bind fun _ _ => ih

/-- A member of a world is read. -/
theorem WorldMember.parser_yields : Yields WorldMember.parser WorldMember.WellRead := by
  refine yields_docs.bind fun docs tidy => yields_current fun stream _ => Yields.at ?_ ‹_›
  split
  · apply yields_advance.discard.bind
    intro _ _
    exact (WorldItem.parser_yields tidy).bind fun item read => yields_pure read
  · apply yields_advance.discard.bind
    intro _ _
    exact (WorldItem.parser_yields tidy).bind fun item read => yields_pure read
  · exact Use.parser_yields.bind fun use read => yields_pure read
  · refine yields_get fun _ => (yields_skipStatement _).bind fun _ _ => yields_pure trivial
  · exact yields_unexpected _

/-- A world is read. -/
theorem World.parser_yields : Yields World.parser World.WellRead := by
  apply yields_docs.bind
  intro docs tidy
  apply (yields_keyword _).bind
  intro _ _
  apply (yields_identifier _ _).bind
  intro name settled
  apply (yields_mark _).bind
  intro _ _
  apply (Parser.yields_itemsUntil _ WorldMember.parser_yields).bind
  intro members all
  refine (yields_mark _).bind fun _ _ => yields_pure ⟨settled rfl, ?_, ?_, ?_, tidy⟩
  · refine of_mem_filterMap all fun member item read same => ?_
    cases member with
    | imported item => cases same; exact read
    | _ => contradiction
  · refine of_mem_filterMap all fun member item read same => ?_
    cases member with
    | exported item => cases same; exact read
    | _ => contradiction
  · refine of_mem_filterMap all fun member use read same => ?_
    cases member with
    | use use => cases same; exact read
    | _ => contradiction

/-- The segments of a package name say nothing more. -/
theorem PackageHeader.yields_segments (fuel : Nat) : Yields (segments fuel) fun _ => True := by
  induction fuel with
  | zero => exact yields_unexpected _
  | succ fuel ih =>
    apply (Parser.yields_word _ _).bind
    intro segment _
    apply (yields_accept _).bind
    intro slash _
    split
    · exact ih.bind fun more _ => yields_pure trivial
    · exact yields_pure trivial

/-- The declaration that opens a document is read. -/
theorem PackageHeader.parser_yields : Yields PackageHeader.parser PackageHeader.WellRead := by
  apply yields_docs.bind
  intro docs tidy
  apply (yields_keyword _).bind
  intro _ _
  apply (Parser.yields_word _ _).bind
  intro vendor _
  apply (yields_mark _).bind
  intro _ _
  apply yields_get
  intro _
  apply (PackageHeader.yields_segments _).bind
  intro names _
  apply Version.yields_optional.bind
  intro version plain
  apply (yields_mark _).bind
  intro _ _
  exact yields_pure ⟨plain, tidy⟩

/-- What is read at the top of a document. -/
def PackageItem.WellRead : PackageItem → Prop
  | interface found => found.WellRead
  | world found => found.WellRead
  | use found => found.WellRead

/-- An item of a document is read. -/
theorem PackageItem.parser_yields : Yields PackageItem.parser PackageItem.WellRead := by
  refine yields_current fun stream tidy => Yields.at ?_ tidy
  split
  · exact Interface.parser_yields.bind fun interface read => yields_pure read
  · exact World.parser_yields.bind fun world read => yields_pure read
  · exact Use.parser_yields.bind fun use read => yields_pure read
  · exact yields_unexpected _

/-- The items of a document are read under a header. -/
theorem Package.yields_items {header : Option PackageHeader}
    (read : ∀ found ∈ header, found.WellRead) :
    Yields (do
      let items ← Parser.itemsUntil .endOfInput PackageItem.parser
      return (⟨header, items.filterMap (·.interface?), items.filterMap (·.world?),
        items.filterMap (·.use?)⟩ : Package)) Package.WellRead := by
  apply (Parser.yields_itemsUntil _ PackageItem.parser_yields).bind
  intro items all
  refine yields_pure ⟨read, ?_, ?_, ?_⟩
  · refine of_mem_filterMap all fun item interface read same => ?_
    cases item with
    | interface interface => cases same; exact read
    | _ => contradiction
  · refine of_mem_filterMap all fun item world read same => ?_
    cases item with
    | world world => cases same; exact read
    | _ => contradiction
  · refine of_mem_filterMap all fun item use read same => ?_
    cases item with
    | use use => cases same; exact read
    | _ => contradiction

/-- A document is read. -/
theorem Package.parser_yields : Yields parser Package.WellRead := by
  apply (yields_check _).bind
  intro headed _
  split
  · apply PackageHeader.parser_yields.bind
    intro header read
    exact Package.yields_items (by simpa using read)
  · exact Package.yields_items nofun

/-- The package that a source text spells is well read. -/
theorem Package.wellRead_of_parse {source : String} {package : Package}
    (read : parse source = .ok package) : package.WellRead := by
  obtain ⟨⟨found, rest⟩, ran, rfl⟩ := map_eq_ok_iff.1 read
  exact (parser_yields _ (TokenStream.tidy_ofSource source) found rest ran).1

end WitBridge
