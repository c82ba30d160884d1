import WitBridge.Proofs.Package.Stray

/-!
# Which written packages are read

Where no line of documentation holds a newline, a package is read back from its text exactly if
it is legible. An item that is not legible is refused wherever it stands: the items before it are
read, and a parser that has stopped is not tried again. The main statement is that of the whole
package, from its header down to the paths of its uses.
-/
namespace WitBridge

open WitBridge.Parser (Takes Reads Stops reads_pure takes_advance takes_mark takes_accept_mark
  reads_accept_of_ne takes_keyword takes_accept_keyword stops_front)
open Token (Sign signs front Loose Keyword)

variable {rest : List Char} {layout : Layout} {depth : Nat}

/-- Whether no line of documentation in an item of an interface holds a newline. -/
def InterfaceItem.SingleLines : InterfaceItem → Prop
  | type definition => definition.docs.SingleLines ∧ definition.body.Legible
  | function found => found.docs.SingleLines
  | use _ => True

/-- Whether no line of documentation in an interface holds a newline. -/
structure Interface.SingleLines (interface : Interface) : Prop where
  docs : interface.docs.SingleLines
  types : ∀ definition ∈ interface.types,
    definition.docs.SingleLines ∧ definition.body.Legible
  functions : ∀ function ∈ interface.functions, function.docs.SingleLines

/-- Whether no line of documentation in a world item holds a newline. -/
def WorldItem.SingleLines : WorldItem → Prop
  | inline _ interface => interface.SingleLines
  | external _ _ => True
  | function found => found.docs.SingleLines

/-- Whether no line of documentation in a world holds a newline. -/
structure World.SingleLines (world : World) : Prop where
  docs : world.docs.SingleLines
  imports : ∀ item ∈ world.imports, item.SingleLines
  exports : ∀ item ∈ world.exports, item.SingleLines

/-- Whether no line of documentation in a package holds a newline. -/
structure Package.SingleLines (package : Package) : Prop where
  header : ∀ header ∈ package.header, header.docs.SingleLines
  interfaces : ∀ interface ∈ package.interfaces, interface.SingleLines
  worlds : ∀ world ∈ package.worlds, world.SingleLines

namespace InterfaceItem

/-- An item that is not legible is a use that is not. -/
theorem SingleLines.exists_use {item : InterfaceItem} (single : item.SingleLines)
    (illegible : ¬ item.Legible) : ∃ found, item = use found ∧ ¬ found.path.Legible := by
  cases item with
  | type definition => exact absurd single illegible
  | function found => exact absurd single illegible
  | use found => exact ⟨found, rfl, illegible⟩

/-- No item begins with a closing brace. -/
theorem SingleLines.front_ne {item : InterfaceItem} (single : item.SingleLines)
    (rest : List Char) :
    Token.front (signs [] (Line.chars layout depth (item.lineList layout) ++ rest)) ≠
      .mark .rightBrace := by
  by_cases legible : item.Legible
  · exact InterfaceItem.front_ne (item.takes_lineList layout depth rest legible)
  · obtain ⟨found, rfl, -⟩ := single.exists_use legible
    obtain ⟨tail, begun⟩ := found.signs_lineList layout depth rest
    rw [lineList, begun]
    simp [Token.front]

/-- An item that is not legible is refused. -/
theorem SingleLines.stops_lineList {item : InterfaceItem} (single : item.SingleLines)
    (illegible : ¬ item.Legible) (rest : List Char) :
    Stops parser (signs [] (Line.chars layout depth (item.lineList layout) ++ rest)) := by
  obtain ⟨found, rfl, odd⟩ := single.exists_use illegible
  have stops := Use.stops_lineList odd layout depth rest
  obtain ⟨tail, begun⟩ := found.signs_lineList layout depth rest
  rw [lineList]
  rw [begun] at stops ⊢
  refine (Parser.reads_docs _ _).stops (stops_front fun token same => ?_)
  simp only [show token.kind = .keyword .use from same]
  exact stops.bind

end InterfaceItem

namespace Interface

/-- The documentation of the items has no newline in a line. -/
theorem SingleLines.of_mem_items {interface : Interface} (single : interface.SingleLines)
    {item : InterfaceItem} (member : item ∈ interface.items) : item.SingleLines := by
  simp only [items, List.mem_append, List.mem_map] at member
  rcases member with (⟨use, listed, rfl⟩ | ⟨definition, listed, rfl⟩) | ⟨function, listed, rfl⟩
  · trivial
  · exact single.types definition listed
  · exact single.functions function listed

/-- An interface that is not legible has an item that is not. -/
theorem SingleLines.exists_item {interface : Interface} (single : interface.SingleLines)
    (illegible : ¬ interface.Legible) : ∃ item ∈ interface.items, ¬ item.Legible := by
  by_contra every
  push Not at every
  refine illegible ⟨single.docs, single.types, single.functions, fun use listed => ?_⟩
  exact every (.use use) (by simp [items, listed])

/-- The members of an interface that is not legible are refused. -/
theorem SingleLines.stops_body {interface : Interface} (single : interface.SingleLines)
    (illegible : ¬ interface.Legible) (name : Identifier) (docs : Documentation)
    (rest : List Char) :
    Stops (parseBody name docs)
      (signs [] ('\x7b' :: '\n' :: (Line.chars layout depth (interface.memberLines layout) ++
        rest))) := by
  have items : Stops (Parser.itemsUntil (.mark .rightBrace) InterfaceItem.parser)
      (signs [] (Line.chars layout depth (interface.memberLines layout) ++ rest)) := by
    rw [memberLines_eq, Line.chars_flatMap]
    exact Parser.stops_itemsUntil
      (fun item listed => (single.of_mem_items listed).front_ne)
      (fun item _ legible tail => item.takes_lineList layout depth tail legible)
      (fun item listed => (single.of_mem_items listed).stops_lineList)
      (single.exists_item illegible)
  refine (takes_mark [] _ rfl).reads.stops ?_
  rw [Token.signs_newline]
  exact items.bind

/-- An interface that is not legible is refused. -/
theorem SingleLines.stops_lineList {interface : Interface} (single : interface.SingleLines)
    (illegible : ¬ interface.Legible) (layout : Layout) (depth : Nat) (rest : List Char) :
    Stops Interface.parser
      (signs [] (Line.chars layout depth (interface.lineList layout) ++ rest)) := by
  rw [interface.signs_lineList layout depth rest single.docs]
  apply (Parser.reads_docs _ _).stops
  apply (Parser.takes_expect _ _ _ _).reads.stops
  apply (interface.name.takes_written _ _ [] (by simp; decide)).reads.stops
  rw [Token.signs_space]
  exact single.stops_body illegible _ _ _

end Interface

/-- A type of a function has no slash behind its first word. -/
theorem Function.stops_parseType {first : Sign} {tail : List Sign}
    (opener : first.kind ∈ [Token.Kind.keyword .func, .keyword .async])
    (slash : front tail = .mark .slash) (name : Identifier) (docs : Documentation) :
    Stops (parseType name docs) (first :: tail) := by
  obtain ⟨kind, value, lines⟩ := first
  have noWord : Stops (Parser.keyword .func) tail := Parser.stops_keyword (by rw [slash]; decide)
  have noList : Stops Parameter.list tail := (Parser.stops_mark (by rw [slash]; decide)).bind
  simp only [List.mem_cons, List.not_mem_nil, or_false] at opener
  rcases opener with rfl | rfl
  · refine (reads_accept_of_ne ?_).stops ?_
    · simp [front]
    · exact (Parser.takes_expect _ _ _ _).reads.stops noList.bind
  · exact (Parser.takes_accept _ _ _ _).reads.stops noWord.bind

namespace WorldItem

/-- An interface in place that is not legible is refused. -/
theorem stops_inline {interface : Interface} (single : interface.SingleLines)
    (illegible : ¬ interface.Legible) (name : Identifier) (docs : Documentation)
    (rest : List Char) :
    Stops (WorldItem.parser docs)
      (signs [] ((inline name interface).body layout depth ++ rest)) := by
  rw [body_inline]
  apply stops_front
  intro token _
  apply (name.takes_written _ _ [] (by simp; decide)).reads.stops
  refine (reads_accept_of_ne ?_).stops ?_
  · rw [Parser.front_mark [] _ (show Token.Mark.lone? ':' = some _ from rfl)]
    decide
  apply (takes_mark [] _ rfl).reads.stops
  rw [Token.signs_space, Token.signs_keyword .interface [] (by simp; decide), Token.signs_space]
  apply stops_front
  intro token same
  simp only [show token.kind = .keyword .interface from same]
  apply (takes_advance _ _).reads.stops
  exact (single.stops_body illegible _ _ _).bind

/-- The path of another package is refused behind the word for its direction unless the item is
legible. -/
theorem stops_external {name : Identifier} {vendor package : KebabName} {interface : Identifier}
    {version : Option Version}
    (illegible : ¬ (external name (.external vendor package interface version)).Legible)
    (docs : Documentation) (rest : List Char) :
    Stops (WorldItem.parser docs)
      (signs [] ((external name (.external vendor package interface version)).body layout depth ++
        rest)) := by
  rw [body_external, Token.signs_name vendor [] (by simp; decide)]
  apply stops_front
  intro token _
  by_cases plain : Token.Kind.ofWord vendor.text = .identifier
  · rw [plain]
    apply (Parser.takes_identifier_bare _ _).reads.stops
    refine (reads_accept_of_ne ?_).stops ?_
    · rw [Parser.front_mark [] _ (show Token.Mark.lone? ':' = some _ from rfl)]
      decide
    refine (takes_mark [] _ rfl).reads.stops (stops_front fun token same => ?_)
    obtain ⟨tail, begun, slash⟩ :=
      UsePath.signs_writtenExternal package interface version (';' :: '\n' :: rest)
    have word : token.kind = .ofWord package.text := by rw [same, begun]; rfl
    -- The three words that open something else do so for a package of that name as well.
    split
    · next opener =>
      have noBlock : Stops (Interface.parseBody ⟨false, vendor⟩ docs) tail :=
        (Parser.stops_mark (by rw [slash]; decide)).bind
      rw [begun]
      exact (takes_advance _ _).reads.stops noBlock.bind
    · next opener =>
      rw [begun]
      exact (Function.stops_parseType (by simp [← word, opener]) slash _ _).bind
    · next opener =>
      rw [begun]
      exact (Function.stops_parseType (by simp [← word, opener]) slash _ _).bind
    · next notInterface notFunc notAsync =>
      have apart : Token.Kind.ofWord package.text ∉ openers := by
        rw [← word]
        simpa [openers] using ⟨notInterface, notFunc, notAsync⟩
      have unreserved : Token.Kind.isReserved vendor.text = false := by
        simp [Token.Kind.isReserved, plain]
      have path : ¬ (UsePath.external vendor package interface version).Legible :=
        fun readable => illegible ⟨readable, unreserved, apart⟩
      simp only [Identifier.text, Bool.false_eq_true, ↓reduceIte, KebabName.ofText_text]
      refine (UsePath.strays_writtenExternal path (by simp; decide)).bind ?_
      exact fun _ _ stray => stray.stops_semicolon.bind
  · apply Stops.bind
    exact Parser.stops_identifier _ plain (Token.Kind.ofWord_ne_mark _ _)

/-- A world item that is not legible is refused behind the word for its direction. -/
theorem SingleLines.stops_body {item : WorldItem} (single : item.SingleLines)
    (illegible : ¬ item.Legible) (docs : Documentation) (rest : List Char) :
    Stops (WorldItem.parser docs) (signs [] (item.body layout depth ++ rest)) := by
  cases item with
  | inline name interface => exact stops_inline single illegible name docs rest
  | external name path =>
    cases path with
    | sibling found => exact absurd trivial illegible
    | external vendor package interface version => exact stops_external illegible docs rest
  | function found => exact absurd single illegible

/-- The documentation of the item itself has no newline in a line. -/
theorem SingleLines.docs {item : WorldItem} (single : item.SingleLines) :
    item.docs.SingleLines := by
  cases item with
  | inline name interface => exact Interface.SingleLines.docs single
  | external name path => exact nofun
  | function found => exact single

end WorldItem

/-- Whether no line of documentation in a member of a world holds a newline; an inclusion is not
written. -/
def WorldMember.SingleLines : WorldMember → Prop
  | imported item | exported item => item.SingleLines
  | use _ => True
  | included => False

namespace WorldMember

/-- No member begins with a closing brace. -/
theorem SingleLines.front_ne {member : WorldMember} (single : member.SingleLines)
    (rest : List Char) :
    Token.front (signs [] (Line.chars layout depth (member.lineList layout) ++ rest)) ≠
      .mark .rightBrace := by
  cases member with
  | imported item =>
    rw [lineList, item.signs_lineList layout _ depth rest (WorldItem.SingleLines.docs single)]
    simp [Token.front]
  | exported item =>
    rw [lineList, item.signs_lineList layout _ depth rest (WorldItem.SingleLines.docs single)]
    simp [Token.front]
  | use found =>
    obtain ⟨tail, begun⟩ := found.signs_lineList layout depth rest
    rw [lineList, begun]
    simp [Token.front]
  | included => exact absurd single id

/-- A member that is not legible is refused. -/
theorem SingleLines.stops_lineList {member : WorldMember} (single : member.SingleLines)
    (illegible : ¬ member.Legible) (rest : List Char) :
    Stops parser (signs [] (Line.chars layout depth (member.lineList layout) ++ rest)) := by
  cases member with
  | imported item =>
    rw [lineList, item.signs_lineList layout _ depth rest (WorldItem.SingleLines.docs single)]
    refine (Parser.reads_docs _ _).stops (stops_front fun token same => ?_)
    simp only [show token.kind = .keyword .importWord from same]
    apply (takes_advance _ _).reads.stops
    exact (WorldItem.SingleLines.stops_body single illegible _ _).bind
  | exported item =>
    rw [lineList, item.signs_lineList layout _ depth rest (WorldItem.SingleLines.docs single)]
    refine (Parser.reads_docs _ _).stops (stops_front fun token same => ?_)
    simp only [show token.kind = .keyword .exportWord from same]
    apply (takes_advance _ _).reads.stops
    exact (WorldItem.SingleLines.stops_body single illegible _ _).bind
  | use found =>
    have stops := Use.stops_lineList illegible layout depth rest
    obtain ⟨tail, begun⟩ := found.signs_lineList layout depth rest
    rw [lineList]
    rw [begun] at stops ⊢
    refine (Parser.reads_docs _ _).stops (stops_front fun token same => ?_)
    simp only [show token.kind = .keyword .use from same]
    exact stops.bind
  | included => exact absurd single id

end WorldMember

namespace World

/-- The documentation of the members has no newline in a line. -/
theorem SingleLines.of_mem_members {world : World} (single : world.SingleLines)
    {member : WorldMember} (listed : member ∈ world.members) : member.SingleLines := by
  simp only [members, List.mem_append, List.mem_map] at listed
  rcases listed with (⟨use, listed, rfl⟩ | ⟨item, listed, rfl⟩) | ⟨item, listed, rfl⟩
  · trivial
  · exact single.imports item listed
  · exact single.exports item listed

/-- A world that is not legible has a member that is not. -/
theorem SingleLines.exists_member {world : World} (single : world.SingleLines)
    (illegible : ¬ world.Legible) : ∃ member ∈ world.members, ¬ member.Legible := by
  by_contra every
  push Not at every
  refine illegible ⟨single.docs, fun item listed => ?_, fun item listed => ?_,
    fun use listed => ?_⟩
  · exact every (.imported item) (by simp [members, listed])
  · exact every (.exported item) (by simp [members, listed])
  · exact every (.use use) (by simp [members, listed])

/-- A world that is not legible is refused. -/
theorem SingleLines.stops_lineList {world : World} (single : world.SingleLines)
    (illegible : ¬ world.Legible) (layout : Layout) (depth : Nat) (rest : List Char) :
    Stops World.parser (signs [] (Line.chars layout depth (world.lineList layout) ++ rest)) := by
  rw [world.signs_lineList layout depth rest single.docs]
  apply (Parser.reads_docs _ _).stops
  apply (Parser.takes_expect _ _ _ _).reads.stops
  apply (world.name.takes_written _ _ [] (by simp; decide)).reads.stops
  rw [Token.signs_space]
  apply (takes_mark [] _ rfl).reads.stops
  rw [Token.signs_newline]
  apply Stops.bind
  exact Parser.stops_itemsUntil
    (fun member listed => (single.of_mem_members listed).front_ne)
    (fun member _ legible tail => member.takes_lineList layout (depth + 1) tail legible)
    (fun member listed => (single.of_mem_members listed).stops_lineList)
    (single.exists_member illegible)

end World

/-- A header whose version is not plain is refused. -/
theorem PackageHeader.stops_lineList {header : PackageHeader} (single : header.docs.SingleLines)
    (odd : ¬ ∀ version ∈ header.version, version.Plain) (rest : List Char) :
    Stops PackageHeader.parser
      (signs [] (Line.chars layout depth (header.lineList layout) ++ rest)) := by
  have within := header.takes_segments rest
  rw [header.signs_lineList layout depth rest single]
  apply (Parser.reads_docs _ _).stops
  apply (Parser.takes_expect _ _ _ _).reads.stops
  apply (header.vendor.takes_text _ _ [] (by simp; decide)).reads.stops
  apply (takes_mark [] _ rfl).reads.stops
  refine Parser.stops_get fun stream shows => ?_
  apply (within _ (by rw [shows.length_ahead]; exact Nat.lt_succ_self _)).reads.stops
  refine (Version.strays_optional odd _).bind fun version text stray => ?_
  exact stray.stops_semicolon.bind

/-- Whether no line of documentation in an item of a package holds a newline. -/
def PackageItem.SingleLines : PackageItem → Prop
  | interface found => found.SingleLines
  | world found => found.SingleLines
  | use _ => True

namespace PackageItem

/-- The documentation of the item itself has no newline in a line. -/
theorem SingleLines.docs {item : PackageItem} (single : item.SingleLines) :
    item.docs.SingleLines := by
  cases item with
  | interface found => exact Interface.SingleLines.docs single
  | world found => exact World.SingleLines.docs single
  | use found => exact nofun

/-- An item that is not legible is refused. -/
theorem SingleLines.stops_chars {item : PackageItem} (single : item.SingleLines)
    (illegible : ¬ item.Legible) (rest : List Char) :
    Stops parser (signs [] (item.chars layout ++ rest)) := by
  cases item with
  | interface found =>
    have stops := Interface.SingleLines.stops_lineList single illegible layout 0 rest
    rw [chars, List.cons_append, Token.signs_newline]
    apply stops_front
    intro token same
    rw [found.signs_lineList layout 0 rest (Interface.SingleLines.docs single)] at same
    simp only [show token.kind = .keyword .interface from same]
    exact stops.bind
  | world found =>
    have stops := World.SingleLines.stops_lineList single illegible layout 0 rest
    rw [chars, List.cons_append, Token.signs_newline]
    apply stops_front
    intro token same
    rw [found.signs_lineList layout 0 rest (World.SingleLines.docs single)] at same
    simp only [show token.kind = .keyword .world from same]
    exact stops.bind
  | use found =>
    have stops := Use.stops_lineList illegible layout 0 rest
    obtain ⟨tail, begun⟩ := found.signs_lineList layout 0 rest
    rw [chars]
    apply stops_front
    intro token same
    rw [begun] at same
    simp only [show token.kind = .keyword .use from same]
    exact stops.bind

end PackageItem

namespace Package

/-- The documentation of the items has no newline in a line. -/
theorem SingleLines.of_mem_items {package : Package} (single : package.SingleLines)
    {item : PackageItem} (listed : item ∈ package.items) : item.SingleLines := by
  simp only [items, List.mem_append, List.mem_map] at listed
  rcases listed with (⟨use, listed, rfl⟩ | ⟨interface, listed, rfl⟩) | ⟨world, listed, rfl⟩
  · trivial
  · exact single.interfaces interface listed
  · exact single.worlds world listed

/-- The items of a package are refused if one of them is not legible. -/
theorem SingleLines.stops_items {package : Package} (single : package.SingleLines)
    (illegible : ∃ item ∈ package.items, ¬ item.Legible) :
    Stops (Parser.itemsUntil .endOfInput PackageItem.parser)
      (signs [] (package.items.flatMap (PackageItem.chars layout))) := by
  rw [← List.append_nil (package.items.flatMap _)]
  exact Parser.stops_itemsUntil
    (fun item listed tail => item.front_ne layout tail (single.of_mem_items listed).docs)
    (fun item _ legible tail => item.takes_chars layout tail legible)
    (fun item listed => (single.of_mem_items listed).stops_chars) illegible

/-- A package with a readable header that is not legible has an item that is not. -/
theorem SingleLines.exists_item {package : Package} (single : package.SingleLines)
    (plain : ∀ header ∈ package.header, ∀ version ∈ header.version, version.Plain)
    (illegible : ¬ package.Legible) : ∃ item ∈ package.items, ¬ item.Legible := by
  by_contra every
  push Not at every
  refine illegible ⟨fun header found => ⟨single.header header found, plain header found⟩,
    fun interface listed => ?_, fun world listed => ?_, fun use listed => ?_⟩
  · exact every (.interface interface) (by simp [items, listed])
  · exact every (.world world) (by simp [items, listed])
  · exact every (.use use) (by simp [items, listed])

/-- A written package that is not legible is refused. -/
theorem SingleLines.stops_render {package : Package} (single : package.SingleLines)
    (illegible : ¬ package.Legible) (layout : Layout) :
    Stops parser (signs [] (package.render layout).toList) := by
  rw [signs_render]
  apply (Parser.reads_check _ _).stops
  cases header : package.header with
  | none =>
    have text : package.headerChars layout = [] := by simp [headerChars, header]
    have items := single.exists_item (by simp [header]) illegible
    have other := package.front_items_ne layout fun item listed =>
      (single.of_mem_items listed).docs
    rw [text, List.nil_append, if_neg (by simpa using other)]
    exact (reads_pure _ _).stops (single.stops_items items).bind
  | some found =>
    have text : package.headerChars layout = Line.chars layout 0 (found.lineList layout) := by
      simp [headerChars, header]
    have docs := single.header found header
    have word : Token.front (signs [] (Line.chars layout 0 (found.lineList layout) ++
        package.items.flatMap (PackageItem.chars layout))) = .keyword .package := by
      rw [found.signs_lineList layout 0 _ docs]
      rfl
    rw [text, if_pos (by simpa using word)]
    by_cases plain : ∀ version ∈ found.version, version.Plain
    · have takes := found.takes_lineList layout 0
        (package.items.flatMap (PackageItem.chars layout)) docs plain
      have items := single.exists_item (by simpa [header] using plain) illegible
      exact takes.reads.stops ((reads_pure _ _).stops (single.stops_items items).bind)
    · exact (PackageHeader.stops_lineList docs plain _).bind

/-- A written package is read exactly if it is legible: if its versions are plain, no path to
another package names its interface by a reserved word without the escape, and no such path is
imported or exported with a vendor that is a reserved word or a package whose name opens an
interface or a function. -/
theorem exists_parse_render_iff (package : Package) (layout : Layout)
    (single : package.SingleLines) :
    (∃ found, parse (package.render layout) = .ok found) ↔ package.Legible := by
  refine ⟨fun ⟨found, read⟩ => ?_, fun legible => ⟨_, package.parse_render layout legible⟩⟩
  by_contra illegible
  obtain ⟨fault, ran⟩ :=
    single.stops_render illegible layout _ (TokenStream.shows_ofSource (package.render layout))
  have read : Except.map (·.1) (parser.run (.ofSource (package.render layout))) = .ok found := read
  rw [ran] at read
  contradiction

/-- A documented package with plain versions is read although its use and its import point at an
interface that is named by a reserved word, for the name has its escape. -/
theorem exists_parse_render_iff_escaped :
    let name : KebabName := ⟨"a", by decide⟩
    let path : UsePath := .external name name ⟨true, "type", by decide⟩ (some ⟨1, 0, 0, "", ""⟩)
    let package : Package :=
      { header := some ⟨name, [], name, some ⟨2, 0, 0, "", ""⟩, ⟨["A package."]⟩⟩
        worlds := [⟨⟨false, name⟩, [.external ⟨false, name⟩ path], [], [], {}⟩]
        uses := [⟨path, [], none⟩] }
    package.SingleLines ∧ package.Legible ∧ ∃ found, parse (package.render {}) = .ok found := by
  intro name path package
  have readable : path.Legible := ⟨rfl, by simp [Version.Plain]⟩
  have line : Documentation.SingleLines ⟨["A package."]⟩ := by
    simp [Documentation.SingleLines]
  have single : package.SingleLines := by
    refine ⟨by simpa [package] using line, nofun, fun world listed => ?_⟩
    obtain rfl := List.mem_singleton.1 listed
    exact ⟨nofun, by simp [WorldItem.SingleLines], nofun⟩
  have legible : package.Legible := by
    refine ⟨by simpa [package, Version.Plain] using line, nofun, fun world listed => ?_,
      by simpa [package] using readable⟩
    obtain rfl := List.mem_singleton.1 listed
    refine ⟨nofun, fun item listed => ?_, nofun, nofun⟩
    obtain rfl := List.mem_singleton.1 listed
    exact ⟨readable, rfl, by decide⟩
  exact ⟨single, legible, (exists_parse_render_iff package {} single).2 legible⟩

/-- A version with a pre-release part, a use of an interface that is named by a reserved word
without its escape, and an import from a vendor of such a name are written and are not read. -/
theorem parse_render_refused :
    let name : KebabName := ⟨"a", by decide⟩
    let type : KebabName := ⟨"type", by decide⟩
    let versioned : Package := { header := some ⟨name, [], name, some ⟨1, 0, 0, "beta", ""⟩, {}⟩ }
    let used : Package := { uses := [⟨.external name name ⟨false, type⟩ none, [], none⟩] }
    let importing : WorldItem := .external ⟨false, name⟩ (.external type name ⟨false, name⟩ none)
    let world : Package := { worlds := [⟨⟨false, name⟩, [importing], [], [], {}⟩] }
    (versioned.SingleLines ∧ versioned.render {} = "package a:a@1.0.0-beta;\n") ∧
      (used.SingleLines ∧ used.render {} = "use a:a/type;\n") ∧
      (world.SingleLines ∧ world.render {} = "world a \x7b\n    import type:a/a;\n\x7d\n") ∧
      ∀ package ∈ [versioned, used, world], (parse (package.render {})).toOption = none := by
  intro name type versioned used importing world
  refine ⟨⟨⟨?_, nofun, nofun⟩, by decide +kernel⟩, ⟨⟨nofun, nofun, nofun⟩, by decide +kernel⟩,
    ⟨⟨nofun, nofun, fun world listed => ?_⟩, by decide +kernel⟩, by decide +kernel⟩
  · rintro header ⟨⟩
    exact nofun
  · obtain rfl := List.mem_singleton.1 listed
    exact ⟨nofun, by simp [importing, WorldItem.SingleLines], nofun⟩

end Package

end WitBridge
