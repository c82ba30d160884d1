import WitBridge.Proofs.Package.Worlds

/-!
# Reading written documents

A document is read as its header and the items after it, for the empty lines between its parts
change no sign. The main statement says that a legible package is read from its text as the
package that is reread.
-/
namespace WitBridge

open WitBridge.Parser (Takes Reads Closes reads_pure takes_advance takes_mark takes_accept_mark
  reads_accept_of_ne takes_keyword takes_accept_keyword)
open Token (signs Loose Keyword)

variable {rest : List Char} {layout : Layout}

namespace PackageHeader

/-- The segments of a package name as they are written behind the vendor. -/
def writtenSegments (nested : List KebabName) (last : KebabName) : String :=
  String.join (nested.map (·.text ++ "/")) ++ last.text

/-- The written segments of a package name begin with neither a slash nor a star. -/
theorem head_writtenSegments (nested : List KebabName) (last : KebabName) (rest : List Char) :
    ∀ d ∈ ((writtenSegments nested last).toList ++ rest).head?, d ≠ '/' ∧ d ≠ '*' := by
  cases nested with
  | nil => simpa [writtenSegments] using last.head_text rest
  | cons first more =>
    have shape : (writtenSegments (first :: more) last).toList ++ rest =
        first.text.toList ++ ('/' :: ((writtenSegments more last).toList ++ rest)) := by
      simp [writtenSegments]
    rw [shape]
    exact first.head_text _

/-- The written segments of a package name are read, with enough fuel. -/
theorem takes_segmentsWithin (nested : List KebabName) (last : KebabName) (fuel : Nat)
    (loose : Loose rest) (other : Token.front (signs [] rest) ≠ .mark .slash)
    (enough : (signs [] ((writtenSegments nested last).toList ++ rest)).length < fuel) :
    Takes (segments fuel) (signs [] ((writtenSegments nested last).toList ++ rest))
      (nested, last) (signs [] rest) := by
  induction nested generalizing fuel with
  | nil =>
    obtain ⟨fuel, rfl⟩ := Nat.exists_eq_add_one_of_ne_zero (Nat.ne_zero_of_lt enough)
    rw [show writtenSegments [] last = last.text by simp [writtenSegments]]
    refine .bind (last.takes_text _ _ [] loose) ?_
    exact .bind (reads_accept_of_ne other) (reads_pure _ _)
  | cons first more ih =>
    obtain ⟨fuel, rfl⟩ := Nat.exists_eq_add_one_of_ne_zero (Nat.ne_zero_of_lt enough)
    have shape : (writtenSegments (first :: more) last).toList ++ rest =
        first.text.toList ++ '/' :: ((writtenSegments more last).toList ++ rest) := by
      simp [writtenSegments]
    rw [shape] at enough ⊢
    have word : Takes (Parser.word "package name" .package)
        (signs [] (first.text.toList ++ '/' :: ((writtenSegments more last).toList ++ rest))) first
        (signs [] ('/' :: ((writtenSegments more last).toList ++ rest))) :=
      first.takes_text _ _ [] (by simp; decide)
    have slash := Parser.takes_accept_slash [] (head_writtenSegments more last rest)
    have others := ih fuel (Nat.lt_of_lt_of_le slash.length_lt
      (Nat.le_trans (Nat.le_of_lt word.length_lt) (Nat.le_of_lt_succ enough)))
    exact word.bind (slash.reads.bind (others.reads.bind (reads_pure _ _)))

/-- The lines of a header begin with its keyword, and the vendor and the segments follow. -/
theorem signs_lineList (header : PackageHeader) (layout : Layout) (depth : Nat) (rest : List Char)
    (single : header.docs.SingleLines) :
    signs [] (Line.chars layout depth (header.lineList layout) ++ rest) =
      ⟨.keyword .package, Keyword.package.spelling, (header.docs.reread layout).lines⟩ ::
        signs [] (header.vendor.text.toList ++ ':' ::
          ((writtenSegments header.nested header.name).toList ++
            ((Version.writtenOption header.version).toList ++ ';' :: '\n' :: rest))) := by
  have shape : header.lineList layout = header.docs.lineList layout ++ [.flush ("package " ++
      header.vendor.text ++ ":" ++ writtenSegments header.nested header.name ++
        Version.writtenOption header.version ++ ";")] := by
    cases version : header.version <;>
      simp [lineList, writtenSegments, Version.writtenOption, version, String.append_assoc]
  have text : ("package " ++ header.vendor.text ++ ":" ++
      writtenSegments header.nested header.name ++ Version.writtenOption header.version ++
        ";").toList ++ '\n' :: rest =
      Keyword.package.spelling.toList ++ ' ' :: (header.vendor.text.toList ++ ':' ::
        ((writtenSegments header.nested header.name).toList ++
          ((Version.writtenOption header.version).toList ++ ';' :: '\n' :: rest))) := by
    simp [Keyword.spelling]
  rw [shape, Documentation.signs_documented layout depth _ _ single, text,
    Token.signs_keyword .package _ (by simp; decide), Token.signs_space]

/-- Behind the segments of a package name may be a version and a semicolon. -/
theorem follows_semicolon (rest : List Char) : UsePath.Follows (';' :: '\n' :: rest) := by
  have front := Parser.front_mark [] ('\n' :: rest) (show Token.Mark.lone? ';' = some _ from rfl)
  exact ⟨by simp; decide, by rw [front]; decide, by rw [front]; decide⟩

/-- The written segments of a package name are read in front of a version, with enough fuel. -/
theorem takes_segments (header : PackageHeader) (rest : List Char) (fuel : Nat)
    (enough : (signs [] ((writtenSegments header.nested header.name).toList ++
      ((Version.writtenOption header.version).toList ++ ';' :: '\n' :: rest))).length < fuel) :
    Takes (segments fuel)
      (signs [] ((writtenSegments header.nested header.name).toList ++
        ((Version.writtenOption header.version).toList ++ ';' :: '\n' :: rest)))
      (header.nested, header.name)
      (signs [] ((Version.writtenOption header.version).toList ++ ';' :: '\n' :: rest)) := by
  have loose := Version.loose_writtenOption header.version (follows_semicolon rest).loose
  refine takes_segmentsWithin header.nested header.name fuel loose ?_ enough
  cases header.version with
  | none =>
    have front := Parser.front_mark [] ('\n' :: rest)
      (show Token.Mark.lone? ';' = some _ from rfl)
    simp [Version.writtenOption, front]
  | some version =>
    have front := Parser.front_mark [] (version.display.toList ++ ';' :: '\n' :: rest)
      (show Token.Mark.lone? '@' = some _ from rfl)
    simp [Version.writtenOption, front]

/-- A written header is read. -/
theorem takes_lineList (header : PackageHeader) (layout : Layout) (depth : Nat) (rest : List Char)
    (single : header.docs.SingleLines) (plain : ∀ version ∈ header.version, version.Plain) :
    Takes PackageHeader.parser
      (signs [] (Line.chars layout depth (header.lineList layout) ++ rest))
      (header.reread layout) (signs [] rest) := by
  have within := header.takes_segments rest
  have optional := Version.reads_optional header.version plain (follows_semicolon rest)
  have semicolon := Parser.takes_semicolon rest
  rw [header.signs_lineList layout depth rest single]
  refine .after (Parser.reads_docs _ _) (.bind (Parser.takes_expect _ _ _ _) ?_)
  apply (header.vendor.takes_text _ _ [] (by simp; decide)).reads.bind
  apply (takes_mark [] _ rfl).reads.bind
  refine Parser.reads_get (fun stream shows => ?_) ?_
  · apply (within _ (by rw [shows.length_ahead]; exact Nat.lt_succ_self _)).reads.bind
    exact optional.bind (semicolon.reads.bind (reads_pure _ _))
  · exact Nat.le_trans semicolon.reads.length_le (Nat.le_trans optional.length_le
      (within _ (Nat.lt_succ_self _)).reads.length_le)

end PackageHeader

namespace PackageItem

/-- The characters of an item; an interface or a world has an empty line in front. -/
def chars (layout : Layout) : PackageItem → List Char
  | interface found => '\n' :: Line.chars layout 0 (found.lineList layout)
  | world found => '\n' :: Line.chars layout 0 (found.lineList layout)
  | use found => Line.chars layout 0 found.lineList

/-- An item as it is read. -/
def reread (layout : Layout) : PackageItem → PackageItem
  | interface found => interface (found.reread layout)
  | world found => world (found.reread layout)
  | use found => use found.reread

/-- Whether an item can be read. -/
def Legible : PackageItem → Prop
  | interface found => found.Legible
  | world found => found.Legible
  | use found => found.path.Legible

/-- The documentation of an item. -/
def docs : PackageItem → Documentation
  | interface found => found.docs
  | world found => found.docs
  | use _ => {}

/-- The documentation of a legible item has no newline in a line. -/
theorem Legible.single {item : PackageItem} (legible : item.Legible) : item.docs.SingleLines := by
  cases item with
  | interface found => exact Interface.Legible.docs legible
  | world found => exact World.Legible.docs legible
  | use found => exact nofun

/-- A written item begins with one of three words. -/
theorem front_mem (item : PackageItem) (layout : Layout) (rest : List Char)
    (single : item.docs.SingleLines) :
    Token.front (signs [] (item.chars layout ++ rest)) ∈
      [Token.Kind.keyword .interface, Token.Kind.keyword .world, Token.Kind.keyword .use] := by
  cases item with
  | interface found =>
    rw [chars, List.cons_append, Token.signs_newline, found.signs_lineList layout 0 rest single]
    exact List.mem_cons_self
  | world found =>
    rw [chars, List.cons_append, Token.signs_newline, found.signs_lineList layout 0 rest single]
    exact List.mem_cons_of_mem _ List.mem_cons_self
  | use found =>
    obtain ⟨tail, begun⟩ := found.signs_lineList layout 0 rest
    rw [chars, begun]
    exact List.mem_cons_of_mem _ (List.mem_cons_of_mem _ List.mem_cons_self)

/-- A written item is not the end of the text. -/
theorem front_ne (item : PackageItem) (layout : Layout) (rest : List Char)
    (single : item.docs.SingleLines) :
    Token.front (signs [] (item.chars layout ++ rest)) ≠ .endOfInput := by
  intro same
  have words := item.front_mem layout rest single
  rw [same] at words
  exact absurd words (by decide)

/-- A written item is read. -/
theorem takes_chars (item : PackageItem) (layout : Layout) (rest : List Char)
    (legible : item.Legible) :
    Takes parser (signs [] (item.chars layout ++ rest)) (item.reread layout) (signs [] rest) := by
  cases item with
  | interface found =>
    have takes := found.takes_lineList layout 0 rest legible
    rw [chars, List.cons_append, Token.signs_newline]
    apply Parser.takes_front
    intro token same
    simp only [same, takes.front_keyword]
    exact takes.bind (reads_pure _ _)
  | world found =>
    have takes := found.takes_lineList layout 0 rest legible
    rw [chars, List.cons_append, Token.signs_newline]
    apply Parser.takes_front
    intro token same
    simp only [same, takes.front_keyword]
    exact takes.bind (reads_pure _ _)
  | use found =>
    have takes := found.takes_lineList layout 0 rest legible
    obtain ⟨tail, begun⟩ := found.signs_lineList layout 0 rest
    rw [chars]
    rw [begun] at takes ⊢
    apply Parser.takes_current
    intro token same
    simp only [show token.kind = .keyword .use from congrArg Token.Sign.kind same]
    exact takes.bind (reads_pure _ _)

end PackageItem

namespace Package

/-- The items of a package in the order in which they are written. -/
def items (package : Package) : List PackageItem :=
  package.uses.map .use ++ package.interfaces.map .interface ++ package.worlds.map .world

/-- The items of a legible package can be read. -/
theorem Legible.of_mem_items {package : Package} (legible : package.Legible) {item : PackageItem}
    (listed : item ∈ package.items) : item.Legible := by
  simp only [items, List.mem_append, List.mem_map] at listed
  rcases listed with (⟨use, listed, rfl⟩ | ⟨interface, listed, rfl⟩) | ⟨world, listed, rfl⟩
  · exact legible.uses use listed
  · exact legible.interfaces interface listed
  · exact legible.worlds world listed

/-- The interfaces, worlds and uses among the items. -/
theorem filterMap_items (package : Package) (layout : Layout) :
    (package.items.map (PackageItem.reread layout)).filterMap (·.interface?) =
        package.interfaces.map (Interface.reread layout) ∧
      (package.items.map (PackageItem.reread layout)).filterMap (·.world?) =
        package.worlds.map (World.reread layout) ∧
      (package.items.map (PackageItem.reread layout)).filterMap (·.use?) =
        package.uses.map Use.reread := by
  refine ⟨?_, ?_, ?_⟩ <;>
    simp [items, List.filterMap_map, Function.comp_def, PackageItem.reread,
      PackageItem.interface?, PackageItem.world?, PackageItem.use?]

/-- The characters of the header. -/
def headerChars (layout : Layout) (package : Package) : List Char :=
  Line.chars layout 0 (package.header.toList.flatMap (PackageHeader.lineList layout))

/-- The empty lines between the parts of a text change no sign, wherever they stand. -/
theorem signs_intercalate (parts : List (List Char)) (rest : List Char) :
    signs [] (List.intercalate ['\n'] parts ++ rest) =
      signs [] (parts.flatMap ('\n' :: ·) ++ rest) := by
  cases parts with
  | nil => rfl
  | cons first more =>
    have shape : List.intercalate ['\n'] (first :: more) = first ++ more.flatMap ('\n' :: ·) := by
      induction more generalizing first with
      | nil => simp
      | cons second more ih => simp [List.intercalate_cons_cons, ih]
    rw [shape, List.flatMap_cons, List.cons_append, List.cons_append, Token.signs_newline]

/-- The lines of the interfaces and worlds, part by part. -/
def parts (layout : Layout) (package : Package) : List (List Line) :=
  package.interfaces.map (Interface.lineList layout) ++ package.worlds.map (World.lineList layout)

/-- No interface or world is without lines. -/
theorem ne_nil_of_mem_parts {package : Package} {lines : List Line}
    (listed : lines ∈ package.parts layout) : lines ≠ [] := by
  simp only [parts, List.mem_append, List.mem_map] at listed
  rcases listed with ⟨interface, -, rfl⟩ | ⟨world, -, rfl⟩
  · simp [Interface.lineList, Line.block]
  · simp [World.lineList, Line.block]

/-- The characters of some sections are those of their lines, an empty line between two. -/
theorem toList_intercalate_render (layout : Layout) (sections : List (List Line)) :
    ("\n".intercalate (sections.map fun lines =>
        String.join (lines.map (Line.render layout)))).toList =
      List.intercalate ['\n'] (sections.map (Line.chars layout 0)) := by
  simp only [String.toList_intercalate, List.map_map, Function.comp_def, Line.toList_join_render]
  rfl

/-- The characters of the items are those of the uses and of each part behind an empty line. -/
theorem flatMap_chars_items (package : Package) (layout : Layout) :
    package.items.flatMap (PackageItem.chars layout) =
      Line.chars layout 0 (package.uses.flatMap Use.lineList) ++
        ((package.parts layout).map (Line.chars layout 0)).flatMap ('\n' :: ·) := by
  simp only [items, parts, List.flatMap_append, List.flatMap_map, List.map_append, List.map_map,
    Line.chars_flatMap, List.append_assoc]
  rfl

/-- The lines before the first interface or world: those of the header and of the uses. -/
def opening (layout : Layout) (package : Package) : List Line :=
  package.header.toList.flatMap (PackageHeader.lineList layout) ++
    package.uses.flatMap Use.lineList

/-- The signs of a written package are those of its opening and of each part. -/
theorem signs_render_parts (package : Package) (layout : Layout) :
    signs [] (package.render layout).toList = signs [] (Line.chars layout 0
      (package.opening layout) ++
        ((package.parts layout).map (Line.chars layout 0)).flatMap ('\n' :: ·)) := by
  have kept : (package.parts layout).filter (· ≠ []) = package.parts layout :=
    List.filter_eq_self.2 fun lines listed => by simpa using ne_nil_of_mem_parts listed
  have sections : package.sections layout = package.opening layout :: package.parts layout := rfl
  rw [render, toList_intercalate_render, sections]
  by_cases empty : package.opening layout = []
  · have same := signs_intercalate ((package.parts layout).map (Line.chars layout 0)) []
    rw [List.append_nil, List.append_nil] at same
    rw [List.filter_cons_of_neg (by simpa using empty), kept, same, empty, Line.chars_nil,
      List.nil_append]
  · have same := signs_intercalate
      ((package.opening layout :: package.parts layout).map (Line.chars layout 0)) []
    rw [List.append_nil, List.append_nil] at same
    rw [List.filter_cons_of_pos (by simpa using empty), kept, same, List.map_cons,
      List.flatMap_cons, List.cons_append, Token.signs_newline]

/-- The signs of a written package are those of its header and its items. -/
theorem signs_render (package : Package) (layout : Layout) :
    signs [] (package.render layout).toList =
      signs [] (package.headerChars layout ++
        package.items.flatMap (PackageItem.chars layout)) := by
  rw [signs_render_parts, opening, Line.chars_append, List.append_assoc, ← flatMap_chars_items]
  rfl

/-- The items of a package do not begin with the word of a header. -/
theorem front_items_ne (package : Package) (layout : Layout)
    (single : ∀ item ∈ package.items, item.docs.SingleLines) :
    Token.front (signs [] (package.items.flatMap (PackageItem.chars layout))) ≠
      .keyword .package := by
  cases listed : package.items with
  | nil => simp [Token.front]
  | cons first more =>
    have words := first.front_mem layout (more.flatMap (PackageItem.chars layout))
      (single first (by simp [listed]))
    intro same
    rw [← List.flatMap_cons, same] at words
    exact absurd words (by decide)

/-- The written items of a legible package are read behind its header. -/
theorem Legible.reads_items {package : Package} (legible : package.Legible) (layout : Layout)
    (header : Option PackageHeader) :
    Reads (do
        let items ← Parser.itemsUntil .endOfInput PackageItem.parser
        return (⟨header, items.filterMap (·.interface?), items.filterMap (·.world?),
          items.filterMap (·.use?)⟩ : Package))
      (signs [] (package.items.flatMap (PackageItem.chars layout)))
      ⟨header, package.interfaces.map (Interface.reread layout),
        package.worlds.map (World.reread layout), package.uses.map Use.reread⟩
      (signs [] []) := by
  have ended : Token.front (signs [] []) = .endOfInput := by rw [Token.signs_nil]; rfl
  have each : ∀ item ∈ package.items, ∀ tail,
      Takes PackageItem.parser (signs [] (item.chars layout ++ tail)) (item.reread layout)
          (signs [] tail) ∧
        Token.front (signs [] (item.chars layout ++ tail)) ≠ .endOfInput := by
    intro item listed tail
    have readable := legible.of_mem_items listed
    exact ⟨item.takes_chars layout tail readable, item.front_ne layout tail readable.single⟩
  have items := Parser.reads_itemsUntil each ended
  obtain ⟨interfaces, worlds, uses⟩ := package.filterMap_items layout
  rw [List.append_nil] at items
  apply items.bind
  rw [interfaces, worlds, uses]
  exact reads_pure _ _

/-- A written package is read to its end. -/
theorem Legible.reads_render {package : Package} (legible : package.Legible) (layout : Layout) :
    Reads parser (signs [] (package.render layout).toList) (package.reread layout)
      (signs [] []) := by
  rw [signs_render]
  apply (Parser.reads_check _ _).bind
  cases header : package.header with
  | none =>
    have text : package.headerChars layout = [] := by simp [headerChars, header]
    have other := package.front_items_ne layout fun item listed =>
      (legible.of_mem_items listed).single
    rw [text, List.nil_append, if_neg (by simpa using other), reread, header]
    exact legible.reads_items layout none
  | some found =>
    obtain ⟨single, plain⟩ := legible.header found header
    have takes := found.takes_lineList layout 0
      (package.items.flatMap (PackageItem.chars layout)) single plain
    have text : package.headerChars layout = Line.chars layout 0 (found.lineList layout) := by
      simp [headerChars, header]
    rw [text, if_pos (by simpa using takes.front_keyword), reread, header]
    exact takes.reads.bind (legible.reads_items layout _)

/-- A written package is read as the package that is reread. -/
theorem parse_render (package : Package) (layout : Layout) (legible : package.Legible) :
    parse (package.render layout) = .ok (package.reread layout) := by
  obtain ⟨rest, ran, -⟩ := (legible.reads_render layout).run _ (TokenStream.shows_ofSource _)
  change Except.map _ (parser.run _) = _
  rw [ran]
  rfl

end Package

end WitBridge
