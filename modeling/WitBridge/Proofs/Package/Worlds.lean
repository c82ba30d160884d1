import WitBridge.Proofs.Package.Definitions

/-!
# Reading written worlds

What stands behind the name of a world item tells what the item is: nothing, an interface in
place, a function, or the path of another package. A world is read as its members in the order
in which they are written.
-/
namespace WitBridge

open WitBridge.Parser (Takes Reads Closes reads_pure takes_advance takes_mark takes_accept_mark
  reads_accept_of_ne takes_keyword takes_accept_keyword)
open Token (signs Loose Keyword)

variable {rest : List Char} {layout : Layout}

namespace WorldItem

/-- The text of a world item behind the word for its direction: the lines of its documentation are
before that word. -/
def docs : WorldItem → Documentation
  | inline _ interface => interface.docs
  | external _ _ => {}
  | function found => found.docs

/-- What stands behind the word for the direction of a world item, with its lines set in. -/
def body (layout : Layout) (depth : Nat) : WorldItem → List Char
  | external _ path => path.written.toList ++ [';', '\n']
  | inline name interface =>
    name.written.toList ++ ':' :: ' ' :: (Keyword.interface.spelling.toList ++ ' ' :: '\x7b' ::
      '\n' :: (Line.chars layout (depth + 1) (interface.memberLines layout) ++
        (List.replicate (depth * layout.indent) ' ' ++ ['\x7d', '\n'])))
  | function found => found.signature.toList ++ [';', '\n']

/-- The documentation of a legible item has no newline in a line. -/
theorem Legible.single {item : WorldItem} (legible : item.Legible) : item.docs.SingleLines := by
  cases item with
  | inline name interface => exact Interface.Legible.docs legible
  | external name path => exact fun _ member => absurd member (by simp [docs])
  | function found => exact legible

/-- A world item is its documentation, the word for its direction, and what stands behind it. -/
theorem signs_lineList (item : WorldItem) (layout : Layout) (k : Keyword) (depth : Nat)
    (rest : List Char) (single : item.docs.SingleLines) :
    signs [] (Line.chars layout depth (item.lineList layout k.spelling) ++ rest) =
      ⟨.keyword k, k.spelling, (item.docs.reread layout).lines⟩ ::
        signs [] (item.body layout depth ++ rest) := by
  have loose : ∀ tail, Loose (' ' :: tail) := fun tail => by simp; decide
  cases item with
  | inline name interface =>
    have shape : ∀ tail,
        (k.spelling ++ " " ++ name.written ++ ": interface").toList ++ ' ' :: tail =
        k.spelling.toList ++ ' ' :: (name.written.toList ++ ':' :: ' ' ::
          (Keyword.interface.spelling.toList ++ ' ' :: tail)) := by simp [Keyword.spelling]
    have single : interface.docs.SingleLines := single
    rw [lineList, Line.chars_append, List.append_assoc,
      Documentation.signs_lineList layout depth _ single, Line.signs_chars_block, shape,
      Token.signs_keyword k _ (loose _), Token.signs_space]
    simp [body, docs]
  | external name path =>
    have shape : (k.spelling ++ " " ++ path.written ++ ";").toList ++ '\n' :: rest =
        k.spelling.toList ++ ' ' :: (path.written.toList ++ ';' :: '\n' :: rest) := by simp
    have empty : (docs (external name path)).reread layout = {} := by
      simp [docs, Documentation.reread]
    rw [lineList, Line.signs_chars_flush, shape, Token.signs_keyword k _ (loose _),
      Token.signs_space, empty]
    simp [body]
  | function found =>
    have shape : (k.spelling ++ " " ++ found.signature ++ ";").toList ++ '\n' :: rest =
        k.spelling.toList ++ ' ' :: (found.signature.toList ++ ';' :: '\n' :: rest) := by simp
    have single : found.docs.SingleLines := single
    rw [lineList, Documentation.signs_documented layout depth _ _ single, shape,
      Token.signs_keyword k _ (loose _), Token.signs_space]
    simp [body, docs]

/-- An interface in place is a name, a colon and the block of the interface. -/
theorem body_inline (name : Identifier) (interface : Interface) (layout : Layout) (depth : Nat)
    (rest : List Char) :
    (inline name interface).body layout depth ++ rest =
      name.written.toList ++ ':' :: ' ' :: (Keyword.interface.spelling.toList ++ ' ' :: '\x7b' ::
        '\n' :: (Line.chars layout (depth + 1) (interface.memberLines layout) ++
          (List.replicate (depth * layout.indent) ' ' ++ '\x7d' :: '\n' :: rest))) := by
  simp [body]

/-- An interface of another package is the vendor, a colon and the rest of the path. -/
theorem body_external (name : Identifier) (vendor package : KebabName) (interface : Identifier)
    (version : Option Version) (layout : Layout) (depth : Nat) (rest : List Char) :
    (external name (.external vendor package interface version)).body layout depth ++ rest =
      vendor.text.toList ++ ':' ::
        ((UsePath.writtenExternal package interface version).toList ++ ';' :: '\n' :: rest) := by
  simp [body, ← UsePath.toList_written_external]

/-- An interface spelled out in place is read behind the word for its direction. -/
theorem takes_inline (name : Identifier) (interface : Interface) (layout : Layout) (depth : Nat)
    (rest : List Char) (legible : interface.Legible) :
    Takes (WorldItem.parser (interface.docs.reread layout))
      (signs [] ((inline name interface).body layout depth ++ rest))
      ((inline name interface).reread layout) (signs [] rest) := by
  rw [body_inline]
  have loose : Loose (' ' :: '\x7b' :: '\n' ::
      (Line.chars layout (depth + 1) (interface.memberLines layout) ++
        (List.replicate (depth * layout.indent) ' ' ++ '\x7d' :: '\n' :: rest))) := by
    simp; decide
  apply Parser.takes_front
  intro token _
  refine .bind (name.takes_written _ _ [] (by simp; decide)) ?_
  refine .bind (reads_accept_of_ne ?_) ?_
  · rw [Parser.front_mark [] _ (show Token.Mark.lone? ':' = some _ from rfl)]
    decide
  apply (takes_mark [] _ rfl).reads.bind
  rw [Token.signs_space, Token.signs_keyword .interface [] loose, Token.signs_space]
  apply Parser.reads_current
  intro token same
  simp only [show token.kind = .keyword .interface from congrArg Token.Sign.kind same]
  apply (takes_advance _ _).reads.bind
  exact (interface.takes_body _ _ layout depth rest legible).reads.bind (reads_pure _ _)

/-- A function is read behind the word for its direction. -/
theorem takes_function (found : Function) (layout : Layout) (depth : Nat) (rest : List Char) :
    Takes (WorldItem.parser (found.docs.reread layout))
      (signs [] ((function found).body layout depth ++ rest))
      ((function found).reread layout) (signs [] rest) := by
  have shape : (function found).body layout depth ++ rest = found.name.written.toList ++
      ':' :: ' ' :: (found.writtenType.toList ++ ';' :: '\n' :: rest) := by
    simp [body, Function.signature]
  have typed := found.takes_writtenType found.name.settled (found.docs.reread layout)
    (show Closes (';' :: '\n' :: rest) by simp [Parser.closers])
  have front := found.front_writtenType [] (';' :: '\n' :: rest)
  rw [shape]
  apply Parser.takes_front
  intro token _
  refine .bind (found.name.takes_written _ _ [] (by simp; decide)) ?_
  refine .bind (reads_accept_of_ne ?_) ?_
  · rw [Parser.front_mark [] _ (show Token.Mark.lone? ':' = some _ from rfl)]
    decide
  apply (takes_mark [] _ rfl).reads.bind
  rw [Token.signs_space]
  apply Parser.reads_front
  intro token same
  rw [front] at same
  cases isAsync : found.isAsync with
  | true =>
    simp only [same, isAsync, ↓reduceIte]
    exact typed.reads.bind ((Parser.takes_semicolon rest).reads.bind (reads_pure _ _))
  | false =>
    simp only [same, isAsync, Bool.false_eq_true, ↓reduceIte]
    exact typed.reads.bind ((Parser.takes_semicolon rest).reads.bind (reads_pure _ _))

/-- An interface of the same package is read behind the word for its direction. -/
theorem takes_sibling (name found : Identifier) (layout : Layout) (depth : Nat)
    (rest : List Char) :
    Takes (WorldItem.parser {})
      (signs [] ((external name (.sibling found)).body layout depth ++ rest))
      ((external name (.sibling found)).reread layout) (signs [] rest) := by
  have shape : (external name (.sibling found)).body layout depth ++ rest =
      found.written.toList ++ ';' :: '\n' :: rest := by simp [body, UsePath.written]
  have semicolon := takes_accept_mark [] ('\n' :: rest)
    (show Token.Mark.lone? ';' = some _ from rfl)
  rw [Token.signs_newline] at semicolon
  rw [shape]
  apply Parser.takes_front
  intro token _
  refine .bind (found.takes_written _ _ [] (by simp; decide)) ?_
  exact semicolon.reads.bind (reads_pure _ _)

/-- The path of another package is read behind the word for its direction. -/
theorem takes_external (name : Identifier) (vendor package : KebabName) (interface : Identifier)
    (version : Option Version) (layout : Layout) (depth : Nat) (rest : List Char)
    (legible : (external name (.external vendor package interface version)).Legible) :
    Takes (WorldItem.parser {})
      (signs [] ((external name (.external vendor package interface version)).body layout depth ++
        rest))
      ((external name (.external vendor package interface version)).reread layout)
      (signs [] rest) := by
  obtain ⟨readable, unreserved, apart⟩ := legible
  have follows : UsePath.Follows (';' :: '\n' :: rest) := by
    have front := Parser.front_mark [] ('\n' :: rest)
      (show Token.Mark.lone? ';' = some _ from rfl)
    exact ⟨by simp; decide, by rw [front]; decide, by rw [front]; decide⟩
  have plain : Token.Kind.ofWord vendor.text = .identifier := by
    simpa [Token.Kind.isReserved] using unreserved
  have tail := UsePath.takes_external vendor package interface version readable follows
  rw [body_external, Token.signs_name vendor [] (by simp; decide), plain]
  apply Parser.takes_front
  intro token _
  refine .bind (Parser.takes_identifier_bare _ _) ?_
  refine .bind (reads_accept_of_ne ?_) ?_
  · rw [Parser.front_mark [] _ (show Token.Mark.lone? ':' = some _ from rfl)]
    decide
  refine (takes_mark [] _ rfl).reads.bind (Parser.reads_front fun token same => ?_)
  -- The package name is not one of the words that open a function or an interface.
  rw [← UsePath.front_writtenExternal package interface version (';' :: '\n' :: rest), ← same]
    at apart
  split
  · next opener => exact absurd (by simp [openers, opener]) apart
  · next opener => exact absurd (by simp [openers, opener]) apart
  · next opener => exact absurd (by simp [openers, opener]) apart
  · simp only [Identifier.text, Bool.false_eq_true, ↓reduceIte, KebabName.ofText_text]
    exact tail.reads.bind ((Parser.takes_semicolon rest).reads.bind (reads_pure _ _))

/-- A world item is read behind the word for its direction. -/
theorem takes_body (item : WorldItem) (layout : Layout) (depth : Nat) (rest : List Char)
    (legible : item.Legible) :
    Takes (WorldItem.parser (item.docs.reread layout))
      (signs [] (item.body layout depth ++ rest)) (item.reread layout) (signs [] rest) := by
  cases item with
  | inline name interface => exact takes_inline name interface layout depth rest legible
  | external name path =>
    have empty : (docs (external name path)).reread layout = {} := by
      simp [docs, Documentation.reread]
    rw [empty]
    cases path with
    | sibling found => exact takes_sibling name found layout depth rest
    | external vendor package interface version =>
      exact takes_external name vendor package interface version layout depth rest legible
  | function found => exact takes_function found layout depth rest

end WorldItem

namespace WorldMember

/-- The lines of a member. -/
def lineList (layout : Layout) : WorldMember → List Line
  | imported item => item.lineList layout Keyword.importWord.spelling
  | exported item => item.lineList layout Keyword.exportWord.spelling
  | use found => found.lineList
  | included => []

/-- A member as it is read. -/
def reread (layout : Layout) : WorldMember → WorldMember
  | imported item => imported (item.reread layout)
  | exported item => exported (item.reread layout)
  | use found => use found.reread
  | included => included

/-- Whether a member can be read: an inclusion is not written. -/
def Legible : WorldMember → Prop
  | imported item | exported item => item.Legible
  | use found => found.path.Legible
  | included => False

/-- No member begins with a closing brace. -/
theorem front_ne {before left : List Token.Sign} {member : WorldMember}
    (takes : Takes parser before member left) : Token.front before ≠ .mark .rightBrace := by
  refine takes.front_ne fun stream same result ran => ?_
  simp only [parser, Parser.docs, Parser.current, bind_pure_comp, bind_map_left, StateT.run_bind,
    StateT.run_get, pure_bind, same] at ran
  exact Parser.run_unexpected_ne_ok _ _ _ ran

/-- A written member is read. -/
theorem takes_lineList (member : WorldMember) (layout : Layout) (depth : Nat) (rest : List Char)
    (legible : member.Legible) :
    Takes parser (signs [] (Line.chars layout depth (member.lineList layout) ++ rest))
      (member.reread layout) (signs [] rest) := by
  cases member with
  | imported item =>
    rw [lineList, item.signs_lineList layout _ depth rest (WorldItem.Legible.single legible)]
    refine .after (Parser.reads_docs _ _) (Parser.takes_current fun token same => ?_)
    simp only [show token.kind = .keyword .importWord from congrArg Token.Sign.kind same]
    refine .bind (takes_advance _ _) ?_
    exact (item.takes_body layout depth rest legible).reads.bind (reads_pure _ _)
  | exported item =>
    rw [lineList, item.signs_lineList layout _ depth rest (WorldItem.Legible.single legible)]
    refine .after (Parser.reads_docs _ _) (Parser.takes_current fun token same => ?_)
    simp only [show token.kind = .keyword .exportWord from congrArg Token.Sign.kind same]
    refine .bind (takes_advance _ _) ?_
    exact (item.takes_body layout depth rest legible).reads.bind (reads_pure _ _)
  | use found =>
    have takes := found.takes_lineList layout depth rest legible
    obtain ⟨tail, begun⟩ := found.signs_lineList layout depth rest
    rw [lineList]
    rw [begun] at takes ⊢
    refine .after (Parser.reads_docs _ _) (Parser.takes_current fun token same => ?_)
    simp only [show token.kind = .keyword .use from congrArg Token.Sign.kind same]
    exact takes.bind (reads_pure _ _)
  | included => exact legible.elim

end WorldMember

namespace World

/-- The members of a world in the order in which they are written. -/
def members (world : World) : List WorldMember :=
  world.uses.map .use ++ world.imports.map .imported ++ world.exports.map .exported

/-- A world is a block of its members. -/
theorem lineList_eq (world : World) :
    world.lineList layout = world.docs.lineList layout ++
      Line.block (Keyword.world.spelling ++ " " ++ world.name.written)
        (world.members.flatMap (WorldMember.lineList layout)) := by
  simp only [lineList, members, List.flatMap_append, List.flatMap_map]
  rfl

/-- The members of a legible world can be read. -/
theorem Legible.of_mem_members {world : World} (legible : world.Legible) {member : WorldMember}
    (listed : member ∈ world.members) : member.Legible := by
  simp only [members, List.mem_append, List.mem_map] at listed
  rcases listed with (⟨use, listed, rfl⟩ | ⟨item, listed, rfl⟩) | ⟨item, listed, rfl⟩
  · exact legible.uses use listed
  · exact legible.imports item listed
  · exact legible.exports item listed

/-- The imports, exports and uses among the members. -/
theorem filterMap_members (world : World) (layout : Layout) :
    (world.members.map (WorldMember.reread layout)).filterMap (·.imported?) =
        world.imports.map (WorldItem.reread layout) ∧
      (world.members.map (WorldMember.reread layout)).filterMap (·.exported?) =
        world.exports.map (WorldItem.reread layout) ∧
      (world.members.map (WorldMember.reread layout)).filterMap (·.use?) =
        world.uses.map Use.reread := by
  refine ⟨?_, ?_, ?_⟩ <;>
    simp [members, List.filterMap_map, Function.comp_def, WorldMember.reread,
      WorldMember.imported?, WorldMember.exported?, WorldMember.use?]

/-- The lines of a world begin with its keyword, and its name and its members follow. -/
theorem signs_lineList (world : World) (layout : Layout) (depth : Nat) (rest : List Char)
    (single : world.docs.SingleLines) :
    signs [] (Line.chars layout depth (world.lineList layout) ++ rest) =
      ⟨.keyword .world, Keyword.world.spelling, (world.docs.reread layout).lines⟩ ::
        signs [] (world.name.written.toList ++ ' ' :: '\x7b' :: '\n' ::
          (world.members.flatMap (fun member =>
              Line.chars layout (depth + 1) (member.lineList layout)) ++
            (List.replicate (depth * layout.indent) ' ' ++ '\x7d' :: '\n' :: rest))) := by
  rw [lineList_eq, Line.chars_append, List.append_assoc,
    Documentation.signs_lineList layout depth _ single, Line.signs_chars_heading,
    Line.chars_flatMap]

/-- A written world is read. -/
theorem takes_lineList (world : World) (layout : Layout) (depth : Nat) (rest : List Char)
    (legible : world.Legible) :
    Takes World.parser (signs [] (Line.chars layout depth (world.lineList layout) ++ rest))
      (world.reread layout) (signs [] rest) := by
  have each : ∀ member ∈ world.members, ∀ tail,
      Takes WorldMember.parser
          (signs [] (Line.chars layout (depth + 1) (member.lineList layout) ++ tail))
          (member.reread layout) (signs [] tail) ∧
        Token.front (signs [] (Line.chars layout (depth + 1) (member.lineList layout) ++ tail)) ≠
          .mark .rightBrace := by
    intro member listed tail
    have takes := member.takes_lineList layout (depth + 1) tail (legible.of_mem_members listed)
    exact ⟨takes, WorldMember.front_ne takes⟩
  have members := Parser.reads_itemsUntil each
    (Parser.front_closingBrace (depth * layout.indent) rest)
  obtain ⟨imports, exports, uses⟩ := world.filterMap_members layout
  rw [world.signs_lineList layout depth rest legible.docs]
  refine .after (Parser.reads_docs _ _) (.bind (Parser.takes_expect _ _ _ _) ?_)
  apply (world.name.takes_written _ _ [] (by simp; decide)).reads.bind
  rw [Token.signs_space]
  apply (takes_mark [] _ rfl).reads.bind
  rw [Token.signs_newline]
  refine members.bind ((Parser.takes_closingBrace _ rest).reads.bind ?_)
  rw [imports, exports, uses]
  exact reads_pure _ _

end World

end WitBridge
