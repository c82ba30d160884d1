import WitBridge.Proofs.Package.Reading

/-!
# Reading written uses

A path is read as its own interface or as one of another package, which the colon after its first
word tells, and a use by what stands behind its path.
-/
namespace WitBridge

open WitBridge.Parser (Takes Reads Closes reads_pure takes_advance takes_mark takes_accept_mark
  reads_accept_of_ne takes_keyword takes_accept_keyword)
open Token (signs Loose Keyword)

variable {rest : List Char} {layout : Layout}

/-- Whether a text may follow a path: it makes neither its last word longer nor its version. -/
structure UsePath.Follows (rest : List Char) : Prop where
  loose : Loose rest
  notColon : Token.front (signs [] rest) ≠ .mark .colon
  notAtSign : Token.front (signs [] rest) ≠ .mark .atSign

/-- A word begins with neither a slash nor a star. -/
theorem KebabName.head_text (name : KebabName) (rest : List Char) :
    ∀ d ∈ (name.text.toList ++ rest).head?, d ≠ '/' ∧ d ≠ '*' := by
  intro d member
  have kebab := name.kebab
  cases text : name.text.toList with
  | nil => rw [text] at kebab; exact absurd kebab (by decide)
  | cons c more =>
    rw [text, List.cons_append, List.head?_cons, Option.mem_some_iff] at member
    subst member
    rw [text, isKebab, Bool.and_eq_true, Bool.and_eq_true] at kebab
    constructor <;> (rintro rfl; exact absurd kebab.1.1 (by decide))

/-- The text of a name begins with neither a slash nor a star. -/
theorem Identifier.head_text (name : Identifier) (rest : List Char) :
    ∀ d ∈ (name.text.toList ++ rest).head?, d ≠ '/' ∧ d ≠ '*' := by
  unfold text
  split
  · intro d member
    obtain rfl : '%' = d := by simpa using member
    decide
  · exact name.bare.head_text rest

/-- A written name begins with neither a slash nor a star. -/
theorem Identifier.head_written (name : Identifier) (rest : List Char) :
    ∀ d ∈ (name.written.toList ++ rest).head?, d ≠ '/' ∧ d ≠ '*' := by
  rw [written_eq]
  exact name.settled.head_text rest

/-- A word is taken as a name of a vendor or a package. -/
theorem KebabName.takes_text (name : KebabName) (what : String) (role : NameRole)
    (docs : List String) (loose : Loose rest) :
    Takes (Parser.word what role) (signs docs (name.text.toList ++ rest)) name
      (signs [] rest) := by
  rw [Token.signs_name name docs loose]
  exact Parser.takes_word what role (Token.Kind.isWord_ofWord _)

/-- A version as it is written behind a name. -/
def Version.writtenOption : Option Version → String
  | some version => "@" ++ version.display
  | none => ""

/-- A version behind a name does not make the name longer. -/
theorem Version.loose_writtenOption (version : Option Version) (loose : Loose rest) :
    Loose ((writtenOption version).toList ++ rest) := by
  cases version with
  | none => simpa [writtenOption] using loose
  | some version => simp [writtenOption]; decide

/-- A written version after an at sign is read, and nothing where there is none. -/
theorem Version.reads_optional (version : Option Version)
    (plain : ∀ found ∈ version, found.Plain) (follows : UsePath.Follows rest) :
    Reads Version.optional
      (signs [] ((writtenOption version).toList ++ rest)) version (signs [] rest) := by
  cases version with
  | none =>
    refine .bind (reads_accept_of_ne ?_) (reads_pure _ _)
    simpa [writtenOption] using follows.notAtSign
  | some version =>
    have shape : (writtenOption (some version)).toList ++ rest =
        '@' :: (version.display.toList ++ rest) := by simp [writtenOption]
    have outside : ∀ c ∈ rest.head?, c.isDigit = false := by
      intro c member
      have dark := follows.loose c member
      simp only [Token.isWordPart, Char.isAlphanum, Bool.or_eq_false_iff] at dark
      exact dark.1.1.2
    rw [shape]
    apply (takes_accept_mark [] _ rfl).reads.bind
    exact (Version.takes_display (plain version rfl) outside).reads.bind (reads_pure _ _)

namespace UsePath

/-- The path of another package as it is written behind its first colon. -/
def writtenExternal (package : KebabName) (interface : Identifier) (version : Option Version) :
    String :=
  package.text ++ "/" ++ interface.text ++ Version.writtenOption version

/-- The path of another package is written with a colon behind the vendor. -/
theorem toList_written_external (vendor package : KebabName) (interface : Identifier)
    (version : Option Version) (rest : List Char) :
    (external vendor package interface version).written.toList ++ rest =
      vendor.text.toList ++
        ':' :: ((writtenExternal package interface version).toList ++ rest) := by
  cases version <;> simp [written, display, writtenExternal, Version.writtenOption]

/-- Behind the first colon stand the name of the package and a slash. -/
theorem signs_writtenExternal (package : KebabName) (interface : Identifier)
    (version : Option Version) (rest : List Char) :
    ∃ tail, signs [] ((writtenExternal package interface version).toList ++ rest) =
        ⟨.ofWord package.text, package.text, []⟩ :: tail ∧ Token.front tail = .mark .slash := by
  let named := interface.text.toList ++ ((Version.writtenOption version).toList ++ rest)
  have shape : (writtenExternal package interface version).toList ++ rest =
      package.text.toList ++ '/' :: named := by
    simp [writtenExternal, named]
  have slash := Token.signs_mark [] named (show Token.Mark.ofChar? '/' = some _ from rfl)
    fun _ => interface.head_text _
  rw [shape, Token.signs_name package [] (by simp; decide)]
  exact ⟨_, rfl, by rw [slash]; rfl⟩

/-- The name of the package is in front behind the first colon. -/
theorem front_writtenExternal (package : KebabName) (interface : Identifier)
    (version : Option Version) (rest : List Char) :
    Token.front (signs [] ((writtenExternal package interface version).toList ++ rest)) =
      .ofWord package.text := by
  obtain ⟨tail, begun, -⟩ := signs_writtenExternal package interface version rest
  rw [begun]
  rfl

/-- The path of another package is read behind its first colon. -/
theorem takes_external (vendor package : KebabName) (interface : Identifier)
    (version : Option Version) (legible : (external vendor package interface version).Legible)
    (follows : Follows rest) :
    Takes (parseExternal vendor)
      (signs [] ((writtenExternal package interface version).toList ++ rest))
      (external vendor package interface version) (signs [] rest) := by
  obtain ⟨settled, plain⟩ := legible
  have shape : (writtenExternal package interface version).toList ++ rest =
      package.text.toList ++ '/' :: (interface.written.toList ++
        ((Version.writtenOption version).toList ++ rest)) := by
    simp [writtenExternal, interface.written_eq, settled]
  have loose := Version.loose_writtenOption version follows.loose
  rw [shape]
  refine .bind (package.takes_text _ _ [] (by simp; decide)) ?_
  apply (Parser.takes_slash [] (interface.head_written _)).reads.bind
  apply (interface.takes_written _ _ [] loose).reads.bind
  rw [settled]
  exact (Version.reads_optional version plain follows).bind (reads_pure _ _)

/-- A written path is read as the settled path. -/
theorem takes_written (path : UsePath) (legible : path.Legible) (follows : Follows rest) :
    Takes parser (signs [] (path.written.toList ++ rest)) path.settled (signs [] rest) := by
  cases path with
  | sibling name =>
    have takes := name.takes_written "interface name" false [] follows.loose
    refine ⟨takes.length_lt, (Parser.reads_get (fun stream shows => ?_) takes.reads.length_le).run⟩
    have other : stream.peek.kind ≠ .mark .colon := by
      rw [name.signs_written [] follows.loose] at shows
      split at shows
      · rw [shows.kind_peek]
        exact Token.Kind.ofWord_ne_mark _ _
      · rw [shows.kind_peek]
        exact follows.notColon
    simp only [other, ↓reduceIte]
    exact takes.reads.bind (reads_pure _ _)
  | external vendor package interface version =>
    have colon := takes_mark [] ((writtenExternal package interface version).toList ++ rest)
      (show Token.Mark.lone? ':' = some _ from rfl)
    have takes : Takes (do
          let vendor ← Parser.word "package namespace" .vendor
          Parser.mark .colon
          parseExternal vendor)
        (signs [] (vendor.text.toList ++ ':' ::
          ((writtenExternal package interface version).toList ++ rest)))
        (external vendor package interface version) (signs [] rest) := by
      refine .bind (vendor.takes_text _ _ [] (by simp; decide)) (colon.reads.bind ?_)
      exact (takes_external vendor package interface version legible follows).reads
    rw [toList_written_external]
    refine ⟨takes.length_lt, (Parser.reads_get (fun stream shows => ?_) takes.reads.length_le).run⟩
    have same : stream.peek.kind = .mark .colon := by
      rw [Token.signs_name vendor [] (by simp; decide)] at shows
      rw [shows.kind_peek, Parser.front_mark [] _ (show Token.Mark.lone? ':' = some _ from rfl)]
    simp only [same, ↓reduceIte]
    exact takes.reads

end UsePath

/-- A new name as it is written behind another. -/
def Identifier.writtenRenamed : Option Identifier → String
  | some name => " as " ++ name.written
  | none => ""

/-- A new name behind another name does not make it longer. -/
theorem Identifier.loose_writtenRenamed (renamed : Option Identifier) (loose : Loose rest) :
    Loose ((writtenRenamed renamed).toList ++ rest) := by
  cases renamed with
  | none => simpa [writtenRenamed] using loose
  | some name => simp [writtenRenamed]; decide

/-- The word of a new name is in front, if there is one. -/
theorem Identifier.front_writtenRenamed (renamed : Option Identifier) (rest : List Char) :
    Token.front (signs [] ((writtenRenamed renamed).toList ++ rest)) =
      if renamed.isSome then .keyword .as else Token.front (signs [] rest) := by
  cases renamed with
  | none => simp [writtenRenamed]
  | some name =>
    have shape : (writtenRenamed (some name)).toList ++ rest =
        ' ' :: (Keyword.as.spelling.toList ++ ' ' :: (name.written.toList ++ rest)) := by
      simp [writtenRenamed, Keyword.spelling]
    rw [shape, Token.signs_space, Parser.front_keyword .as [] (by simp; decide)]
    rfl

/-- A new name behind another name is read, and nothing where there is none. -/
theorem reads_renamed (renamed : Option Identifier) (loose : Loose rest)
    (other : Token.front (signs [] rest) ≠ .keyword .as) :
    Reads parseRenamed (signs [] ((Identifier.writtenRenamed renamed).toList ++ rest))
      (renamed.map Identifier.settled) (signs [] rest) := by
  cases renamed with
  | none =>
    refine .bind (reads_accept_of_ne ?_) (reads_pure _ _)
    simpa [Identifier.writtenRenamed] using other
  | some name =>
    have shape : (Identifier.writtenRenamed (some name)).toList ++ rest =
        ' ' :: (Keyword.as.spelling.toList ++ ' ' :: (name.written.toList ++ rest)) := by
      simp [Identifier.writtenRenamed, Keyword.spelling]
    rw [shape, Token.signs_space]
    apply (takes_accept_keyword .as [] (by simp; decide)).reads.bind
    rw [Token.signs_space]
    exact (name.takes_written _ _ [] loose).reads.bind (reads_pure _ _)

/-- A written item of a use is read. -/
theorem UseItem.takes_written (item : UseItem) (closes : Closes rest) :
    Takes UseItem.parser (signs [] (item.written.toList ++ rest)) item.settled (signs [] rest) ∧
      Token.front (signs [] (item.written.toList ++ rest)) ≠ .mark .rightBrace := by
  have shape : item.written.toList ++ rest = item.name.written.toList ++
      ((Identifier.writtenRenamed item.renamed).toList ++ rest) := by
    unfold written
    cases item.renamed <;> simp [Identifier.writtenRenamed]
  have loose := Identifier.loose_writtenRenamed item.renamed closes.loose
  rw [shape]
  refine ⟨?_, item.name.front_written_ne [] loose (by decide)⟩
  refine .bind (item.name.takes_written _ _ [] loose) ?_
  have renamed := reads_renamed item.renamed closes.loose (closes.front_ne (by decide))
  exact renamed.bind (reads_pure _ _)

namespace Use

/-- Behind the path of a use that takes no names there may be a new name for the whole. -/
theorem writtenTail_nil (path : UsePath) (renamed : Option Identifier) :
    (Use.mk path [] renamed).writtenTail = Identifier.writtenRenamed renamed := by
  cases renamed <;> rfl

/-- Behind the path of a use that takes names there are its names in braces. -/
theorem writtenTail_cons (path : UsePath) (item : UseItem) (more : List UseItem)
    (renamed : Option Identifier) (rest : List Char) :
    (Use.mk path (item :: more) renamed).writtenTail.toList ++ rest =
      '.' :: '\x7b' :: ((", ".intercalate ((item :: more).map UseItem.written)).toList ++
        '\x7d' :: rest) := by
  simp [writtenTail]

/-- What stands behind the path of a use may follow a path. -/
theorem follows_writtenTail (use : Use) (rest : List Char) :
    UsePath.Follows (use.writtenTail.toList ++ ';' :: rest) := by
  obtain ⟨path, items, renamed⟩ := use
  have semicolon := Parser.front_mark [] rest (show Token.Mark.lone? ';' = some _ from rfl)
  cases items with
  | nil =>
    rw [writtenTail_nil]
    refine ⟨Identifier.loose_writtenRenamed renamed (by simp; decide), ?_, ?_⟩
    all_goals
      rw [Identifier.front_writtenRenamed, semicolon]
      split <;> decide
  | cons item more =>
    rw [writtenTail_cons]
    have dot := Parser.front_mark [] ('\x7b' ::
      ((", ".intercalate ((item :: more).map UseItem.written)).toList ++ '\x7d' :: ';' :: rest))
      (show Token.Mark.lone? '.' = some _ from rfl)
    exact ⟨by simp; decide, by rw [dot]; decide, by rw [dot]; decide⟩

/-- The written names that a use takes are read in braces. -/
theorem takes_items (items : List UseItem) :
    Takes (Parser.bracedItems UseItem.parser)
      (signs [] ('\x7b' :: ((", ".intercalate (items.map UseItem.written)).toList ++
        '\x7d' :: rest))) (items.map UseItem.settled) (signs [] rest) := by
  have shape : (", ".intercalate (items.map UseItem.written)).toList =
      List.intercalate [',', ' '] (items.map (·.written.toList)) := by simp [Function.comp_def]
  have row : Reads (Parser.commaItems (.mark .rightBrace) UseItem.parser)
      (signs [] ((", ".intercalate (items.map UseItem.written)).toList ++ '\x7d' :: rest))
      (items.map UseItem.settled) (signs [] ('\x7d' :: rest)) := by
    rw [shape]
    exact Parser.reads_commaItems_row (fun item _ _ closes _ => item.takes_written closes)
      (Parser.front_mark [] rest rfl) (by decide) (by simp [Parser.closers]) (Nat.lt_succ_self _)
  refine .bind (takes_mark [] _ rfl) (row.bind ?_)
  exact (takes_mark [] rest rfl).reads.bind (reads_pure _ _)

/-- The lines of a use begin with its keyword. -/
theorem signs_lineList (use : Use) (layout : Layout) (depth : Nat) (rest : List Char) :
    ∃ tail, signs [] (Line.chars layout depth use.lineList ++ rest) =
      ⟨.keyword .use, Keyword.use.spelling, []⟩ :: tail := by
  have shape : ("use " ++ use.path.written ++ use.writtenTail ++ ";").toList ++ '\n' :: rest =
      Keyword.use.spelling.toList ++ ' ' :: (use.path.written.toList ++
        (use.writtenTail.toList ++ ';' :: '\n' :: rest)) := by simp [Keyword.spelling]
  rw [lineList, Line.signs_chars_flush, shape, Token.signs_keyword _ _ (by simp; decide)]
  exact ⟨_, rfl⟩

/-- A written use is read. -/
theorem takes_lineList (use : Use) (layout : Layout) (depth : Nat) (rest : List Char)
    (legible : use.path.Legible) :
    Takes Use.parser (signs [] (Line.chars layout depth use.lineList ++ rest)) use.reread
      (signs [] rest) := by
  have follows := use.follows_writtenTail ('\n' :: rest)
  have semicolon := Parser.takes_semicolon rest
  have shape : ("use " ++ use.path.written ++ use.writtenTail ++ ";").toList ++ '\n' :: rest =
      Keyword.use.spelling.toList ++ ' ' :: (use.path.written.toList ++
        (use.writtenTail.toList ++ ';' :: '\n' :: rest)) := by simp [Keyword.spelling]
  rw [lineList, Line.signs_chars_flush, shape]
  refine .bind (takes_keyword .use [] (by simp; decide)) ?_
  rw [Token.signs_space]
  apply (use.path.takes_written legible follows).reads.bind
  obtain ⟨path, items, renamed⟩ := use
  cases items with
  | nil =>
    have front := Parser.front_mark [] ('\n' :: rest)
      (show Token.Mark.lone? ';' = some _ from rfl)
    rw [writtenTail_nil]
    refine .bind (reads_accept_of_ne ?_) ?_
    · rw [Identifier.front_writtenRenamed, front]
      split <;> decide
    · refine (reads_renamed renamed (by simp; decide) (by rw [front]; decide)).bind ?_
      exact semicolon.reads.bind (reads_pure _ _)
  | cons item more =>
    rw [writtenTail_cons]
    apply (takes_accept_mark [] _ rfl).reads.bind
    exact (takes_items (item :: more)).reads.bind (semicolon.reads.bind (reads_pure _ _))

end Use

end WitBridge
