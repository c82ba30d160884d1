import WitBridge.Proofs.Package.Document
import WitBridge.Proofs.Parser.Stops

/-!
# Paths that are not read

A version is read as its three numbers only. What stands behind them in a version that is not
plain begins with a hyphen or a plus sign, with which no statement goes on. So the path of another
package either stops the parser at the name of its interface, where this is a reserved word
without its escape, or leaves it in front of such a character, and the use of the path is refused.
-/
namespace WitBridge

open WitBridge.Parser (Takes Reads Stops reads_pure takes_mark takes_accept_mark
  reads_accept_of_ne takes_keyword)
open Token (Sign signs front Loose Keyword)

variable {α β : Type} {before middle : List Sign} {rest text : List Char} {layout : Layout}

/-- Whether a text begins as what stands behind the numbers of a version. -/
structure Stray (text : List Char) : Prop where
  outside : ∀ c ∈ text.head?, c.isDigit = false
  front : front (signs [] text) = .invalid ∨ front (signs [] text) = .mark .arrow

/-- A stray text does not begin with a token that some statement needs. -/
theorem Stray.front_ne {kind : Token.Kind} (stray : Stray text)
    (other : kind ∉ [Token.Kind.invalid, .mark .arrow]) : Token.front (signs [] text) ≠ kind := by
  rintro rfl
  rcases stray.front with same | same <;> simp [same] at other

/-- A hyphen begins a stray text, whatever stands behind it. -/
theorem stray_hyphen (rest : List Char) : Stray ('-' :: rest) := by
  have dark : Token.Trivia.next? ('-' :: rest) = none :=
    Token.next?_eq_none rest (by decide) fun slash => absurd slash (by decide)
  refine ⟨by simp, ?_⟩
  rw [Token.signs_of_cut [] dark]
  rcases rest with _ | ⟨c, more⟩
  · exact .inl rfl
  · by_cases arrow : c = '>'
    · subst arrow
      exact .inr rfl
    · left
      simp [Token.front, Token.Lexeme.cut, Token.Mark.ofChar?, arrow]

/-- A plus sign begins a stray text. -/
theorem stray_plus (rest : List Char) : Stray ('+' :: rest) := by
  have dark : Token.Trivia.next? ('+' :: rest) = none :=
    Token.next?_eq_none rest (by decide) fun slash => absurd slash (by decide)
  refine ⟨by simp, .inl ?_⟩
  rw [Token.signs_of_cut [] dark]
  rfl

/-- The parser stops at the signs, or it is left in front of a stray text. -/
def Strays (parser : Parser α) (before : List Sign) : Prop :=
  Stops parser before ∨
    ∃ found text, Stray text ∧ Reads parser before found (signs [] text)

/-- Steps that stop in front of every stray text stop behind a parser that strays. -/
theorem Strays.bind {parser : Parser α} {next : α → Parser β} (first : Strays parser before)
    (second : ∀ found text, Stray text → Stops (next found) (signs [] text)) :
    Stops (parser >>= next) before := by
  rcases first with stops | ⟨found, text, stray, reads⟩
  · exact stops.bind
  · exact reads.stops (second found text stray)

/-- A parser strays where another does that runs alike on the streams with the signs ahead. -/
theorem Strays.congr {parser other : Parser α} (strays : Strays other before)
    (same : ∀ stream : TokenStream, stream.Shows before → parser.run stream = other.run stream) :
    Strays parser before := by
  rcases strays with stops | ⟨found, text, stray, reads⟩
  · exact .inl fun stream shows => same stream shows ▸ stops stream shows
  · refine .inr ⟨found, text, stray, reads.length_le, fun stream shows => ?_⟩
    rw [same stream shows]
    exact reads.run stream shows

/-- A parser strays where it does after its first step. -/
theorem Parser.Reads.strays {parser : Parser α} {next : α → Parser β} {value : α}
    (first : Reads parser before value middle) (second : Strays (next value) middle) :
    Strays (parser >>= next) before := by
  rcases second with stops | ⟨found, text, stray, reads⟩
  · exact .inl (first.stops stops)
  · exact .inr ⟨found, text, stray, first.bind reads⟩

/-- A parser strays where its first step does, if the steps after it only make something of what
is read. -/
theorem Strays.map {parser : Parser α} {make : α → β} (first : Strays parser before) :
    Strays (do let found ← parser; return make found) before := by
  rcases first with stops | ⟨found, text, stray, reads⟩
  · exact .inl stops.bind
  · exact .inr ⟨make found, text, stray, reads.bind (reads_pure _ _)⟩

/-- No statement ends at a stray text. -/
theorem Stray.stops_semicolon (stray : Stray text) : Stops (Parser.mark .semicolon)
    (signs [] text) :=
  Parser.stops_mark (stray.front_ne (by decide))

namespace Version

/-- The version of the three numbers alone. -/
def core (version : Version) : Version :=
  ⟨version.major, version.minor, version.patch, "", ""⟩

/-- What stands behind the three numbers. -/
def ending (version : Version) : String :=
  suffix "-" version.pre ++ suffix "+" version.build

/-- A version is written as its numbers and what stands behind them. -/
theorem display_eq (version : Version) :
    version.display = version.core.display ++ version.ending := by
  simp [display, ending, core, suffix, String.append_assoc]

/-- What stands behind the numbers of a version that is not plain is stray. -/
theorem stray_ending {version : Version} (odd : ¬ version.Plain) (rest : List Char) :
    Stray (version.ending.toList ++ rest) := by
  by_cases pre : version.pre = ""
  · have build : version.build ≠ "" := fun build => odd ⟨pre, build⟩
    simpa [ending, suffix, pre, build] using stray_plus (version.build.toList ++ rest)
  · have stray := stray_hyphen (version.pre.toList ++ ((suffix "+" version.build).toList ++ rest))
    simpa [ending, suffix, pre] using stray

/-- A version that is not plain is read as its numbers and leaves a stray text. -/
theorem strays_display {version : Version} (odd : ¬ version.Plain) (rest : List Char) :
    Strays Version.parser (signs [] (version.display.toList ++ rest)) := by
  have stray := stray_ending odd rest
  have plain : version.core.Plain := ⟨rfl, rfl⟩
  have numbers := takes_display plain stray.outside
  refine .inr ⟨version.core, _, stray, ?_⟩
  simpa [display_eq version] using numbers.reads

/-- A version behind a name strays unless it is plain. -/
theorem strays_optional {version : Option Version} (odd : ¬ ∀ found ∈ version, found.Plain)
    (rest : List Char) :
    Strays Version.optional (signs [] ((writtenOption version).toList ++ rest)) := by
  cases version with
  | none => exact absurd nofun odd
  | some version =>
    have shape : (writtenOption (some version)).toList ++ rest =
        '@' :: (version.display.toList ++ rest) := by simp [writtenOption]
    rw [shape]
    exact (takes_accept_mark [] _ rfl).reads.strays
      (strays_display (by simpa using odd) rest).map

end Version

namespace Identifier

/-- A name that is not settled is a reserved word without its escape, and no name is read. -/
theorem stops_text {name : Identifier} (unsettled : name.settled ≠ name) (what : String)
    (loose : Loose rest) :
    Stops (Parser.identifier what) (signs [] (name.text.toList ++ rest)) := by
  obtain ⟨escaped, bare⟩ := name
  obtain ⟨reserved, rfl⟩ : Token.Kind.isReserved bare.text = true ∧ escaped = false := by
    simpa [settled] using unsettled
  have other : Token.Kind.ofWord bare.text ≠ .identifier := by
    simpa [Token.Kind.isReserved] using reserved
  rw [show Identifier.text ⟨false, bare⟩ = bare.text from rfl, Token.signs_name bare [] loose]
  exact Parser.stops_identifier what other (Token.Kind.ofWord_ne_mark _ _)

end Identifier

namespace UsePath

/-- Behind its first colon the path of another package strays unless it is legible. -/
theorem strays_writtenExternal {vendor package : KebabName} {interface : Identifier}
    {version : Option Version} (illegible : ¬ (external vendor package interface version).Legible)
    (loose : Loose rest) :
    Strays (parseExternal vendor)
      (signs [] ((writtenExternal package interface version).toList ++ rest)) := by
  have shape : (writtenExternal package interface version).toList ++ rest =
      package.text.toList ++ '/' :: (interface.text.toList ++
        ((Version.writtenOption version).toList ++ rest)) := by
    simp [writtenExternal]
  have name := package.takes_text "package name" .package []
    (show Loose ('/' :: (interface.text.toList ++ ((Version.writtenOption version).toList ++ rest)))
      by simp; decide)
  have slash := Parser.takes_slash [] (interface.head_text
    ((Version.writtenOption version).toList ++ rest))
  have ahead := Version.loose_writtenOption version loose
  rw [shape]
  apply name.reads.strays
  apply slash.reads.strays
  by_cases settled : interface.settled = interface
  · have word := interface.takes_written "interface name" false [] ahead
    rw [interface.written_eq, settled] at word
    have odd : ¬ ∀ found ∈ version, found.Plain := fun plain => illegible ⟨settled, plain⟩
    exact word.reads.strays (Version.strays_optional odd rest).map
  · exact .inl (Identifier.stops_text settled _ ahead).bind

/-- A path strays unless it is legible. -/
theorem strays_written {path : UsePath} (illegible : ¬ path.Legible) (loose : Loose rest) :
    Strays parser (signs [] (path.written.toList ++ rest)) := by
  cases path with
  | sibling name => exact absurd trivial illegible
  | external vendor package interface version =>
    let written := (writtenExternal package interface version).toList ++ rest
    have colon := takes_mark [] written (show Token.Mark.lone? ':' = some _ from rfl)
    have name := vendor.takes_text "package namespace" .vendor []
      (show Loose (':' :: written) by simp; decide)
    have whole : Strays (do
          let vendor ← Parser.word "package namespace" .vendor
          Parser.mark .colon
          parseExternal vendor) (signs [] (vendor.text.toList ++ ':' :: written)) := by
      apply name.reads.strays
      exact colon.reads.strays (strays_writtenExternal illegible loose)
    rw [toList_written_external]
    refine whole.congr fun stream shows => ?_
    have same : stream.peek.kind = .mark .colon := by
      rw [Token.signs_name vendor [] (by simp; decide)] at shows
      rw [shows.kind_peek, Parser.front_mark [] _ (show Token.Mark.lone? ':' = some _ from rfl)]
    change (if stream.peek.kind = .mark .colon then _ else _ : Parser UsePath).run stream = _
    rw [if_pos same]

end UsePath

/-- The use of a path that is not legible is refused. -/
theorem Use.stops_lineList {use : Use} (illegible : ¬ use.path.Legible) (layout : Layout)
    (depth : Nat) (rest : List Char) :
    Stops Use.parser (signs [] (Line.chars layout depth use.lineList ++ rest)) := by
  have shape : ("use " ++ use.path.written ++ use.writtenTail ++ ";").toList ++ '\n' :: rest =
      Keyword.use.spelling.toList ++ ' ' :: (use.path.written.toList ++
        (use.writtenTail.toList ++ ';' :: '\n' :: rest)) := by simp [Keyword.spelling]
  have loose := (use.follows_writtenTail ('\n' :: rest)).loose
  rw [lineList, Line.signs_chars_flush, shape]
  refine (takes_keyword .use [] (by simp; decide)).reads.stops ?_
  rw [Token.signs_space]
  refine (UsePath.strays_written illegible loose).bind fun path text stray => ?_
  apply (reads_accept_of_ne (stray.front_ne (by decide))).stops
  have renamed : Reads parseRenamed (signs [] text) none (signs [] text) :=
    (reads_accept_of_ne (stray.front_ne (by decide))).bind (reads_pure _ _)
  exact renamed.stops stray.stops_semicolon.bind

end WitBridge
