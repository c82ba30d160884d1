import WitBridge.Proofs.Parser.Reads
import WitBridge.Type.Parser
import WitBridge.Type.Printer

/-!
# Reading written names and types

A name is settled if it carries an escape where it spells a reserved word. A written name is
read as the settled name, and a written type as the type with its names settled, whatever
closing character follows.
-/
namespace WitBridge

open Token (Sign Kind signs Loose)

namespace Identifier

/-- The name with an escape if it spells a reserved word. -/
def settled (name : Identifier) : Identifier :=
  ⟨name.escaped || Kind.isReserved name.bare.text, name.bare⟩

/-- A name is written as the text of the settled name. -/
theorem written_eq (name : Identifier) : name.written = name.settled.text := by
  obtain ⟨escaped, bare⟩ := name
  cases escaped <;> simp [written, settled, text]

/-- A settled name is settled. -/
@[simp]
theorem settled_settled (name : Identifier) : name.settled.settled = name.settled := by
  simp [settled]

/-- A settled name is written as the name. -/
@[simp]
theorem written_settled (name : Identifier) : name.settled.written = name.written := by
  rw [written_eq, written_eq, settled_settled]

/-- The signs of a written name: its word, with an escape in front if it is settled with one. -/
theorem signs_written (name : Identifier) {rest : List Char} (docs : List String)
    (loose : Loose rest) :
    signs docs (name.written.toList ++ rest) =
      if name.settled.escaped then
        ⟨.mark .percent, "%", docs⟩ :: ⟨.ofWord name.bare.text, name.bare.text, []⟩ :: signs [] rest
      else ⟨.identifier, name.bare.text, docs⟩ :: signs [] rest := by
  rw [written_eq]
  unfold text
  split
  · have shape : ("%" ++ name.settled.bare.text).toList ++ rest =
        '%' :: (name.settled.bare.text.toList ++ rest) := by simp
    rw [shape, Token.signs_lone docs _ rfl, Token.signs_name _ [] loose]
    rfl
  · next bare =>
    have plain : Kind.ofWord name.bare.text = .identifier := by
      simp only [settled, Bool.or_eq_true, not_or, Kind.isReserved, bne_iff_ne, ne_eq,
        Decidable.not_not] at bare
      exact bare.2
    rw [Token.signs_name _ docs loose, ← plain]
    rfl

/-- A written name begins with an escape or an identifier. -/
theorem front_written_ne (name : Identifier) {rest : List Char} (docs : List String)
    (loose : Loose rest) {kind : Kind} (other : kind ≠ .mark .percent ∧ kind ≠ .identifier) :
    Token.front (signs docs (name.written.toList ++ rest)) ≠ kind := by
  rw [signs_written name docs loose]
  split
  · exact Ne.symm other.1
  · exact Ne.symm other.2

/-- The documentation before a written name is looked at. -/
theorem reads_docs_written (name : Identifier) {rest : List Char} (docs : List String)
    (loose : Loose rest) :
    Parser.Reads Parser.docs (signs docs (name.written.toList ++ rest)) ⟨docs⟩
      (signs docs (name.written.toList ++ rest)) := by
  rw [signs_written name docs loose]
  split <;> exact Parser.reads_docs _ _

/-- A written name is read as the settled name. -/
theorem takes_written (name : Identifier) (what : String) (anyWord : Bool) (docs : List String)
    {rest : List Char} (loose : Loose rest) :
    Parser.Takes (Parser.identifier what anyWord) (signs docs (name.written.toList ++ rest))
      name.settled (signs [] rest) := by
  rw [signs_written name docs loose]
  cases escaped : name.settled.escaped with
  | true =>
    have whole : name.settled = ⟨true, name.bare⟩ := by rw [← escaped]; rfl
    rw [if_pos rfl, whole]
    exact Parser.takes_identifier_escaped what anyWord (Kind.isWord_ofWord _)
  | false =>
    have whole : name.settled = ⟨false, name.bare⟩ := by rw [← escaped]; rfl
    rw [if_neg Bool.false_ne_true, whole]
    exact Parser.takes_identifier_bare what anyWord

end Identifier

namespace TypeExpr

mutual
/-- A type with its names changed. -/
def mapNames (change : Identifier → Identifier) : TypeExpr → TypeExpr
  | primitive kind => primitive kind
  | named name => named (change name)
  | list element => list (mapNames change element)
  | option inner => option (mapNames change inner)
  | result ok err => result (mapNamesOption change ok) (mapNamesOption change err)
  | tuple elements => tuple (mapNamesList change elements)
  | handle ownership resource => handle ownership (change resource)
  | future inner => future (mapNamesOption change inner)
  | stream element => stream (mapNamesOption change element)
/-- An optional type with its names changed. -/
def mapNamesOption (change : Identifier → Identifier) : Option TypeExpr → Option TypeExpr
  | none => none
  | some type => some (mapNames change type)
/-- Types with their names changed. -/
def mapNamesList (change : Identifier → Identifier) : List TypeExpr → List TypeExpr
  | [] => []
  | first :: rest => mapNames change first :: mapNamesList change rest
end

/-- Changing the names of a list is changing those of each of its types. -/
@[simp]
theorem mapNamesList_eq_map (change : Identifier → Identifier) (types : List TypeExpr) :
    mapNamesList change types = types.map (mapNames change) := by
  induction types with
  | nil => rfl
  | cons first rest ih => simp [mapNamesList, ih]

/-- Changing the names of an optional type is changing those of the type. -/
@[simp]
theorem mapNamesOption_eq_map (change : Identifier → Identifier) (type : Option TypeExpr) :
    mapNamesOption change type = type.map (mapNames change) := by
  cases type <;> rfl

mutual
/-- A type with the same names is the same. -/
theorem mapNames_id (type : TypeExpr) : mapNames id type = type := by
  cases type with
  | primitive _ | named _ | handle _ _ => rfl
  | list element => exact congrArg list (mapNames_id element)
  | option inner => exact congrArg option (mapNames_id inner)
  | result ok err => exact congr (congrArg result (mapNamesOption_id ok)) (mapNamesOption_id err)
  | tuple elements => exact congrArg tuple (mapNamesList_id elements)
  | future inner => exact congrArg future (mapNamesOption_id inner)
  | stream element => exact congrArg stream (mapNamesOption_id element)
/-- An optional type with the same names is the same. -/
theorem mapNamesOption_id (type : Option TypeExpr) : mapNamesOption id type = type := by
  cases type with
  | none => rfl
  | some type => exact congrArg some (mapNames_id type)
/-- Types with the same names are the same. -/
theorem mapNamesList_id (types : List TypeExpr) : mapNamesList id types = types := by
  cases types with
  | nil => rfl
  | cons first rest =>
    show mapNames id first :: mapNamesList id rest = first :: rest
    rw [mapNames_id first, mapNamesList_id rest]
end

/-- The type with each of its names settled. -/
def settled (type : TypeExpr) : TypeExpr := type.mapNames Identifier.settled

open WitBridge.Parser (Takes Reads Closes reads_pure takes_advance)

variable {α : Type} {item : Parser α} {value : α} {left : List Sign} {text rest : List Char}

/-- An item between angle brackets is taken. -/
theorem takes_angled (docs : List String)
    (inner : Reads item (signs [] (text ++ '>' :: rest)) value (signs [] ('>' :: rest))) :
    Takes (angled item) (signs docs ('<' :: (text ++ '>' :: rest))) value (signs [] rest) := by
  refine .bind (Parser.takes_mark docs _ rfl) (inner.bind ?_)
  exact (Parser.takes_mark [] rest rfl).reads.bind (reads_pure _ _)

/-- An item between angle brackets is taken where it is optional. -/
theorem reads_optionalAngled
    (inner : Reads item (signs [] (text ++ '>' :: rest)) value (signs [] ('>' :: rest))) :
    Reads (optionalAngled item) (signs [] ('<' :: (text ++ '>' :: rest))) (some value)
      (signs [] rest) := by
  refine .bind (Parser.reads_check _ _) ?_
  rw [if_pos (by simp [Parser.front_mark [] _ (show Token.Mark.lone? '<' = some _ from rfl)])]
  exact (takes_angled [] inner).reads.bind (reads_pure _ _)

/-- Nothing is taken where the optional angle brackets are missing. -/
theorem reads_optionalAngled_of_ne (item : Parser α)
    (other : Token.front left ≠ .mark .leftAngle) :
    Reads (optionalAngled item) left none left := by
  refine .bind (Parser.reads_check _ _) ?_
  rw [if_neg (by simpa using other)]
  exact reads_pure _ _

/-- Nothing is taken for optional angle brackets before a closing character. -/
theorem reads_optionalAngled_none (closes : Closes rest) :
    Reads (optionalAngled item) (signs [] rest) none (signs [] rest) :=
  reads_optionalAngled_of_ne item (closes.front_ne (by decide))

/-- A text that a type is read from begins with no mark but the escape. -/
theorem front_ne_mark {fuel : Nat} {type : TypeExpr} {list : List Sign}
    (takes : Takes (parseWithin fuel) list type left) {m : Token.Mark}
    (other : m ≠ .percent) : Token.front list ≠ .mark m := by
  refine takes.front_ne fun stream same result ran => ?_
  cases fuel with
  | zero => exact Parser.run_unexpected_ne_ok _ _ _ ran
  | succ fuel =>
    simp only [parseWithin, Parser.current, bind_pure_comp, bind_map_left, StateT.run_bind,
      StateT.run_get, pure_bind, same] at ran
    split at ran <;> first | exact Parser.run_unexpected_ne_ok _ _ _ ran | simp_all

/-- Whether a written type is read as the settled type where the fuel is enough. -/
def ReadWithin (fuel : Nat) (type : TypeExpr) : Prop :=
  ∀ rest, Closes rest → (signs [] (type.written.toList ++ rest)).length < fuel →
    Takes (parseWithin fuel) (signs [] (type.written.toList ++ rest)) type.settled (signs [] rest)

/-- A type in angle brackets behind a word is read where the whole has enough fuel. -/
theorem takes_inner {fuel : Nat} {type : TypeExpr} {first : Sign} (each : type.ReadWithin fuel)
    (enough : (first :: signs [] ('<' :: (type.written.toList ++ '>' :: rest))).length < fuel + 1) :
    Takes (parseWithin fuel) (signs [] (type.written.toList ++ '>' :: rest)) type.settled
      (signs [] ('>' :: rest)) := by
  refine each ('>' :: rest) (by simp [Parser.closers]) ?_
  rw [List.length_cons, Parser.length_signs_mark [] _ (show Token.Mark.lone? '<' = _ from rfl)]
    at enough
  omega

/-- What stands behind the word of a written result. -/
def writtenSides : Option TypeExpr → Option TypeExpr → List Char
  | none, none => []
  | some ok, none => '<' :: (ok.written.toList ++ ['>'])
  | none, some err => '<' :: '_' :: ',' :: ' ' :: (err.written.toList ++ ['>'])
  | some ok, some err => '<' :: (ok.written.toList ++ ',' :: ' ' :: (err.written.toList ++ ['>']))

/-- The sides of a result do not make its word longer. -/
theorem loose_writtenSides (ok err : Option TypeExpr) (closes : Closes rest) :
    Loose (writtenSides ok err ++ rest) := by
  cases ok <;> cases err
  · exact closes.loose
  all_goals simp only [writtenSides, List.cons_append, Token.loose_cons]; decide

/-- An opening bracket is one more sign. -/
theorem length_signs_angle (tail : List Char) :
    (signs [] tail).length < (signs [] ('<' :: tail)).length :=
  (Parser.takes_accept_mark [] tail (show Token.Mark.lone? '<' = _ from rfl)).length_lt

/-- The error alone is read behind a blank, with its names settled. -/
theorem reads_resultSides_err {fuel : Nat} {err : TypeExpr} (each : err.ReadWithin fuel)
    (enough : (signs [] (writtenSides none (some err) ++ rest)).length < fuel) :
    Reads (resultSides (parseWithin fuel)) (signs [] (writtenSides none (some err) ++ rest))
      (result none (some err)).settled (signs [] rest) := by
  have shape : writtenSides none (some err) ++ rest =
      '<' :: '_' :: ',' :: ' ' :: (err.written.toList ++ '>' :: rest) := by simp [writtenSides]
  have blank := Token.signs_underscore []
    (show Loose (',' :: ' ' :: (err.written.toList ++ '>' :: rest)) by simp; decide)
  have comma := Parser.takes_mark [] (' ' :: (err.written.toList ++ '>' :: rest))
    (show Token.Mark.lone? ',' = some .comma from rfl)
  rw [Token.signs_space] at comma
  rw [shape] at enough ⊢
  have first := length_signs_angle ('_' :: ',' :: ' ' :: (err.written.toList ++ '>' :: rest))
  have second := comma.length_lt
  rw [blank] at first
  simp only [List.length_cons] at first
  have inner := each ('>' :: rest) (by simp [Parser.closers]) (by omega)
  apply (Parser.takes_accept_mark [] _ rfl).reads.bind
  rw [blank]
  refine .bind (Parser.takes_accept _ _ _ _).reads (comma.reads.bind ?_)
  exact inner.reads.bind ((Parser.takes_mark [] rest rfl).reads.bind (reads_pure _ _))

/-- The success alone is read, with its names settled. -/
theorem reads_resultSides_ok {fuel : Nat} {ok : TypeExpr} (each : ok.ReadWithin fuel)
    (enough : (signs [] (writtenSides (some ok) none ++ rest)).length < fuel) :
    Reads (resultSides (parseWithin fuel)) (signs [] (writtenSides (some ok) none ++ rest))
      (result (some ok) none).settled (signs [] rest) := by
  have shape : writtenSides (some ok) none ++ rest =
      '<' :: (ok.written.toList ++ '>' :: rest) := by simp [writtenSides]
  rw [shape] at enough ⊢
  have first := each ('>' :: rest) (by simp [Parser.closers])
    (Nat.lt_trans (length_signs_angle _) enough)
  apply (Parser.takes_accept_mark [] _ rfl).reads.bind
  refine .bind (Parser.reads_accept_of_ne (front_ne_mark first (by decide))) ?_
  refine first.reads.bind (.bind (Parser.reads_accept_of_ne ?_) ?_)
  · simp [Parser.front_mark [] rest (show Token.Mark.lone? '>' = _ from rfl)]
  · exact (Parser.takes_mark [] rest rfl).reads.bind (reads_pure _ _)

/-- Both sides are read, with their names settled. -/
theorem reads_resultSides_both {fuel : Nat} {ok err : TypeExpr} (success : ok.ReadWithin fuel)
    (failure : err.ReadWithin fuel)
    (enough : (signs [] (writtenSides (some ok) (some err) ++ rest)).length < fuel) :
    Reads (resultSides (parseWithin fuel)) (signs [] (writtenSides (some ok) (some err) ++ rest))
      (result (some ok) (some err)).settled (signs [] rest) := by
  have shape : writtenSides (some ok) (some err) ++ rest =
      '<' :: (ok.written.toList ++ ',' :: ' ' :: (err.written.toList ++ '>' :: rest)) := by
    simp [writtenSides]
  have comma := Parser.takes_accept_mark [] (' ' :: (err.written.toList ++ '>' :: rest))
    (show Token.Mark.lone? ',' = some .comma from rfl)
  rw [Token.signs_space] at comma
  rw [shape] at enough ⊢
  have first := success (',' :: ' ' :: (err.written.toList ++ '>' :: rest))
    (by simp [Parser.closers]) (Nat.lt_trans (length_signs_angle _) enough)
  have less := Nat.lt_of_lt_of_le comma.length_lt first.reads.length_le
  have second := failure ('>' :: rest) (by simp [Parser.closers])
    (Nat.lt_trans less (Nat.lt_trans (length_signs_angle _) enough))
  apply (Parser.takes_accept_mark [] _ rfl).reads.bind
  refine .bind (Parser.reads_accept_of_ne (front_ne_mark first (by decide))) ?_
  refine first.reads.bind (comma.reads.bind (second.reads.bind ?_))
  exact (Parser.takes_mark [] rest rfl).reads.bind (reads_pure _ _)

/-- The sides of a result are read, each with its names settled. -/
theorem reads_resultSides {fuel : Nat} (ok err : Option TypeExpr) (closes : Closes rest)
    (each : ∀ t ∈ ok.toList ++ err.toList, t.ReadWithin fuel)
    (enough : (signs [] (writtenSides ok err ++ rest)).length < fuel) :
    Reads (resultSides (parseWithin fuel)) (signs [] (writtenSides ok err ++ rest))
      (result ok err).settled (signs [] rest) := by
  cases ok with
  | none =>
    cases err with
    | none =>
      refine .bind (Parser.reads_accept_of_ne (closes.front_ne (by decide))) ?_
      exact reads_pure _ _
    | some err => exact reads_resultSides_err (each err (by simp)) enough
  | some ok =>
    cases err with
    | none => exact reads_resultSides_ok (each ok (by simp)) enough
    | some err => exact reads_resultSides_both (each ok (by simp)) (each err (by simp)) enough

/-- A tuple is written with its elements in brackets, a comma between two. -/
theorem written_tuple (elements : List TypeExpr) :
    (tuple elements).written = "tuple<" ++ ", ".intercalate (elements.map written) ++ ">" := by
  rw [← writtenList_eq_map]
  rfl

section Steps

variable {fuel : Nat}

/-- An opening bracket does not make a word longer. -/
theorem loose_angle (tail : List Char) : Loose ('<' :: tail) := by
  simp only [Token.loose_cons]
  decide

/-- A primitive type is read from its word. -/
theorem readWithin_primitive (kind : Primitive) : (primitive kind).ReadWithin (fuel + 1) := by
  intro rest closes _
  rw [show (primitive kind).written = (Token.Builtin.primitive kind).spelling from rfl,
    Token.signs_builtin _ [] closes.loose]
  apply Parser.takes_current
  intro token same
  rw [show token.kind = .builtin (.primitive kind) from congrArg Sign.kind same]
  exact (takes_advance _ _).bind (reads_pure _ _)

/-- The name of a definition is read, with its escape or without. -/
theorem readWithin_named (name : Identifier) : (named name).ReadWithin (fuel + 1) := by
  intro rest closes _
  rw [show (named name).written = name.written from rfl]
  have takes := name.takes_written "type name" false [] closes.loose
  have begun := name.signs_written [] closes.loose
  split at begun
  · rw [begun] at takes ⊢
    apply Parser.takes_current
    intro token same
    rw [show token.kind = .mark .percent from congrArg Sign.kind same]
    exact takes.bind (reads_pure _ _)
  · rw [begun] at takes ⊢
    apply Parser.takes_current
    intro token same
    rw [show token.kind = .identifier from congrArg Sign.kind same]
    exact takes.bind (reads_pure _ _)

/-- A list is read if its element is. -/
theorem ReadWithin.list {element : TypeExpr} (each : element.ReadWithin fuel) :
    (TypeExpr.list element).ReadWithin (fuel + 1) := by
  intro rest closes enough
  have shape : (TypeExpr.list element).written.toList ++ rest =
      Token.Builtin.list.spelling.toList ++ '<' :: (element.written.toList ++ '>' :: rest) := by
    simp [written, Token.Builtin.spelling]
  rw [shape, Token.signs_builtin _ [] (loose_angle _)] at enough ⊢
  apply Parser.takes_current
  intro token same
  rw [show token.kind = .builtin .list from congrArg Sign.kind same]
  have inner := takes_inner each enough
  exact (takes_advance _ _).bind ((takes_angled [] inner.reads).reads.bind (reads_pure _ _))

/-- An option is read if its type is. -/
theorem ReadWithin.option {inner : TypeExpr} (each : inner.ReadWithin fuel) :
    (TypeExpr.option inner).ReadWithin (fuel + 1) := by
  intro rest closes enough
  have shape : (TypeExpr.option inner).written.toList ++ rest =
      Token.Builtin.option.spelling.toList ++ '<' :: (inner.written.toList ++ '>' :: rest) := by
    simp [written, Token.Builtin.spelling]
  rw [shape, Token.signs_builtin _ [] (loose_angle _)] at enough ⊢
  apply Parser.takes_current
  intro token same
  rw [show token.kind = .builtin .option from congrArg Sign.kind same]
  have inside := takes_inner each enough
  exact (takes_advance _ _).bind ((takes_angled [] inside.reads).reads.bind (reads_pure _ _))

/-- A result is read if its sides are. -/
theorem readWithin_result {ok err : Option TypeExpr}
    (each : ∀ t ∈ ok.toList ++ err.toList, t.ReadWithin fuel) :
    (result ok err).ReadWithin (fuel + 1) := by
  intro rest closes enough
  have begun := reads_resultSides ok err closes each
  have shape : (result ok err).written.toList ++ rest =
      Token.Builtin.result.spelling.toList ++ (writtenSides ok err ++ rest) := by
    cases ok <;> cases err <;> simp [written, writtenSides, Token.Builtin.spelling]
  rw [shape, Token.signs_builtin _ [] (loose_writtenSides ok err closes)] at enough ⊢
  apply Parser.takes_current
  intro token same
  rw [show token.kind = .builtin .result from congrArg Sign.kind same]
  exact (takes_advance _ _).bind (begun (Nat.lt_of_succ_lt_succ enough))

/-- A tuple is read if its elements are. -/
theorem readWithin_tuple {elements : List TypeExpr}
    (each : ∀ element ∈ elements, element.ReadWithin fuel) :
    (tuple elements).ReadWithin (fuel + 1) := by
  intro rest closes enough
  have shape : (tuple elements).written.toList ++ rest =
      Token.Builtin.tuple.spelling.toList ++ '<' ::
        (List.intercalate [',', ' '] (elements.map (·.written.toList)) ++ '>' :: rest) := by
    simp [written_tuple, Token.Builtin.spelling, Function.comp_def]
  rw [shape, Token.signs_builtin _ [] (loose_angle _)] at enough ⊢
  apply Parser.takes_current
  intro token same
  rw [show token.kind = .builtin .tuple from congrArg Sign.kind same]
  rw [List.length_cons, Parser.length_signs_mark [] _ (show Token.Mark.lone? '<' = _ from rfl)]
    at enough
  have row : Reads (Parser.commaItems (.mark .rightAngle) (parseWithin fuel))
      (signs [] (List.intercalate [',', ' '] (elements.map (·.written.toList)) ++ '>' :: rest))
      (elements.map settled) (signs [] ('>' :: rest)) :=
    Parser.reads_commaItems_row
      (fun t member tail follows short =>
        have takes := each t member tail follows short
        ⟨takes, front_ne_mark takes (by decide)⟩)
      (Parser.front_mark [] rest rfl) (by decide) (by simp [Parser.closers]) (by omega)
  have whole : (tuple elements).settled = tuple (elements.map settled) := by
    simp [settled, mapNames]
  rw [whole]
  exact (takes_advance _ _).bind ((takes_angled [] row).reads.bind (reads_pure _ _))

/-- A handle is read from its word and the name of its resource. -/
theorem readWithin_handle (ownership : Ownership) (resource : Identifier) :
    (handle ownership resource).ReadWithin (fuel + 1) := by
  intro rest closes _
  have gap : Loose ('>' :: rest) := by
    simp only [Token.loose_cons]
    decide
  have inside := takes_angled [] (resource.takes_written "resource name" false [] gap).reads
  cases ownership with
  | own =>
    have shape : (handle .own resource).written.toList ++ rest =
        Token.Keyword.own.spelling.toList ++ '<' :: (resource.written.toList ++ '>' :: rest) := by
      simp [written, Token.Keyword.spelling, Ownership.spelling]
    rw [shape, Token.signs_keyword _ [] (loose_angle _)]
    apply Parser.takes_current
    intro token same
    rw [show token.kind = .keyword .own from congrArg Sign.kind same]
    exact (takes_advance _ _).bind (inside.reads.bind (reads_pure _ _))
  | borrow =>
    have shape : (handle .borrow resource).written.toList ++ rest =
        Token.Keyword.borrow.spelling.toList ++
          '<' :: (resource.written.toList ++ '>' :: rest) := by
      simp [written, Token.Keyword.spelling, Ownership.spelling]
    rw [shape, Token.signs_keyword _ [] (loose_angle _)]
    apply Parser.takes_current
    intro token same
    rw [show token.kind = .keyword .borrow from congrArg Sign.kind same]
    exact (takes_advance _ _).bind (inside.reads.bind (reads_pure _ _))

/-- What stands behind the word of a future or a stream. -/
def writtenInner : Option TypeExpr → List Char
  | none => []
  | some inner => '<' :: (inner.written.toList ++ ['>'])

/-- The type of a future or a stream does not make its word longer. -/
theorem loose_writtenInner (inner : Option TypeExpr) (closes : Closes rest) :
    Loose (writtenInner inner ++ rest) := by
  cases inner with
  | none => exact closes.loose
  | some inner => exact loose_angle _

/-- The type of a future or a stream is read if it is there. -/
theorem reads_writtenInner {inner : Option TypeExpr} {first : Sign}
    (each : ∀ found ∈ inner, found.ReadWithin fuel) (closes : Closes rest)
    (enough : (first :: signs [] (writtenInner inner ++ rest)).length < fuel + 1) :
    Reads (optionalAngled (parseWithin fuel)) (signs [] (writtenInner inner ++ rest))
      (inner.map settled) (signs [] rest) := by
  cases inner with
  | none => exact reads_optionalAngled_none closes
  | some inner =>
    have shape : writtenInner (some inner) ++ rest =
        '<' :: (inner.written.toList ++ '>' :: rest) := by simp [writtenInner]
    rw [shape] at enough ⊢
    exact reads_optionalAngled (takes_inner (each inner rfl) enough).reads

/-- A future is read if its type is. -/
theorem readWithin_future {inner : Option TypeExpr}
    (each : ∀ found ∈ inner, found.ReadWithin fuel) : (future inner).ReadWithin (fuel + 1) := by
  intro rest closes enough
  have shape : (future inner).written.toList ++ rest =
      Token.Builtin.future.spelling.toList ++ (writtenInner inner ++ rest) := by
    cases inner <;> simp [written, writtenInner, Token.Builtin.spelling]
  rw [shape, Token.signs_builtin _ [] (loose_writtenInner inner closes)] at enough ⊢
  apply Parser.takes_current
  intro token same
  rw [show token.kind = .builtin .future from congrArg Sign.kind same]
  rw [settled, mapNames, mapNamesOption_eq_map]
  exact (takes_advance _ _).bind ((reads_writtenInner each closes enough).bind (reads_pure _ _))

/-- A stream is read if its element is. -/
theorem readWithin_stream {element : Option TypeExpr}
    (each : ∀ found ∈ element, found.ReadWithin fuel) :
    (stream element).ReadWithin (fuel + 1) := by
  intro rest closes enough
  have shape : (stream element).written.toList ++ rest =
      Token.Builtin.stream.spelling.toList ++ (writtenInner element ++ rest) := by
    cases element <;> simp [written, writtenInner, Token.Builtin.spelling]
  rw [shape, Token.signs_builtin _ [] (loose_writtenInner element closes)] at enough ⊢
  apply Parser.takes_current
  intro token same
  rw [show token.kind = .builtin .stream from congrArg Sign.kind same]
  rw [settled, mapNames, mapNamesOption_eq_map]
  exact (takes_advance _ _).bind ((reads_writtenInner each closes enough).bind (reads_pure _ _))

end Steps

/-- A written type is read as the settled type, with enough fuel. -/
theorem readWithin (type : TypeExpr) (fuel : Nat) : type.ReadWithin fuel := by
  induction type using TypeExpr.induct generalizing fuel with
  | step type ih =>
    cases fuel with
    | zero => exact fun rest closes enough => absurd enough (Nat.not_lt_zero _)
    | succ fuel =>
      cases type with
      | primitive kind => exact readWithin_primitive kind
      | named name => exact readWithin_named name
      | list element => exact (ih element (by simp [children]) fuel).list
      | option inner => exact (ih inner (by simp [children]) fuel).option
      | result ok err => exact readWithin_result fun type side => ih type side fuel
      | tuple elements => exact readWithin_tuple fun type listed => ih type listed fuel
      | handle ownership resource => exact readWithin_handle ownership resource
      | future inner =>
        exact readWithin_future fun type found => ih type (by simpa [children] using found) fuel
      | stream element =>
        exact readWithin_stream fun type found => ih type (by simpa [children] using found) fuel

/-- A written type is read as the settled type. -/
theorem takes_written (type : TypeExpr) (closes : Closes rest) :
    Takes parser (signs [] (type.written.toList ++ rest)) type.settled (signs [] rest) := by
  have within := fun fuel => type.readWithin fuel rest closes
  exact ⟨(within _ (Nat.lt_succ_self _)).length_lt,
    (Parser.reads_fuelled fun fuel enough => (within fuel enough).reads).run⟩

end TypeExpr

end WitBridge
