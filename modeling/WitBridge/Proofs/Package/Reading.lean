import WitBridge.Proofs.Package.Lines

/-!
# Reading written packages

Each part of a document is read from its written form as the part that is reread, whatever
follows it, and so is the document.
-/
namespace WitBridge

open WitBridge.Parser (Takes Reads Closes reads_pure takes_advance takes_mark takes_accept_mark
  reads_accept_of_ne takes_keyword takes_accept_keyword)
open Token (signs Loose Keyword)

variable {rest : List Char} {layout : Layout}

/-- A closing brace on its own line is taken. -/
theorem Parser.takes_closingBrace (indent : Nat) (rest : List Char) :
    Takes (Parser.mark .rightBrace)
      (signs [] (List.replicate indent ' ' ++ '\x7d' :: '\n' :: rest)) () (signs [] rest) := by
  have brace := takes_mark [] ('\n' :: rest) (show Token.Mark.lone? '\x7d' = some _ from rfl)
  rw [Token.signs_newline] at brace
  rwa [Token.signs_replicate]

/-- A closing brace on its own line is in front. -/
theorem Parser.front_closingBrace (indent : Nat) (rest : List Char) :
    Token.front (signs [] (List.replicate indent ' ' ++ '\x7d' :: '\n' :: rest)) =
      .mark .rightBrace := by
  rw [Token.signs_replicate]
  exact Parser.front_mark [] _ rfl

/-- A semicolon at the end of a line is taken. -/
theorem Parser.takes_semicolon (rest : List Char) :
    Takes (Parser.mark .semicolon) (signs [] (';' :: '\n' :: rest)) () (signs [] rest) := by
  have semicolon := takes_mark [] ('\n' :: rest) (show Token.Mark.lone? ';' = some _ from rfl)
  rwa [Token.signs_newline] at semicolon

/-- A written parameter is read. -/
theorem Parameter.takes_written (parameter : Parameter) (closes : Closes rest) :
    Takes Parameter.parser (signs [] (parameter.written.toList ++ rest)) parameter.settled
      (signs [] rest) := by
  have shape : parameter.written.toList ++ rest =
      parameter.name.written.toList ++ ':' :: ' ' :: (parameter.type.written.toList ++ rest) := by
    simp [Parameter.written]
  rw [shape]
  refine .bind (parameter.name.takes_written _ _ [] (by simp; decide)) ?_
  apply (takes_mark [] _ rfl).reads.bind
  rw [Token.signs_space]
  exact (parameter.type.takes_written closes).reads.bind (reads_pure _ _)

/-- Written parameters in parentheses are read. -/
theorem Parameter.takes_writtenList (parameters : List Parameter) (docs : List String)
    (rest : List Char) :
    Takes Parameter.list (signs docs ('(' :: ((writtenList parameters).toList ++ ')' :: rest)))
      (parameters.map Parameter.settled) (signs [] rest) := by
  have shape : (writtenList parameters).toList =
      List.intercalate [',', ' '] (parameters.map (·.written.toList)) := by
    simp [writtenList, Function.comp_def]
  have row : Reads (Parser.commaItems (.mark .rightParen) Parameter.parser)
      (signs [] ((writtenList parameters).toList ++ ')' :: rest))
      (parameters.map Parameter.settled) (signs [] (')' :: rest)) := by
    rw [shape]
    refine Parser.reads_commaItems_row (fun parameter _ tail follows _ => ?_)
      (Parser.front_mark [] rest rfl) (by decide) (by simp [Parser.closers]) (Nat.lt_succ_self _)
    refine ⟨parameter.takes_written follows, ?_⟩
    simp only [Parameter.written, String.toList_append, List.append_assoc]
    exact parameter.name.front_written_ne [] (by simp; decide) (by decide)
  refine .bind (takes_mark docs _ rfl) (row.bind ?_)
  exact (takes_mark [] rest rfl).reads.bind (reads_pure _ _)

namespace Function

/-- The results of a function are written as their one type, if there are any. -/
theorem writtenResults_eq (function : Function) :
    (function.gatheredResults = [] ∧ function.writtenResults = "") ∨
      ∃ type, function.gatheredResults = [type] ∧
        function.writtenResults = " -> " ++ type.written := by
  unfold gatheredResults writtenResults
  match function.results with
  | [] => exact .inl ⟨rfl, rfl⟩
  | [result] => exact .inr ⟨result, rfl, rfl⟩
  | first :: second :: more => exact .inr ⟨.tuple (first :: second :: more), rfl, rfl⟩

/-- What stands behind the word for an asynchronous function is read as its type. -/
theorem takes_func (function : Function) (name : Identifier) (docs : Documentation)
    (closes : Closes rest) :
    Takes (do
        Parser.keyword .func
        let parameters ← Parameter.list
        let results ← do
          if ← Parser.accept (.mark .arrow) then pure [← TypeExpr.parser] else pure []
        return (⟨name, parameters, results, function.isAsync, docs⟩ : Function))
      (signs [] (Keyword.func.spelling.toList ++ '(' ::
        ((Parameter.writtenList function.parameters).toList ++ ')' ::
          (function.writtenResults.toList ++ rest))))
      ⟨name, function.parameters.map Parameter.settled,
        function.gatheredResults.map TypeExpr.settled, function.isAsync, docs⟩
      (signs [] rest) := by
  refine .bind (takes_keyword .func [] (by simp; decide)) ?_
  apply (Parameter.takes_writtenList function.parameters [] _).reads.bind
  rcases function.writtenResults_eq with ⟨gathered, written⟩ | ⟨type, gathered, written⟩
  · rw [gathered, written]
    refine .bind (reads_accept_of_ne (closes.front_ne (by decide))) ?_
    exact reads_pure _ _
  · have shape : function.writtenResults.toList ++ rest =
        ' ' :: '-' :: '>' :: ' ' :: (type.written.toList ++ rest) := by simp [written]
    rw [shape, gathered, Token.signs_space, Token.signs_arrow, Token.signs_space]
    refine .bind (Parser.takes_accept _ _ _ _).reads ?_
    exact (type.takes_written closes).reads.bind (reads_pure _ _)

/-- The written type of a function is read under a name. -/
theorem takes_writtenType (function : Function) (name : Identifier) (docs : Documentation)
    (closes : Closes rest) :
    Takes (parseType name docs) (signs [] (function.writtenType.toList ++ rest))
      ⟨name, function.parameters.map Parameter.settled,
        function.gatheredResults.map TypeExpr.settled, function.isAsync, docs⟩
      (signs [] rest) := by
  have body := function.takes_func name docs closes
  cases isAsync : function.isAsync with
  | true =>
    have shape : function.writtenType.toList ++ rest = Keyword.async.spelling.toList ++ ' ' ::
        (Keyword.func.spelling.toList ++ '(' ::
          ((Parameter.writtenList function.parameters).toList ++ ')' ::
            (function.writtenResults.toList ++ rest))) := by
      simp [writtenType, isAsync, Keyword.spelling]
    rw [shape]
    rw [isAsync] at body
    refine .bind (takes_accept_keyword .async [] (by simp; decide)) ?_
    rw [Token.signs_space]
    exact body.reads
  | false =>
    have shape : function.writtenType.toList ++ rest = Keyword.func.spelling.toList ++ '(' ::
        ((Parameter.writtenList function.parameters).toList ++ ')' ::
          (function.writtenResults.toList ++ rest)) := by
      simp [writtenType, isAsync, Keyword.spelling]
    rw [shape]
    rw [isAsync] at body
    refine .after (reads_accept_of_ne ?_) body
    rw [Parser.front_keyword .func [] (by simp; decide)]
    decide

/-- The written type of a function begins with one of two words. -/
theorem front_writtenType (function : Function) (docs : List String) (rest : List Char) :
    Token.front (signs docs (function.writtenType.toList ++ rest)) =
      .keyword (if function.isAsync then .async else .func) := by
  have loose : ∀ c tail, c = ' ' ∨ c = '(' → Loose (c :: tail) := by
    rintro c tail (rfl | rfl) <;> simp <;> decide
  cases isAsync : function.isAsync with
  | true =>
    have shape : function.writtenType.toList ++ rest =
        Keyword.async.spelling.toList ++ ' ' :: ("func(".toList ++
          ((Parameter.writtenList function.parameters).toList ++
            ')' :: (function.writtenResults.toList ++ rest))) := by
      simp [writtenType, isAsync, Keyword.spelling]
    rw [shape, Parser.front_keyword .async docs (loose _ _ (.inl rfl))]
    rfl
  | false =>
    have shape : function.writtenType.toList ++ rest =
        Keyword.func.spelling.toList ++ '(' ::
          ((Parameter.writtenList function.parameters).toList ++
            ')' :: (function.writtenResults.toList ++ rest)) := by
      simp [writtenType, isAsync, Keyword.spelling]
    rw [shape, Parser.front_keyword .func docs (loose _ _ (.inr rfl))]
    rfl

end Function

/-- The characters of documentation and of a text on the line after it. -/
def Documentation.entry (layout : Layout) (depth : Nat) (docs : Documentation) (text : String) :
    List Char :=
  Line.chars layout depth (docs.lineList layout) ++
    (List.replicate (depth * layout.indent) ' ' ++ text.toList)

/-- Documentation in front of a text is kept for its first token. -/
theorem Documentation.signs_entry (depth : Nat) {docs : Documentation} (text : String)
    (single : docs.SingleLines) :
    signs [] (docs.entry layout depth text ++ rest) =
      signs (docs.reread layout).lines (text.toList ++ rest) := by
  simp [entry, Documentation.signs_lineList layout depth _ single]

/-- A documented text with a comma and a newline behind it. -/
theorem Documentation.chars_entry (depth : Nat) (docs : Documentation) (text : String) :
    Line.chars layout depth (docs.lineList layout ++ [.flush (text ++ ",")]) =
      docs.entry layout depth text ++ [',', '\n'] := by
  simp [entry, Line.chars, Line.flush]

/-- The characters of a field before its comma. -/
def Field.entry (layout : Layout) (depth : Nat) (field : Field) : List Char :=
  field.docs.entry layout depth (field.name.written ++ ": " ++ field.type.written)

/-- A field is its entry with a comma behind it. -/
theorem Field.chars_lineList (layout : Layout) (depth : Nat) (field : Field) :
    Line.chars layout depth (field.lineList layout) = field.entry layout depth ++ [',', '\n'] :=
  Documentation.chars_entry depth field.docs (field.name.written ++ ": " ++ field.type.written)

/-- A written field is read. -/
theorem Field.takes_entry (field : Field) (depth : Nat) (single : field.docs.SingleLines)
    (closes : Closes rest) :
    Takes Field.parser (signs [] (field.entry layout depth ++ rest)) (field.reread layout)
        (signs [] rest) ∧
      Token.front (signs [] (field.entry layout depth ++ rest)) ≠ .mark .rightBrace := by
  have shape : (field.name.written ++ ": " ++ field.type.written).toList ++ rest =
      field.name.written.toList ++ ':' :: ' ' :: (field.type.written.toList ++ rest) := by simp
  have loose : Loose (':' :: ' ' :: (field.type.written.toList ++ rest)) := by simp; decide
  rw [entry, Documentation.signs_entry depth _ single, shape]
  refine ⟨?_, field.name.front_written_ne _ loose (by decide)⟩
  refine .after (field.name.reads_docs_written _ loose) ?_
  refine .bind (field.name.takes_written _ _ _ loose) ?_
  apply (takes_mark [] _ rfl).reads.bind
  rw [Token.signs_space]
  exact (field.type.takes_written closes).reads.bind (reads_pure _ _)

/-- The characters of a case before its comma. -/
def Case.entry (layout : Layout) (depth : Nat) (case : Case) : List Char :=
  case.docs.entry layout depth (case.name.written ++ match case.payload with
    | some type => "(" ++ type.written ++ ")"
    | none => "")

/-- A case is its entry with a comma behind it. -/
theorem Case.chars_lineList (layout : Layout) (depth : Nat) (case : Case) :
    Line.chars layout depth (case.lineList layout) = case.entry layout depth ++ [',', '\n'] := by
  obtain ⟨name, payload, docs⟩ := case
  cases payload with
  | none => exact Documentation.chars_entry depth docs (name.written ++ "")
  | some type => exact Documentation.chars_entry depth docs (name.written ++ _)

/-- A written case is read. -/
theorem Case.takes_entry (case : Case) (depth : Nat) (single : case.docs.SingleLines)
    (closes : Closes rest) :
    Takes Case.parser (signs [] (case.entry layout depth ++ rest)) (case.reread layout)
        (signs [] rest) ∧
      Token.front (signs [] (case.entry layout depth ++ rest)) ≠ .mark .rightBrace := by
  obtain ⟨name, payload, docs⟩ := case
  rw [entry, Documentation.signs_entry depth _ single]
  cases payload with
  | none =>
    have shape : (name.written ++ "").toList ++ rest = name.written.toList ++ rest := by simp
    rw [shape]
    refine ⟨?_, name.front_written_ne _ closes.loose (by decide)⟩
    refine .after (name.reads_docs_written _ closes.loose) ?_
    refine .bind (name.takes_written _ _ _ closes.loose) ?_
    refine .bind (reads_accept_of_ne (closes.front_ne (by decide))) ?_
    exact reads_pure _ _
  | some type =>
    have shape : (name.written ++ ("(" ++ type.written ++ ")")).toList ++ rest =
        name.written.toList ++ '(' :: (type.written.toList ++ ')' :: rest) := by simp
    have loose : Loose ('(' :: (type.written.toList ++ ')' :: rest)) := by simp; decide
    rw [shape]
    refine ⟨?_, name.front_written_ne _ loose (by decide)⟩
    refine .after (name.reads_docs_written _ loose) ?_
    refine .bind (name.takes_written _ _ _ loose) ?_
    apply (takes_accept_mark [] _ rfl).reads.bind
    apply (type.takes_written (by simp [Parser.closers])).reads.bind
    exact (takes_mark [] rest rfl).reads.bind (reads_pure _ _)

/-- A name on a line of its own, before its comma. -/
def Identifier.entryChars (layout : Layout) (depth : Nat) (name : Identifier) : List Char :=
  List.replicate (depth * layout.indent) ' ' ++ name.written.toList

/-- A name in a list is its entry with a comma behind it. -/
theorem Identifier.chars_entry (layout : Layout) (depth : Nat) (name : Identifier) :
    Line.chars layout depth [name.entry] = name.entryChars layout depth ++ [',', '\n'] := by
  simp [entry, entryChars, Line.chars, Line.flush]

/-- A written name of a list is read. -/
theorem Identifier.takes_entryChars (name : Identifier) (depth : Nat) (what : String)
    (closes : Closes rest) :
    Takes (Parser.identifier what) (signs [] (name.entryChars layout depth ++ rest)) name.settled
        (signs [] rest) ∧
      Token.front (signs [] (name.entryChars layout depth ++ rest)) ≠ .mark .rightBrace := by
  rw [entryChars, List.append_assoc, Token.signs_replicate]
  exact ⟨name.takes_written _ _ _ closes.loose, name.front_written_ne _ closes.loose (by decide)⟩

/-- A block of items, each with a comma at its end, is read in braces. -/
theorem Parser.takes_block {α entry : Type} {item : Parser α} {lineList : entry → List Line}
    {written : entry → List Char} {read : entry → α} {entries : List entry} (depth : Nat)
    (shape : ∀ e, Line.chars layout (depth + 1) (lineList e) = written e ++ [',', '\n'])
    (each : ∀ e ∈ entries, ∀ rest, Closes rest →
      Takes item (signs [] (written e ++ rest)) (read e) (signs [] rest) ∧
        Token.front (signs [] (written e ++ rest)) ≠ .mark .rightBrace) :
    Takes (Parser.bracedItems item)
      (signs [] ('\x7b' :: '\n' :: (Line.chars layout (depth + 1) (entries.flatMap lineList) ++
        (List.replicate (depth * layout.indent) ' ' ++ '\x7d' :: '\n' :: rest))))
      (entries.map read) (signs [] rest) := by
  have lines := Parser.reads_commaItems_lines each
    (Parser.front_closingBrace (depth * layout.indent) rest)
  have body : Line.chars layout (depth + 1) (entries.flatMap lineList) =
      entries.flatMap (written · ++ [',', '\n']) := by
    simp only [Line.chars_flatMap, shape]
  rw [body]
  refine .bind (takes_mark [] _ rfl) ?_
  rw [Token.signs_newline]
  exact lines.bind ((Parser.takes_closingBrace _ rest).reads.bind (reads_pure _ _))

/-- A written method is read. -/
theorem Method.takes_lineList (method : Method) (layout : Layout) (depth : Nat)
    (rest : List Char) (single : method.function.docs.SingleLines) :
    Takes Method.parser (signs [] (Line.chars layout depth (method.lineList layout) ++ rest))
        (method.reread layout) (signs [] rest) ∧
      ∀ kind, kind ≠ .mark .percent ∧ kind ≠ .identifier →
        Token.front (signs [] (Line.chars layout depth (method.lineList layout) ++ rest)) ≠
          kind := by
  obtain ⟨name, function, isStatic⟩ := method
  have closes : Closes (';' :: '\n' :: rest) := by simp [Parser.closers]
  have semicolon := takes_mark [] ('\n' :: rest) (show Token.Mark.lone? ';' = some _ from rfl)
  rw [Token.signs_newline] at semicolon
  have typed := fun docs => function.takes_writtenType name.settled docs closes
  rw [lineList, Documentation.signs_documented layout depth _ _ single]
  cases isStatic with
  | true =>
    have shape : (name.written ++ (if true = true then ": static " else ": ") ++
        function.writtenType ++ ";").toList ++ '\n' :: rest = name.written.toList ++ ':' :: ' ' ::
          (Keyword.static.spelling.toList ++ ' ' ::
            (function.writtenType.toList ++ ';' :: '\n' :: rest)) := by simp [Keyword.spelling]
    have loose : Loose (':' :: ' ' :: (Keyword.static.spelling.toList ++ ' ' ::
        (function.writtenType.toList ++ ';' :: '\n' :: rest))) := by simp; decide
    rw [shape]
    refine ⟨?_, fun kind other => name.front_written_ne _ loose other⟩
    refine .after (name.reads_docs_written _ loose) ?_
    refine .bind (name.takes_written _ _ _ loose) ?_
    apply (takes_mark [] _ rfl).reads.bind
    rw [Token.signs_space]
    apply (takes_accept_keyword .static [] (by simp; decide)).reads.bind
    rw [Token.signs_space]
    exact (typed _).reads.bind (semicolon.reads.bind (reads_pure _ _))
  | false =>
    have shape : (name.written ++ (if false = true then ": static " else ": ") ++
        function.writtenType ++ ";").toList ++ '\n' :: rest = name.written.toList ++ ':' :: ' ' ::
          (function.writtenType.toList ++ ';' :: '\n' :: rest) := by simp
    have loose : Loose (':' :: ' ' :: (function.writtenType.toList ++ ';' :: '\n' :: rest)) := by
      simp; decide
    rw [shape]
    refine ⟨?_, fun kind other => name.front_written_ne _ loose other⟩
    refine .after (name.reads_docs_written _ loose) ?_
    refine .bind (name.takes_written _ _ _ loose) ?_
    apply (takes_mark [] _ rfl).reads.bind
    rw [Token.signs_space]
    refine .bind (reads_accept_of_ne ?_) ?_
    · rw [function.front_writtenType]
      split <;> decide
    · exact (typed _).reads.bind (semicolon.reads.bind (reads_pure _ _))

end WitBridge
