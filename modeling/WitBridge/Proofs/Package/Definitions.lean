import WitBridge.Proofs.Package.Uses

/-!
# Reading written interfaces

A definition is told by the word in front of it and read from its lines, and so are the other
items of an interface. An interface is read as its items in the order in which they are written:
uses, then types, then functions.
-/
namespace WitBridge

open WitBridge.Parser (Takes Reads Closes reads_pure takes_advance takes_mark takes_accept_mark
  reads_accept_of_ne takes_keyword takes_accept_keyword)
open Token (signs Loose Keyword)

variable {rest : List Char} {layout : Layout}

namespace ResourceMember

variable {resource : Identifier} {depth : Nat} {tail : List Char}

/-- Written methods are read up to the closing brace, with enough fuel. -/
theorem reads_methods (methods : List Method) (fuel : Nat) (built : Bool)
    (single : ∀ method ∈ methods, method.function.docs.SingleLines)
    (closed : Token.front (signs [] tail) = .mark .rightBrace)
    (enough : (signs [] (Line.chars layout depth (methods.flatMap (Method.lineList layout)) ++
      tail)).length < fuel) :
    Reads (listWithin resource fuel built)
      (signs [] (Line.chars layout depth (methods.flatMap (Method.lineList layout)) ++ tail))
      (methods.map fun method => .method (method.reread layout)) (signs [] tail) := by
  induction methods generalizing fuel with
  | nil =>
    obtain ⟨fuel, rfl⟩ := Nat.exists_eq_add_one_of_ne_zero (Nat.ne_zero_of_lt enough)
    apply Parser.reads_front
    intro token same
    have closing : token.kind = .mark .rightBrace := same.trans closed
    simp only [closing, ↓reduceIte]
    exact reads_pure _ _
  | cons method more ih =>
    obtain ⟨fuel, rfl⟩ := Nat.exists_eq_add_one_of_ne_zero (Nat.ne_zero_of_lt enough)
    rw [List.flatMap_cons, Line.chars_append, List.append_assoc] at enough ⊢
    obtain ⟨first, begun⟩ := method.takes_lineList layout depth
      (Line.chars layout depth (more.flatMap (Method.lineList layout)) ++ tail)
      (single method (by simp))
    have others := ih fuel (fun other member => single other (List.mem_cons_of_mem _ member))
      (Nat.lt_of_lt_of_le first.length_lt (Nat.le_of_lt_succ enough))
    apply Parser.reads_front
    intro token same
    have open' : token.kind ≠ .mark .rightBrace := same ▸ begun _ (by decide)
    have plain : token.kind ≠ .keyword .constructor := same ▸ begun _ (by decide)
    simp only [open', plain, ↓reduceIte]
    exact first.reads.bind (others.bind (reads_pure _ _))

/-- The line of a constructor is read, and the members after it with enough fuel. -/
theorem reads_constructor (parameters : List Parameter) (fuel : Nat)
    {members : List ResourceMember}
    (others : (signs [] tail).length < fuel →
      Reads (listWithin resource fuel true) (signs [] tail) members (signs [] rest))
    (enough : (signs [] (Line.chars layout depth [.flush ("constructor(" ++
      Parameter.writtenList parameters ++ ");")] ++ tail)).length < fuel + 1) :
    Reads (listWithin resource (fuel + 1) false)
      (signs [] (Line.chars layout depth [.flush ("constructor(" ++
        Parameter.writtenList parameters ++ ");")] ++ tail))
      (.constructor (parameters.map Parameter.settled) :: members) (signs [] rest) := by
  have shape : ("constructor(" ++ Parameter.writtenList parameters ++ ");").toList ++ '\n' :: tail =
      Keyword.constructor.spelling.toList ++ '(' ::
        ((Parameter.writtenList parameters).toList ++ ')' :: ';' :: '\n' :: tail) := by
    simp [Keyword.spelling]
  have listed := Parameter.takes_writtenList parameters [] (';' :: '\n' :: tail)
  have semicolon := Parser.takes_semicolon tail
  rw [Line.signs_chars_flush, shape, Token.signs_keyword _ _ (by simp; decide)] at enough ⊢
  have less : (signs [] tail).length < fuel := by
    have first := listed.length_lt
    have second := semicolon.length_lt
    rw [List.length_cons] at enough
    omega
  apply Parser.reads_current
  intro token same
  simp only [show token.kind = .keyword .constructor from congrArg Token.Sign.kind same]
  apply (takes_advance _ _).reads.bind
  exact listed.reads.bind (semicolon.reads.bind ((others less).bind (reads_pure _ _)))

end ResourceMember

namespace Definition

/-- The lines of the members of a resource. -/
def resourceLines (layout : Layout) (constructor : Option (List Parameter))
    (methods : List Method) : List Line :=
  constructor.toList.map (fun parameters =>
      .flush ("constructor(" ++ Parameter.writtenList parameters ++ ");"))
    ++ methods.flatMap (Method.lineList layout)

/-- A resource is written as a block of its members unless it has none. -/
theorem lineList_resource (name : String) (constructor : Option (List Parameter))
    (methods : List Method) :
    (resource constructor methods).lineList layout name =
      if constructor = none ∧ methods = [] then [.flush ("resource " ++ name ++ ";")]
      else Line.block ("resource " ++ name) (resourceLines layout constructor methods) := by
  cases constructor <;> cases methods <;> simp [lineList, resourceLines]

/-- The members of a resource as they are read. -/
def members (layout : Layout) (constructor : Option (List Parameter)) (methods : List Method) :
    List ResourceMember :=
  constructor.toList.map (fun parameters => .constructor (parameters.map Parameter.settled)) ++
    methods.map fun method => .method (method.reread layout)

/-- The constructor is found among the members of a resource. -/
theorem findSome?_members (constructor : Option (List Parameter)) (methods : List Method) :
    (members layout constructor methods).findSome? (·.constructor?) =
      constructor.map (·.map Parameter.settled) := by
  cases constructor with
  | none => simp [members, ResourceMember.constructor?]
  | some parameters => simp [members, ResourceMember.constructor?]

/-- The methods are found among the members of a resource. -/
theorem filterMap_members (constructor : Option (List Parameter)) (methods : List Method) :
    (members layout constructor methods).filterMap (·.method?) =
      methods.map (Method.reread layout) := by
  cases constructor <;>
    simp [members, ResourceMember.method?, List.filterMap_map]

/-- The written members of a resource are read up to the closing brace, with enough fuel. -/
theorem reads_members {tail : List Char} (layout : Layout) (name : Identifier) (depth : Nat)
    (constructor : Option (List Parameter)) (methods : List Method) (fuel : Nat)
    (single : ∀ method ∈ methods, method.function.docs.SingleLines)
    (closed : Token.front (signs [] tail) = .mark .rightBrace)
    (enough : (signs [] (Line.chars layout depth (resourceLines layout constructor methods) ++
      tail)).length < fuel) :
    Reads (ResourceMember.listWithin name fuel false)
      (signs [] (Line.chars layout depth (resourceLines layout constructor methods) ++ tail))
      (members layout constructor methods) (signs [] tail) := by
  cases constructor with
  | none => exact ResourceMember.reads_methods methods fuel false single closed enough
  | some parameters =>
    obtain ⟨fuel, rfl⟩ := Nat.exists_eq_add_one_of_ne_zero (Nat.ne_zero_of_lt enough)
    have shape : resourceLines layout (some parameters) methods =
        [.flush ("constructor(" ++ Parameter.writtenList parameters ++ ");")] ++
          methods.flatMap (Method.lineList layout) := rfl
    rw [shape, Line.chars_append, List.append_assoc] at enough ⊢
    exact ResourceMember.reads_constructor parameters fuel
      (ResourceMember.reads_methods methods fuel true single closed) enough

/-- The body of a resource in braces is read. -/
theorem takes_resourceBlock (name : Identifier) (constructor : Option (List Parameter))
    (methods : List Method) (depth : Nat)
    (single : ∀ method ∈ methods, method.function.docs.SingleLines) :
    Takes (parseResource name)
      (signs [] ('\x7b' :: '\n' :: (Line.chars layout (depth + 1)
        (resourceLines layout constructor methods) ++
          (List.replicate (depth * layout.indent) ' ' ++ '\x7d' :: '\n' :: rest))))
      ((resource constructor methods).reread layout) (signs [] rest) := by
  have closed := Parser.front_closingBrace (depth * layout.indent) rest
  have within := fun fuel =>
    reads_members layout name (depth + 1) constructor methods fuel single closed
  have other : Token.front (signs [] ('\x7b' :: '\n' :: (Line.chars layout (depth + 1)
      (resourceLines layout constructor methods) ++
        (List.replicate (depth * layout.indent) ' ' ++ '\x7d' :: '\n' :: rest)))) ≠
      .mark .semicolon := by
    rw [Parser.front_mark [] _ (show Token.Mark.lone? '\x7b' = some _ from rfl)]
    decide
  refine .after (reads_accept_of_ne other) (.bind (takes_mark [] _ rfl) ?_)
  rw [Token.signs_newline]
  refine Parser.reads_get (fun stream shows => ?_) ?_
  · refine (within _ (by rw [shows.length_ahead]; exact Nat.lt_succ_self _)).bind ?_
    apply (Parser.takes_closingBrace _ rest).reads.bind
    rw [findSome?_members, filterMap_members]
    exact reads_pure _ _
  · exact Nat.le_trans (Parser.takes_closingBrace _ rest).reads.length_le
      (within _ (Nat.lt_succ_self _)).length_le

end Definition

namespace InterfaceItem

/-- The lines of an item. -/
def lineList (layout : Layout) : InterfaceItem → List Line
  | type definition => definition.lineList layout
  | function found => found.lineList layout
  | use found => found.lineList

/-- An item as it is read. -/
def reread (layout : Layout) : InterfaceItem → InterfaceItem
  | type definition => type (definition.reread layout)
  | function found => function (found.reread layout)
  | use found => use found.reread

/-- Whether an item can be read. -/
def Legible : InterfaceItem → Prop
  | type definition => definition.docs.SingleLines ∧ definition.body.Legible
  | function found => found.docs.SingleLines
  | use found => found.path.Legible

/-- No item begins with a closing brace. -/
theorem front_ne {before left : List Token.Sign} {item : InterfaceItem}
    (takes : Takes parser before item left) : Token.front before ≠ .mark .rightBrace := by
  refine takes.front_ne fun stream same result ran => ?_
  simp only [parser, Parser.docs, Parser.current, bind_pure_comp, bind_map_left, StateT.run_bind,
    StateT.run_get, pure_bind, same] at ran
  exact Parser.run_unexpected_ne_ok _ _ _ ran

/-- The name behind the keyword of a definition is read, and then the rest. -/
theorem takes_named {α : Type} {k : Keyword} {value : String} {docs : List String}
    {what : String} {anyWord : Bool} {next : Identifier → Parser α} {found : α}
    {text rest : List Char} (name : Identifier) (loose : Loose text)
    (body : Reads (next name.settled) (signs [] text) found (signs [] rest)) :
    Takes (do
        discard Parser.advance
        let read ← Parser.identifier what anyWord
        next read)
      (⟨.keyword k, value, docs⟩ :: signs [] (name.written.toList ++ text)) found
      (signs [] rest) :=
  .bind (takes_advance _ _) ((name.takes_written _ _ [] loose).reads.bind body)

/-- A written enumeration of names is read in braces. -/
theorem takes_names (names : List Identifier) (what : String) (depth : Nat) :
    Takes (Parser.bracedItems (Parser.identifier what))
      (signs [] ('\x7b' :: '\n' :: (Line.chars layout (depth + 1) (names.map Identifier.entry) ++
        (List.replicate (depth * layout.indent) ' ' ++ '\x7d' :: '\n' :: rest))))
      (names.map Identifier.settled) (signs [] rest) := by
  rw [List.map_eq_flatMap]
  exact Parser.takes_block depth (Identifier.chars_entry layout (depth + 1))
    fun name _ _ closes => name.takes_entryChars (depth + 1) what closes

/-- The name in the heading of a block is read behind its keyword, and then the block. -/
theorem takes_heading {α : Type} {k : Keyword} {value : String} {docs : List String}
    {what : String} {anyWord : Bool} {block : Parser α} {next : Identifier → α → InterfaceItem}
    {found : α} {text rest : List Char} (name : Identifier)
    (body : Reads block (signs [] ('\x7b' :: text)) found (signs [] rest)) :
    Takes (do
        discard Parser.advance
        let read ← Parser.identifier what anyWord
        return next read (← block))
      (⟨.keyword k, value, docs⟩ :: signs [] (name.written.toList ++ ' ' :: '\x7b' :: text))
      (next name.settled found) (signs [] rest) := by
  apply takes_named name (by simp; decide)
  rw [Token.signs_space]
  exact body.bind (reads_pure _ _)

/-- Whether a written definition is read, under its settled name and behind its documentation. -/
def ReadNamed (layout : Layout) (body : Definition) : Prop :=
  ∀ (name : Identifier) (docs : List String) (depth : Nat) (rest : List Char),
    Takes parser (signs docs (Line.chars layout depth (body.lineList layout name.written) ++ rest))
      (.type ⟨name.settled, body.reread layout, ⟨docs⟩⟩) (signs [] rest)

/-- A record is read field by field. -/
theorem readNamed_record {fields : List Field}
    (single : ∀ field ∈ fields, field.docs.SingleLines) :
    ReadNamed layout (.record fields) := by
  intro name docs depth rest
  have shape : (Definition.record fields).lineList layout name.written =
      Line.block (Keyword.record.spelling ++ " " ++ name.written)
        (fields.flatMap (Field.lineList layout)) := rfl
  rw [shape, Line.signs_chars_heading]
  refine .after (Parser.reads_docs _ _) (Parser.takes_current fun token same => ?_)
  simp only [show token.kind = .keyword .record from congrArg Token.Sign.kind same]
  apply takes_heading
  refine (Parser.takes_block depth (Field.chars_lineList layout (depth + 1)) ?_).reads
  exact fun field member _ => field.takes_entry (depth + 1) (single field member)

/-- A variant is read case by case. -/
theorem readNamed_variant {cases : List Case}
    (single : ∀ case ∈ cases, case.docs.SingleLines) :
    ReadNamed layout (.variant cases) := by
  intro name docs depth rest
  have shape : (Definition.variant cases).lineList layout name.written =
      Line.block (Keyword.variant.spelling ++ " " ++ name.written)
        (cases.flatMap (Case.lineList layout)) := rfl
  rw [shape, Line.signs_chars_heading]
  refine .after (Parser.reads_docs _ _) (Parser.takes_current fun token same => ?_)
  simp only [show token.kind = .keyword .variant from congrArg Token.Sign.kind same]
  apply takes_heading
  refine (Parser.takes_block depth (Case.chars_lineList layout (depth + 1)) ?_).reads
  exact fun case member _ => case.takes_entry (depth + 1) (single case member)

/-- An enumeration is read name by name. -/
theorem readNamed_enum (cases : List Identifier) : ReadNamed layout (.enum cases) := by
  intro name docs depth rest
  have shape : (Definition.enum cases).lineList layout name.written =
      Line.block (Keyword.enum.spelling ++ " " ++ name.written) (cases.map Identifier.entry) := rfl
  rw [shape, Line.signs_chars_heading]
  refine .after (Parser.reads_docs _ _) (Parser.takes_current fun token same => ?_)
  simp only [show token.kind = .keyword .enum from congrArg Token.Sign.kind same]
  exact takes_heading name (takes_names cases _ depth).reads

/-- Flags are read name by name. -/
theorem readNamed_flags (names : List Identifier) : ReadNamed layout (.flags names) := by
  intro name docs depth rest
  have shape : (Definition.flags names).lineList layout name.written =
      Line.block (Keyword.flags.spelling ++ " " ++ name.written) (names.map Identifier.entry) := rfl
  rw [shape, Line.signs_chars_heading]
  refine .after (Parser.reads_docs _ _) (Parser.takes_current fun token same => ?_)
  simp only [show token.kind = .keyword .flags from congrArg Token.Sign.kind same]
  exact takes_heading name (takes_names names _ depth).reads

/-- A resource is read from its name alone or member by member. -/
theorem readNamed_resource {constructor : Option (List Parameter)} {methods : List Method}
    (single : ∀ method ∈ methods, method.function.docs.SingleLines) :
    ReadNamed layout (.resource constructor methods) := by
  intro name docs depth rest
  rw [Definition.lineList_resource]
  split
  · next empty =>
    obtain ⟨rfl, rfl⟩ := empty
    have shape : ("resource " ++ name.written ++ ";").toList ++ '\n' :: rest =
        Keyword.resource.spelling.toList ++
          ' ' :: (name.written.toList ++ ';' :: '\n' :: rest) := by
      simp [Keyword.spelling]
    have semicolon := takes_accept_mark [] ('\n' :: rest)
      (show Token.Mark.lone? ';' = some _ from rfl)
    rw [Token.signs_newline] at semicolon
    rw [Line.signs_chars_flush, shape, Token.signs_keyword _ docs (by simp; decide),
      Token.signs_space]
    refine .after (Parser.reads_docs _ _) (Parser.takes_current fun token same => ?_)
    simp only [show token.kind = .keyword .resource from congrArg Token.Sign.kind same]
    refine takes_named name (by simp; decide) (.bind ?_ (reads_pure _ _))
    exact semicolon.reads.bind (reads_pure _ _)
  · have shape : "resource " ++ name.written = Keyword.resource.spelling ++ " " ++ name.written :=
      rfl
    rw [shape, Line.signs_chars_heading]
    refine .after (Parser.reads_docs _ _) (Parser.takes_current fun token same => ?_)
    simp only [show token.kind = .keyword .resource from congrArg Token.Sign.kind same]
    refine takes_named name (by simp; decide) (.bind ?_ (reads_pure _ _))
    rw [Token.signs_space]
    exact (Definition.takes_resourceBlock _ constructor methods depth single).reads

/-- A synonym is read with its target. -/
theorem readNamed_synonym (target : TypeExpr) : ReadNamed layout (.synonym target) := by
  intro name docs depth rest
  have lines : (Definition.synonym target).lineList layout name.written =
      [.flush ("type " ++ name.written ++ " = " ++ target.written ++ ";")] := rfl
  have shape : ("type " ++ name.written ++ " = " ++ target.written ++ ";").toList ++ '\n' :: rest =
      Keyword.type.spelling.toList ++ ' ' :: (name.written.toList ++ ' ' :: '=' :: ' ' ::
        (target.written.toList ++ ';' :: '\n' :: rest)) := by
    simp [Keyword.spelling]
  rw [lines, Line.signs_chars_flush, shape, Token.signs_keyword _ docs (by simp; decide),
    Token.signs_space]
  refine .after (Parser.reads_docs _ _) (Parser.takes_current fun token same => ?_)
  simp only [show token.kind = .keyword .type from congrArg Token.Sign.kind same]
  apply takes_named name (by simp; decide)
  rw [Token.signs_space]
  apply (takes_mark [] _ rfl).reads.bind
  rw [Token.signs_space]
  apply (target.takes_written (by simp [Parser.closers])).reads.bind
  exact (Parser.takes_semicolon rest).reads.bind (reads_pure _ _)

/-- A written definition is read behind its documentation. -/
theorem takes_definition (body : Definition) (legible : body.Legible) : ReadNamed layout body := by
  cases body with
  | record fields => exact readNamed_record legible
  | variant cases => exact readNamed_variant legible
  | enum cases => exact readNamed_enum cases
  | flags names => exact readNamed_flags names
  | resource constructor methods => exact readNamed_resource legible
  | synonym target => exact readNamed_synonym target

/-- A written function is read behind its documentation. -/
theorem takes_function (written : Function) :
    Takes parser
      (signs (written.docs.reread layout).lines ((written.signature ++ ";").toList ++ '\n' :: rest))
      (.function (written.reread layout)) (signs [] rest) := by
  let docs := (written.docs.reread layout).lines
  have shape : (written.signature ++ ";").toList ++ '\n' :: rest = written.name.written.toList ++
      ':' :: ' ' :: (written.writtenType.toList ++ ';' :: '\n' :: rest) := by
    simp [Function.signature]
  have loose : Loose (':' :: ' ' :: (written.writtenType.toList ++ ';' :: '\n' :: rest)) := by
    simp; decide
  have typed := written.takes_writtenType written.name.settled ⟨docs⟩
    (show Closes (';' :: '\n' :: rest) by simp [Parser.closers])
  have body : Takes (do
        let name ← Parser.identifier "function name"
        Parser.mark .colon
        let found ← Function.parseType name ⟨docs⟩
        Parser.mark .semicolon
        return InterfaceItem.function found)
      (signs docs (written.name.written.toList ++
        ':' :: ' ' :: (written.writtenType.toList ++ ';' :: '\n' :: rest)))
      (.function (written.reread layout)) (signs [] rest) := by
    refine .bind (written.name.takes_written _ _ docs loose) ?_
    apply (takes_mark [] _ rfl).reads.bind
    rw [Token.signs_space]
    exact typed.reads.bind ((Parser.takes_semicolon rest).reads.bind (reads_pure _ _))
  rw [shape]
  refine .after (written.name.reads_docs_written docs loose) ?_
  have begun := written.name.signs_written docs loose
  split at begun
  · rw [begun] at body ⊢
    apply Parser.takes_current
    intro token same
    simp only [show token.kind = .mark .percent from congrArg Token.Sign.kind same]
    exact body
  · rw [begun] at body ⊢
    apply Parser.takes_current
    intro token same
    simp only [show token.kind = .identifier from congrArg Token.Sign.kind same]
    exact body

/-- A written item is read. -/
theorem takes_lineList (item : InterfaceItem) (layout : Layout) (depth : Nat) (rest : List Char)
    (legible : item.Legible) :
    Takes parser (signs [] (Line.chars layout depth (item.lineList layout) ++ rest))
      (item.reread layout) (signs [] rest) := by
  cases item with
  | type definition =>
    rw [lineList, TypeDefinition.lineList, Line.chars_append, List.append_assoc,
      Documentation.signs_lineList layout depth _ legible.1]
    exact takes_definition definition.body legible.2 definition.name _ depth rest
  | function found =>
    rw [lineList, Function.lineList, Documentation.signs_documented layout depth _ _ legible]
    exact takes_function found
  | use found =>
    have takes := found.takes_lineList layout depth rest legible
    obtain ⟨tail, begun⟩ := found.signs_lineList layout depth rest
    rw [lineList]
    rw [begun] at takes ⊢
    refine .after (Parser.reads_docs _ _) (Parser.takes_current fun token same => ?_)
    simp only [show token.kind = .keyword .use from congrArg Token.Sign.kind same]
    exact takes.bind (reads_pure _ _)

end InterfaceItem

namespace Interface

/-- The items of an interface in the order in which they are written. -/
def items (interface : Interface) : List InterfaceItem :=
  interface.uses.map .use ++ interface.types.map .type ++ interface.functions.map .function

/-- The members of an interface are the lines of its items. -/
theorem memberLines_eq (interface : Interface) :
    interface.memberLines layout = interface.items.flatMap (InterfaceItem.lineList layout) := by
  simp only [memberLines, items, List.flatMap_append, List.flatMap_map]
  rfl

/-- The items of a legible interface can be read. -/
theorem Legible.of_mem_items {interface : Interface} (legible : interface.Legible)
    {item : InterfaceItem} (member : item ∈ interface.items) : item.Legible := by
  simp only [items, List.mem_append, List.mem_map] at member
  rcases member with (⟨use, listed, rfl⟩ | ⟨definition, listed, rfl⟩) | ⟨function, listed, rfl⟩
  · exact legible.uses use listed
  · exact legible.types definition listed
  · exact legible.functions function listed

/-- The types among the items. -/
theorem filterMap_type?_items (interface : Interface) :
    (interface.items.map (InterfaceItem.reread layout)).filterMap (·.type?) =
      interface.types.map (TypeDefinition.reread layout) := by
  simp [items, List.filterMap_map, Function.comp_def, InterfaceItem.reread, InterfaceItem.type?]

/-- The functions among the items. -/
theorem filterMap_function?_items (interface : Interface) :
    (interface.items.map (InterfaceItem.reread layout)).filterMap (·.function?) =
      interface.functions.map (Function.reread layout) := by
  simp [items, List.filterMap_map, Function.comp_def, InterfaceItem.reread,
    InterfaceItem.function?]

/-- The uses among the items. -/
theorem filterMap_use?_items (interface : Interface) :
    (interface.items.map (InterfaceItem.reread layout)).filterMap (·.use?) =
      interface.uses.map Use.reread := by
  simp [items, List.filterMap_map, Function.comp_def, InterfaceItem.reread, InterfaceItem.use?]

/-- The members of an interface in braces are read under a name. -/
theorem takes_body (interface : Interface) (name : Identifier) (docs : Documentation)
    (layout : Layout) (depth : Nat) (rest : List Char) (legible : interface.Legible) :
    Takes (parseBody name docs)
      (signs [] ('\x7b' :: '\n' :: (Line.chars layout (depth + 1) (interface.memberLines layout) ++
        (List.replicate (depth * layout.indent) ' ' ++ '\x7d' :: '\n' :: rest))))
      { interface.reread layout with name := name, docs := docs } (signs [] rest) := by
  have each : ∀ item ∈ interface.items, ∀ tail,
      Takes InterfaceItem.parser
          (signs [] (Line.chars layout (depth + 1) (item.lineList layout) ++ tail))
          (item.reread layout) (signs [] tail) ∧
        Token.front (signs [] (Line.chars layout (depth + 1) (item.lineList layout) ++ tail)) ≠
          .mark .rightBrace := by
    intro item member tail
    have takes := item.takes_lineList layout (depth + 1) tail (legible.of_mem_items member)
    exact ⟨takes, InterfaceItem.front_ne takes⟩
  have items := Parser.reads_itemsUntil each
    (Parser.front_closingBrace (depth * layout.indent) rest)
  rw [memberLines_eq, Line.chars_flatMap]
  refine .bind (takes_mark [] _ rfl) ?_
  rw [Token.signs_newline]
  refine items.bind ((Parser.takes_closingBrace _ rest).reads.bind ?_)
  rw [filterMap_type?_items, filterMap_function?_items, filterMap_use?_items]
  exact reads_pure _ _

/-- The lines of an interface begin with its keyword, and its name and its block follow. -/
theorem signs_lineList (interface : Interface) (layout : Layout) (depth : Nat) (rest : List Char)
    (single : interface.docs.SingleLines) :
    signs [] (Line.chars layout depth (interface.lineList layout) ++ rest) =
      ⟨.keyword .interface, Keyword.interface.spelling, (interface.docs.reread layout).lines⟩ ::
        signs [] (interface.name.written.toList ++ ' ' :: '\x7b' :: '\n' ::
          (Line.chars layout (depth + 1) (interface.memberLines layout) ++
            (List.replicate (depth * layout.indent) ' ' ++ '\x7d' :: '\n' :: rest))) := by
  have shape : "interface " ++ interface.name.written =
      Keyword.interface.spelling ++ " " ++ interface.name.written := rfl
  rw [lineList, Line.chars_append, List.append_assoc,
    Documentation.signs_lineList layout depth _ single, shape, Line.signs_chars_heading]

/-- A written interface is read. -/
theorem takes_lineList (interface : Interface) (layout : Layout) (depth : Nat) (rest : List Char)
    (legible : interface.Legible) :
    Takes Interface.parser (signs [] (Line.chars layout depth (interface.lineList layout) ++ rest))
      (interface.reread layout) (signs [] rest) := by
  rw [interface.signs_lineList layout depth rest legible.docs]
  refine .after (Parser.reads_docs _ _) (.bind (Parser.takes_expect _ _ _ _) ?_)
  apply (interface.name.takes_written _ _ [] (by simp; decide)).reads.bind
  rw [Token.signs_space]
  exact (interface.takes_body _ _ layout depth rest legible).reads

end Interface

end WitBridge
