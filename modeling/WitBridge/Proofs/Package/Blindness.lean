import WitBridge.Package.Parser
import WitBridge.Proofs.Parser.Blindness

/-!
# Reading a package does not see places

Every parser of the grammar is blind to places: a look at the stream is a look at a sign, a token
that is kept for a complaint is kept for nothing else, and a repetition runs as often as tokens
are ahead. So a document is a matter of the signs of its text. Where a look at the token decides,
the tokens of both streams have one sign and the cases are the same.
-/
namespace WitBridge

open WitBridge.Parser (Blind Agree agree_pure blind_pure agree_refuse agree_unexpected
  agree_current agree_get blind_check blind_docs blind_advance blind_mark blind_keyword
  blind_accept blind_identifier blind_word)

namespace TypeExpr

variable {α : Type} {item : Parser α}

/-- One item between angle brackets. -/
theorem blind_angled (each : Blind item) : Blind (angled item) := by
  refine (blind_mark _).bind fun _ => each.bind fun found => ?_
  exact (blind_mark _).bind fun _ => blind_pure _

/-- One item between angle brackets, or nothing. -/
theorem blind_optionalAngled (each : Blind item) : Blind (optionalAngled item) := by
  refine (blind_check _).bind fun present => ?_
  split
  · exact (blind_angled each).bind fun found => blind_pure _
  · exact blind_pure _

/-- The sides of a result. -/
theorem blind_resultSides {type : Parser TypeExpr} (each : Blind type) :
    Blind (resultSides type) := by
  refine (blind_accept _).bind fun sides => ?_
  split
  · refine (blind_accept _).bind fun failureOnly => ?_
    split
    · refine (blind_mark _).bind fun _ => each.bind fun err => ?_
      exact (blind_mark _).bind fun _ => blind_pure _
    · refine each.bind fun ok => (blind_accept _).bind fun both => ?_
      split
      · refine each.bind fun err => ?_
        exact (blind_mark _).bind fun _ => blind_pure _
      · exact (blind_mark _).bind fun _ => blind_pure _
  · exact blind_pure _

/-- A type, with any fuel. -/
theorem blind_parseWithin (fuel : Nat) : Blind (parseWithin fuel) := by
  induction fuel with
  | zero => exact agree_unexpected _ _
  | succ fuel ih =>
    refine agree_current.bind fun token token' same => ?_
    rw [Token.kind_eq_of_sign same]
    split
    · exact blind_advance.bind fun _ => blind_pure _
    · exact blind_advance.bind fun _ => (blind_angled ih).bind fun element => blind_pure _
    · exact blind_advance.bind fun _ => (blind_angled ih).bind fun inner => blind_pure _
    · exact blind_advance.bind fun _ => blind_resultSides ih
    · have elements := blind_angled (Parser.blind_commaItems (.mark .rightAngle) ih)
      exact blind_advance.bind fun _ => elements.bind fun found => blind_pure _
    · exact blind_advance.bind fun _ => (blind_optionalAngled ih).bind fun inner => blind_pure _
    · exact blind_advance.bind fun _ => (blind_optionalAngled ih).bind fun element => blind_pure _
    · have resource := blind_angled (blind_identifier "resource name" false)
      exact blind_advance.bind fun _ => resource.bind fun name => blind_pure _
    · have resource := blind_angled (blind_identifier "resource name" false)
      exact blind_advance.bind fun _ => resource.bind fun name => blind_pure _
    · exact (blind_identifier _ _).bind fun name => blind_pure _
    · exact (blind_identifier _ _).bind fun name => blind_pure _
    · exact agree_unexpected _ _

/-- A type. -/
theorem parser_blind : Blind TypeExpr.parser :=
  Parser.blind_fuel blind_parseWithin

end TypeExpr

namespace Version

/-- The numbers of a version: a dot is theirs if a number follows, a matter of the next sign. -/
theorem blind_segments (count : Nat) : Blind (Version.segments count) := by
  induction count with
  | zero => exact blind_pure _
  | succ count ih =>
    refine agree_current.bind fun token token' same => ?_
    rw [Token.kind_eq_of_sign same, Token.value_eq_of_sign same]
    split
    · refine blind_advance.bind fun _ => agree_get.bind fun stream stream' alike => ?_
      rw [Token.kind_eq_of_sign alike.peek]
      refine (blind_check _).bind fun dot => ?_
      split
      · exact blind_advance.bind fun _ => ih.bind fun more => blind_pure _
      · exact blind_pure _
    · exact agree_unexpected _ _

/-- A version; its place is kept for a complaint alone. -/
theorem parser_blind : Blind Version.parser := by
  refine agree_current.bind fun token token' _ => (blind_segments 3).bind fun segments => ?_
  split
  · exact blind_pure _
  · exact agree_refuse _ _ rfl

/-- A version, or nothing. -/
theorem blind_optional : Blind Version.optional := by
  refine (blind_accept _).bind fun present => ?_
  split
  · exact parser_blind.bind fun version => blind_pure _
  · exact blind_pure _

end Version

namespace PackageHeader

/-- The names of a package. -/
theorem blind_segments (fuel : Nat) : Blind (PackageHeader.segments fuel) := by
  induction fuel with
  | zero => exact agree_unexpected _ _
  | succ fuel ih =>
    refine (blind_word _ _).bind fun segment => (blind_accept _).bind fun slash => ?_
    split
    · exact ih.bind fun more => blind_pure _
    · exact blind_pure _

/-- The declaration that opens a document. -/
theorem parser_blind : Blind PackageHeader.parser := by
  refine blind_docs.bind fun docs => (blind_keyword _).bind fun _ => ?_
  refine (blind_word _ _).bind fun vendor => (blind_mark _).bind fun _ => ?_
  refine agree_get.bind fun stream stream' alike => ?_
  rw [alike.length_eq]
  refine (blind_segments _).bind fun names => Version.blind_optional.bind fun version => ?_
  exact (blind_mark _).bind fun _ => blind_pure _

end PackageHeader

/-- The rest of a path of another package. -/
theorem UsePath.blind_parseExternal (vendor : KebabName) : Blind (parseExternal vendor) := by
  refine (blind_word _ _).bind fun package => (blind_mark _).bind fun _ => ?_
  refine (blind_identifier _ _).bind fun interface => ?_
  exact Version.blind_optional.bind fun version => blind_pure _

/-- A path: whether it names another package is a matter of the next sign. -/
theorem UsePath.parser_blind : Blind UsePath.parser := by
  refine agree_get.bind fun stream stream' alike => ?_
  rw [Token.kind_eq_of_sign alike.peek]
  split
  · refine (blind_word _ _).bind fun vendor => (blind_mark _).bind fun _ => ?_
    exact blind_parseExternal vendor
  · exact (blind_identifier _ _).bind fun name => blind_pure _

/-- A new name, or nothing. -/
theorem blind_parseRenamed : Blind parseRenamed := by
  refine (blind_accept _).bind fun present => ?_
  split
  · exact (blind_identifier _ _).bind fun name => blind_pure _
  · exact blind_pure _

/-- An item of a use. -/
theorem UseItem.parser_blind : Blind UseItem.parser := by
  refine (blind_identifier _ _).bind fun item => ?_
  exact blind_parseRenamed.bind fun renamed => blind_pure _

/-- A use. -/
theorem Use.parser_blind : Blind Use.parser := by
  refine (blind_keyword _).bind fun _ => UsePath.parser_blind.bind fun path => ?_
  refine (blind_accept _).bind fun dot => ?_
  split
  · refine (Parser.blind_bracedItems UseItem.parser_blind).bind fun items => ?_
    exact (blind_mark _).bind fun _ => blind_pure _
  · refine blind_parseRenamed.bind fun renamed => ?_
    exact (blind_mark _).bind fun _ => blind_pure _

/-- A parameter. -/
theorem Parameter.parser_blind : Blind Parameter.parser := by
  refine (blind_identifier _ _).bind fun name => (blind_mark _).bind fun _ => ?_
  exact TypeExpr.parser_blind.bind fun type => blind_pure _

/-- Parameters in parentheses. -/
theorem Parameter.blind_list : Blind Parameter.list := by
  refine (blind_mark _).bind fun _ => ?_
  refine (Parser.blind_commaItems _ Parameter.parser_blind).bind fun parameters => ?_
  exact (blind_mark _).bind fun _ => blind_pure _

/-- The type of a function. -/
theorem Function.blind_parseType (name : Identifier) (docs : Documentation) :
    Blind (parseType name docs) := by
  refine (blind_accept _).bind fun isAsync => (blind_keyword _).bind fun _ => ?_
  refine Parameter.blind_list.bind fun parameters => (blind_accept _).bind fun arrow => ?_
  split
  · exact TypeExpr.parser_blind.bind fun type => blind_pure _
  · exact blind_pure _

/-- A field. -/
theorem Field.parser_blind : Blind Field.parser := by
  refine blind_docs.bind fun docs => (blind_identifier _ _).bind fun name => ?_
  refine (blind_mark _).bind fun _ => ?_
  exact TypeExpr.parser_blind.bind fun type => blind_pure _

/-- A case. -/
theorem Case.parser_blind : Blind Case.parser := by
  refine blind_docs.bind fun docs => (blind_identifier _ _).bind fun name => ?_
  refine (blind_accept _).bind fun carries => ?_
  split
  · refine TypeExpr.parser_blind.bind fun payload => ?_
    exact (blind_mark _).bind fun _ => blind_pure _
  · exact blind_pure _

/-- A method. -/
theorem Method.parser_blind : Blind Method.parser := by
  refine blind_docs.bind fun docs => (blind_identifier _ _).bind fun name => ?_
  refine (blind_mark _).bind fun _ => (blind_accept _).bind fun isStatic => ?_
  refine (Function.blind_parseType name docs).bind fun function => ?_
  exact (blind_mark _).bind fun _ => blind_pure _

/-- The members of a resource, with any fuel. -/
theorem ResourceMember.blind_listWithin (resource : Identifier) (fuel : Nat) (built : Bool) :
    Blind (listWithin resource fuel built) := by
  induction fuel generalizing built with
  | zero => exact agree_unexpected _ _
  | succ fuel ih =>
    refine agree_current.bind fun token token' same => ?_
    rw [Token.kind_eq_of_sign same]
    split
    · exact blind_pure _
    · split
      · refine blind_advance.bind fun _ => Parameter.blind_list.bind fun parameters => ?_
        refine (blind_mark _).bind fun _ => ?_
        split
        · exact agree_refuse _ _ rfl
        · exact (ih true).bind fun rest => blind_pure _
      · refine Method.parser_blind.bind fun method => ?_
        exact (ih built).bind fun rest => blind_pure _

/-- The body of a resource. -/
theorem Definition.blind_parseResource (resource : Identifier) :
    Blind (parseResource resource) := by
  refine (blind_accept _).bind fun empty => ?_
  split
  · exact blind_pure _
  · refine (blind_mark _).bind fun _ => agree_get.bind fun stream stream' alike => ?_
    rw [alike.length_eq]
    refine (ResourceMember.blind_listWithin resource _ false).bind fun members => ?_
    exact (blind_mark _).bind fun _ => blind_pure _

/-- A function after its documentation. -/
theorem InterfaceItem.blind_function (docs : Documentation) :
    Blind (do
      let function ← Parser.identifier "function name"
      Parser.mark .colon
      let function ← Function.parseType function docs
      Parser.mark .semicolon
      return InterfaceItem.function function) := by
  refine (blind_identifier _ _).bind fun name => (blind_mark _).bind fun _ => ?_
  refine (Function.blind_parseType name docs).bind fun function => ?_
  exact (blind_mark _).bind fun _ => blind_pure _

/-- An item of an interface. -/
theorem InterfaceItem.parser_blind : Blind InterfaceItem.parser := by
  refine blind_docs.bind fun docs => agree_current.bind fun token token' same => ?_
  rw [Token.kind_eq_of_sign same]
  split
  · refine blind_advance.bind fun _ => (blind_identifier _ _).bind fun name => ?_
    refine (blind_mark _).bind fun _ => TypeExpr.parser_blind.bind fun target => ?_
    exact (blind_mark _).bind fun _ => blind_pure _
  · refine blind_advance.bind fun _ => (blind_identifier _ _).bind fun name => ?_
    exact (Parser.blind_bracedItems Field.parser_blind).bind fun fields => blind_pure _
  · refine blind_advance.bind fun _ => (blind_identifier _ _).bind fun name => ?_
    exact (Parser.blind_bracedItems Case.parser_blind).bind fun cases => blind_pure _
  · refine blind_advance.bind fun _ => (blind_identifier _ _).bind fun name => ?_
    exact (Parser.blind_bracedItems (blind_identifier _ _)).bind fun names => blind_pure _
  · refine blind_advance.bind fun _ => (blind_identifier _ _).bind fun name => ?_
    exact (Parser.blind_bracedItems (blind_identifier _ _)).bind fun names => blind_pure _
  · refine blind_advance.bind fun _ => (blind_identifier _ _).bind fun name => ?_
    exact (Definition.blind_parseResource name).bind fun body => blind_pure _
  · exact Use.parser_blind.bind fun use => blind_pure _
  · exact blind_function docs
  · exact blind_function docs
  · exact agree_unexpected _ _

/-- The body of an interface. -/
theorem Interface.blind_parseBody (name : Identifier) (docs : Documentation) :
    Blind (parseBody name docs) := by
  refine (blind_mark _).bind fun _ => ?_
  refine (Parser.blind_itemsUntil _ InterfaceItem.parser_blind).bind fun items => ?_
  exact (blind_mark _).bind fun _ => blind_pure _

/-- An interface. -/
theorem Interface.parser_blind : Blind Interface.parser := by
  refine blind_docs.bind fun docs => (blind_keyword _).bind fun _ => ?_
  exact (blind_identifier _ _).bind fun name => blind_parseBody name docs

/-- An item of a world; its place is kept for a complaint alone. -/
theorem WorldItem.parser_blind (docs : Documentation) : Blind (WorldItem.parser docs) := by
  refine agree_current.bind fun token token' _ => (blind_identifier _ _).bind fun name => ?_
  refine (blind_accept _).bind fun bare => ?_
  split
  · exact blind_pure _
  · refine (blind_mark _).bind fun _ => agree_current.bind fun next next' same => ?_
    rw [Token.kind_eq_of_sign same]
    split
    · refine blind_advance.bind fun _ => ?_
      exact (Interface.blind_parseBody name docs).bind fun interface => blind_pure _
    · refine (Function.blind_parseType name docs).bind fun function => ?_
      exact (blind_mark _).bind fun _ => blind_pure _
    · refine (Function.blind_parseType name docs).bind fun function => ?_
      exact (blind_mark _).bind fun _ => blind_pure _
    · split
      · exact agree_refuse _ _ rfl
      · next vendor _ =>
        refine (UsePath.blind_parseExternal vendor).bind fun path => ?_
        exact (blind_mark _).bind fun _ => blind_pure _

/-- A statement that is passed over. -/
theorem blind_skipStatement (fuel : Nat) : Blind (skipStatement fuel) := by
  induction fuel with
  | zero => exact agree_unexpected _ _
  | succ fuel ih =>
    refine agree_current.bind fun token token' same => ?_
    rw [Token.kind_eq_of_sign same]
    split
    · exact blind_advance
    · split
      · exact agree_unexpected _ _
      · exact blind_advance.bind fun _ => ih

/-- A member of a world. -/
theorem WorldMember.parser_blind : Blind WorldMember.parser := by
  refine blind_docs.bind fun docs => agree_current.bind fun token token' same => ?_
  rw [Token.kind_eq_of_sign same]
  split
  · exact blind_advance.bind fun _ => (WorldItem.parser_blind docs).bind fun item => blind_pure _
  · exact blind_advance.bind fun _ => (WorldItem.parser_blind docs).bind fun item => blind_pure _
  · exact Use.parser_blind.bind fun use => blind_pure _
  · refine agree_get.bind fun stream stream' alike => ?_
    rw [alike.length_eq]
    exact (blind_skipStatement _).bind fun _ => blind_pure _
  · exact agree_unexpected _ _

/-- A world. -/
theorem World.parser_blind : Blind World.parser := by
  refine blind_docs.bind fun docs => (blind_keyword _).bind fun _ => ?_
  refine (blind_identifier _ _).bind fun name => (blind_mark _).bind fun _ => ?_
  refine (Parser.blind_itemsUntil _ WorldMember.parser_blind).bind fun members => ?_
  exact (blind_mark _).bind fun _ => blind_pure _

/-- An item of a document. -/
theorem PackageItem.parser_blind : Blind PackageItem.parser := by
  refine agree_current.bind fun token token' same => ?_
  rw [Token.kind_eq_of_sign same]
  split
  · exact Interface.parser_blind.bind fun interface => blind_pure _
  · exact World.parser_blind.bind fun world => blind_pure _
  · exact Use.parser_blind.bind fun use => blind_pure _
  · exact agree_unexpected _ _

/-- The items of a document under a header. -/
theorem Package.blind_items (header : Option PackageHeader) :
    Blind (do
      let items ← Parser.itemsUntil .endOfInput PackageItem.parser
      return (⟨header, items.filterMap (·.interface?), items.filterMap (·.world?),
        items.filterMap (·.use?)⟩ : Package)) :=
  (Parser.blind_itemsUntil _ PackageItem.parser_blind).bind fun _ => blind_pure _

/-- A document. -/
theorem Package.parser_blind : Blind Package.parser := by
  refine (blind_check _).bind fun headed => ?_
  split
  · exact PackageHeader.parser_blind.bind fun header => blind_items (some header)
  · exact blind_items none

/-- Texts of the same signs spell the same package or none. -/
theorem Package.toOption_parse_eq {source other : String}
    (alike : (TokenStream.ofSource source).Alike (TokenStream.ofSource other)) :
    (parse source).toOption = (parse other).toOption := by
  have same := parser_blind _ _ alike
  unfold parse
  change Parser.Accord Eq (parser (TokenStream.ofSource source))
    (parser (TokenStream.ofSource other)) at same
  generalize parser (TokenStream.ofSource source) = found at same ⊢
  generalize parser (TokenStream.ofSource other) = found' at same ⊢
  cases same with
  | ok values _ => rw [values]; rfl
  | error => rfl

end WitBridge
