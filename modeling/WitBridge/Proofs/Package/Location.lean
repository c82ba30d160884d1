import WitBridge.Build
import WitBridge.Proofs.Parser.Location
import WitBridge.Proofs.Token.Exactness

/-!
# Where reading a package stops

Every parser of the grammar accounts for its tokens: it takes valid ones or complains of one. The
complaints that are made late, of a version, of a second constructor and of a vendor in a world,
are of a token that was at hand earlier and has been taken since, so it is a valid one. So a text
that is no document is refused at the start of one of its tokens, which is a place in the text, and
the refusal is lexical just where that token is invalid. A step on such a text reports the refusal
there and nothing else.
-/
namespace WitBridge

open WitBridge.Parser (Accounts AccountsAt accounts_pure accounts_refuse accounts_unexpected
  accounts_current accounts_get accounts_check accounts_docs accountsAt_advance
  accountsAt_advance_bind accounts_mark accounts_keyword accounts_accept_mark
  accounts_accept_keyword accounts_identifier accounts_word)

variable {must : Bool} {known : List Token}

namespace TypeExpr

variable {α : Type} {item : Parser α}

/-- One item between angle brackets. -/
theorem accounts_angled (each : Accounts false known item) :
    Accounts must known (angled item) := by
  refine (accounts_mark _).bind fun _ => each.bind fun found => ?_
  exact (accounts_mark _).bind fun _ => accounts_pure _

/-- One item between angle brackets, or nothing. -/
theorem accounts_optionalAngled (each : Accounts false known item) :
    Accounts false known (optionalAngled item) := by
  refine accounts_check fun stream ended => ?_
  split
  · exact ((accounts_angled each).bind fun found => accounts_pure _) stream ended
  · exact accounts_pure _ stream ended

/-- The sides of a result. -/
theorem accounts_resultSides {type : Parser TypeExpr} (each : Accounts false known type) :
    Accounts false known (resultSides type) := by
  refine (accounts_accept_mark _).bind fun sides => ?_
  split
  · refine (accounts_accept_mark _).bind fun failureOnly => ?_
    split
    · refine (accounts_mark _).bind fun _ => each.bind fun err => ?_
      exact (accounts_mark _).bind fun _ => accounts_pure _
    · refine each.bind fun ok => (accounts_accept_mark _).bind fun both => ?_
      split
      · refine each.bind fun err => ?_
        exact (accounts_mark _).bind fun _ => accounts_pure _
      · exact (accounts_mark _).bind fun _ => accounts_pure _
  · exact accounts_pure _

/-- A type, with any fuel. -/
theorem accounts_parseWithin (fuel : Nat) : Accounts must known (parseWithin fuel) := by
  induction fuel generalizing must known with
  | zero => exact accounts_unexpected _
  | succ fuel ih =>
    refine accounts_current fun stream ended => ?_
    split
    case h_1 kind same =>
      exact accountsAt_advance_bind same ended nofun nofun (accounts_pure _)
    case h_2 same =>
      refine accountsAt_advance_bind same ended nofun nofun ?_
      exact (accounts_angled ih).bind fun element => accounts_pure _
    case h_3 same =>
      refine accountsAt_advance_bind same ended nofun nofun ?_
      exact (accounts_angled ih).bind fun inner => accounts_pure _
    case h_4 same =>
      exact accountsAt_advance_bind same ended nofun nofun (accounts_resultSides ih)
    case h_5 same =>
      refine accountsAt_advance_bind same ended nofun nofun ?_
      exact (accounts_angled (Parser.accounts_commaItems _ ih)).bind fun found => accounts_pure _
    case h_6 same =>
      refine accountsAt_advance_bind same ended nofun nofun ?_
      exact (accounts_optionalAngled ih).bind fun inner => accounts_pure _
    case h_7 same =>
      refine accountsAt_advance_bind same ended nofun nofun ?_
      exact (accounts_optionalAngled ih).bind fun element => accounts_pure _
    case h_8 same =>
      refine accountsAt_advance_bind same ended nofun nofun ?_
      exact (accounts_angled (accounts_identifier _ _)).bind fun name => accounts_pure _
    case h_9 same =>
      refine accountsAt_advance_bind same ended nofun nofun ?_
      exact (accounts_angled (accounts_identifier _ _)).bind fun name => accounts_pure _
    case h_10 | h_11 =>
      exact ((accounts_identifier _ _).bind fun name => accounts_pure _) stream ended
    case h_12 => exact accounts_unexpected _ stream ended

/-- A type. -/
theorem parser_accounts : Accounts must known TypeExpr.parser :=
  Parser.accounts_fuelled accounts_parseWithin

end TypeExpr

namespace Version

/-- What stands for a number of a version is valid, and it is not the end of the input. -/
theorem kind_ne_of_number {kind : Token.Kind}
    (number : (decide (kind = .integer) || decide (kind = .identifier)) = true) :
    kind ≠ .endOfInput ∧ kind ≠ .invalid := by
  simp only [Bool.or_eq_true, decide_eq_true_eq] at number
  rcases number with rfl | rfl <;> exact ⟨nofun, nofun⟩

/-- Where a dot is taken it is at hand, whatever else is asked. -/
theorem kind_eq_of_dotted {kind : Token.Kind} {more number : Bool}
    (dotted : (more && decide (kind = .mark .dot) && number) = true) : kind = .mark .dot := by
  simp only [Bool.and_eq_true, decide_eq_true_eq] at dotted
  exact dotted.1.2

/-- A number of a version and the numbers after it; a dot is taken only where it is at hand. -/
theorem accounts_segments_succ {count : Nat}
    (each : ∀ {known}, Accounts false known (segments count)) :
    Accounts must known (segments (count + 1)) := by
  refine accounts_current fun stream ended => ?_
  split
  case isTrue number =>
    obtain ⟨inner, valid⟩ := kind_ne_of_number number
    refine accountsAt_advance_bind rfl ended inner valid ?_
    refine accounts_get fun behind => accounts_check fun stream ended => ?_
    split
    case isTrue dotted =>
      refine accountsAt_advance_bind (kind_eq_of_dotted dotted) ended nofun nofun ?_
      exact each.bind fun more => accounts_pure _
    case isFalse => exact accounts_pure _ stream ended
  case isFalse => exact accounts_unexpected _ stream ended

/-- The numbers of a version. -/
theorem accounts_segments (count : Nat) : Accounts false known (segments count) := by
  induction count generalizing known with
  | zero => exact accounts_pure _
  | succ count ih => exact accounts_segments_succ ih

/-- The numbers of a whole version, one at least. -/
theorem accounts_numbers : Accounts must known (segments 3) :=
  accounts_segments_succ (accounts_segments 2)

/-- A version; the complaint of a wrong one is of its first number. -/
theorem parser_accounts : Accounts must known Version.parser := by
  refine accounts_current fun stream ended => ?_
  refine accounts_numbers.bind_of_valid (fun segments valid => ?_) ended
  split
  · exact accounts_pure _
  · exact accounts_refuse List.mem_cons_self valid (by simp)

/-- A version, or nothing. -/
theorem accounts_optional : Accounts false known Version.optional := by
  refine (accounts_accept_mark _).bind fun present => ?_
  split
  · exact parser_accounts.bind fun version => accounts_pure _
  · exact accounts_pure _

end Version

namespace PackageHeader

/-- The names of a package. -/
theorem accounts_segments (fuel : Nat) : Accounts must known (PackageHeader.segments fuel) := by
  induction fuel generalizing must with
  | zero => exact accounts_unexpected _
  | succ fuel ih =>
    refine (accounts_word _ _).bind fun segment => (accounts_accept_mark _).bind fun slash => ?_
    split
    · exact ih.bind fun more => accounts_pure _
    · exact accounts_pure _

/-- The declaration that opens a document. -/
theorem parser_accounts : Accounts must known PackageHeader.parser := by
  refine accounts_docs.after fun docs => (accounts_keyword _).bind fun _ => ?_
  refine (accounts_word _ _).bind fun vendor => (accounts_mark _).bind fun _ => ?_
  refine accounts_get fun stream => (accounts_segments _).bind fun names => ?_
  refine Version.accounts_optional.bind fun version => ?_
  exact (accounts_mark _).bind fun _ => accounts_pure _

end PackageHeader

/-- The rest of a path of another package. -/
theorem UsePath.accounts_parseExternal (vendor : KebabName) :
    Accounts must known (parseExternal vendor) := by
  refine (accounts_word _ _).bind fun package => (accounts_mark _).bind fun _ => ?_
  refine (accounts_identifier _ _).bind fun interface => ?_
  exact Version.accounts_optional.bind fun version => accounts_pure _

/-- A path. -/
theorem UsePath.parser_accounts : Accounts must known UsePath.parser := by
  refine accounts_get fun stream => ?_
  split
  · refine (accounts_word _ _).bind fun vendor => (accounts_mark _).bind fun _ => ?_
    exact accounts_parseExternal vendor
  · exact (accounts_identifier _ _).bind fun name => accounts_pure _

/-- A new name, or nothing. -/
theorem accounts_parseRenamed : Accounts false known parseRenamed := by
  refine (accounts_accept_keyword _).bind fun present => ?_
  split
  · exact (accounts_identifier _ _).bind fun name => accounts_pure _
  · exact accounts_pure _

/-- An item of a use. -/
theorem UseItem.parser_accounts : Accounts must known UseItem.parser := by
  refine (accounts_identifier _ _).bind fun item => ?_
  exact accounts_parseRenamed.bind fun renamed => accounts_pure _

/-- A use. -/
theorem Use.parser_accounts : Accounts must known Use.parser := by
  refine (accounts_keyword _).bind fun _ => UsePath.parser_accounts.bind fun path => ?_
  refine (accounts_accept_mark _).bind fun dot => ?_
  split
  · refine (Parser.accounts_bracedItems UseItem.parser_accounts).bind fun items => ?_
    exact (accounts_mark _).bind fun _ => accounts_pure _
  · refine accounts_parseRenamed.bind fun renamed => ?_
    exact (accounts_mark _).bind fun _ => accounts_pure _

/-- A parameter. -/
theorem Parameter.parser_accounts : Accounts must known Parameter.parser := by
  refine (accounts_identifier _ _).bind fun name => (accounts_mark _).bind fun _ => ?_
  exact TypeExpr.parser_accounts.bind fun type => accounts_pure _

/-- Parameters in parentheses. -/
theorem Parameter.accounts_list : Accounts must known Parameter.list := by
  refine (accounts_mark _).bind fun _ => ?_
  refine (Parser.accounts_commaItems _ Parameter.parser_accounts).bind fun parameters => ?_
  exact (accounts_mark _).bind fun _ => accounts_pure _

/-- The type of a function. -/
theorem Function.accounts_parseType (name : Identifier) (docs : Documentation) :
    Accounts must known (parseType name docs) := by
  refine (accounts_accept_keyword _).after fun isAsync => (accounts_keyword _).bind fun _ => ?_
  refine Parameter.accounts_list.bind fun parameters => ?_
  refine (accounts_accept_mark _).bind fun arrow => ?_
  split
  · exact TypeExpr.parser_accounts.bind fun type => accounts_pure _
  · exact accounts_pure _

/-- A field. -/
theorem Field.parser_accounts : Accounts must known Field.parser := by
  refine accounts_docs.after fun docs => (accounts_identifier _ _).bind fun name => ?_
  refine (accounts_mark _).bind fun _ => ?_
  exact TypeExpr.parser_accounts.bind fun type => accounts_pure _

/-- A case. -/
theorem Case.parser_accounts : Accounts must known Case.parser := by
  refine accounts_docs.after fun docs => (accounts_identifier _ _).bind fun name => ?_
  refine (accounts_accept_mark _).bind fun carries => ?_
  split
  · refine TypeExpr.parser_accounts.bind fun payload => ?_
    exact (accounts_mark _).bind fun _ => accounts_pure _
  · exact accounts_pure _

/-- A method. -/
theorem Method.parser_accounts : Accounts must known Method.parser := by
  refine accounts_docs.after fun docs => (accounts_identifier _ _).bind fun name => ?_
  refine (accounts_mark _).bind fun _ => (accounts_accept_keyword _).bind fun isStatic => ?_
  refine (Function.accounts_parseType name docs).bind fun function => ?_
  exact (accounts_mark _).bind fun _ => accounts_pure _

/-- The members of a resource, with any fuel; the complaint of a second constructor is of its
keyword. -/
theorem ResourceMember.accounts_listWithin (resource : Identifier) (fuel : Nat) (built : Bool) :
    Accounts false known (listWithin resource fuel built) := by
  induction fuel generalizing built known with
  | zero => exact accounts_unexpected _
  | succ fuel ih =>
    refine accounts_current fun stream ended => ?_
    split
    · exact accounts_pure _ stream ended
    · split
      case isTrue same =>
        refine accountsAt_advance_bind same ended nofun nofun ?_
        refine Parameter.accounts_list.bind fun parameters => (accounts_mark _).bind fun _ => ?_
        split
        · exact accounts_refuse List.mem_cons_self (by simp [same]) (by simp)
        · exact (ih true).bind fun rest => accounts_pure _
      case isFalse =>
        refine Accounts.bind Method.parser_accounts (fun method => ?_) stream ended
        exact (ih built).bind fun rest => accounts_pure _

/-- The body of a resource. -/
theorem Definition.accounts_parseResource (resource : Identifier) :
    Accounts false known (parseResource resource) := by
  refine (accounts_accept_mark _).bind fun empty => ?_
  split
  · exact accounts_pure _
  · refine (accounts_mark _).bind fun _ => accounts_get fun stream => ?_
    refine (ResourceMember.accounts_listWithin resource _ false).bind fun members => ?_
    exact (accounts_mark _).bind fun _ => accounts_pure _

/-- A function after its documentation. -/
theorem InterfaceItem.accounts_function (docs : Documentation) :
    Accounts must known (do
      let function ← Parser.identifier "function name"
      Parser.mark .colon
      let function ← Function.parseType function docs
      Parser.mark .semicolon
      return InterfaceItem.function function) := by
  refine (accounts_identifier _ _).bind fun name => (accounts_mark _).bind fun _ => ?_
  refine (Function.accounts_parseType name docs).bind fun function => ?_
  exact (accounts_mark _).bind fun _ => accounts_pure _

/-- An item of an interface. -/
theorem InterfaceItem.parser_accounts : Accounts must known InterfaceItem.parser := by
  refine accounts_docs.after fun docs => accounts_current fun stream ended => ?_
  split
  case h_1 same =>
    refine accountsAt_advance_bind same ended nofun nofun ?_
    refine (accounts_identifier _ _).bind fun name => (accounts_mark _).bind fun _ => ?_
    refine TypeExpr.parser_accounts.bind fun target => ?_
    exact (accounts_mark _).bind fun _ => accounts_pure _
  case h_2 same =>
    refine accountsAt_advance_bind same ended nofun nofun ?_
    refine (accounts_identifier _ _).bind fun name => ?_
    exact (Parser.accounts_bracedItems Field.parser_accounts).bind fun fields => accounts_pure _
  case h_3 same =>
    refine accountsAt_advance_bind same ended nofun nofun ?_
    refine (accounts_identifier _ _).bind fun name => ?_
    exact (Parser.accounts_bracedItems Case.parser_accounts).bind fun cases => accounts_pure _
  case h_4 same | h_5 same =>
    refine accountsAt_advance_bind same ended nofun nofun ?_
    refine (accounts_identifier _ _).bind fun name => ?_
    exact (Parser.accounts_bracedItems (accounts_identifier _ _)).bind fun names => accounts_pure _
  case h_6 same =>
    refine accountsAt_advance_bind same ended nofun nofun ?_
    refine (accounts_identifier _ _).bind fun name => ?_
    exact (Definition.accounts_parseResource name).bind fun body => accounts_pure _
  case h_7 => exact (Use.parser_accounts.bind fun use => accounts_pure _) stream ended
  case h_8 | h_9 => exact accounts_function docs stream ended
  case h_10 => exact accounts_unexpected _ stream ended

/-- The body of an interface. -/
theorem Interface.accounts_parseBody (name : Identifier) (docs : Documentation) :
    Accounts must known (parseBody name docs) := by
  refine (accounts_mark _).bind fun _ => ?_
  refine (Parser.accounts_itemsUntil _ InterfaceItem.parser_accounts).bind fun items => ?_
  exact (accounts_mark _).bind fun _ => accounts_pure _

/-- An interface. -/
theorem Interface.parser_accounts : Accounts must known Interface.parser := by
  refine accounts_docs.after fun docs => (accounts_keyword _).bind fun _ => ?_
  exact (accounts_identifier _ _).bind fun name => accounts_parseBody name docs

/-- An item of a world; the complaint of a vendor that is none is of the first token of its name. -/
theorem WorldItem.parser_accounts (docs : Documentation) :
    Accounts must known (WorldItem.parser docs) := by
  refine accounts_current fun stream ended => ?_
  refine (accounts_identifier _ _).bind_of_valid (fun name valid => ?_) ended
  refine (accounts_accept_mark _).bind fun bare => ?_
  split
  · exact accounts_pure _
  · refine (accounts_mark _).bind fun _ => accounts_current fun behind ended' => ?_
    split
    case h_1 same =>
      refine accountsAt_advance_bind same ended' nofun nofun ?_
      exact (Interface.accounts_parseBody name docs).bind fun interface => accounts_pure _
    case h_2 | h_3 =>
      refine Accounts.bind (Function.accounts_parseType name docs) (fun _ => ?_) behind ended'
      exact (accounts_mark _).bind fun _ => accounts_pure _
    case h_4 =>
      split
      case h_1 =>
        have seen : stream.current ∈ behind.current :: stream.current :: known := by simp
        exact accounts_refuse seen valid (by simp) behind ended'
      case h_2 vendor _ =>
        refine Accounts.bind (UsePath.accounts_parseExternal vendor) (fun path => ?_) behind ended'
        exact (accounts_mark _).bind fun _ => accounts_pure _

/-- A statement that is passed over. -/
theorem accounts_skipStatement (fuel : Nat) : Accounts must known (skipStatement fuel) := by
  induction fuel generalizing must known with
  | zero => exact accounts_unexpected _
  | succ fuel ih =>
    refine accounts_current fun stream ended => ?_
    split
    case isTrue same => exact accountsAt_advance ended (by simp [same]) (by simp [same])
    case isFalse =>
      split
      case isTrue => exact accounts_unexpected _ stream ended
      case isFalse valid =>
        simp only [Bool.or_eq_true, decide_eq_true_eq, not_or] at valid
        exact accountsAt_advance_bind rfl ended valid.1 valid.2 ih

/-- A member of a world. -/
theorem WorldMember.parser_accounts : Accounts must known WorldMember.parser := by
  refine accounts_docs.after fun docs => accounts_current fun stream ended => ?_
  split
  case h_1 same | h_2 same =>
    refine accountsAt_advance_bind same ended nofun nofun ?_
    exact (WorldItem.parser_accounts docs).bind fun item => accounts_pure _
  case h_3 => exact (Use.parser_accounts.bind fun use => accounts_pure _) stream ended
  case h_4 =>
    refine accounts_get (fun behind => ?_) stream ended
    exact (accounts_skipStatement _).bind fun _ => accounts_pure _
  case h_5 => exact accounts_unexpected _ stream ended

/-- A world. -/
theorem World.parser_accounts : Accounts must known World.parser := by
  refine accounts_docs.after fun docs => (accounts_keyword _).bind fun _ => ?_
  refine (accounts_identifier _ _).bind fun name => (accounts_mark _).bind fun _ => ?_
  refine (Parser.accounts_itemsUntil _ WorldMember.parser_accounts).bind fun members => ?_
  exact (accounts_mark _).bind fun _ => accounts_pure _

/-- An item of a document. -/
theorem PackageItem.parser_accounts : Accounts must known PackageItem.parser := by
  refine accounts_current fun stream ended => ?_
  split
  case h_1 => exact (Interface.parser_accounts.bind fun item => accounts_pure _) stream ended
  case h_2 => exact (World.parser_accounts.bind fun item => accounts_pure _) stream ended
  case h_3 => exact (Use.parser_accounts.bind fun item => accounts_pure _) stream ended
  case h_4 => exact accounts_unexpected _ stream ended

/-- The items of a document under a header. -/
theorem Package.accounts_items (header : Option PackageHeader) :
    Accounts false known (do
      let items ← Parser.itemsUntil .endOfInput PackageItem.parser
      return (⟨header, items.filterMap (·.interface?), items.filterMap (·.world?),
        items.filterMap (·.use?)⟩ : Package)) :=
  (Parser.accounts_itemsUntil _ PackageItem.parser_accounts).bind fun _ => accounts_pure _

/-- A document. -/
theorem Package.parser_accounts : Accounts false known Package.parser := by
  refine accounts_check fun stream ended => ?_
  split
  · refine Accounts.bind PackageHeader.parser_accounts (fun header => ?_) stream ended
    exact accounts_items (some header)
  · exact accounts_items none stream ended

/-- Tokens that stand in a text one behind the other are exact. -/
theorem Token.Sequence.exact_of_mem {source : String} {place : Position} {tokens : List Token}
    (sequence : Sequence source place tokens) {token : Token} (member : token ∈ tokens) :
    token.Exact source := by
  induction sequence with
  | nil => contradiction
  | cons exact' _ _ ih =>
    rcases List.mem_cons.1 member with rfl | member
    · exact exact'
    · exact ih member

/-- A token of a text is exact. -/
theorem TokenStream.exact_of_mem_tokens {source : String} {token : Token}
    (member : token ∈ (ofSource source).tokens) : token.Exact source := by
  have whole : source.toList = [] ++ source.toList := rfl
  exact (Token.sequence_placed whole).exact_of_mem member

namespace SourceFault

variable {fault : SourceFault} {token : Token}

/-- A fault is lexical if it complains of an invalid token. -/
theorem Blames.isLexical_iff (blames : fault.Blames token) :
    fault.isLexical = true ↔ token.kind = .invalid := by
  obtain ⟨position, cause⟩ := fault
  constructor
  · intro lexical
    cases cause with
    | invalidToken complaint => exact ((blames.lexical complaint).1 rfl).1
    | _ => contradiction
  · intro invalid
    have same := (blames.lexical token.value).2 ⟨invalid, rfl⟩
    rw [isLexical, same]

/-- A fault that complains of an invalid token says what the token says. -/
theorem Blames.detail_eq (blames : fault.Blames token) (invalid : token.kind = .invalid) :
    fault.detail = token.value := by
  have same := (blames.lexical token.value).2 ⟨invalid, rfl⟩
  rw [detail, same]
  rfl

/-- A message names the stage that the fault belongs to. -/
theorem Blames.message_eq (blames : fault.Blames token) :
    fault.message = (if token.kind = .invalid then "lex" else "parse") ++ " error at " ++
      fault.position.display ++ ": " ++ fault.detail := by
  have stage : (if fault.isLexical then "lex" else "parse") =
      if token.kind = .invalid then "lex" else "parse" := by
    simp only [blames.isLexical_iff]
  rw [← stage]
  rfl

end SourceFault

/-- A text that is refused is refused by the parser of documents. -/
theorem Package.run_of_parse_error {source : String} {fault : SourceFault}
    (refused : parse source = .error fault) :
    parser.run (.ofSource source) = .error fault := by
  have mapped : Except.map (·.1) (parser.run (.ofSource source)) = .error fault := refused
  cases ran : parser.run (.ofSource source) with
  | error other =>
    rw [ran] at mapped
    cases mapped
    rfl
  | ok pair =>
    rw [ran] at mapped
    contradiction

/-- A text that is no document is refused at the start of one of its tokens, which is a place in
the text. The refusal is lexical just where that token is invalid, and then it says what the token
says. A step on the text has the refusal as its fault, no output, and one report at that place. -/
theorem located_of_parse_error {source : String} {fault : SourceFault}
    (refused : Package.parse source = .error fault) :
    ∃ token ∈ (TokenStream.ofSource source).tokens,
      fault.position = token.start ∧ fault.position.IsAt source ∧
      (fault.isLexical = true ↔ token.kind = .invalid) ∧
      (token.kind = .invalid → fault.detail = token.value) ∧
      fault.message = (if token.kind = .invalid then "lex" else "parse") ++ " error at " ++
        fault.position.display ++ ": " ++ fault.detail ∧
      ∀ options registry, (make source options registry).output = none ∧
        (make source options registry).fault = some (.source fault) ∧
        ∃ report, (make source options registry).diagnostics = [report] ∧
          report.code.display = "WIT007" ∧ report.location = some fault.position := by
  have stopped := Package.run_of_parse_error refused
  have accounts : AccountsAt false [] (TokenStream.ofSource source) Package.parser :=
    Package.parser_accounts _ (TokenStream.ended_ofSource source)
  obtain ⟨token, member, blames⟩ := accounts.blamed stopped
  have place : fault.position.IsAt source := by
    rw [blames.position]
    exact (TokenStream.exact_of_mem_tokens member).start
  refine ⟨token, member, blames.position, place, blames.isLexical_iff, blames.detail_eq,
    blames.message_eq, fun options registry => ?_⟩
  unfold make
  rw [refused]
  exact ⟨rfl, rfl, _, rfl, rfl, rfl⟩

/-- A mark that is no mark of the grammar is refused where it stands, and what is said of it is what
its token says. -/
theorem located_of_parse_error_lexical :
    let fault : SourceFault := ⟨⟨12, 2, 1⟩, .invalidToken "unexpected character '?'"⟩
    Package.parse "interface a\n?" = .error fault ∧
      fault.position.IsAt "interface a\n?" ∧
      ∃ report, (make "interface a\n?").diagnostics = [report] ∧ report.code.display = "WIT007" ∧
        report.location = some ⟨12, 2, 1⟩ := by
  intro fault
  have refused : Package.parse "interface a\n?" = .error fault := by decide +kernel
  obtain ⟨token, -, -, place, -, -, -, made⟩ := located_of_parse_error refused
  obtain ⟨-, -, report, alone, code, location⟩ := made {} Mapping.witRegistry
  exact ⟨refused, place, report, alone, code, location⟩

end WitBridge
