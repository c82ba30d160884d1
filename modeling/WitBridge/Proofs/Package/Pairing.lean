import WitBridge.Proofs.Package.Loops
import WitBridge.Proofs.Parser.Pairing

/-!
# The grammar of packages keeps in step

Every parser of the grammar keeps in step with itself on streams that are paired: it looks at no
more than the token at hand and the kind behind it, the end of the input is never taken, for a token
is only taken where its kind is known to be another, and a repetition has fuel enough on every
stream, for its passes take tokens.
-/
namespace WitBridge

open WitBridge.Parser (Loop InStep inStep_pure inStep_refuse inStep_unexpected
  inStep_current inStep_get inStep_check inStep_docs inStepAt_advance_bind inStep_mark
  inStep_keyword inStep_accept_mark inStep_accept_keyword inStep_identifier inStep_word
  inStep_commaItems inStep_bracedItems inStep_itemsUntil)

variable {pairing : Pairing} {bound : Nat}

namespace TypeExpr

variable {α : Type} {item item' : Parser α}

/-- One item between angle brackets. -/
theorem inStep_angled (each : InStep pairing bound item item') :
    InStep pairing bound (angled item) (angled item') := by
  refine (inStep_mark _).bind fun _ => each.bind fun found => ?_
  exact (inStep_mark _).bind fun _ => inStep_pure _

/-- One item between angle brackets, or nothing. -/
theorem inStep_optionalAngled (each : InStep pairing bound item item') :
    InStep pairing bound (optionalAngled item) (optionalAngled item') := by
  refine inStep_check fun stream ended few => ?_
  split
  · exact ((inStep_angled each).bind fun found => inStep_pure _) stream ended few
  · exact inStep_pure _ stream ended few

/-- The sides of a result. -/
theorem inStep_resultSides {type type' : Parser TypeExpr} (each : InStep pairing bound type type') :
    InStep pairing bound (resultSides type) (resultSides type') := by
  refine (inStep_accept_mark _).bind fun sides => ?_
  split
  · refine (inStep_accept_mark _).bind fun failureOnly => ?_
    split
    · refine (inStep_mark _).bind fun _ => each.bind fun err => ?_
      exact (inStep_mark _).bind fun _ => inStep_pure _
    · refine each.bind fun ok => (inStep_accept_mark _).bind fun both => ?_
      split
      · refine each.bind fun err => ?_
        exact (inStep_mark _).bind fun _ => inStep_pure _
      · exact (inStep_mark _).bind fun _ => inStep_pure _
  · exact inStep_pure _

/-- A type, with enough fuel. -/
theorem inStep_parseWithin {fuel fuel' : Nat} (enough : bound ≤ fuel)
    (enough' : bound ≤ fuel' + pairing.beyond) :
    InStep pairing bound (parseWithin fuel) (parseWithin fuel') := by
  intro stream ended few
  induction fuel' generalizing fuel stream bound with
  | zero => exact ((accounts_parseWithin fuel).shrinks ended).inStepAt (by omega)
  | succ fuel' ih =>
    obtain ⟨fuel, rfl⟩ : ∃ less, fuel = less + 1 := ⟨fuel - 1, by omega⟩
    refine inStep_current (fun stream ended few => ?_) stream ended few
    have inner : InStep pairing stream.ahead.length (parseWithin fuel) (parseWithin fuel') :=
      fun inner ended fewer => ih (by omega) (by omega) inner ended fewer
    split
    case h_1 kind same =>
      exact inStepAt_advance_bind ended (by simp [same]) (inStep_pure _)
    case h_2 same =>
      refine inStepAt_advance_bind ended (by simp [same]) ?_
      exact (inStep_angled inner).bind fun element => inStep_pure _
    case h_3 same =>
      refine inStepAt_advance_bind ended (by simp [same]) ?_
      exact (inStep_angled inner).bind fun found => inStep_pure _
    case h_4 same =>
      exact inStepAt_advance_bind ended (by simp [same]) (inStep_resultSides inner)
    case h_5 same =>
      have elements := inStep_commaItems (.mark .rightAngle)
        (accounts_parseWithin fuel) inner
      refine inStepAt_advance_bind ended (by simp [same]) ?_
      exact (inStep_angled elements).bind fun found => inStep_pure _
    case h_6 same =>
      refine inStepAt_advance_bind ended (by simp [same]) ?_
      exact (inStep_optionalAngled inner).bind fun found => inStep_pure _
    case h_7 same =>
      refine inStepAt_advance_bind ended (by simp [same]) ?_
      exact (inStep_optionalAngled inner).bind fun element => inStep_pure _
    case h_8 same =>
      refine inStepAt_advance_bind ended (by simp [same]) ?_
      exact (inStep_angled (inStep_identifier _ _)).bind fun name => inStep_pure _
    case h_9 same =>
      refine inStepAt_advance_bind ended (by simp [same]) ?_
      exact (inStep_angled (inStep_identifier _ _)).bind fun name => inStep_pure _
    case h_10 | h_11 =>
      exact ((inStep_identifier _ _).bind fun name => inStep_pure _) stream ended few
    case h_12 => exact inStep_unexpected _ stream ended few

/-- A type. -/
theorem parser_inStep : InStep pairing bound TypeExpr.parser TypeExpr.parser :=
  Parser.inStep_fuelled fun _ => inStep_parseWithin

end TypeExpr

namespace Version

/-- A number of a version: a dot is taken only where it is at hand. -/
theorem inStep_pass (count : Nat) :
    InStep pairing bound (segmentLoop.pass count) (segmentLoop.pass count) := by
  refine inStep_current fun stream ended few => ?_
  split
  case isTrue number =>
    refine inStepAt_advance_bind ended (kind_ne_of_number number).1 ?_
    refine inStep_get fun behind other ended few peek _ => ?_
    rw [peek]
    refine inStep_check (fun stream ended few => ?_) behind ended few
    split
    case isTrue dotted =>
      have same := kind_eq_of_dotted dotted
      exact inStepAt_advance_bind ended (by simp [same]) (inStep_pure _)
    case isFalse => exact inStep_pure _ stream ended few
  case isFalse => exact inStep_unexpected _ stream ended few

/-- The numbers of a version. -/
theorem inStep_segments (count : Nat) : InStep pairing bound (segments count) (segments count) := by
  have read : segments count = segmentLoop.within (pure []) (bound + count + 1) count :=
    segments_eq (by omega)
  rw [read]
  refine Loop.inStep_within ?_ accounts_pass inStep_pass ?_ ?_ count
  · exact fun _ _ => rfl
  all_goals omega

/-- A version. -/
theorem parser_inStep : InStep pairing bound Version.parser Version.parser := by
  refine inStep_current fun stream ended few => ?_
  refine (inStep_segments 3).bind (fun segments => ?_) stream ended few
  split
  · exact inStep_pure _
  · exact inStep_refuse _ _

/-- A version, or nothing. -/
theorem inStep_optional : InStep pairing bound Version.optional Version.optional := by
  refine (inStep_accept_mark _).bind fun present => ?_
  split
  · exact parser_inStep.bind fun version => inStep_pure _
  · exact inStep_pure _

end Version

namespace PackageHeader

/-- The names of a package, with enough fuel. -/
theorem inStep_segments {fuel fuel' : Nat} (enough : bound ≤ fuel)
    (enough' : bound ≤ fuel' + pairing.beyond) :
    InStep pairing bound (PackageHeader.segments fuel) (PackageHeader.segments fuel') := by
  rw [segments_eq, segments_eq]
  refine Loop.inStep_within ?_ accounts_pass (fun _ => ?_) enough enough' ()
  · exact fun _ _ => rfl
  · refine (inStep_word _ _).bind fun segment => (inStep_accept_mark _).bind fun slash => ?_
    split <;> exact inStep_pure _

/-- The declaration that opens a document. -/
theorem parser_inStep : InStep pairing bound PackageHeader.parser PackageHeader.parser := by
  refine inStep_docs.bind fun docs => (inStep_keyword _).bind fun _ => ?_
  refine (inStep_word _ _).bind fun vendor => (inStep_mark _).bind fun _ => ?_
  refine inStep_get fun stream other ended few _ length => ?_
  have enough : stream.ahead.length + 1 ≤ other.ahead.length + 1 + pairing.beyond := by omega
  refine (inStep_segments (Nat.le_refl _) enough).bind (fun names => ?_) stream ended
    (Nat.lt_succ_self _)
  refine Version.inStep_optional.bind fun version => ?_
  exact (inStep_mark _).bind fun _ => inStep_pure _

end PackageHeader

/-- The rest of a path of another package. -/
theorem UsePath.inStep_parseExternal (vendor : KebabName) :
    InStep pairing bound (parseExternal vendor) (parseExternal vendor) := by
  refine (inStep_word _ _).bind fun package => (inStep_mark _).bind fun _ => ?_
  refine (inStep_identifier _ _).bind fun interface => ?_
  exact Version.inStep_optional.bind fun version => inStep_pure _

/-- A path. -/
theorem UsePath.parser_inStep : InStep pairing bound UsePath.parser UsePath.parser := by
  refine inStep_get fun stream other ended few peek _ => ?_
  rw [peek]
  split
  · refine (inStep_word _ _).bind (fun vendor => ?_) stream ended few
    exact (inStep_mark _).bind fun _ => inStep_parseExternal vendor
  · exact ((inStep_identifier _ _).bind fun name => inStep_pure _) stream ended few

/-- A new name, or nothing. -/
theorem inStep_parseRenamed : InStep pairing bound parseRenamed parseRenamed := by
  refine (inStep_accept_keyword _).bind fun present => ?_
  split
  · exact (inStep_identifier _ _).bind fun name => inStep_pure _
  · exact inStep_pure _

/-- An item of a use. -/
theorem UseItem.parser_inStep : InStep pairing bound UseItem.parser UseItem.parser := by
  refine (inStep_identifier _ _).bind fun item => ?_
  exact inStep_parseRenamed.bind fun renamed => inStep_pure _

/-- A use. -/
theorem Use.parser_inStep : InStep pairing bound Use.parser Use.parser := by
  refine (inStep_keyword _).bind fun _ => UsePath.parser_inStep.bind fun path => ?_
  refine (inStep_accept_mark _).bind fun dot => ?_
  split
  · refine (inStep_bracedItems UseItem.parser_accounts
      UseItem.parser_inStep).bind fun items => ?_
    exact (inStep_mark _).bind fun _ => inStep_pure _
  · refine inStep_parseRenamed.bind fun renamed => ?_
    exact (inStep_mark _).bind fun _ => inStep_pure _

/-- A parameter. -/
theorem Parameter.parser_inStep : InStep pairing bound Parameter.parser Parameter.parser := by
  refine (inStep_identifier _ _).bind fun name => (inStep_mark _).bind fun _ => ?_
  exact TypeExpr.parser_inStep.bind fun type => inStep_pure _

/-- Parameters in parentheses. -/
theorem Parameter.inStep_list : InStep pairing bound Parameter.list Parameter.list := by
  refine (inStep_mark _).bind fun _ => ?_
  refine (inStep_commaItems _ Parameter.parser_accounts
    Parameter.parser_inStep).bind fun parameters => ?_
  exact (inStep_mark _).bind fun _ => inStep_pure _

/-- The type of a function. -/
theorem Function.inStep_parseType (name : Identifier) (docs : Documentation) :
    InStep pairing bound (parseType name docs) (parseType name docs) := by
  refine (inStep_accept_keyword _).bind fun isAsync => (inStep_keyword _).bind fun _ => ?_
  refine Parameter.inStep_list.bind fun parameters => ?_
  refine (inStep_accept_mark _).bind fun arrow => ?_
  split
  · exact TypeExpr.parser_inStep.bind fun type => inStep_pure _
  · exact inStep_pure _

/-- A field. -/
theorem Field.parser_inStep : InStep pairing bound Field.parser Field.parser := by
  refine inStep_docs.bind fun docs => (inStep_identifier _ _).bind fun name => ?_
  refine (inStep_mark _).bind fun _ => ?_
  exact TypeExpr.parser_inStep.bind fun type => inStep_pure _

/-- A case. -/
theorem Case.parser_inStep : InStep pairing bound Case.parser Case.parser := by
  refine inStep_docs.bind fun docs => (inStep_identifier _ _).bind fun name => ?_
  refine (inStep_accept_mark _).bind fun carries => ?_
  split
  · refine TypeExpr.parser_inStep.bind fun payload => ?_
    exact (inStep_mark _).bind fun _ => inStep_pure _
  · exact inStep_pure _

/-- A method. -/
theorem Method.parser_inStep : InStep pairing bound Method.parser Method.parser := by
  refine inStep_docs.bind fun docs => (inStep_identifier _ _).bind fun name => ?_
  refine (inStep_mark _).bind fun _ => (inStep_accept_keyword _).bind fun isStatic => ?_
  refine (Function.inStep_parseType name docs).bind fun function => ?_
  exact (inStep_mark _).bind fun _ => inStep_pure _

/-- A member of a resource. -/
theorem ResourceMember.inStep_pass (resource : Identifier) (built : Bool) :
    InStep pairing bound ((memberLoop resource).pass built) ((memberLoop resource).pass built) := by
  refine inStep_current fun stream ended few => ?_
  split
  case isTrue same =>
    refine inStepAt_advance_bind ended (by simp [same]) ?_
    refine Parameter.inStep_list.bind fun parameters => (inStep_mark _).bind fun _ => ?_
    split
    · exact inStep_refuse _ _
    · exact inStep_pure _
  case isFalse =>
    exact (Method.parser_inStep.bind fun method => inStep_pure _) stream ended few

/-- The members of a resource, with enough fuel. -/
theorem ResourceMember.inStep_listWithin (resource : Identifier) {fuel fuel' : Nat}
    (enough : bound ≤ fuel) (enough' : bound ≤ fuel' + pairing.beyond) (built : Bool) :
    InStep pairing bound (listWithin resource fuel built) (listWithin resource fuel' built) := by
  rw [listWithin_eq, listWithin_eq]
  refine Loop.inStep_within ?_ (accounts_pass resource) (inStep_pass resource) enough enough'
    built
  exact fun _ _ => rfl

/-- The body of a resource. -/
theorem Definition.inStep_parseResource (resource : Identifier) :
    InStep pairing bound (parseResource resource) (parseResource resource) := by
  refine (inStep_accept_mark _).bind fun empty => ?_
  split
  · exact inStep_pure _
  · refine (inStep_mark _).bind fun _ => inStep_get fun stream other ended few _ length => ?_
    have enough : stream.ahead.length + 1 ≤ other.ahead.length + 1 + pairing.beyond := by omega
    refine (ResourceMember.inStep_listWithin resource (Nat.le_refl _) enough false).bind
      (fun members => ?_) stream ended (Nat.lt_succ_self _)
    exact (inStep_mark _).bind fun _ => inStep_pure _

/-- An item of an interface. -/
theorem InterfaceItem.parser_inStep :
    InStep pairing bound InterfaceItem.parser InterfaceItem.parser := by
  refine inStep_docs.bind fun docs => inStep_current fun stream ended few => ?_
  split
  case h_1 same =>
    refine inStepAt_advance_bind ended (by simp [same]) ?_
    refine (inStep_identifier _ _).bind fun name => (inStep_mark _).bind fun _ => ?_
    refine TypeExpr.parser_inStep.bind fun target => ?_
    exact (inStep_mark _).bind fun _ => inStep_pure _
  case h_2 same =>
    refine inStepAt_advance_bind ended (by simp [same]) ?_
    refine (inStep_identifier _ _).bind fun name => ?_
    exact (inStep_bracedItems Field.parser_accounts
      Field.parser_inStep).bind fun fields => inStep_pure _
  case h_3 same =>
    refine inStepAt_advance_bind ended (by simp [same]) ?_
    refine (inStep_identifier _ _).bind fun name => ?_
    exact (inStep_bracedItems Case.parser_accounts
      Case.parser_inStep).bind fun cases => inStep_pure _
  case h_4 same | h_5 same =>
    refine inStepAt_advance_bind ended (by simp [same]) ?_
    refine (inStep_identifier _ _).bind fun name => ?_
    exact (inStep_bracedItems (Parser.accounts_identifier _ _)
      (inStep_identifier _ _)).bind fun names => inStep_pure _
  case h_6 same =>
    refine inStepAt_advance_bind ended (by simp [same]) ?_
    refine (inStep_identifier _ _).bind fun name => ?_
    exact (Definition.inStep_parseResource name).bind fun body => inStep_pure _
  case h_7 => exact (Use.parser_inStep.bind fun use => inStep_pure _) stream ended few
  case h_8 | h_9 =>
    refine InStep.bind (inStep_identifier _ _) (fun name => ?_) stream ended few
    refine (inStep_mark _).bind fun _ => ?_
    refine (Function.inStep_parseType name docs).bind fun function => ?_
    exact (inStep_mark _).bind fun _ => inStep_pure _
  case h_10 => exact inStep_unexpected _ stream ended few

/-- The body of an interface. -/
theorem Interface.inStep_parseBody (name : Identifier) (docs : Documentation) :
    InStep pairing bound (parseBody name docs) (parseBody name docs) := by
  refine (inStep_mark _).bind fun _ => ?_
  refine (inStep_itemsUntil _ InterfaceItem.parser_accounts
    InterfaceItem.parser_inStep).bind fun items => ?_
  exact (inStep_mark _).bind fun _ => inStep_pure _

/-- An interface. -/
theorem Interface.parser_inStep : InStep pairing bound Interface.parser Interface.parser := by
  refine inStep_docs.bind fun docs => (inStep_keyword _).bind fun _ => ?_
  exact (inStep_identifier _ _).bind fun name => inStep_parseBody name docs

/-- An item of a world. -/
theorem WorldItem.parser_inStep (docs : Documentation) :
    InStep pairing bound (WorldItem.parser docs) (WorldItem.parser docs) := by
  refine inStep_current fun stream ended few => ?_
  refine (inStep_identifier _ _).bind (fun name => ?_) stream ended few
  refine (inStep_accept_mark _).bind fun bare => ?_
  split
  · exact inStep_pure _
  · refine (inStep_mark _).bind fun _ => inStep_current fun behind ended' few' => ?_
    split
    case h_1 same =>
      refine inStepAt_advance_bind ended' (by simp [same]) ?_
      exact (Interface.inStep_parseBody name docs).bind fun interface => inStep_pure _
    case h_2 | h_3 =>
      refine InStep.bind (Function.inStep_parseType name docs) (fun _ => ?_) behind ended' few'
      exact (inStep_mark _).bind fun _ => inStep_pure _
    case h_4 =>
      split
      case h_1 => exact inStep_refuse _ _ behind ended' few'
      case h_2 vendor _ =>
        refine InStep.bind (UsePath.inStep_parseExternal vendor) (fun path => ?_) behind ended'
          few'
        exact (inStep_mark _).bind fun _ => inStep_pure _

/-- A token that is passed over: the end of the input is complained of. -/
theorem inStep_skipLoop_pass (state : Unit) :
    InStep pairing bound (skipLoop.pass state) (skipLoop.pass state) := by
  refine inStep_current fun stream ended few => ?_
  split
  case isTrue same =>
    exact inStepAt_advance_bind ended (by simp [same]) (inStep_pure _)
  case isFalse =>
    split
    case isTrue => exact inStep_unexpected _ stream ended few
    case isFalse valid =>
      simp only [Bool.or_eq_true, decide_eq_true_eq, not_or] at valid
      exact inStepAt_advance_bind ended valid.1 (inStep_pure _)

/-- A statement that is passed over, with enough fuel. -/
theorem inStep_skipStatement {fuel fuel' : Nat} (enough : bound ≤ fuel)
    (enough' : bound ≤ fuel' + pairing.beyond) :
    InStep pairing bound (skipStatement fuel) (skipStatement fuel') := by
  rw [skipStatement_eq, skipStatement_eq]
  refine Loop.inStep_within ?_ accounts_skipLoop_pass inStep_skipLoop_pass enough enough' ()
  exact fun _ _ => rfl

/-- A member of a world. -/
theorem WorldMember.parser_inStep : InStep pairing bound WorldMember.parser WorldMember.parser := by
  refine inStep_docs.bind fun docs => inStep_current fun stream ended few => ?_
  split
  case h_1 same | h_2 same =>
    refine inStepAt_advance_bind ended (by simp [same]) ?_
    exact (WorldItem.parser_inStep docs).bind fun item => inStep_pure _
  case h_3 => exact (Use.parser_inStep.bind fun use => inStep_pure _) stream ended few
  case h_4 =>
    refine inStep_get (fun behind other ended' few' _ length => ?_) stream ended few
    have enough : behind.ahead.length + 1 ≤ other.ahead.length + 1 + pairing.beyond := by omega
    exact ((inStep_skipStatement (Nat.le_refl _) enough).bind fun _ => inStep_pure _) behind
      ended' (Nat.lt_succ_self _)
  case h_5 => exact inStep_unexpected _ stream ended few

/-- A world. -/
theorem World.parser_inStep : InStep pairing bound World.parser World.parser := by
  refine inStep_docs.bind fun docs => (inStep_keyword _).bind fun _ => ?_
  refine (inStep_identifier _ _).bind fun name => (inStep_mark _).bind fun _ => ?_
  refine (inStep_itemsUntil _ WorldMember.parser_accounts
    WorldMember.parser_inStep).bind fun members => ?_
  exact (inStep_mark _).bind fun _ => inStep_pure _

/-- An item of a document. -/
theorem PackageItem.parser_inStep : InStep pairing bound PackageItem.parser PackageItem.parser := by
  refine inStep_current fun stream ended few => ?_
  split
  case h_1 => exact (Interface.parser_inStep.bind fun item => inStep_pure _) stream ended few
  case h_2 => exact (World.parser_inStep.bind fun item => inStep_pure _) stream ended few
  case h_3 => exact (Use.parser_inStep.bind fun item => inStep_pure _) stream ended few
  case h_4 => exact inStep_unexpected _ stream ended few

/-- A document. -/
theorem Package.parser_inStep : InStep pairing bound Package.parser Package.parser := by
  have items : ∀ {bound} (header : Option PackageHeader), InStep pairing bound
      (do
        let items ← Parser.itemsUntil .endOfInput PackageItem.parser
        return (⟨header, items.filterMap (·.interface?), items.filterMap (·.world?),
          items.filterMap (·.use?)⟩ : Package)) _ :=
    fun header => (inStep_itemsUntil _ PackageItem.parser_accounts
      PackageItem.parser_inStep).bind fun _ => inStep_pure _
  refine inStep_check fun stream ended few => ?_
  split
  · refine InStep.bind PackageHeader.parser_inStep (fun header => ?_) stream ended few
    exact items (some header)
  · exact items none stream ended few

end WitBridge
