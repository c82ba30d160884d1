import WitBridge.Proofs.Parser.Recognition

/-!
# Where a parser stops

A parser accounts for its tokens if it takes valid tokens from the front of a stream or stops at a
fault that complains of a token: the fault is at the start of that token, and it is lexical just
where the token is invalid. The token is one of the stream or one that the parser has seen before,
for some complaints are made late. All of this passes from the steps of a parser to the whole. A
parser may also be bound to take a token, and then the token that was at hand is valid.
-/
namespace WitBridge

open Token (Kind)

/-- Whether a fault complains of a token: it is at the start of the token, and it is lexical just
where the token is invalid, with the complaint of the token. -/
structure SourceFault.Blames (fault : SourceFault) (token : Token) : Prop where
  /-- The fault is where the token starts. -/
  position : fault.position = token.start
  /-- A lexical fault carries the complaint of an invalid token. -/
  lexical : ∀ complaint, fault.cause = .invalidToken complaint ↔
    token.kind = .invalid ∧ complaint = token.value

namespace TokenStream

/-- The tokens of a stream, the end of the input among them. -/
def tokens (stream : TokenStream) : List Token := stream.ahead ++ [stream.final]

/-- The tokens in front of a stream and the tokens of the stream. -/
theorem tokens_append (taken : List Token) (rest : TokenStream) :
    (taken ++ rest).tokens = taken ++ rest.tokens := List.append_assoc _ _ _

/-- The token at hand is a token of the stream. -/
theorem current_mem_tokens (stream : TokenStream) : stream.current ∈ stream.tokens := by
  obtain ⟨_ | ⟨first, more⟩, final⟩ := stream <;> simp [current, tokens]

end TokenStream

namespace Parser

/-- On a stream, a parser takes valid tokens or complains of a token, one of the stream or one that
is known. Where it must take, it takes one token at least. -/
structure AccountsAt (must : Bool) (known : List Token) (stream : TokenStream) {α : Type}
    (parser : Parser α) : Prop where
  /-- What is left stands behind valid tokens. -/
  taken : ∀ ⦃value rest⦄, parser.run stream = .ok (value, rest) → ∃ taken : List Token,
    stream = taken ++ rest ∧ (∀ token ∈ taken, token.kind ≠ .invalid) ∧ (must → taken ≠ [])
  /-- A fault complains of a token. -/
  blamed : ∀ ⦃fault⦄, parser.run stream = .error fault →
    ∃ token ∈ known ++ stream.tokens, fault.Blames token

/-- On every stream that ends, a parser takes valid tokens or complains of a token. -/
def Accounts (must : Bool) (known : List Token) {α : Type} (parser : Parser α) : Prop :=
  ∀ stream : TokenStream, stream.Ended → AccountsAt must known stream parser

variable {α β : Type} {parser : Parser α} {next : α → Parser β} {must first second : Bool}
  {known : List Token} {stream : TokenStream} {token : Token} {kind : Kind}

/-- A step on a stream and the steps after it, which may use that the token at hand is valid where
the step must take. -/
theorem AccountsAt.seq (ended : stream.Ended) (step : AccountsAt first known stream parser)
    (steps : ∀ value, (first → stream.current.kind ≠ .invalid) →
      Accounts second known (next value)) :
    AccountsAt (first || second) known stream (parser >>= next) := by
  have valid {value : α} {middle : TokenStream} (ran : parser.run stream = .ok (value, middle)) :
      first → stream.current.kind ≠ .invalid := by
    obtain ⟨taken, rfl, fine, grown⟩ := step.taken ran
    intro must
    obtain ⟨token, more, rfl⟩ := List.exists_cons_of_ne_nil (grown must)
    exact fine token List.mem_cons_self
  constructor
  · intro found last ran
    obtain ⟨value, middle, again, onward⟩ := exists_of_run_bind ran
    obtain ⟨front, rfl, fine, grown⟩ := step.taken again
    obtain ⟨back, rfl, fine', grown'⟩ := (steps value (valid again) middle ended).taken onward
    refine ⟨front ++ back, TokenStream.append_append, ?_, fun must empty => ?_⟩
    · exact List.forall_mem_append.2 ⟨fine, fine'⟩
    · obtain ⟨none, none'⟩ := List.append_eq_nil_iff.1 empty
      rcases Bool.or_eq_true_iff.1 must with must | must
      · exact grown must none
      · exact grown' must none'
  · intro fault ran
    -- The tokens behind those of the step are tokens of the stream, so a later complaint is of one.
    rw [StateT.run_bind] at ran
    cases again : parser.run stream with
    | error stopped =>
      rw [again] at ran
      cases ran
      exact step.blamed again
    | ok pair =>
      obtain ⟨value, middle⟩ := pair
      rw [again] at ran
      have valid := valid again
      obtain ⟨front, rfl, -⟩ := step.taken again
      obtain ⟨token, member, blames⟩ := (steps value valid middle ended).blamed ran
      refine ⟨token, ?_, blames⟩
      rw [TokenStream.tokens_append]
      simp only [List.mem_append] at member ⊢
      exact member.imp_right .inr

/-- A step and the steps after it, for which the token that was at hand is valid. -/
theorem Accounts.bind_of_valid (step : Accounts true known parser)
    (steps : ∀ value, stream.current.kind ≠ .invalid → Accounts false known (next value))
    (ended : stream.Ended) : AccountsAt must known stream (parser >>= next) := by
  have whole := (step stream ended).seq ended fun value valid => steps value (valid rfl)
  exact ⟨fun value rest ran =>
    have ⟨taken, shape, fine, grown⟩ := whole.taken ran
    ⟨taken, shape, fine, fun _ => grown rfl⟩, whole.blamed⟩

/-- A step and the steps after it. -/
theorem Accounts.bind (step : Accounts must known parser)
    (steps : ∀ value, Accounts false known (next value)) :
    Accounts must known (parser >>= next) := by
  intro stream ended
  have whole := (step stream ended).seq ended fun value _ => steps value
  rwa [Bool.or_false] at whole

/-- A step and the steps after it that must take. -/
theorem Accounts.after (step : Accounts false known parser)
    (steps : ∀ value, Accounts must known (next value)) :
    Accounts must known (parser >>= next) :=
  fun stream ended => (step stream ended).seq ended fun value _ => steps value

/-- A parser that is bound to take a token need not be said to be. -/
theorem Accounts.relax (accounts : Accounts true known parser) : Accounts false known parser :=
  fun stream ended =>
    ⟨fun _ _ ran =>
      have ⟨taken, shape, fine, _⟩ := (accounts stream ended).taken ran
      ⟨taken, shape, fine, nofun⟩, (accounts stream ended).blamed⟩

/-- A parser that stops at a token of the stream or at a known one takes nothing. -/
theorem accountsAt_error {fault : SourceFault} (ran : parser.run stream = .error fault)
    (member : token ∈ known ++ stream.tokens) (blames : fault.Blames token) :
    AccountsAt must known stream parser := by
  constructor
  · intro value rest again
    rw [ran] at again
    contradiction
  · intro fault' again
    rw [ran] at again
    cases again
    exact ⟨token, member, blames⟩

/-- A parser that leaves the stream as it is takes nothing. -/
theorem accountsAt_idle {value : α} (ran : parser.run stream = .ok (value, stream)) :
    AccountsAt false known stream parser := by
  constructor
  · intro found rest again
    rw [ran] at again
    cases again
    exact ⟨[], rfl, nofun, nofun⟩
  · intro fault again
    rw [ran] at again
    contradiction

/-- A value is returned without a token. -/
theorem accounts_pure (value : α) : Accounts false known (pure value : Parser α) :=
  fun _ _ => accountsAt_idle rfl

/-- A complaint of a valid token that is known. -/
theorem accounts_refuse {cause : SourceFault.Cause} (member : token ∈ known)
    (valid : token.kind ≠ .invalid) (grammar : ∀ complaint, cause ≠ .invalidToken complaint) :
    Accounts must known (refuse token.start cause : Parser α) := by
  intro stream ended
  refine accountsAt_error rfl (List.mem_append_left _ member) ⟨rfl, fun complaint => ?_⟩
  exact ⟨fun same => absurd same (grammar complaint), fun same => absurd same.1 valid⟩

/-- A complaint of the token at hand is lexical where the token is invalid. -/
theorem exists_run_unexpected (expected : String) (stream : TokenStream) :
    ∃ fault : SourceFault, (unexpected expected : Parser α).run stream = .error fault ∧
      fault.Blames stream.current := by
  simp only [unexpected, current, bind_assoc, pure_bind, StateT.run_bind, StateT.run_get]
  split
  case h_1 invalid =>
    refine ⟨_, rfl, rfl, fun complaint => ?_⟩
    simp [invalid, eq_comm]
  case h_2 valid =>
    refine ⟨_, rfl, rfl, fun complaint => ?_⟩
    simpa using fun invalid => absurd invalid valid

/-- A complaint of the token at hand. -/
theorem accounts_unexpected (expected : String) :
    Accounts must known (unexpected expected : Parser α) := by
  intro stream ended
  obtain ⟨fault, ran, blames⟩ := exists_run_unexpected expected stream
  exact accountsAt_error ran (List.mem_append_right known stream.current_mem_tokens) blames

/-- What follows the token at hand may complain of it later. -/
theorem accounts_current {step : Token → Parser β}
    (each : ∀ stream : TokenStream, stream.Ended →
      AccountsAt must (stream.current :: known) stream (step stream.current)) :
    Accounts must known (current >>= step) := by
  intro stream ended
  have whole := each stream ended
  constructor
  · exact fun value rest ran => whole.taken ran
  · intro fault ran
    obtain ⟨token, member, blames⟩ := whole.blamed ran
    refine ⟨token, ?_, blames⟩
    rcases List.mem_cons.1 member with rfl | member
    · exact List.mem_append_right known stream.current_mem_tokens
    · exact member

/-- What follows a look at the stream. -/
theorem accounts_get {step : TokenStream → Parser β}
    (each : ∀ stream, Accounts must known (step stream)) : Accounts must known (get >>= step) :=
  fun stream ended =>
    ⟨fun _ _ ran => (each stream stream ended).taken ran, (each stream stream ended).blamed⟩

/-- What follows a look at the kind at hand. -/
theorem accounts_check {step : Bool → Parser β}
    (each : ∀ stream : TokenStream, stream.Ended →
      AccountsAt must known stream (step (decide (stream.current.kind = kind)))) :
    Accounts must known (check kind >>= step) :=
  fun stream ended =>
    ⟨fun _ _ ran => (each stream ended).taken ran, (each stream ended).blamed⟩

/-- The documentation at hand is looked at. -/
theorem accounts_docs : Accounts false known Parser.docs :=
  fun _ _ => accountsAt_idle rfl

/-- A valid token before the end of the input is taken. -/
theorem accountsAt_advance (ended : stream.Ended) (inner : stream.current.kind ≠ .endOfInput)
    (valid : stream.current.kind ≠ .invalid) : AccountsAt must known stream (discard advance) := by
  constructor
  · rintro found rest ⟨⟩
    refine ⟨[stream.current], ended.eq_cons inner, ?_, nofun⟩
    simpa using valid
  · nofun

/-- A token of the kind at hand is taken, and the steps after it run. -/
theorem accountsAt_advance_bind {step : Unit → Parser β} (same : stream.current.kind = kind)
    (ended : stream.Ended) (inner : kind ≠ .endOfInput) (valid : kind ≠ .invalid)
    (steps : Accounts false known (step ())) :
    AccountsAt must known stream (discard advance >>= step) := by
  have taken : AccountsAt must known stream (discard advance) :=
    accountsAt_advance ended (same ▸ inner) (same ▸ valid)
  have whole := taken.seq ended fun _ _ => steps
  rwa [Bool.or_false] at whole

/-- A token of a valid kind is taken where it is asked for. -/
theorem accounts_expect (inner : kind ≠ .endOfInput) (valid : kind ≠ .invalid) :
    Accounts must known (discard (expect kind)) := by
  change Accounts must known (check kind >>= fun same =>
    (if same then advance else unexpected kind.display) >>= fun _ => pure ())
  refine accounts_check fun stream ended => ?_
  split
  case isTrue same =>
    have same : stream.current.kind = kind := by simpa using same
    exact accountsAt_advance ended (same ▸ inner) (same ▸ valid)
  case isFalse =>
    exact (accounts_unexpected kind.display).bind (fun _ => accounts_pure ()) stream ended

/-- A mark is taken. -/
theorem accounts_mark (m : Token.Mark) : Accounts must known (mark m) :=
  accounts_expect nofun nofun

/-- A keyword is taken. -/
theorem accounts_keyword (k : Token.Keyword) : Accounts must known (keyword k) :=
  accounts_expect nofun nofun

/-- A token of a valid kind is taken if it is at hand. -/
theorem accounts_accept (inner : kind ≠ .endOfInput) (valid : kind ≠ .invalid) :
    Accounts false known (accept kind) := by
  refine accounts_check fun stream ended => ?_
  split
  case isTrue same =>
    have same : stream.current.kind = kind := by simpa using same
    exact accountsAt_advance_bind same ended inner valid (accounts_pure true)
  case isFalse => exact accounts_pure false stream ended

/-- A mark is taken if it is at hand. -/
theorem accounts_accept_mark (m : Token.Mark) : Accounts false known (accept (.mark m)) :=
  accounts_accept nofun nofun

/-- A keyword is taken if it is at hand. -/
theorem accounts_accept_keyword (k : Token.Keyword) : Accounts false known (accept (.keyword k)) :=
  accounts_accept nofun nofun

/-- A word is valid, and it is not the end of the input. -/
theorem kind_ne_of_isWord (isWord : kind.isWord = true) :
    kind ≠ .endOfInput ∧ kind ≠ .invalid := by
  constructor <;> rintro rfl <;> contradiction

/-- A word at hand is taken as a name, or it is complained of. -/
theorem accountsAt_name {what : String} {role : NameRole} {make : KebabName → β}
    (isWord : stream.current.kind.isWord = true) (ended : stream.Ended) :
    AccountsAt must (stream.current :: known) stream
      (match KebabName.ofText role stream.current.value with
      | .ok name => do
        discard advance
        return make name
      | .error fault => refuse stream.current.start (.badName what fault)) := by
  obtain ⟨inner, valid⟩ := kind_ne_of_isWord isWord
  split
  case h_1 => exact accountsAt_advance_bind rfl ended inner valid (accounts_pure _)
  case h_2 => exact accounts_refuse List.mem_cons_self valid (by simp) stream ended

/-- A name is taken, perhaps with its escape. -/
theorem accounts_identifier (what : String) (anyWord : Bool) :
    Accounts must known (identifier what anyWord) := by
  refine (accounts_accept_mark _).after fun escaped => accounts_current fun stream ended => ?_
  split
  case isTrue allowed => exact accountsAt_name (isWord_of_allowed allowed) ended
  case isFalse => exact accounts_unexpected _ stream ended

/-- A word is taken. -/
theorem accounts_word (what : String) (role : NameRole) :
    Accounts must known (word what role) := by
  refine accounts_current fun stream ended => ?_
  split
  case isTrue isWord => exact accountsAt_name isWord ended
  case isFalse => exact accounts_unexpected _ stream ended

/-- A parser that is given fuel by the tokens ahead. -/
theorem accounts_fuelled {within : Nat → Parser α}
    (each : ∀ fuel, Accounts must known (within fuel)) :
    Accounts must known fun stream => within (stream.ahead.length + 1) stream :=
  fun stream ended =>
    have whole := each (stream.ahead.length + 1) stream ended
    ⟨fun _ _ ran => whole.taken ran, fun _ ran => whole.blamed ran⟩

section Lists

variable {item : Parser α} (close : Kind) (each : Accounts false known item)
include each

/-- Items up to a closing token, with any fuel. -/
theorem accounts_itemsWithin (fuel : Nat) : Accounts false known (itemsWithin close item fuel) := by
  induction fuel with
  | zero => exact accounts_unexpected _
  | succ fuel ih =>
    refine accounts_check fun stream ended => ?_
    split
    · exact accounts_pure _ stream ended
    · exact (each.bind fun first => ih.bind fun rest => accounts_pure _) stream ended

/-- Items up to a closing token. -/
theorem accounts_itemsUntil : Accounts false known (itemsUntil close item) :=
  accounts_fuelled (accounts_itemsWithin close each)

/-- Items with commas between them, with any fuel. -/
theorem accounts_commaItemsWithin (fuel : Nat) :
    Accounts false known (commaItemsWithin close item fuel) := by
  induction fuel with
  | zero => exact accounts_unexpected _
  | succ fuel ih =>
    refine accounts_check fun stream ended => ?_
    split
    · exact accounts_pure _ stream ended
    · refine (each.bind fun first => (accounts_accept_mark _).bind fun more => ?_) stream ended
      split
      · exact ih.bind fun rest => accounts_pure _
      · exact accounts_pure _

/-- Items with commas between them. -/
theorem accounts_commaItems : Accounts false known (commaItems close item) :=
  accounts_fuelled (accounts_commaItemsWithin close each)

omit each in
/-- Items in braces. -/
theorem accounts_bracedItems (each : Accounts false known item) :
    Accounts must known (bracedItems item) := by
  refine (accounts_mark _).bind fun _ => (accounts_commaItems _ each).bind fun items => ?_
  exact (accounts_mark _).bind fun _ => accounts_pure _

end Lists

/-- Whether a parser stops at a fault of the grammar on a stream. -/
def Refuses {α : Type} (parser : Parser α) (stream : TokenStream) : Prop :=
  ∃ fault, parser.run stream = .error fault ∧ fault.isLexical = false

/-- Where the first step refuses, so does the whole. -/
theorem Refuses.bind (refuses : Refuses parser stream) : Refuses (parser >>= next) stream := by
  obtain ⟨fault, ran, grammar⟩ := refuses
  exact ⟨fault, by rw [StateT.run_bind, ran]; rfl, grammar⟩

/-- Where the steps after the first refuse, so does the whole. -/
theorem Refuses.after {value : α} {rest : TokenStream}
    (ran : parser.run stream = .ok (value, rest)) (refuses : Refuses (next value) rest) :
    Refuses (parser >>= next) stream := by
  obtain ⟨fault, again, grammar⟩ := refuses
  exact ⟨fault, by rw [StateT.run_bind, ran]; exact again, grammar⟩

/-- A complaint of a valid token is of the grammar. -/
theorem refuses_unexpected (expected : String) (valid : stream.current.kind ≠ .invalid) :
    Refuses (unexpected expected : Parser α) stream := by
  obtain ⟨fault, ran, blames⟩ := exists_run_unexpected (α := α) expected stream
  refine ⟨fault, ran, ?_⟩
  unfold SourceFault.isLexical
  split
  next complaint same => exact absurd ((blames.lexical complaint).1 same).1 valid
  next => rfl

/-- Another valid token than the mark that is asked for is complained of. -/
theorem refuses_mark {m : Token.Mark} (other : stream.current.kind ≠ .mark m)
    (valid : stream.current.kind ≠ .invalid) : Refuses (mark m) stream := by
  have checked : decide (stream.current.kind = .mark m) = false := by simpa using other
  obtain ⟨fault, ran, grammar⟩ :=
    refuses_unexpected (α := Token) (Token.Kind.mark m).display valid
  have stopped : (expect (.mark m)).run stream = .error fault := by
    change (if decide (stream.current.kind = .mark m) = true then advance
      else unexpected (Token.Kind.mark m).display).run stream = _
    rw [checked, if_neg Bool.false_ne_true, ran]
  refine ⟨fault, ?_, grammar⟩
  change ((fun _ => ()) <$> expect (.mark m)).run stream = _
  rw [StateT.run_map, stopped]
  rfl

end Parser
end WitBridge
