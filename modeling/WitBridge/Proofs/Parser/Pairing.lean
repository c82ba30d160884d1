import WitBridge.Proofs.Parser.Loops

/-!
# Parsers that keep in step

Streams are paired where they look the same to a parser and stay so as tokens are taken from both,
up to a place in the first that the pairing does not speak of. On paired streams two parsers keep in
step if they return the same value and leave paired streams, or stop at the same fault, unless the
first has gone past that place. This passes from steps to the whole, also where the two runs have
different fuel, as long as both have enough.
-/
namespace WitBridge

open Token (Kind)

/-- Streams that look the same to a parser before a place in the first of them. -/
structure Pairing where
  /-- Whether two streams are paired. -/
  Pair : TokenStream → TokenStream → Prop
  /-- The number of tokens at and behind the place. -/
  beyond : Nat
  /-- The first ends with the end of the input. -/
  ended : ∀ {stream other}, Pair stream other → stream.Ended
  /-- The first is not past the place. -/
  within : ∀ {stream other}, Pair stream other → beyond ≤ stream.ahead.length
  /-- The second has as many tokens before the place at least. -/
  length_le : ∀ {stream other}, Pair stream other →
    stream.ahead.length ≤ other.ahead.length + beyond
  /-- The same token is at hand. -/
  current : ∀ {stream other}, Pair stream other → other.current = stream.current
  /-- Tokens of one kind are behind it. -/
  peek : ∀ {stream other}, Pair stream other → other.peek.kind = stream.peek.kind
  /-- A token before the place is taken from both. -/
  advance : ∀ {stream other}, Pair stream other → stream.current.kind ≠ .endOfInput →
    beyond < stream.ahead.length → Pair stream.advance other.advance

/-- What is left when a token before the end of the input is taken. -/
theorem TokenStream.Ended.advance {stream : TokenStream} (ended : stream.Ended)
    (inner : stream.current.kind ≠ .endOfInput) :
    stream.advance.Ended ∧ stream.advance.ahead.length < stream.ahead.length := by
  obtain ⟨_ | ⟨first, more⟩, final⟩ := stream
  · exact absurd ended inner
  · exact ⟨ended, Nat.lt_succ_self _⟩

namespace Parser

variable {α β : Type}

/-- Whether an outcome on the second of two paired streams goes with an outcome on the first. -/
inductive Matches (pairing : Pairing) :
    Except SourceFault (α × TokenStream) → Except SourceFault (α × TokenStream) → Prop
  /-- The same value, and what is left is paired. -/
  | ok {value : α} {rest rest' : TokenStream} (pair : pairing.Pair rest rest') :
    Matches pairing (.ok (value, rest)) (.ok (value, rest'))
  /-- The same fault. -/
  | error {fault : SourceFault} : Matches pairing (.error fault) (.error fault)
  /-- The first is past the place. -/
  | past {value : α} {rest : TokenStream} {outcome : Except SourceFault (α × TokenStream)}
    (short : rest.ahead.length < pairing.beyond) : Matches pairing (.ok (value, rest)) outcome
  /-- The first may have stopped past the place. -/
  | astray {fault : SourceFault} {outcome : Except SourceFault (α × TokenStream)}
    (some : 0 < pairing.beyond) : Matches pairing (.error fault) outcome

/-- Whether on a stream a parser leaves a stream that ends where it did and is no longer. -/
def Shrinks (stream : TokenStream) (parser : Parser α) : Prop :=
  ∀ ⦃value rest⦄, parser.run stream = .ok (value, rest) →
    rest.Ended ∧ rest.ahead.length ≤ stream.ahead.length

/-- Whether two parsers keep in step on a stream and those paired with it. -/
structure InStepAt (pairing : Pairing) (stream : TokenStream) (parser parser' : Parser α) :
    Prop where
  shrinks : Shrinks stream parser
  follows : ∀ other, pairing.Pair stream other →
    Matches pairing (parser.run stream) (parser'.run other)

/-- Whether two parsers keep in step on all streams with fewer tokens than a bound. -/
def InStep (pairing : Pairing) (bound : Nat) (parser parser' : Parser α) : Prop :=
  ∀ stream : TokenStream, stream.Ended → stream.ahead.length < bound →
    InStepAt pairing stream parser parser'

variable {pairing : Pairing} {parser parser' : Parser α} {next next' : α → Parser β}
  {stream : TokenStream} {bound : Nat} {kind : Kind}

/-- A parser that takes tokens from the front shrinks the stream. -/
theorem Accounts.shrinks (accounts : Accounts true [] parser) (ended : stream.Ended) :
    Shrinks stream parser := by
  intro value rest ran
  obtain ⟨taken, rfl, -⟩ := (accounts stream ended).taken ran
  exact ⟨ended, by simp⟩

/-- Past the place there is nothing to keep in step with. -/
theorem Shrinks.inStepAt (shrinks : Shrinks stream parser)
    (short : stream.ahead.length < pairing.beyond) : InStepAt pairing stream parser parser' :=
  ⟨shrinks, fun _ pair => absurd (pairing.within pair) (Nat.not_le_of_lt short)⟩

/-- A step and the steps after it, which run on what the step has left. -/
theorem InStepAt.bind (first : InStepAt pairing stream parser parser')
    (second : ∀ value rest, parser.run stream = .ok (value, rest) → rest.Ended →
      rest.ahead.length ≤ stream.ahead.length →
        InStepAt pairing rest (next value) (next' value)) :
    InStepAt pairing stream (parser >>= next) (parser' >>= next') := by
  constructor
  · intro found last ran
    obtain ⟨value, middle, again, onward⟩ := exists_of_run_bind ran
    obtain ⟨ended, shorter⟩ := first.shrinks again
    obtain ⟨still, shorter'⟩ := (second value middle again ended shorter).shrinks onward
    exact ⟨still, Nat.le_trans shorter' shorter⟩
  · intro other pair
    have step := first.follows other pair
    rw [StateT.run_bind, StateT.run_bind]
    generalize ran : parser.run stream = outcome at step
    generalize parser'.run other = outcome' at step
    cases step with
    | error => exact .error
    | astray some => exact .astray some
    | @ok value rest rest' pair =>
      obtain ⟨ended, shorter⟩ := first.shrinks ran
      exact (second value rest ran ended shorter).follows rest' pair
    | @past value rest _ short =>
      -- Past the place the steps after it only go further.
      obtain ⟨ended, shorter⟩ := first.shrinks ran
      change Matches pairing ((next value).run rest) _
      cases onward : (next value).run rest with
      | error fault => exact .astray (Nat.lt_of_le_of_lt (Nat.zero_le _) short)
      | ok found =>
        obtain ⟨-, shorter'⟩ := (second value rest ran ended shorter).shrinks onward
        exact .past (Nat.lt_of_le_of_lt shorter' short)

/-- A step and the steps after it. -/
theorem InStep.bind (first : InStep pairing bound parser parser')
    (second : ∀ value, InStep pairing bound (next value) (next' value)) :
    InStep pairing bound (parser >>= next) (parser' >>= next') :=
  fun stream ended few => (first stream ended few).bind fun value rest _ still shorter =>
    second value rest still (Nat.lt_of_le_of_lt shorter few)

/-- The bound may be less. -/
theorem InStep.mono {smaller : Nat} (inStep : InStep pairing bound parser parser')
    (le : smaller ≤ bound) : InStep pairing smaller parser parser' :=
  fun stream ended few => inStep stream ended (Nat.lt_of_lt_of_le few le)

/-- A value is returned on both. -/
theorem inStep_pure (value : α) : InStep pairing bound (pure value : Parser α) (pure value) := by
  intro stream ended few
  constructor
  · rintro _ _ ⟨⟩
    exact ⟨ended, Nat.le_refl _⟩
  · exact fun other pair => .ok pair

/-- A complaint is the same on both. -/
theorem inStep_refuse (position : Position) (cause : SourceFault.Cause) :
    InStep pairing bound (refuse position cause : Parser α) (refuse position cause) :=
  fun _ _ _ => ⟨nofun, fun _ _ => .error⟩

/-- What follows the token at hand. -/
theorem inStep_current {step step' : Token → Parser β}
    (each : ∀ stream : TokenStream, stream.Ended → stream.ahead.length < bound →
      InStepAt pairing stream (step stream.current) (step' stream.current)) :
    InStep pairing bound (current >>= step) (current >>= step') := by
  intro stream ended few
  have whole := each stream ended few
  refine ⟨fun _ _ ran => whole.shrinks ran, fun other pair => ?_⟩
  change Matches _ ((step stream.current).run stream) ((step' other.current).run other)
  rw [pairing.current pair]
  exact whole.follows other pair

/-- What follows a look at the stream, at the kind behind the token at hand and at how much is
ahead. -/
theorem inStep_get {step step' : TokenStream → Parser β}
    (each : ∀ stream other : TokenStream, stream.Ended → stream.ahead.length < bound →
      other.peek.kind = stream.peek.kind →
        stream.ahead.length ≤ other.ahead.length + pairing.beyond →
          InStepAt pairing stream (step stream) (step' other)) :
    InStep pairing bound (get >>= step) (get >>= step') := by
  intro stream ended few
  have alone := each stream stream ended few rfl (Nat.le_add_right _ _)
  refine ⟨fun _ _ ran => alone.shrinks ran, fun other pair => ?_⟩
  have both := each stream other ended few (pairing.peek pair) (pairing.length_le pair)
  exact both.follows other pair

/-- What follows a look at the kind at hand. -/
theorem inStep_check {step step' : Bool → Parser β}
    (each : ∀ stream : TokenStream, stream.Ended → stream.ahead.length < bound →
      InStepAt pairing stream (step (decide (stream.current.kind = kind)))
        (step' (decide (stream.current.kind = kind)))) :
    InStep pairing bound (check kind >>= step) (check kind >>= step') := by
  change InStep pairing bound
    (current >>= fun token => step (decide (token.kind = kind)))
    (current >>= fun token => step' (decide (token.kind = kind)))
  exact inStep_current each

/-- A complaint of the token at hand is the same on both. -/
theorem inStep_unexpected (expected : String) :
    InStep pairing bound (unexpected expected : Parser α) (unexpected expected) := by
  refine inStep_current fun stream ended few => ?_
  split <;> exact inStep_refuse _ _ stream ended few

/-- The documentation at hand is the same. -/
theorem inStep_docs : InStep pairing bound Parser.docs Parser.docs :=
  inStep_current fun stream ended few => inStep_pure _ stream ended few

/-- A token before the end of the input is taken, and the steps after it have a token less. -/
theorem inStepAt_advance_bind {step step' : Unit → Parser β} (ended : stream.Ended)
    (inner : stream.current.kind ≠ .endOfInput)
    (steps : InStep pairing stream.ahead.length (step ()) (step' ())) :
    InStepAt pairing stream (discard advance >>= step) (discard advance >>= step') := by
  obtain ⟨still, fewer⟩ := ended.advance inner
  have whole := steps stream.advance still fewer
  constructor
  · intro value rest ran
    obtain ⟨last, shorter⟩ := whole.shrinks ran
    exact ⟨last, Nat.le_trans shorter (Nat.le_of_lt fewer)⟩
  · intro other pair
    change Matches _ ((step ()).run stream.advance) ((step' ()).run other.advance)
    by_cases before : pairing.beyond < stream.ahead.length
    · exact whole.follows other.advance (pairing.advance pair inner before)
    · -- The token was the one at the place.
      have short : stream.advance.ahead.length < pairing.beyond := by omega
      cases onward : (step ()).run stream.advance with
      | error fault => exact .astray (Nat.lt_of_le_of_lt (Nat.zero_le _) short)
      | ok found =>
        obtain ⟨-, shorter⟩ := whole.shrinks onward
        exact .past (Nat.lt_of_le_of_lt shorter short)

/-- A token of a kind is taken where it is asked for. -/
theorem inStep_expect (inner : kind ≠ .endOfInput) :
    InStep pairing bound (discard (expect kind)) (discard (expect kind)) := by
  let taken : Parser Unit := check kind >>= fun same =>
    (if same then advance else unexpected kind.display) >>= fun _ => pure ()
  change InStep pairing bound taken taken
  refine inStep_check fun stream ended few => ?_
  split
  case isTrue same =>
    have same : stream.current.kind = kind := by simpa using same
    exact inStepAt_advance_bind ended (same ▸ inner) (inStep_pure ())
  case isFalse =>
    exact (inStep_unexpected kind.display).bind (fun _ => inStep_pure ()) stream ended few

/-- A mark is taken. -/
theorem inStep_mark (m : Token.Mark) : InStep pairing bound (mark m) (mark m) :=
  inStep_expect nofun

/-- A keyword is taken. -/
theorem inStep_keyword (k : Token.Keyword) : InStep pairing bound (keyword k) (keyword k) :=
  inStep_expect nofun

/-- A token of a kind is taken if it is at hand. -/
theorem inStep_accept (inner : kind ≠ .endOfInput) :
    InStep pairing bound (accept kind) (accept kind) := by
  refine inStep_check fun stream ended few => ?_
  split
  case isTrue same =>
    have same : stream.current.kind = kind := by simpa using same
    exact inStepAt_advance_bind ended (same ▸ inner) (inStep_pure true)
  case isFalse => exact inStep_pure false stream ended few

/-- A mark is taken if it is at hand. -/
theorem inStep_accept_mark (m : Token.Mark) :
    InStep pairing bound (accept (.mark m)) (accept (.mark m)) :=
  inStep_accept nofun

/-- A keyword is taken if it is at hand. -/
theorem inStep_accept_keyword (k : Token.Keyword) :
    InStep pairing bound (accept (.keyword k)) (accept (.keyword k)) :=
  inStep_accept nofun

/-- A word at hand is taken as a name, or it is complained of. -/
theorem inStepAt_name {what : String} {role : NameRole} {make : KebabName → β}
    (isWord : stream.current.kind.isWord = true) (ended : stream.Ended)
    (few : stream.ahead.length < bound) :
    let named : Parser β :=
      match KebabName.ofText role stream.current.value with
      | .ok name => do
        discard advance
        return make name
      | .error fault => refuse stream.current.start (.badName what fault)
    InStepAt pairing stream named named := by
  intro named
  simp only [named]
  split
  case h_1 => exact inStepAt_advance_bind ended (kind_ne_of_isWord isWord).1 (inStep_pure _)
  case h_2 => exact inStep_refuse _ _ stream ended few

/-- A name is taken, perhaps with its escape. -/
theorem inStep_identifier (what : String) (anyWord : Bool) :
    InStep pairing bound (identifier what anyWord) (identifier what anyWord) := by
  refine (inStep_accept_mark _).bind fun escaped => inStep_current fun stream ended few => ?_
  split
  case isTrue allowed => exact inStepAt_name (isWord_of_allowed allowed) ended few
  case isFalse => exact inStep_unexpected _ stream ended few

/-- A word is taken. -/
theorem inStep_word (what : String) (role : NameRole) :
    InStep pairing bound (word what role) (word what role) := by
  refine inStep_current fun stream ended few => ?_
  split
  case isTrue isWord => exact inStepAt_name isWord ended few
  case isFalse => exact inStep_unexpected _ stream ended few

/-- A parser that is given fuel by the tokens ahead, where with enough fuel it keeps in step. -/
theorem inStep_fuelled {within within' : Nat → Parser α}
    (each : ∀ {size fuel fuel'}, size ≤ bound → size ≤ fuel → size ≤ fuel' + pairing.beyond →
      InStep pairing size (within fuel) (within' fuel')) :
    InStep pairing bound (fun stream => within (stream.ahead.length + 1) stream)
      fun stream => within' (stream.ahead.length + 1) stream := by
  intro stream ended few
  constructor
  · intro value rest ran
    have alone := each few (Nat.le_refl _) (Nat.le_add_right _ _) stream ended (Nat.lt_succ_self _)
    exact alone.shrinks ran
  · intro other pair
    have enough : stream.ahead.length + 1 ≤ other.ahead.length + 1 + pairing.beyond := by
      have := pairing.length_le pair
      omega
    exact (each few (Nat.le_refl _) enough stream ended (Nat.lt_succ_self _)).follows other pair

section Loops

variable {σ : Type} {loop loop' : Loop σ β} {spent spent' : Parser β} {item item' : Parser α}
  (close : Kind)

/-- A loop shrinks the stream if each of its passes does, with enough fuel. -/
theorem Loop.shrinks_within (takes : ∀ state, Accounts true [] (loop.pass state)) {fuel : Nat}
    (ended : stream.Ended) (enough : stream.ahead.length < fuel) (state : σ) :
    Shrinks stream (loop.within spent fuel state) := by
  induction fuel generalizing stream state with
  | zero => contradiction
  | succ fuel ih =>
    intro value rest ran
    change (((loop.exit state stream.current.kind).elim
      (loop.pass state >>= Pass.finish (loop.within spent fuel)) pure).run stream) = _ at ran
    cases opened : loop.exit state stream.current.kind with
    | some found =>
      rw [opened] at ran
      cases ran
      exact ⟨ended, Nat.le_refl _⟩
    | none =>
      rw [opened] at ran
      obtain ⟨pass, middle, again, onward⟩ := exists_of_run_bind ran
      obtain ⟨taken, rfl, -, some⟩ := (takes state stream ended).taken again
      have still : middle.Ended := ended
      have fewer : middle.ahead.length < (taken ++ middle).ahead.length :=
        TokenStream.Passes.length_lt ⟨taken, rfl, some rfl⟩
      cases pass with
      | last found =>
        cases onward
        exact ⟨still, Nat.le_of_lt fewer⟩
      | again next make =>
        obtain ⟨later, behind, looped, returned⟩ := exists_of_run_bind onward
        cases returned
        obtain ⟨last, shorter⟩ := ih still (by omega) next looped
        exact ⟨last, by omega⟩

/-- Loops keep in step if each of their passes does, with enough fuel on both sides. -/
theorem Loop.inStep_within (same : ∀ state kind, loop'.exit state kind = loop.exit state kind)
    (takes : ∀ state, Accounts true [] (loop.pass state))
    (each : ∀ state, InStep pairing bound (loop.pass state) (loop'.pass state)) {fuel fuel' : Nat}
    (enough : bound ≤ fuel) (enough' : bound ≤ fuel' + pairing.beyond) (state : σ) :
    InStep pairing bound (loop.within spent fuel state) (loop'.within spent' fuel' state) := by
  intro stream ended few
  induction fuel' generalizing fuel stream bound state with
  | zero =>
    exact (shrinks_within takes ended (by omega) state).inStepAt (by omega)
  | succ fuel' ih =>
    obtain ⟨fuel, rfl⟩ : ∃ less, fuel = less + 1 := ⟨fuel - 1, by omega⟩
    refine inStep_current (fun stream ended few => ?_) stream ended few
    rw [same]
    cases loop.exit state stream.current.kind with
    | some value => exact inStep_pure value stream ended few
    | none =>
      refine (each state stream ended few).bind fun pass rest ran still shorter => ?_
      obtain ⟨taken, shape, -, some⟩ := (takes state stream ended).taken ran
      have fewer := TokenStream.Passes.length_lt ⟨taken, shape, some rfl⟩
      cases pass with
      | last value => exact inStep_pure value rest still fewer
      | again next make =>
        have later : InStepAt pairing rest (loop.within spent fuel next)
            (loop'.within spent' fuel' next) :=
          ih (fun state => (each state).mono (Nat.le_of_lt few)) (by omega) (by omega) next
            rest still fewer
        exact later.bind fun found last _ ended short =>
          inStep_pure (make found) last ended (Nat.lt_of_le_of_lt short fewer)

/-- Items up to a closing token keep in step. -/
theorem inStep_itemsUntil (takes : Accounts true [] item)
    (each : InStep pairing bound item item') :
    InStep pairing bound (itemsUntil close item) (itemsUntil close item') := by
  refine inStep_fuelled fun le enough enough' => ?_
  rw [itemsWithin_eq, itemsWithin_eq]
  refine Loop.inStep_within ?_ (accounts_untilLoop_pass takes) ?_ enough enough' ()
  · exact fun _ _ => rfl
  · exact fun _ => (each.mono le).bind fun first => inStep_pure _

/-- Items with commas between them keep in step. -/
theorem inStep_commaItems (takes : Accounts true [] item)
    (each : InStep pairing bound item item') :
    InStep pairing bound (commaItems close item) (commaItems close item') := by
  refine inStep_fuelled fun le enough enough' => ?_
  rw [commaItemsWithin_eq, commaItemsWithin_eq]
  refine Loop.inStep_within ?_ (accounts_commaLoop_pass takes) (fun _ => ?_) enough enough' ()
  · exact fun _ _ => rfl
  · refine (each.mono le).bind fun first => (inStep_accept_mark _).bind fun more => ?_
    split <;> exact inStep_pure _

/-- Items in braces keep in step. -/
theorem inStep_bracedItems (takes : Accounts true [] item)
    (each : InStep pairing bound item item') :
    InStep pairing bound (bracedItems item) (bracedItems item') := by
  refine (inStep_mark _).bind fun _ => ?_
  refine (inStep_commaItems _ takes each).bind fun items => ?_
  exact (inStep_mark _).bind fun _ => inStep_pure _

end Loops

end Parser

end WitBridge
