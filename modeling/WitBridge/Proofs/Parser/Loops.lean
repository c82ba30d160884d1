import WitBridge.Proofs.Parser.Location

/-!
# Loops of a parser

A loop makes pass after pass through its body as long as its test on the token at hand fails, and
nothing bounds how many. Its runs are told as a relation: a pass stops at a fault, is the last, or
is followed by another, and every pass that does not stop takes a token. The repetitions of the
grammar are functions of a bound, the tokens ahead and one; each is shown to give what the loop
without a bound gives, so the bound is never met.
-/
namespace WitBridge

namespace TokenStream

variable {stream rest : TokenStream}

/-- Whether one token at least has been taken from a stream. -/
def Passes (stream rest : TokenStream) : Prop :=
  ∃ taken : List Token, stream = taken ++ rest ∧ taken ≠ []

/-- Fewer tokens are ahead once some are taken. -/
theorem Passes.length_lt (passes : stream.Passes rest) :
    rest.ahead.length < stream.ahead.length := by
  obtain ⟨taken, rfl, some⟩ := passes
  have := List.length_pos_iff.2 some
  simp only [ahead_append, List.length_append]
  omega

/-- The stream ends where it did. -/
theorem Passes.final_eq (passes : stream.Passes rest) : rest.final = stream.final := by
  obtain ⟨taken, rfl, -⟩ := passes
  rfl

/-- What is left ends with the end of the input. -/
theorem Passes.ended (passes : stream.Passes rest) (ended : stream.Ended) : rest.Ended :=
  (congrArg Token.kind passes.final_eq).trans ended

end TokenStream

namespace Parser

open Token (Kind)

/-- What comes of a pass through the body of a loop. -/
inductive Pass (σ β : Type) where
  /-- The pass is the last, and this is the value of the loop. -/
  | last (value : β)
  /-- Another pass begins in a state, and what comes of it goes into the value of the loop. -/
  | again (state : σ) (make : β → β)

/-- What a loop does after a pass, if this does what it does from a state on. -/
def Pass.finish {σ β : Type} (loop : σ → Parser β) : Pass σ β → Parser β
  | last value => return value
  | again state make => do
    let later ← loop state
    return make later

/-- A loop: its test on the kind of the token at hand, which gives the value of the loop where
there are no more passes, and its body. -/
structure Loop (σ β : Type) where
  exit : σ → Kind → Option β
  pass : σ → Parser (Pass σ β)

variable {σ α β : Type}

/-- The runs of a loop from a state on, with the stream that it finds and its outcome. Every pass
that does not stop at a fault takes a token. -/
inductive Loop.Runs (loop : Loop σ β) :
    σ → TokenStream → Except SourceFault (β × TokenStream) → Prop
  /-- The test holds, and nothing is taken. -/
  | stopped {state : σ} {stream : TokenStream} {value : β}
    (closed : loop.exit state stream.current.kind = some value) :
    Runs loop state stream (.ok (value, stream))
  /-- A pass stops at a fault. -/
  | failed {state : σ} {stream : TokenStream} {fault : SourceFault}
    (opened : loop.exit state stream.current.kind = none)
    (ran : (loop.pass state).run stream = .error fault) :
    Runs loop state stream (.error fault)
  /-- A pass is the last. -/
  | last {state : σ} {stream rest : TokenStream} {value : β}
    (opened : loop.exit state stream.current.kind = none)
    (ran : (loop.pass state).run stream = .ok (.last value, rest)) (taken : stream.Passes rest) :
    Runs loop state stream (.ok (value, rest))
  /-- A pass is followed by others. -/
  | again {state next : σ} {stream middle : TokenStream} {make : β → β}
    {outcome : Except SourceFault (β × TokenStream)}
    (opened : loop.exit state stream.current.kind = none)
    (ran : (loop.pass state).run stream = .ok (.again next make, middle))
    (taken : stream.Passes middle) (later : Runs loop next middle outcome) :
    Runs loop state stream (outcome.map fun found => (make found.1, found.2))

/-- A loop with a bound on its passes; where the bound is met, something else is done. -/
def Loop.within (loop : Loop σ β) (spent : Parser β) : Nat → σ → Parser β
  | 0, _ => spent
  | fuel + 1, state => do
    let token ← current
    (loop.exit state token.kind).elim
      (loop.pass state >>= Pass.finish (loop.within spent fuel)) pure

/-- With a bound beyond the tokens ahead a loop runs as without one: each pass takes a token. -/
theorem Loop.runs_within {loop : Loop σ β} {spent : Parser β} {stream : TokenStream}
    (takes : ∀ state, Accounts true [] (loop.pass state)) (ended : stream.Ended) {fuel : Nat}
    (enough : stream.ahead.length < fuel) (state : σ) :
    loop.Runs state stream ((loop.within spent fuel state).run stream) := by
  induction fuel generalizing stream state with
  | zero => contradiction
  | succ fuel ih =>
    change loop.Runs state stream (((loop.exit state stream.current.kind).elim
      (loop.pass state >>= Pass.finish (loop.within spent fuel)) pure).run stream)
    cases opened : loop.exit state stream.current.kind with
    | some value => exact .stopped opened
    | none =>
      rw [Option.elim_none, StateT.run_bind]
      cases ran : (loop.pass state).run stream with
      | error fault => exact .failed opened ran
      | ok pair =>
        obtain ⟨pass, middle⟩ := pair
        obtain ⟨tokens, shape, -, some⟩ := (takes state stream ended).taken ran
        have taken : stream.Passes middle := ⟨tokens, shape, some rfl⟩
        have fewer := taken.length_lt
        cases pass with
        | last value => exact .last opened ran taken
        | again next make =>
          have rest := ih (taken.ended ended) (by omega) next
          have whole := Runs.again opened ran taken rest
          change loop.Runs state stream
            (((fun found => make found) <$> loop.within spent fuel next).run middle)
          rw [StateT.run_map]
          cases later : (loop.within spent fuel next).run middle with
          | error fault => rw [later] at whole; exact whole
          | ok found => rw [later] at whole; exact whole

/-- Nothing comes after a fault. -/
theorem refuse_bind (position : Position) (cause : SourceFault.Cause) (next : α → Parser β) :
    (refuse position cause >>= next) = refuse position cause := rfl

/-- Nothing comes after a complaint of the token at hand. -/
theorem unexpected_bind (expected : String) (next : α → Parser β) :
    (unexpected expected >>= next) = unexpected expected := by
  simp only [unexpected, bind_assoc]
  refine congrArg _ (funext fun token => ?_)
  split <;> rfl

section Lists

variable {close : Kind} {item : Parser α} {stream : TokenStream}

/-- Items as long as the token at hand does not close them. -/
def untilLoop (close : Kind) (item : Parser α) : Loop Unit (List α) where
  exit _ kind := if kind = close then some [] else none
  pass _ := do
    let first ← item
    return .again () (first :: ·)

/-- Items with commas between them as long as the token at hand does not close them. -/
def commaLoop (close : Kind) (item : Parser α) : Loop Unit (List α) where
  exit _ kind := if kind = close then some [] else none
  pass _ := do
    let first ← item
    if ← accept (.mark .comma) then
      return .again () (first :: ·)
    else
      return .last [first]

/-- A pass reads an item. -/
theorem accounts_untilLoop_pass (each : Accounts true [] item) (state : Unit) :
    Accounts true [] ((untilLoop close item).pass state) :=
  each.bind fun _ => accounts_pure _

/-- A pass reads an item, and the comma after it. -/
theorem accounts_commaLoop_pass (each : Accounts true [] item) (state : Unit) :
    Accounts true [] ((commaLoop close item).pass state) := by
  refine each.bind fun first => (accounts_accept_mark _).bind fun more => ?_
  split <;> exact accounts_pure _

/-- Items up to a closing token are read by their loop. -/
theorem itemsWithin_eq (fuel : Nat) :
    itemsWithin close item fuel =
      (untilLoop close item).within (unexpected close.display) fuel () := by
  induction fuel with
  | zero => rfl
  | succ fuel ih =>
    simp only [itemsWithin, check, Loop.within, untilLoop, bind_assoc, pure_bind,
      decide_eq_true_eq] at ih ⊢
    refine congrArg _ (funext fun token => ?_)
    split
    · rfl
    · rw [Option.elim_none, ih]
      rfl

/-- Items with commas between them are read by their loop. -/
theorem commaItemsWithin_eq (fuel : Nat) :
    commaItemsWithin close item fuel =
      (commaLoop close item).within (unexpected close.display) fuel () := by
  induction fuel with
  | zero => rfl
  | succ fuel ih =>
    simp only [commaItemsWithin, check, Loop.within, commaLoop, bind_assoc, pure_bind,
      decide_eq_true_eq] at ih ⊢
    refine congrArg _ (funext fun token => ?_)
    split
    · rfl
    · rw [Option.elim_none, ih]
      refine congrArg _ (funext fun first => congrArg _ (funext fun more => ?_))
      cases more <;> rfl

/-- Where items up to a closing token are read, that token is at hand. -/
theorem kind_of_runs_untilLoop {items : List α} {rest : TokenStream} {state : Unit}
    (runs : (untilLoop close item).Runs state stream (.ok (items, rest))) :
    rest.current.kind = close := by
  generalize whole : (Except.ok (items, rest) : Except SourceFault _) = outcome at runs
  induction runs generalizing items with
  | @stopped state stream value closed =>
    cases whole
    exact Decidable.byContradiction fun other => by simp [untilLoop, other] at closed
  | failed => contradiction
  | last _ ran =>
    -- No pass of this loop is the last.
    obtain ⟨first, middle, -, returned⟩ := exists_of_run_bind ran
    cases returned
  | @again _ _ _ _ _ outcome _ _ _ _ ih =>
    cases outcome with
    | error => contradiction
    | ok found =>
      cases whole
      exact ih rfl

/-- Items up to a closing token run as their loop. -/
theorem runs_itemsUntil (each : Accounts true [] item) (ended : stream.Ended) :
    (untilLoop close item).Runs () stream ((itemsUntil close item).run stream) := by
  change Loop.Runs _ _ _ ((itemsWithin close item (stream.ahead.length + 1)).run stream)
  rw [itemsWithin_eq]
  exact Loop.runs_within (accounts_untilLoop_pass each) ended (Nat.lt_succ_self _) ()

/-- Items with commas between them run as their loop. -/
theorem runs_commaItems (each : Accounts true [] item) (ended : stream.Ended) :
    (commaLoop close item).Runs () stream ((commaItems close item).run stream) := by
  change Loop.Runs _ _ _ ((commaItemsWithin close item (stream.ahead.length + 1)).run stream)
  rw [commaItemsWithin_eq]
  exact Loop.runs_within (accounts_commaLoop_pass each) ended (Nat.lt_succ_self _) ()

end Lists

end Parser

end WitBridge
