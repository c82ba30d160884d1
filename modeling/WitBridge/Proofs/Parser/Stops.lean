import WitBridge.Proofs.Parser.Reads

/-!
# Where a parser stops

A parser stops at a list of signs if on every stream with these signs ahead it ends in a fault. The
whole stops where its first step does, or where a later one does after what the steps before it
have read. A repetition stops at the first of its items that is not read, for nothing is tried
again.
-/
namespace WitBridge.Parser

open Token (Sign Kind signs front)

variable {α β : Type} {parser : Parser α} {next : α → Parser β} {value : α}
  {before middle rest : List Sign} {kind : Kind}

/-- The parser ends in a fault on every stream that shows the signs. -/
def Stops (parser : Parser α) (before : List Sign) : Prop :=
  ∀ stream : TokenStream, stream.Shows before → ∃ fault, parser.run stream = .error fault

/-- Where the first step stops, so does the whole. -/
theorem Stops.bind (first : Stops parser before) : Stops (parser >>= next) before := by
  intro stream shows
  obtain ⟨fault, ran⟩ := first stream shows
  exact ⟨fault, by rw [StateT.run_bind, ran]; rfl⟩

/-- Where the steps after the first stop, so does the whole. -/
theorem Reads.stops (first : Reads parser before value middle)
    (second : Stops (next value) middle) : Stops (parser >>= next) before := by
  intro stream shows
  obtain ⟨rest, ran, shown⟩ := first.run stream shows
  obtain ⟨fault, again⟩ := second rest shown
  exact ⟨fault, by rw [StateT.run_bind, ran]; exact again⟩

/-- What follows the token at hand depends on the kind in front. -/
theorem stops_front {step : Token → Parser β}
    (each : ∀ token : Token, token.kind = front before → Stops (step token) before) :
    Stops (current >>= step) before :=
  fun stream shows => each stream.current shows.kind_current stream shows

/-- What follows the stream depends on its signs. -/
theorem stops_get {step : TokenStream → Parser β}
    (each : ∀ stream : TokenStream, stream.Shows before → Stops (step stream) before) :
    Stops (get >>= step) before :=
  fun stream shows => each stream shows stream shows

/-- A parser that complains stops everywhere. -/
theorem stops_unexpected (expected : String) (list : List Sign) :
    Stops (unexpected expected : Parser α) list := by
  intro stream _
  cases ran : (unexpected expected : Parser α).run stream with
  | error fault => exact ⟨fault, rfl⟩
  | ok result => exact absurd ran (run_unexpected_ne_ok expected stream result)

/-- A token of another kind than expected stops the parser. -/
theorem stops_expect (other : front before ≠ kind) : Stops (discard (expect kind)) before := by
  intro stream shows
  have differs : stream.current.kind ≠ kind := by rwa [shows.kind_current]
  cases ran : (expect kind).run stream with
  | ok result => exact absurd ran (run_expect_ne_ok differs result)
  | error fault =>
    refine ⟨fault, ?_⟩
    change ((fun _ => ()) <$> expect kind).run stream = _
    rw [StateT.run_map, ran]
    rfl

/-- Another token than a mark stops the parser. -/
theorem stops_mark {m : Token.Mark} (other : front before ≠ .mark m) : Stops (mark m) before :=
  stops_expect other

/-- Another token than a keyword stops the parser. -/
theorem stops_keyword {k : Token.Keyword} (other : front before ≠ .keyword k) :
    Stops (keyword k) before :=
  stops_expect other

/-- A reserved word without its escape is no name where not every word is one. -/
theorem stops_identifier (what : String) (notName : front before ≠ .identifier)
    (notEscape : front before ≠ .mark .percent) : Stops (identifier what) before := by
  refine (reads_accept_of_ne notEscape).stops (stops_front fun token same => ?_)
  have refused : (decide (token.kind = .identifier) ||
      ((false || false) && token.kind.isWord)) = false := by
    simpa [same] using notName
  simp only [refused, Bool.false_eq_true, ↓reduceIte]
  exact stops_unexpected _ _

/-- A parser that is given fuel by the tokens ahead stops where it stops with enough fuel. -/
theorem stops_fuelled {parser : Nat → Parser α}
    (within : ∀ fuel, before.length < fuel → Stops (parser fuel) before) :
    Stops (fun stream => parser (stream.ahead.length + 1) stream) before := by
  intro stream shows
  have enough : before.length < stream.ahead.length + 1 := by
    rw [shows.length_ahead]
    exact Nat.lt_succ_self _
  exact within _ enough stream shows

section Lists

variable {entry : Type} {item : Parser α} {close : Kind} {written : entry → List Char}
  {read : entry → α} {good : entry → Prop} {entries : List entry} {tail : List Char}

/-- Items up to a closing token stop at the first that is not read, with enough fuel. -/
theorem stops_itemsWithin (fuel : Nat)
    (begun : ∀ e ∈ entries, ∀ rest, front (signs [] (written e ++ rest)) ≠ close)
    (takes : ∀ e ∈ entries, good e → ∀ rest,
      Takes item (signs [] (written e ++ rest)) (read e) (signs [] rest))
    (stops : ∀ e ∈ entries, ¬ good e → ∀ rest, Stops item (signs [] (written e ++ rest)))
    (bad : ∃ e ∈ entries, ¬ good e)
    (enough : (signs [] (entries.flatMap written ++ tail)).length < fuel) :
    Stops (itemsWithin close item fuel) (signs [] (entries.flatMap written ++ tail)) := by
  obtain ⟨fuel, rfl⟩ := Nat.exists_eq_add_one_of_ne_zero (Nat.ne_zero_of_lt enough)
  induction entries generalizing fuel with
  | nil => simp at bad
  | cons e more ih =>
    simp only [List.flatMap_cons, List.append_assoc] at enough ⊢
    have open' := begun e List.mem_cons_self (more.flatMap written ++ tail)
    refine (reads_check _ _).stops ?_
    simp only [open', decide_false, Bool.false_eq_true, ↓reduceIte]
    by_cases fine : good e
    · have first := takes e List.mem_cons_self fine (more.flatMap written ++ tail)
      have later : ∃ e ∈ more, ¬ good e := by
        obtain ⟨other, listed, wrong⟩ := bad
        rcases List.mem_cons.1 listed with rfl | listed
        · exact absurd fine wrong
        · exact ⟨other, listed, wrong⟩
      have fewer := Nat.lt_of_lt_of_le first.length_lt (Nat.le_of_lt_succ enough)
      obtain ⟨fuel, rfl⟩ := Nat.exists_eq_add_one_of_ne_zero (Nat.ne_zero_of_lt fewer)
      refine first.reads.stops (Stops.bind ?_)
      exact ih (fun e listed => begun e (List.mem_cons_of_mem _ listed))
        (fun e listed => takes e (List.mem_cons_of_mem _ listed))
        (fun e listed => stops e (List.mem_cons_of_mem _ listed)) later fuel fewer
    · exact (stops e List.mem_cons_self fine _).bind

/-- Items up to a closing token stop at the first that is not read. -/
theorem stops_itemsUntil
    (begun : ∀ e ∈ entries, ∀ rest, front (signs [] (written e ++ rest)) ≠ close)
    (takes : ∀ e ∈ entries, good e → ∀ rest,
      Takes item (signs [] (written e ++ rest)) (read e) (signs [] rest))
    (stops : ∀ e ∈ entries, ¬ good e → ∀ rest, Stops item (signs [] (written e ++ rest)))
    (bad : ∃ e ∈ entries, ¬ good e) :
    Stops (itemsUntil close item) (signs [] (entries.flatMap written ++ tail)) :=
  stops_fuelled fun fuel => stops_itemsWithin fuel begun takes stops bad

end Lists

end WitBridge.Parser
