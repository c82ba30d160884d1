import WitBridge.Proofs.Version.Spelling

/-!
# Versions that are revised

A parser revises a version if the version that it has read is spelled by tokens in one place, and
with other tokens there it does as these say: where they spell a version or are none, it returns
what it returned with that version in its place, and where one of them is a word, it refuses. Tokens
in front of the place are taken as they were: a parser sees two tokens at once, and two are between
all others that it takes and the place, or it takes them whatever is behind them.
-/
namespace WitBridge

open Token (Kind)
open WitBridge.Version (Spelled Misspelled)

/-- The places of versions in a list: those in one of its elements. -/
inductive Listed {α : Type} (Slot : (Option Version → α) → Prop) :
    (Option Version → List α) → Prop
  | mk (before : List α) {item : Option Version → α} (slot : Slot item) (after : List α) :
    Listed Slot fun version => before ++ item version :: after

namespace Parser

variable {α β γ : Type}

/-- What a parser does with a version spelled between some tokens and a stream: whatever is spelled
there, it returns the value with that version and leaves the same, and it refuses where a word is
among the numbers. -/
structure Revises (parser : Parser α) (before written : List Token) (after left : TokenStream)
    (version : Option Version) (put : Option Version → α) : Prop where
  /-- What is behind the version ends with the end of the input. -/
  ended : after.Ended
  /-- The version is spelled. -/
  spelled : Spelled written version
  /-- What is behind the version calls for no more numbers. -/
  follows : after.FollowsVersion
  /-- Another version there is read. -/
  revised : ∀ {other : List Token} {found : Option Version}, Spelled other found →
    parser.run (before ++ (other ++ after)) = .ok (put found, left)
  /-- A word among the numbers is refused. -/
  refused : ∀ {other : List Token} {tail : TokenStream}, Misspelled other →
    (before ++ (other ++ tail)).Tidy → Refuses parser (before ++ (other ++ tail))

/-- Whether on a stream a parser revises a version behind some tokens at least. -/
def RevisesAt (kept : Nat) (stream : TokenStream) (parser : Parser α) (left : TokenStream)
    (version : Option Version) (put : Option Version → α) : Prop :=
  ∃ before written after, stream = before ++ (written ++ after) ∧ kept ≤ before.length ∧
    Revises parser before written after left version put

variable {parser parser' first : Parser α} {next : α → Parser β} {value : α}
  {before written taken : List Token} {stream middle after left : TokenStream}
  {version : Option Version} {put : Option Version → β} {put' : Option Version → α} {kept : Nat}

/-- Tokens in front are taken again by a parser that does so whatever begins with what is behind
them or, if nothing is kept there, with a version. -/
theorem Revises.behind (later : Revises (next value) before written after left version put)
    (again : ∀ tail : TokenStream, tail.Ended →
      (before = [] → tail.current.kind = .mark .atSign ∨ tail.FollowsVersion) →
        first.run (taken ++ (before ++ tail)) = .ok (value, before ++ tail)) :
    Revises (first >>= next) (taken ++ before) written after left version put where
  ended := later.ended
  spelled := later.spelled
  follows := later.follows
  revised {other found} spelled := by
    have begins : (other ++ after).current.kind = .mark .atSign ∨
        (other ++ after).FollowsVersion := by
      cases spelled with
      | absent => exact .inr later.follows
      | present kind => exact .inl kind
    have ran := again (other ++ after) later.ended fun _ => begins
    rw [← TokenStream.append_append, StateT.run_bind, ran]
    exact later.revised spelled
  refused {other tail} misspelled tidy := by
    rw [← TokenStream.append_append] at tidy ⊢
    have begins : (other ++ tail).current.kind = .mark .atSign := by
      cases misspelled with
      | intro kind => exact kind
    have ran := again (other ++ tail) tidy.ended fun _ => .inl begins
    exact Refuses.after ran (later.refused misspelled tidy.of_append)

/-- A parser takes its tokens again, for two tokens are between them and the version. -/
theorem RevisesAt.of_run (accounts : Accounts false [] first)
    (inStep : ∀ pairing bound, InStep pairing bound first first) (ended : stream.Ended)
    (again : first.run stream = .ok (value, middle))
    (later : RevisesAt 2 middle (next value) left version put) :
    RevisesAt 2 stream (first >>= next) left version put := by
  obtain ⟨taken, rfl, -⟩ := (accounts stream ended).taken again
  obtain ⟨before, written, after, rfl, two, revises⟩ := later
  refine ⟨taken ++ before, written, after, TokenStream.append_append, ?_, ?_⟩
  · rw [List.length_append]
    exact Nat.le_add_left_of_le two
  · have ended : (written ++ after).Ended := revises.ended
    exact revises.behind fun tail _ _ => run_replaced inStep two ended again

/-- Two tokens are between what a parser takes and the version. -/
theorem RevisesAt.behind (accounts : Accounts false [] first)
    (inStep : ∀ pairing bound, InStep pairing bound first first) (tidy : stream.Tidy)
    (ran : (first >>= next).run stream = .ok (put version, left))
    (later : ∀ value middle, middle.Tidy → (next value).run middle = .ok (put version, left) →
      RevisesAt 2 middle (next value) left version put) :
    RevisesAt 2 stream (first >>= next) left version put := by
  obtain ⟨value, middle, again, onward⟩ := exists_of_run_bind ran
  obtain ⟨taken, rfl, -⟩ := (accounts stream tidy.ended).taken again
  exact .of_run accounts inStep tidy.ended again (later value middle tidy.of_append onward)

/-- A parser that takes its tokens whatever is behind them takes them again. -/
theorem RevisesAt.settled {test : Kind → Prop} (settles : Settles test first)
    (sign : test (.mark .atSign)) (follows : ∀ stream : TokenStream, stream.FollowsVersion →
      test stream.current.kind) (tidy : stream.Tidy)
    (ran : (first >>= next).run stream = .ok (put version, left))
    (later : ∀ value middle, middle.Tidy → (next value).run middle = .ok (put version, left) →
      RevisesAt kept middle (next value) left version put) :
    RevisesAt (kept + 1) stream (first >>= next) left version put := by
  obtain ⟨value, middle, again, onward⟩ := exists_of_run_bind ran
  obtain ⟨taken, rfl, some, tested, takes⟩ := settles again tidy.ended
  obtain ⟨before, written, after, rfl, enough, revises⟩ := later value middle tidy.of_append onward
  refine ⟨taken ++ before, written, after, TokenStream.append_append, ?_, ?_⟩
  · have := List.length_pos_iff.2 some
    rw [List.length_append]
    omega
  · refine revises.behind fun tail ended begins => takes _ ended ?_
    cases before with
    | nil =>
      rcases begins rfl with kind | fine
      · exact (congrArg test kind).mpr sign
      · exact follows tail fine
    | cons first more => exact tested

/-- Fewer tokens may be asked for in front of the version. -/
theorem RevisesAt.mono {fewer : Nat} (revises : RevisesAt kept stream parser left version put')
    (le : fewer ≤ kept) : RevisesAt fewer stream parser left version put' :=
  have ⟨before, written, after, shape, enough, revises⟩ := revises
  ⟨before, written, after, shape, Nat.le_trans le enough, revises⟩

/-- The token at hand is taken whatever is behind it. -/
theorem RevisesAt.advance {step : Unit → Parser β} (inner : stream.current.kind ≠ .endOfInput)
    (tidy : stream.Tidy)
    (later : stream.advance.Tidy → RevisesAt kept stream.advance (step ()) left version put) :
    RevisesAt (kept + 1) stream (discard advance >>= step) left version put := by
  obtain ⟨before, written, after, shape, enough, revises⟩ := later tidy.advance
  refine ⟨[stream.current] ++ before, written, after, ?_, Nat.succ_le_succ enough, ?_⟩
  · rw [← TokenStream.append_append, ← shape]
    exact TokenStream.Ended.eq_cons tidy.ended inner
  · exact revises.behind fun _ _ _ => rfl

/-- What comes after the version is read as before. -/
theorem RevisesAt.bind {made : Option Version → α}
    (first : RevisesAt kept stream parser middle version made)
    (onward : ∀ found, (next (made found)).run middle = .ok (put found, left)) :
    RevisesAt kept stream (parser >>= next) left version put := by
  obtain ⟨before, written, after, shape, enough, revises⟩ := first
  refine ⟨before, written, after, shape, enough, ?_⟩
  exact {
    ended := revises.ended
    spelled := revises.spelled
    follows := revises.follows
    revised {other found} spelled := by
      rw [StateT.run_bind, revises.revised spelled]
      exact onward found
    refused misspelled tidy := (revises.refused misspelled tidy).bind }

/-- The value is made into another. -/
theorem RevisesAt.map {made : Option Version → α} {make : α → β}
    (first : RevisesAt kept stream parser left version made) :
    RevisesAt kept stream (parser >>= fun value => pure (make value)) left version
      fun version => make (made version) :=
  first.bind fun _ => rfl

/-- A parser that looks at two tokens alone does what another does. -/
theorem RevisesAt.look {made : Option Version → α}
    (revises : RevisesAt 2 stream parser' left version made)
    (same : ∀ other : TokenStream, other.Ended → other.current = stream.current →
      other.peek = stream.peek → parser.run other = parser'.run other) :
    RevisesAt 2 stream parser left version made := by
  obtain ⟨before, written, after, rfl, two, revises⟩ := revises
  have looks (tail : TokenStream) (ended : tail.Ended) :
      parser.run (before ++ tail) = parser'.run (before ++ tail) := by
    obtain _ | ⟨one, _ | ⟨two, more⟩⟩ := before
    · contradiction
    · contradiction
    · exact same _ ended rfl rfl
  refine ⟨before, written, after, rfl, two, ?_⟩
  exact {
    ended := revises.ended
    spelled := revises.spelled
    follows := revises.follows
    revised {other found} spelled :=
      (looks (other ++ after) revises.ended).trans (revises.revised spelled)
    refused {other tail} misspelled tidy := by
      obtain ⟨fault, ran, grammar⟩ := revises.refused misspelled tidy
      exact ⟨fault, (looks (other ++ tail) tidy.ended).trans ran, grammar⟩ }

/-- The documentation at hand is looked at. -/
theorem RevisesAt.docs {step : Documentation → Parser β}
    (later : RevisesAt 2 stream (step ⟨stream.current.docs⟩) left version put) :
    RevisesAt 2 stream (Parser.docs >>= step) left version put :=
  later.look fun other _ same _ =>
    congrArg (fun token : Token => (step ⟨token.docs⟩).run other) same

/-- The token at hand is looked at. -/
theorem RevisesAt.current {step : Token → Parser β}
    (later : RevisesAt 2 stream (step stream.current) left version put) :
    RevisesAt 2 stream (Parser.current >>= step) left version put :=
  later.look fun other _ same _ => congrArg (fun token => (step token).run other) same

/-- What a parser must do behind a version: it takes only what may follow one, and it refuses more
numbers. -/
structure Concludes (closing : Parser γ) : Prop where
  follows : ∀ {stream value rest}, closing.run stream = .ok (value, rest) → stream.Ended →
    stream.FollowsVersion
  refuses : ∀ {stream : TokenStream}, stream.Dangles → Refuses closing stream

/-- A version and what is behind it, of which the version is no part. -/
theorem revisesAt_optional {closing : Parser γ} {make : Option Version → γ → β}
    (closes : Concludes closing) (tidy : stream.Tidy)
    (ran : (Version.optional >>= fun version => closing >>= fun value =>
      pure (make version value)).run stream = .ok (put version, left))
    (same : ∀ found value, make found value = put version →
      found = version ∧ ∀ other, make other value = put other) :
    RevisesAt 0 stream (Version.optional >>= fun version => closing >>= fun value =>
      pure (make version value)) left version put := by
  obtain ⟨found, after, parsed, onward⟩ := exists_of_run_bind ran
  obtain ⟨written, rfl, spelled⟩ := Version.spelled_of_run_optional tidy parsed
  obtain ⟨value, rest, closed, returned⟩ := exists_of_run_bind onward
  obtain ⟨whole, rfl⟩ := Prod.mk.inj (Except.ok.inj returned)
  obtain ⟨rfl, makes⟩ := same found value whole
  have ended : after.Ended := tidy.of_append.ended
  have follows := closes.follows closed ended
  refine ⟨[], written, after, rfl, Nat.zero_le _, ?_⟩
  exact {
    ended := ended
    spelled := spelled
    follows := follows
    revised {other found} spelled := by
      have read := Version.run_optional_spelled spelled follows
      change (Version.optional >>= _).run (other ++ after) = _
      rw [StateT.run_bind, read]
      change (closing >>= fun value => pure (make found value)).run after = _
      rw [StateT.run_bind, closed, ← makes found]
      rfl
    refused {other tail} misspelled tidy := by
      change Refuses _ (other ++ tail)
      rcases Version.run_optional_misspelled misspelled tidy with refuses | ⟨_, rest, read, dangles⟩
      · exact refuses.bind
      · exact Refuses.after read (closes.refuses dangles).bind }

section Items

variable {item : Parser α} {close : Kind} {Slot : (Option Version → α) → Prop}

/-- Items up to a closing token revise the versions of their items. -/
theorem revisesAt_itemsUntil (takes : Accounts true [] item)
    (inStep : ∀ pairing bound, InStep pairing bound item item)
    (each : ∀ {stream put version left}, Slot put → stream.Tidy →
      item.run stream = .ok (put version, left) → RevisesAt 2 stream item left version put)
    {put : Option Version → List α} (slot : Listed Slot put) (tidy : stream.Tidy)
    (ran : (itemsUntil close item).run stream = .ok (put version, left)) :
    RevisesAt 2 stream (itemsUntil close item) left version put := by
  obtain @⟨items, put, slot, others⟩ := slot
  have opened {stream : TokenStream} {items : List α} (ran : (itemsUntil close item).run stream =
      .ok (items ++ put version :: others, left)) : stream.current.kind ≠ close := by
    intro closed
    rw [run_itemsUntil_closed closed] at ran
    simp at ran
  induction items generalizing stream with
  | nil =>
    have isOpen := opened ran
    rw [run_itemsUntil takes inStep tidy.ended isOpen] at ran
    obtain ⟨first, middle, read, onward⟩ := exists_of_run_bind ran
    obtain ⟨rest, last, later, returned⟩ := exists_of_run_bind onward
    obtain ⟨whole, rfl⟩ := Prod.mk.inj (Except.ok.inj returned)
    obtain ⟨rfl, rfl⟩ := List.cons.inj whole
    refine RevisesAt.look ((each slot tidy read).bind fun found => ?_) fun other ended same _ =>
      run_itemsUntil takes inStep ended (same ▸ isOpen)
    rw [StateT.run_bind, later]
    rfl
  | cons head items ih =>
    have isOpen := opened ran
    rw [run_itemsUntil takes inStep tidy.ended isOpen] at ran
    refine RevisesAt.look ?_ fun other ended same _ =>
      run_itemsUntil takes inStep ended (same ▸ isOpen)
    refine RevisesAt.behind takes.relax inStep tidy ran fun first middle tidy onward => ?_
    obtain ⟨rest, last, later, returned⟩ := exists_of_run_bind onward
    obtain ⟨whole, rfl⟩ := Prod.mk.inj (Except.ok.inj returned)
    obtain ⟨rfl, rfl⟩ := List.cons.inj whole
    exact (ih tidy later).map

end Items

end Parser

end WitBridge
