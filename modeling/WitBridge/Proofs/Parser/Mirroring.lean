import WitBridge.Proofs.Parser.Pairing

/-!
# Parsers and what is behind the end of the input

A stream is extended where the end of its input is made a token like any other and another end is
put behind it. On the extended stream a parser that took the first end would leave something else,
or would complain of another place. Streams are paired with their extensions, so a parser that keeps
in step with itself does neither: it returns the same value and leaves the extension of what it
left, or stops at the same fault.
-/
namespace WitBridge

namespace TokenStream

variable {stream other : TokenStream} {beyond : Token}

/-- The stream with its end of the input as a token and another end behind it. -/
def extended (stream : TokenStream) (beyond : Token) : TokenStream :=
  ⟨stream.ahead ++ [stream.final], beyond⟩

/-- A stream is known from its extension. -/
theorem extended_inj (same : stream.extended beyond = other.extended beyond) : stream = other := by
  obtain ⟨ahead, final⟩ := stream
  obtain ⟨ahead', final'⟩ := other
  obtain ⟨front, last⟩ := List.append_inj' (congrArg TokenStream.ahead same) rfl
  exact congr (congrArg TokenStream.mk front) (List.cons.inj last).1

/-- The token at hand is the same. -/
@[simp]
theorem current_extended : (stream.extended beyond).current = stream.current := by
  obtain ⟨_ | ⟨first, more⟩, final⟩ := stream <;> rfl

/-- One token more is ahead. -/
@[simp]
theorem length_extended : (stream.extended beyond).ahead.length = stream.ahead.length + 1 := by
  simp [extended]

/-- The token after the one at hand is of the same kind. -/
theorem Ended.kind_peek_extended (ended : stream.Ended) (last : beyond.kind = .endOfInput) :
    (stream.extended beyond).peek.kind = stream.peek.kind := by
  obtain ⟨_ | ⟨first, _ | ⟨second, more⟩⟩, final⟩ := stream
  · exact last.trans ended.symm
  · rfl
  · rfl

/-- A token before the end of the input is taken from both. -/
theorem Ended.advance_extended (ended : stream.Ended) (inner : stream.current.kind ≠ .endOfInput) :
    (stream.extended beyond).advance = stream.advance.extended beyond := by
  obtain ⟨_ | ⟨first, more⟩, final⟩ := stream
  · exact absurd ended inner
  · rfl

end TokenStream

/-- Streams with their extensions; the pairing speaks of all tokens. -/
def Pairing.extending (beyond : Token) (last : beyond.kind = .endOfInput) : Pairing where
  Pair stream other := stream.Ended ∧ other = stream.extended beyond
  beyond := 0
  ended pair := pair.1
  within _ := Nat.zero_le _
  length_le := by
    rintro stream _ ⟨-, rfl⟩
    simp
  current := by
    rintro stream _ ⟨-, rfl⟩
    exact TokenStream.current_extended
  peek := by
    rintro stream _ ⟨ended, rfl⟩
    exact ended.kind_peek_extended last
  advance := by
    rintro stream _ ⟨ended, rfl⟩ inner -
    exact ⟨(ended.advance inner).1, ended.advance_extended inner⟩

namespace Parser

variable {α : Type} {parser parser' other : Parser α} {bound : Nat} {stream : TokenStream}

/-- Whether the second outcome is the first on an extended stream. -/
structure Mirrors (beyond : Token) (outcome outcome' : Except SourceFault (α × TokenStream)) :
    Prop where
  eq_map : outcome' = outcome.map fun found => (found.1, found.2.extended beyond)

/-- Whether the second parser does on the extensions of all streams with fewer tokens than a bound
what the first does on these. -/
def Mirrored (bound : Nat) (parser parser' : Parser α) : Prop :=
  ∀ stream : TokenStream, stream.Ended → stream.ahead.length < bound →
    ∀ beyond : Token, beyond.kind = .endOfInput →
      Mirrors beyond (parser.run stream) (parser'.run (stream.extended beyond))

/-- Parsers that keep in step on all pairings do so on extensions. -/
theorem mirrored_of_inStep
    (inStep : ∀ pairing, InStep pairing bound parser parser') : Mirrored bound parser parser' := by
  intro stream ended few beyond last
  have follows := (inStep (.extending beyond last) stream ended few).follows _ ⟨ended, rfl⟩
  generalize parser.run stream = outcome at follows ⊢
  generalize parser'.run (stream.extended beyond) = outcome' at follows ⊢
  constructor
  cases follows with
  | ok pair => rw [pair.2]; rfl
  | error => rfl
  | past short => exact absurd short (Nat.not_lt_zero _)
  | astray some => exact absurd some (Nat.not_lt_zero _)

/-- Two parsers with one mirror image do the same on streams with fewer tokens than the bound. -/
theorem Mirrored.run_eq (first : Mirrored bound parser parser')
    (second : Mirrored bound other parser') (ended : stream.Ended)
    (few : stream.ahead.length < bound) : parser.run stream = other.run stream := by
  have same := (first stream ended few stream.final ended).eq_map.symm.trans
    (second stream ended few stream.final ended).eq_map
  generalize parser.run stream = outcome at same ⊢
  generalize other.run stream = outcome' at same ⊢
  cases outcome with
  | error fault =>
    cases outcome' with
    | error fault' => cases same; rfl
    | ok found => contradiction
  | ok found =>
    cases outcome' with
    | error fault => contradiction
    | ok found' =>
      obtain ⟨value, rest⟩ := found
      obtain ⟨value', rest'⟩ := found'
      obtain ⟨rfl, left⟩ := Prod.mk.inj (Except.ok.inj same)
      exact congrArg (fun rest => Except.ok (value, rest)) (TokenStream.extended_inj left)

end Parser

end WitBridge
