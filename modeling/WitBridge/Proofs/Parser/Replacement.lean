import WitBridge.Proofs.Parser.Blindness
import WitBridge.Proofs.Parser.Mirroring
import WitBridge.Proofs.Token.Tidy

/-!
# Other tokens behind a value

What a parser has returned it returns again where other tokens stand behind those that it took, if
it cannot see the difference. It looks at the token at hand and at the kind of the one behind it,
so it is enough that two tokens are kept. Some parsers see less: a single token or a name is taken
whatever stands behind it.
-/
namespace WitBridge

open Token (Kind)

namespace TokenStream

variable {tokens : List Token} {rest : TokenStream}

/-- What is left of a tidy stream is tidy. -/
theorem Tidy.of_append (tidy : (tokens ++ rest).Tidy) : rest.Tidy :=
  ⟨fun token member => tidy.ahead token (List.mem_append_right tokens member), tidy.final,
    tidy.ended⟩

/-- The tokens in front of a tidy stream are tidy. -/
theorem Tidy.of_mem (tidy : (tokens ++ rest).Tidy) {token : Token} (member : token ∈ tokens) :
    token.Tidy :=
  tidy.ahead token (List.mem_append_left rest.ahead member)

/-- A token of the sign of a tidy one is tidy. -/
theorem tidy_of_sign {token other : Token} (same : token.sign = other.sign) (tidy : other.Tidy) :
    token.Tidy := by
  obtain ⟨kind, value, docs⟩ := Token.Sign.mk.inj same
  exact ⟨docs ▸ tidy.docs, by rw [kind, value]; exact tidy.word,
    by rw [kind, value]; exact tidy.integer, by rw [kind, value]; exact tidy.identifier⟩

/-- A stream like a tidy one is tidy. -/
theorem Alike.tidy {stream other : TokenStream} (alike : stream.Alike other) (tidy : other.Tidy) :
    stream.Tidy where
  ahead token member := by
    have listed : token.sign ∈ other.ahead.map Token.sign :=
      alike.ahead ▸ List.mem_map_of_mem member
    obtain ⟨twin, member', same⟩ := List.mem_map.1 listed
    exact tidy_of_sign same.symm (tidy.ahead twin member')
  final := tidy_of_sign alike.final tidy.final
  ended := (Token.kind_eq_of_sign alike.final).trans tidy.ended

end TokenStream

/-- Streams with the same tokens up to some that are kept in both, two at least, and with different
ones behind these. -/
def Pairing.replacing (kept : List Token) (tail tail' : TokenStream) (two : 2 ≤ kept.length)
    (ended : tail.Ended) : Pairing where
  Pair stream other :=
    ∃ front : List Token, stream = front ++ (kept ++ tail) ∧ other = front ++ (kept ++ tail')
  beyond := (kept ++ tail).ahead.length
  ended := by
    rintro _ _ ⟨front, rfl, rfl⟩
    exact ended
  within := by
    rintro _ _ ⟨front, rfl, rfl⟩
    simp
  length_le := by
    rintro _ _ ⟨front, rfl, rfl⟩
    simp only [TokenStream.ahead_append, List.length_append]
    omega
  current := by
    rintro _ _ ⟨front, rfl, rfl⟩
    obtain _ | ⟨first, more⟩ := kept
    · contradiction
    · cases front <;> rfl
  peek := by
    rintro _ _ ⟨front, rfl, rfl⟩
    obtain _ | ⟨first, _ | ⟨second, more⟩⟩ := kept
    · contradiction
    · contradiction
    · obtain _ | ⟨_, _ | ⟨_, _⟩⟩ := front <;> rfl
  advance := by
    rintro _ _ ⟨front, rfl, rfl⟩ - before
    obtain _ | ⟨first, more⟩ := front
    · exact absurd before (Nat.lt_irrefl _)
    · exact ⟨more, rfl, rfl⟩

namespace Parser

variable {α β : Type} {parser : Parser α} {value : α} {taken kept : List Token}
  {tail tail' : TokenStream}

/-- A parser that has left two tokens does the same where others are behind these. -/
theorem run_replaced (inStep : ∀ pairing bound, InStep pairing bound parser parser)
    (two : 2 ≤ kept.length) (ended : tail.Ended)
    (ran : parser.run (taken ++ (kept ++ tail)) = .ok (value, kept ++ tail)) :
    parser.run (taken ++ (kept ++ tail')) = .ok (value, kept ++ tail') := by
  let pairing := Pairing.replacing kept tail tail' two ended
  have follows := (inStep pairing _ (taken ++ (kept ++ tail)) ended (Nat.lt_succ_self _)).follows
    (taken ++ (kept ++ tail')) ⟨taken, rfl, rfl⟩
  rw [ran] at follows
  generalize parser.run (taken ++ (kept ++ tail')) = outcome at follows ⊢
  cases follows with
  | ok pair =>
    obtain ⟨front, same, rfl⟩ := pair
    have none : front = [] := by
      have := congrArg (fun stream : TokenStream => stream.ahead.length) same
      simp only [TokenStream.ahead_append, List.length_append] at this
      exact List.eq_nil_of_length_eq_zero (by omega)
    rw [none]
    rfl
  | past short => exact absurd short (Nat.lt_irrefl _)

/-- A parser that reads a value from signs takes just the tokens of these. -/
theorem Reads.run_append (accounts : Accounts false [] parser) (ended : tail.Ended)
    (reads : Reads parser (taken.map Token.sign ++ tail.ahead.map Token.sign) value
      (tail.ahead.map Token.sign)) : parser.run (taken ++ tail) = .ok (value, tail) := by
  have shows : (taken ++ tail).Shows (taken.map Token.sign ++ tail.ahead.map Token.sign) :=
    ⟨List.map_append, ended⟩
  obtain ⟨rest, ran, shown⟩ := reads.run _ shows
  obtain ⟨front, shape, -⟩ := (accounts (taken ++ tail) ended).taken ran
  have same : tail.ahead.length = rest.ahead.length := by
    simpa using congrArg List.length shown.ahead.symm
  rw [ran, (TokenStream.append_inj shape same).2]

/-- Whether a parser that has taken some tokens takes them again whatever is behind them, as long as
a test holds of the kind there. -/
def Settles (test : Kind → Prop) (parser : Parser α) : Prop :=
  ∀ ⦃stream value rest⦄, parser.run stream = .ok (value, rest) → stream.Ended →
    ∃ taken : List Token, stream = taken ++ rest ∧ taken ≠ [] ∧ test rest.current.kind ∧
      ∀ tail : TokenStream, tail.Ended → test tail.current.kind →
        parser.run (taken ++ tail) = .ok (value, tail)

/-- A mark is taken whatever is behind it. -/
theorem settles_mark (m : Token.Mark) : Settles (fun _ => True) (mark m) := by
  intro stream value rest ran ended
  obtain ⟨token, same, rfl⟩ := exists_of_run_mark ran ended
  refine ⟨[token], rfl, nofun, trivial, fun tail ended _ => ?_⟩
  have reads : Reads (mark m) (token.sign :: tail.ahead.map Token.sign) () _ :=
    (takes_mark_token same).reads
  exact reads.run_append (accounts_mark m) ended

/-- A name is taken whatever is behind it. -/
theorem settles_identifier (what : String) : Settles (fun _ => True) (identifier what) := by
  intro stream name rest ran ended
  obtain ⟨tokens, rfl, derives⟩ := recognizes_identifier ran ended
  refine ⟨tokens, rfl, ?_, trivial, fun tail ended _ => ?_⟩
  · rintro rfl
    contradiction
  · have reads := (derives.takes what (tail.ahead.map Token.sign)).reads
    exact reads.run_append (accounts_identifier what false) ended

/-- A word is taken whatever is behind it. -/
theorem settles_word (what : String) (role : NameRole) :
    Settles (fun _ => True) (word what role) := by
  intro stream name rest ran ended
  have taken := of_run_current ran
  split at taken
  case isFalse => exact absurd taken (run_unexpected_ne_ok _ _ _)
  case isTrue isWord =>
    split at taken
    case h_2 => contradiction
    case h_1 found read =>
      cases taken
      have value := KebabName.text_of_ofText read
      have shape := ended.eq_cons (kind_ne_of_isWord isWord).1
      refine ⟨[stream.current], shape, nofun, trivial, fun tail ended _ => ?_⟩
      have sign : stream.current.sign =
          ⟨stream.current.kind, name.text, stream.current.docs⟩ := by
        rw [value]
        rfl
      have reads : Reads (word what role) (stream.current.sign :: tail.ahead.map Token.sign) name
          (tail.ahead.map Token.sign) := by
        rw [sign]
        exact (takes_word what role isWord).reads
      exact reads.run_append (accounts_word what role) ended

section Items

variable {item : Parser α} {close : Kind} {stream : TokenStream}

/-- Items up to a closing token are read alike with any fuel beyond the tokens ahead. -/
theorem run_itemsWithin (takes : Accounts true [] item)
    (each : ∀ pairing bound, InStep pairing bound item item) {fuel fuel' : Nat}
    (ended : stream.Ended) (enough : stream.ahead.length < fuel)
    (enough' : stream.ahead.length < fuel') :
    (itemsWithin close item fuel).run stream = (itemsWithin close item fuel').run stream := by
  have mirrored {more : Nat} (le : stream.ahead.length < more) :
      Mirrored (stream.ahead.length + 1) (itemsWithin close item more)
        (itemsWithin close item fuel') := by
    refine mirrored_of_inStep fun pairing => ?_
    rw [itemsWithin_eq, itemsWithin_eq]
    refine Loop.inStep_within ?_ (accounts_untilLoop_pass takes) ?_ le (by omega) ()
    · exact fun _ _ => rfl
    · exact fun _ => (each pairing _).bind fun first => inStep_pure _
  exact (mirrored enough).run_eq (mirrored enough') ended (Nat.lt_succ_self _)

/-- Where the closing token is at hand there are no items. -/
theorem run_itemsUntil_closed (closed : stream.current.kind = close) :
    (itemsUntil close item).run stream = .ok ([], stream) := by
  have checked : decide (stream.current.kind = close) = true := by simpa using closed
  change (if decide (stream.current.kind = close) = true then (pure [] : Parser (List α))
    else _).run stream = _
  rw [if_pos checked]
  rfl

/-- Where items up to a closing token are read and it is not at hand, an item is read and then the
others. -/
theorem run_itemsUntil (takes : Accounts true [] item)
    (each : ∀ pairing bound, InStep pairing bound item item) (ended : stream.Ended)
    (opened : stream.current.kind ≠ close) :
    (itemsUntil close item).run stream = (do
      let first ← item
      let rest ← itemsUntil close item
      return first :: rest : Parser (List α)).run stream := by
  have checked : decide (stream.current.kind = close) = false := by simpa using opened
  change (if decide (stream.current.kind = close) = true then (pure [] : Parser (List α)) else do
    let first ← item
    let rest ← itemsWithin close item stream.ahead.length
    return first :: rest).run stream = _
  rw [checked, if_neg Bool.false_ne_true, StateT.run_bind, StateT.run_bind]
  cases ran : item.run stream with
  | error fault => rfl
  | ok found =>
    obtain ⟨first, rest⟩ := found
    obtain ⟨taken, shape, -, some⟩ := (takes stream ended).taken ran
    have passes : stream.Passes rest := ⟨taken, shape, some rfl⟩
    have same : (itemsWithin close item stream.ahead.length).run rest =
        (itemsUntil close item).run rest :=
      run_itemsWithin takes each (passes.ended ended) passes.length_lt (Nat.lt_succ_self _)
    change (itemsWithin close item stream.ahead.length >>= fun rest => pure (first :: rest)).run
      rest = (itemsUntil close item >>= fun rest => pure (first :: rest)).run rest
    rw [StateT.run_bind, StateT.run_bind, same]

end Items

end Parser

end WitBridge
