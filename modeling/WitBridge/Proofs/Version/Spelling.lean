import Mathlib.Data.List.Forall2
import WitBridge.Proofs.Parser.Replacement
import WitBridge.Proofs.Version

/-!
# How a version is spelled

A version is spelled by an at sign and one to three numbers with dots between them, and no version
by no token. Such tokens are what is taken where a version may stand, and they are taken there if no
more numbers follow: a dot belongs to the version only if a number or an identifier follows it. An
at sign and parts of which one is a word spell no version. Where such parts stand, either the
complaint is of one of them, or some are left behind a dot, for at most three are taken.
-/
namespace WitBridge

open Token (Kind)

/-- Whether a kind may be taken for a number of a version. -/
def Token.Kind.IsPart (kind : Kind) : Prop := kind = .integer ∨ kind = .identifier

/-- A part is not the end of the input. -/
theorem Token.Kind.IsPart.inner {kind : Kind} (part : kind.IsPart) : kind ≠ .endOfInput := by
  rcases part with rfl | rfl <;> nofun

/-- A part is a number or a word. -/
theorem Token.Kind.IsPart.number_or_word {kind : Kind} (part : kind.IsPart) :
    kind = .integer ∨ kind.isWord = true :=
  part.imp_right (by rintro rfl; rfl)

/-- Whether a dot is at hand with a number or a word behind it. -/
def TokenStream.Dangles (stream : TokenStream) : Prop :=
  stream.current.kind = .mark .dot ∧
    (stream.peek.kind = .integer ∨ stream.peek.kind.isWord = true)

/-- Whether a stream begins with what may stand behind a version: a semicolon, a new name, or a list
of names in braces with a dot before it. -/
inductive TokenStream.FollowsVersion (stream : TokenStream) : Prop
  | semicolon (kind : stream.current.kind = .mark .semicolon)
  | renamed (kind : stream.current.kind = .keyword .as)
  | items (dot : stream.current.kind = .mark .dot) (brace : stream.peek.kind = .mark .leftBrace)

namespace TokenStream.FollowsVersion

variable {stream : TokenStream} (follows : stream.FollowsVersion)
include follows

/-- No more numbers follow. -/
theorem not_dangles : ¬ stream.Dangles := by
  rintro ⟨dot, next⟩
  cases follows with
  | semicolon kind => simp [dot] at kind
  | renamed kind => simp [dot] at kind
  | items _ brace => simp [brace, Token.Kind.isWord] at next

/-- Another mark than a semicolon or a dot is not at hand. -/
theorem kind_ne {m : Token.Mark} (semicolon : m ≠ .semicolon) (dot : m ≠ .dot) :
    stream.current.kind ≠ .mark m := by
  intro same
  cases follows with
  | semicolon kind => simp [same, semicolon] at kind
  | renamed kind => simp [same] at kind
  | items kind _ => simp [same, dot] at kind

end TokenStream.FollowsVersion

namespace Version

open WitBridge.Parser (Refuses exists_of_run_bind of_run_accept_mark)

/-- Tokens with a dot between each of the parts and the next. -/
inductive Dotted : List Token → List Token → Prop
  | one (part : Token) : Dotted [part] [part]
  | more (part : Token) {dot : Token} {tokens parts : List Token} (mark : dot.kind = .mark .dot)
    (rest : Dotted tokens parts) : Dotted (part :: dot :: tokens) (part :: parts)

/-- Whether a token is a number of a version. -/
structure IsNumber (token : Token) (number : UInt64) : Prop where
  kind : token.kind = .integer
  numeral : Numeral token.value.toList number

/-- Whether tokens spell a version, or none do. -/
inductive Spelled : List Token → Option Version → Prop
  | absent : Spelled [] none
  | present {sign : Token} {tokens parts : List Token} {numbers : List UInt64}
    (kind : sign.kind = .mark .atSign) (dotted : Dotted tokens parts) (few : parts.length ≤ 3)
    (each : List.Forall₂ IsNumber parts numbers) :
    Spelled (sign :: tokens) (some (ofNumbers numbers))

/-- Whether tokens are an at sign and parts of which one is a word. -/
inductive Misspelled : List Token → Prop
  | intro {sign : Token} {tokens parts : List Token} (kind : sign.kind = .mark .atSign)
    (dotted : Dotted tokens parts)
    (each : ∀ part ∈ parts, part.kind = .integer ∨ part.kind.isWord = true)
    (word : ∃ part ∈ parts, part.kind.isWord = true) : Misspelled (sign :: tokens)

variable {tokens parts : List Token} {rest tail stream : TokenStream} {count : Nat}

/-- Parts begin with the first of them. -/
theorem Dotted.exists_cons (dotted : Dotted tokens parts) :
    ∃ part more others, tokens = part :: more ∧ parts = part :: others := by
  cases dotted with
  | one part => exact ⟨part, [], [], rfl, rfl⟩
  | more part mark rest => exact ⟨part, _, _, rfl, rfl⟩

/-- The first part is at hand. -/
theorem Dotted.current_mem (dotted : Dotted tokens parts) (tail : TokenStream) :
    (tokens ++ tail).current ∈ parts := by
  obtain ⟨part, more, others, rfl, rfl⟩ := dotted.exists_cons
  exact List.mem_cons_self

/-- The parts are among the tokens. -/
theorem Dotted.mem (dotted : Dotted tokens parts) : ∀ part ∈ parts, part ∈ tokens := by
  induction dotted with
  | one part => exact fun _ member => member
  | more part mark rest ih =>
    intro found member
    rcases List.mem_cons.1 member with rfl | member
    · exact List.mem_cons_self
    · exact List.mem_cons_of_mem _ (List.mem_cons_of_mem _ (ih found member))

/-- An identifier is no number. -/
theorem not_numeral {token : Token} {number : UInt64} (tidy : token.Tidy)
    (name : token.kind = .identifier) : ¬ Numeral token.value.toList number := by
  intro numeral
  obtain ⟨c, first, other⟩ := tidy.identifier name
  have digit := numeral.digits c (List.mem_of_mem_head? first)
  rw [digit] at other
  contradiction

/-- Whether another number is read after one, where so many more may come. -/
def Continues (count : Nat) (stream : TokenStream) : Prop :=
  count ≠ 0 ∧ stream.current.kind = .mark .dot ∧ stream.peek.kind.IsPart

/-- A part is read, and others behind it if there may be more and a dot and a part are behind it. -/
theorem run_segments (part : stream.current.kind.IsPart) :
    (segments (count + 1)).run stream =
      (if (decide (count ≠ 0) && decide (stream.advance.current.kind = .mark .dot) &&
          (decide (stream.advance.peek.kind = .integer) ||
            decide (stream.advance.peek.kind = .identifier))) = true then do
        discard Parser.advance
        return stream.current.value :: (← segments count)
      else
        return [stream.current.value] : Parser (List String)).run stream.advance := by
  have numeric : (decide (stream.current.kind = .integer) ||
      decide (stream.current.kind = .identifier)) = true := by
    simpa [Token.Kind.IsPart] using part
  change (if (decide (stream.current.kind = .integer) ||
      decide (stream.current.kind = .identifier)) = true then _ else _ : Parser _).run stream = _
  rw [if_pos numeric]
  rfl

/-- A part that is the last. -/
theorem run_segments_last (part : stream.current.kind.IsPart)
    (last : ¬ Continues count stream.advance) :
    (segments (count + 1)).run stream = .ok ([stream.current.value], stream.advance) := by
  rw [run_segments part, if_neg]
  · rfl
  · simpa [Continues, Token.Kind.IsPart, and_assoc] using last

/-- A part before others. -/
theorem run_segments_more (part : stream.current.kind.IsPart)
    (more : Continues count stream.advance) :
    (segments (count + 1)).run stream =
      ((segments count).run stream.advance.advance).map
        fun found => (stream.current.value :: found.1, found.2) := by
  rw [run_segments part, if_pos]
  · change ((fun more => stream.current.value :: more) <$> segments count).run
      stream.advance.advance = _
    rw [StateT.run_map]
    rfl
  · simpa [Continues, Token.Kind.IsPart, and_assoc] using more

/-- Another token is complained of. -/
theorem run_segments_other (other : ¬ stream.current.kind.IsPart) :
    (segments (count + 1)).run stream = (Parser.unexpected "version number").run stream := by
  have numeric : ¬ (decide (stream.current.kind = .integer) ||
      decide (stream.current.kind = .identifier)) = true := by
    simpa [Token.Kind.IsPart] using other
  change (if (decide (stream.current.kind = .integer) ||
      decide (stream.current.kind = .identifier)) = true then _ else _ : Parser _).run stream = _
  rw [if_neg numeric]

/-- Numbers are read from the tokens of parts with dots between them. -/
theorem dotted_of_run_segments {values : List String} (ended : stream.Ended)
    (ran : (segments (count + 1)).run stream = .ok (values, rest)) :
    ∃ tokens parts, stream = tokens ++ rest ∧ Dotted tokens parts ∧
      values = parts.map Token.value ∧ parts.length ≤ count + 1 ∧
      ∀ part ∈ parts, part.kind.IsPart := by
  induction count generalizing stream values with
  | zero =>
    by_cases part : stream.current.kind.IsPart
    · rw [run_segments_last part fun more => more.1 rfl] at ran
      cases ran
      exact ⟨[stream.current], [stream.current], ended.eq_cons part.inner, .one _, rfl, by simp,
        by simpa using part⟩
    · rw [run_segments_other part] at ran
      exact absurd ran (Parser.run_unexpected_ne_ok _ _ _)
  | succ count ih =>
    by_cases part : stream.current.kind.IsPart
    · by_cases more : Continues (count + 1) stream.advance
      · rw [run_segments_more part more] at ran
        obtain ⟨⟨later, last⟩, again, same⟩ := map_eq_ok_iff.1 ran
        cases same
        have shape := ended.eq_cons part.inner
        have behind : stream.advance.Ended := (ended.advance part.inner).1
        have dot : stream.advance.current.kind ≠ .endOfInput := by simp [more.2.1]
        obtain ⟨tokens, parts, left, dotted, rfl, few, each⟩ := ih (behind.advance dot).1 again
        refine ⟨stream.current :: stream.advance.current :: tokens, stream.current :: parts, ?_,
          .more _ more.2.1 dotted, rfl, Nat.succ_le_succ few, List.forall_mem_cons.2 ⟨part, each⟩⟩
        calc stream
          _ = [stream.current] ++ ([stream.advance.current] ++ stream.advance.advance) := by
            rw [← behind.eq_cons dot, ← shape]
          _ = [stream.current] ++ ([stream.advance.current] ++ (tokens ++ last)) := by
            rw [← left]
      · rw [run_segments_last part more] at ran
        cases ran
        exact ⟨[stream.current], [stream.current], ended.eq_cons part.inner, .one _, rfl, by simp,
          by simpa using part⟩
    · rw [run_segments_other part] at ran
      exact absurd ran (Parser.run_unexpected_ne_ok _ _ _)

/-- Numbers are read where parts with dots between them are in front, if no more follow. -/
theorem run_segments_dotted (dotted : Dotted tokens parts) (few : parts.length ≤ count + 1)
    (each : ∀ part ∈ parts, part.kind.IsPart) (ends : ¬ tail.Dangles) :
    (segments (count + 1)).run (tokens ++ tail) = .ok (parts.map Token.value, tail) := by
  induction dotted generalizing count with
  | one part =>
    have last : ¬ Continues count tail := fun more => ends ⟨more.2.1, more.2.2.number_or_word⟩
    exact run_segments_last (each part List.mem_cons_self) last
  | @more part dot tokens parts mark rest ih =>
    obtain ⟨isPart, others⟩ := List.forall_mem_cons.1 each
    obtain ⟨first, _, others', -, rfl⟩ := rest.exists_cons
    obtain ⟨count, rfl⟩ : ∃ less, count = less + 1 := by
      refine ⟨count - 1, ?_⟩
      simp only [List.length_cons] at few
      omega
    have next : (tokens ++ tail).current.kind.IsPart := others _ (rest.current_mem tail)
    have more : Continues (count + 1) (dot :: tokens ++ tail) :=
      ⟨Nat.succ_ne_zero _, mark, next⟩
    have later := ih (Nat.le_of_succ_le_succ few) others
    calc (segments (count + 1 + 1)).run (part :: dot :: tokens ++ tail)
      _ = ((segments (count + 1)).run (tokens ++ tail)).map
          fun found => (part.value :: found.1, found.2) := run_segments_more isPart more
      _ = .ok (part.value :: (first :: others').map Token.value, tail) := by
        rw [later]
        rfl

/-- Where a part is at hand, numbers are read. -/
theorem exists_run_segments (part : stream.current.kind.IsPart) :
    ∃ values rest, (segments (count + 1)).run stream =
      .ok (stream.current.value :: values, rest) := by
  induction count generalizing stream with
  | zero => exact ⟨[], _, run_segments_last part fun more => more.1 rfl⟩
  | succ count ih =>
    by_cases more : Continues (count + 1) stream.advance
    · have next : stream.advance.advance.current.kind.IsPart :=
        stream.advance.kind_current_advance ▸ more.2.2
      obtain ⟨values, rest, ran⟩ := ih next
      refine ⟨stream.advance.advance.current.value :: values, rest, ?_⟩
      rw [run_segments_more part more, ran]
      rfl
    · exact ⟨[], _, run_segments_last part more⟩

/-- A word at hand is complained of, or it is read and not reserved. -/
theorem run_segments_front (isWord : stream.current.kind.isWord = true) (count : Nat) :
    Refuses (segments (count + 1)) stream ∨ stream.current.kind = .identifier ∧
      ∃ values rest, (segments (count + 1)).run stream =
        .ok (stream.current.value :: values, rest) := by
  by_cases part : stream.current.kind.IsPart
  · refine .inr ⟨?_, exists_run_segments part⟩
    rcases part with number | name
    · rw [number] at isWord
      contradiction
    · exact name
  · obtain ⟨fault, ran, grammar⟩ := Parser.refuses_unexpected (α := List String)
      "version number" (Parser.kind_ne_of_isWord isWord).2
    exact .inl ⟨fault, (run_segments_other part).trans ran, grammar⟩

/-- Where one of the parts in front is a word, either it is complained of, or it is read and not a
reserved word, or some are left. -/
theorem run_segments_word (dotted : Dotted tokens parts)
    (each : ∀ part ∈ parts, part.kind = .integer ∨ part.kind.isWord = true)
    (word : ∃ part ∈ parts, part.kind.isWord = true) (count : Nat) :
    Refuses (segments (count + 1)) (tokens ++ tail) ∨
      ∃ values rest, (segments (count + 1)).run (tokens ++ tail) = .ok (values, rest) ∧
        ((∃ part ∈ parts, part.kind = .identifier ∧ part.value ∈ values) ∨ rest.Dangles) := by
  induction dotted generalizing count with
  | one part =>
    obtain ⟨found, member, isWord⟩ := word
    obtain rfl := List.mem_singleton.1 member
    have isWord : ([found] ++ tail).current.kind.isWord = true := isWord
    obtain refuses | ⟨name, values, rest, ran⟩ := run_segments_front isWord count
    · exact .inl refuses
    · exact .inr ⟨_, rest, ran, .inl ⟨found, List.mem_cons_self, name, List.mem_cons_self⟩⟩
  | @more part dot tokens parts mark rest ih =>
    obtain ⟨sort, others⟩ := List.forall_mem_cons.1 each
    rcases sort with number | isWord
    · -- The word is behind the number.
      have later : ∃ part ∈ parts, part.kind.isWord = true := by
        obtain ⟨found, member, isWord⟩ := word
        rcases List.mem_cons.1 member with rfl | member
        · rw [number] at isWord
          contradiction
        · exact ⟨found, member, isWord⟩
      have isPart : (part :: dot :: tokens ++ tail).current.kind.IsPart := .inl number
      have next := others _ (rest.current_mem tail)
      by_cases more : Continues count (dot :: tokens ++ tail)
      · obtain ⟨count, rfl⟩ := Nat.exists_eq_add_one_of_ne_zero more.1
        have whole : (segments (count + 1 + 1)).run (part :: dot :: tokens ++ tail) =
            ((segments (count + 1)).run (tokens ++ tail)).map
              fun found => (part.value :: found.1, found.2) := run_segments_more isPart more
        rcases ih others later count with ⟨fault, ran, grammar⟩ | ⟨values, left, ran, found⟩
        · refine .inl ⟨fault, ?_, grammar⟩
          rw [whole, ran]
          rfl
        · refine .inr ⟨part.value :: values, left, ?_, found.imp_left ?_⟩
          · rw [whole, ran]
            rfl
          · rintro ⟨word, member, name, read⟩
            exact ⟨word, List.mem_cons_of_mem _ member, name, List.mem_cons_of_mem _ read⟩
      · exact .inr ⟨_, _, run_segments_last isPart more, .inr ⟨mark, next⟩⟩
    · have isWord : (part :: dot :: tokens ++ tail).current.kind.isWord = true := isWord
      obtain refuses | ⟨name, values, left, ran⟩ := run_segments_front isWord count
      · exact .inl refuses
      · exact .inr ⟨_, left, ran, .inl ⟨part, List.mem_cons_self, name, List.mem_cons_self⟩⟩

/-- What is taken where a version may stand spells the version, or there is none. -/
theorem spelled_of_run_optional {version : Option Version} (tidy : stream.Tidy)
    (ran : optional.run stream = .ok (version, rest)) :
    ∃ written, stream = written ++ rest ∧ Spelled written version := by
  obtain ⟨present, middle, accepted, onward⟩ := exists_of_run_bind ran
  rcases of_run_accept_mark accepted tidy.ended with ⟨rfl, sign, kind, rfl⟩ | ⟨rfl, -, rfl⟩
  · obtain ⟨found, last, parsed, returned⟩ := exists_of_run_bind onward
    cases returned
    have tidy : middle.Tidy := tidy.of_append
    obtain ⟨values, behind, read, checked⟩ := exists_of_run_bind (Parser.of_run_current parsed)
    obtain ⟨tokens, parts, rfl, dotted, rfl, few, each⟩ := dotted_of_run_segments tidy.ended read
    have tidyParts : ∀ part ∈ parts, part.Tidy := fun part member =>
      tidy.of_mem (dotted.mem part member)
    split at checked
    case h_2 => contradiction
    case h_1 spelled =>
      cases checked
      have shapes : ∀ value ∈ parts.map Token.value, Token.IsSegment value.toList := by
        intro value member
        obtain ⟨part, listed, rfl⟩ := List.mem_map.1 member
        exact (tidyParts part listed).segment (each part listed)
      obtain ⟨numbers, numerals, rfl⟩ :=
        numerals_of_ofSegments (by simpa using few) shapes spelled
      have both := (List.forall₂_and_left parts numbers).2
        ⟨fun part member => And.intro (tidyParts part member) (each part member),
          List.forall₂_map_left_iff.1 numerals⟩
      have numbered : List.Forall₂ IsNumber parts numbers := by
        refine both.imp fun part number ⟨⟨tidy, sort⟩, numeral⟩ => ⟨?_, numeral⟩
        exact sort.resolve_right fun name => not_numeral tidy name numeral
      exact ⟨sign :: tokens, rfl, .present kind dotted few numbered⟩
  · cases onward
    exact ⟨[], rfl, .absent⟩

/-- Without an at sign there is no version. -/
theorem run_optional_absent (other : stream.current.kind ≠ .mark .atSign) :
    optional.run stream = .ok (none, stream) := by
  rw [optional, StateT.run_bind, Parser.run_accept_other other]
  rfl

/-- An at sign calls for a version, which its parts spell. -/
theorem run_optional_present {sign : Token} (kind : sign.kind = .mark .atSign)
    (tail : TokenStream) :
    optional.run ([sign] ++ tail) = (segments 3 >>= fun segments =>
      match ofSegments segments with
      | .ok version => pure (some version)
      | .error fault =>
        Parser.refuse tail.current.start (.badVersion (".".intercalate segments) fault)).run
        tail := by
  have taken : (Parser.accept (.mark .atSign)).run ([sign] ++ tail) = .ok (true, tail) :=
    Parser.run_accept kind
  rw [optional, StateT.run_bind, taken]
  change ((segments 3 >>= fun segments =>
    match ofSegments segments with
    | .ok version => pure version
    | .error fault => Parser.refuse tail.current.start
        (.badVersion (".".intercalate segments) fault)) >>= fun version =>
    (pure (some version) : Parser (Option Version))).run tail = _
  rw [bind_assoc]
  refine congrArg (StateT.run · tail) (congrArg _ (funext fun segments => ?_))
  split
  · rfl
  · rfl

/-- A version is taken where it is spelled and no more numbers follow. -/
theorem run_optional_spelled {written : List Token} {version : Option Version}
    (spelled : Spelled written version) (follows : tail.FollowsVersion) :
    optional.run (written ++ tail) = .ok (version, tail) := by
  cases spelled with
  | absent => exact run_optional_absent (follows.kind_ne (by decide) (by decide))
  | @present sign tokens parts numbers kind dotted few each =>
    obtain ⟨isPart, numerals⟩ := (List.forall₂_and_left parts numbers).1 <|
      each.imp fun part number found => (⟨.inl found.kind, found.numeral⟩ :
        part.kind.IsPart ∧ Numeral part.value.toList number)
    have read := run_segments_dotted dotted few isPart follows.not_dangles
    have joined : ofSegments (parts.map Token.value) = .ok (ofNumbers numbers) :=
      ofSegments_of_numerals (List.forall₂_map_left_iff.2 numerals) (by simpa using few)
    have whole := run_optional_present kind (tokens ++ tail)
    rw [StateT.run_bind, read] at whole
    refine whole.trans ?_
    change StateT.run (match ofSegments (parts.map Token.value) with
      | .ok version => pure (some version)
      | .error fault => _) tail = _
    rw [joined]
    rfl

/-- Where one of the parts in front is a word, either there is a fault, or some are left. -/
theorem run_optional_misspelled {written : List Token} (misspelled : Misspelled written)
    (tidy : (written ++ tail).Tidy) :
    Refuses optional (written ++ tail) ∨
      ∃ version rest, optional.run (written ++ tail) = .ok (version, rest) ∧ rest.Dangles := by
  obtain @⟨sign, tokens, parts, kind, dotted, each, word⟩ := misspelled
  have whole := run_optional_present kind (tokens ++ tail)
  have tidyParts : ∀ part ∈ parts, part.Tidy := fun part member =>
    tidy.of_mem (List.mem_cons_of_mem _ (dotted.mem part member))
  have tidy : ([sign] ++ (tokens ++ tail)).Tidy := tidy
  rcases run_segments_word dotted each word 2 with refuses | ⟨values, rest, read, found⟩
  · obtain ⟨fault, ran, grammar⟩ := refuses.bind
    exact .inl ⟨fault, whole.trans ran, grammar⟩
  · rw [StateT.run_bind, read] at whole
    change _ = StateT.run (match ofSegments values with
      | .ok version => pure (some version)
      | .error fault => _) rest at whole
    obtain ⟨few, shapes⟩ := ((yields_segments 3) _ tidy.of_append values rest read).1
    cases joined : ofSegments values with
    | error fault =>
      rw [joined] at whole
      exact .inl ⟨_, whole, rfl⟩
    | ok version =>
      rw [joined] at whole
      rcases found with ⟨part, member, name, listed⟩ | dangles
      · -- No version has a word among its numbers.
        obtain ⟨numbers, numerals, -⟩ := numerals_of_ofSegments few shapes joined
        obtain ⟨others, -⟩ := (List.forall₂_and_left values numbers).1 <|
          numerals.imp fun value number numeral => show value ≠ part.value ∧ True by
            refine ⟨?_, trivial⟩
            rintro rfl
            exact not_numeral (tidyParts part member) name numeral
        exact absurd rfl (others part.value listed)
      · exact .inr ⟨some version, rest, whole, dangles⟩

end Version

end WitBridge
