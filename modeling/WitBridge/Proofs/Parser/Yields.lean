import WitBridge.Parser
import WitBridge.Proofs.Token.Tidy
import WitBridge.Proofs.Type.Reading

/-!
# What a parser yields

A parser yields a property if on every tidy stream the value that it returns has the property and
the stream that it leaves is tidy. The property of the whole follows from those of the steps: a
name without an escape is no reserved word unless every word may be a name there, and
documentation is tidy. Where a parser stops it returns nothing, so there is nothing to show.
-/
namespace WitBridge

/-- Whether all lines of documentation are as the tokens of a text keep them. -/
def Documentation.Tidy (docs : Documentation) : Prop :=
  ∀ line ∈ docs.lines, Token.IsDocLine line

namespace Parser

variable {α β : Type} {parser : Parser α} {next : α → Parser β} {property weaker : α → Prop}
  {goal : β → Prop} {stream : TokenStream}

/-- On a stream, the value returned has the property and what is left is tidy. -/
def YieldsAt (stream : TokenStream) (parser : Parser α) (property : α → Prop) : Prop :=
  ∀ value rest, parser.run stream = .ok (value, rest) → property value ∧ rest.Tidy

/-- On every tidy stream, the value returned has the property and what is left is tidy. -/
def Yields (parser : Parser α) (property : α → Prop) : Prop :=
  ∀ stream : TokenStream, stream.Tidy → YieldsAt stream parser property

/-- A step on a stream and the steps after it. -/
theorem YieldsAt.bind (first : YieldsAt stream parser property)
    (second : ∀ value, property value → Yields (next value) goal) :
    YieldsAt stream (parser >>= next) goal := by
  intro found last ran
  rw [StateT.run_bind] at ran
  cases step : parser.run stream with
  | error fault => rw [step] at ran; contradiction
  | ok pair =>
    obtain ⟨value, rest⟩ := pair
    obtain ⟨holds, tidy⟩ := first value rest step
    rw [step] at ran
    exact second value holds rest tidy found last ran

/-- A step and the steps after it. -/
theorem Yields.bind (first : Yields parser property)
    (second : ∀ value, property value → Yields (next value) goal) :
    Yields (parser >>= next) goal :=
  fun stream tidy => (first stream tidy).bind second

/-- On a stream, a parser yields what follows from what it yields. -/
theorem YieldsAt.mono (yields : YieldsAt stream parser property)
    (follows : ∀ value, property value → weaker value) : YieldsAt stream parser weaker := by
  intro value rest ran
  obtain ⟨holds, left⟩ := yields value rest ran
  exact ⟨follows value holds, left⟩

/-- A parser yields what follows from what it yields. -/
theorem Yields.mono (yields : Yields parser property)
    (follows : ∀ value, property value → weaker value) : Yields parser weaker :=
  fun stream tidy => (yields stream tidy).mono follows

/-- What is yielded on every stream is yielded on a tidy one. -/
theorem Yields.at (yields : Yields parser property) (tidy : stream.Tidy) :
    YieldsAt stream parser property :=
  yields stream tidy

/-- A value with the property is yielded. -/
theorem yields_pure {value : α} (holds : property value) : Yields (pure value) property := by
  rintro stream tidy found rest ⟨⟩
  exact ⟨holds, tidy⟩

/-- A parser that refuses yields anything. -/
theorem yields_refuse (position : Position) (cause : SourceFault.Cause) :
    Yields (refuse position cause) property :=
  fun _ _ _ _ ran => absurd ran nofun

/-- A parser that stops yields anything. -/
theorem yields_unexpected (expected : String) : Yields (unexpected expected) property := by
  rintro stream - value rest ran
  exact absurd ran (run_unexpected_ne_ok _ _ _)

/-- What follows the token at hand may use what the token says. -/
theorem yields_current {step : Token → Parser β}
    (each : ∀ stream : TokenStream, stream.Tidy → YieldsAt stream (step stream.current) goal) :
    Yields (current >>= step) goal :=
  fun stream tidy value rest ran => each stream tidy value rest ran

/-- What follows the token at hand on a stream. -/
theorem yieldsAt_current {step : Token → Parser β}
    (each : YieldsAt stream (step stream.current) goal) :
    YieldsAt stream (current >>= step) goal :=
  each

/-- What follows a look at the stream. -/
theorem yields_get {step : TokenStream → Parser β}
    (each : ∀ stream : TokenStream, Yields (step stream) goal) : Yields (get >>= step) goal :=
  fun stream tidy value rest ran => each stream stream tidy value rest ran

/-- A look at the kind at hand. -/
theorem yields_check (kind : Token.Kind) : Yields (check kind) fun _ => True := by
  rintro stream tidy value rest ⟨⟩
  exact ⟨trivial, tidy⟩

/-- The documentation at hand is tidy. -/
theorem yields_docs : Yields Parser.docs Documentation.Tidy := by
  rintro stream tidy value rest ⟨⟩
  exact ⟨tidy.current.docs, tidy⟩

/-- The token at hand is taken. -/
theorem yields_advance : Yields advance fun _ => True := by
  rintro stream tidy value rest ⟨⟩
  exact ⟨trivial, tidy.advance⟩

/-- A value may be left unused. -/
theorem Yields.discard (yields : Yields parser property) : Yields (discard parser) fun _ => True :=
  show Yields (parser >>= fun _ => pure ()) _ from yields.bind fun _ _ => yields_pure trivial

/-- A token that is asked for is taken. -/
theorem yields_expect (kind : Token.Kind) : Yields (discard (expect kind)) fun _ => True := by
  have taken : Yields (expect kind) fun _ => True := by
    apply (yields_check kind).bind
    intro same _
    split
    · exact yields_advance
    · exact yields_unexpected _
  exact taken.discard

/-- A mark is taken. -/
theorem yields_mark (m : Token.Mark) : Yields (mark m) fun _ => True := yields_expect _

/-- A keyword is taken. -/
theorem yields_keyword (k : Token.Keyword) : Yields (keyword k) fun _ => True := yields_expect _

/-- A token is taken if it is of the kind that is accepted. -/
theorem yields_accept (kind : Token.Kind) : Yields (accept kind) fun _ => True := by
  apply (yields_check kind).bind
  intro same _
  split
  · exact yields_advance.discard.bind fun _ _ => yields_pure trivial
  · exact yields_pure trivial

/-- A name without an escape is no reserved word unless any word may be the name. -/
theorem yields_identifier (what : String) (anyWord : Bool) :
    Yields (identifier what anyWord) fun name => anyWord = false → name.settled = name := by
  refine (yields_accept _).bind fun escaped _ => yields_current fun stream tidy => ?_
  refine Yields.at ?_ tidy
  split
  · next allowed =>
    split
    · next bare read =>
      refine yields_advance.discard.bind fun _ _ => yields_pure fun strict => ?_
      have text := KebabName.text_of_ofText read
      subst strict
      have unreserved : (escaped || Token.Kind.isReserved bare.text) = escaped := by
        cases escaped with
        | true => rfl
        | false =>
          have kind : stream.current.kind = .identifier := by simpa using allowed
          have word := tidy.current.word (by rw [kind]; rfl)
          simp [Token.Kind.isReserved, text, ← word, kind]
      rw [Identifier.settled, unreserved]
    · exact yields_refuse _ _
  · exact yields_unexpected _

/-- A word is a name of the kind of the token. -/
theorem yieldsAt_word (what : String) (role : NameRole) (tidy : stream.Tidy) :
    YieldsAt stream (word what role) fun name =>
      Token.Kind.ofWord name.text = stream.current.kind := by
  refine yieldsAt_current ?_
  refine Yields.at ?_ tidy
  split
  · next isWord =>
    split
    · next name read =>
      apply yields_advance.discard.bind
      intro _ _
      apply yields_pure
      rw [KebabName.text_of_ofText read]
      exact (tidy.current.word isWord).symm
    · exact yields_refuse _ _
  · exact yields_unexpected _

/-- A word is taken. -/
theorem yields_word (what : String) (role : NameRole) : Yields (word what role) fun _ => True :=
  fun _ tidy => (yieldsAt_word what role tidy).mono fun _ _ => trivial

section Lists

variable {item : Parser α} (close : Token.Kind) (each : Yields item property)
include each

/-- Every item up to a closing token has the property of an item, with any fuel. -/
theorem yields_itemsWithin (fuel : Nat) :
    Yields (itemsWithin close item fuel) fun items => ∀ value ∈ items, property value := by
  induction fuel with
  | zero => exact yields_unexpected _
  | succ fuel ih =>
    apply (yields_check close).bind
    intro closed _
    split
    · exact yields_pure nofun
    · apply each.bind
      intro first holds
      apply ih.bind
      intro rest all
      apply yields_pure
      exact List.forall_mem_cons.2 ⟨holds, all⟩

/-- Every item up to a closing token has the property of an item. -/
theorem yields_itemsUntil :
    Yields (itemsUntil close item) fun items => ∀ value ∈ items, property value :=
  fun stream tidy => yields_itemsWithin close each _ stream tidy

/-- Every item of a list with commas has the property of an item, with any fuel. -/
theorem yields_commaItemsWithin (fuel : Nat) :
    Yields (commaItemsWithin close item fuel) fun items => ∀ value ∈ items, property value := by
  induction fuel with
  | zero => exact yields_unexpected _
  | succ fuel ih =>
    apply (yields_check close).bind
    intro closed _
    split
    · exact yields_pure nofun
    · apply each.bind
      intro first holds
      apply (yields_accept _).bind
      intro more _
      split
      · apply ih.bind
        intro rest all
        apply yields_pure
        exact List.forall_mem_cons.2 ⟨holds, all⟩
      · exact yields_pure (by simpa using holds)

/-- Every item of a list with commas has the property of an item. -/
theorem yields_commaItems :
    Yields (commaItems close item) fun items => ∀ value ∈ items, property value :=
  fun stream tidy => yields_commaItemsWithin close each _ stream tidy

omit each in
/-- Every item in braces has the property of an item. -/
theorem yields_bracedItems (each : Yields item property) :
    Yields (bracedItems item) fun items => ∀ value ∈ items, property value := by
  apply (yields_mark _).bind
  intro _ _
  apply (yields_commaItems _ each).bind
  intro items all
  exact (yields_mark _).bind fun _ _ => yields_pure all

end Lists

end Parser

end WitBridge
