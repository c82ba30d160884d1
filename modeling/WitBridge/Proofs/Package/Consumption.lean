import WitBridge.Proofs.Package.Pairing
import WitBridge.Proofs.Parser.Mirroring

/-!
# What reading a package consumes

Every repetition of the grammar runs as its loop without a bound, so each pass of it stops at a
fault or takes a token. A text that is a document is consumed in full: what is left is the end of
the input, every token before it has been taken once, and each of them is valid.
-/
namespace WitBridge

open WitBridge.Parser (Loop untilLoop commaLoop AccountsAt)

variable {stream : TokenStream}

/-- The repetitions of the grammar on a stream: each runs as its loop without a bound, in which a
pass stops at a fault or takes a token. -/
structure TokenStream.Loops (stream : TokenStream) : Prop where
  /-- The items of a document. -/
  document : (untilLoop .endOfInput PackageItem.parser).Runs () stream
    ((Parser.itemsUntil .endOfInput PackageItem.parser).run stream)
  /-- The names in the path of a package. -/
  packagePath : PackageHeader.segmentLoop.Runs () stream
    ((PackageHeader.segments (stream.ahead.length + 1)).run stream)
  /-- The body of an interface. -/
  interface : (untilLoop (.mark .rightBrace) InterfaceItem.parser).Runs () stream
    ((Parser.itemsUntil (.mark .rightBrace) InterfaceItem.parser).run stream)
  /-- The body of a resource. -/
  resource (name : Identifier) : (ResourceMember.memberLoop name).Runs false stream
    ((ResourceMember.listWithin name (stream.ahead.length + 1) false).run stream)
  /-- The body of a world. -/
  world : (untilLoop (.mark .rightBrace) WorldMember.parser).Runs () stream
    ((Parser.itemsUntil (.mark .rightBrace) WorldMember.parser).run stream)
  /-- The fields of a record. -/
  fields : (commaLoop (.mark .rightBrace) Field.parser).Runs () stream
    ((Parser.commaItems (.mark .rightBrace) Field.parser).run stream)
  /-- The cases of a variant. -/
  cases : (commaLoop (.mark .rightBrace) Case.parser).Runs () stream
    ((Parser.commaItems (.mark .rightBrace) Case.parser).run stream)
  /-- The names of an enumeration or of flags. -/
  names (what : String) : (commaLoop (.mark .rightBrace) (Parser.identifier what)).Runs () stream
    ((Parser.commaItems (.mark .rightBrace) (Parser.identifier what)).run stream)
  /-- The items of a use. -/
  uses : (commaLoop (.mark .rightBrace) UseItem.parser).Runs () stream
    ((Parser.commaItems (.mark .rightBrace) UseItem.parser).run stream)
  /-- The parameters of a function. -/
  parameters : (commaLoop (.mark .rightParen) Parameter.parser).Runs () stream
    ((Parser.commaItems (.mark .rightParen) Parameter.parser).run stream)
  /-- The elements of a tuple, with any fuel that may be left for a type. -/
  tuple (fuel : Nat) (enough : stream.ahead.length < fuel) :
    (commaLoop (.mark .rightAngle) TypeExpr.parser).Runs () stream
      ((Parser.commaItems (.mark .rightAngle) (TypeExpr.parseWithin fuel)).run stream)
  /-- The numbers of a version. -/
  version : Version.segmentLoop.Runs 3 stream ((Version.segments 3).run stream)
  /-- An include, which is passed over. -/
  included : skipLoop.Runs () stream ((skipStatement (stream.ahead.length + 1)).run stream)

/-- The names of a package run as their loop. -/
theorem PackageHeader.runs_segments (ended : stream.Ended) :
    segmentLoop.Runs () stream ((segments (stream.ahead.length + 1)).run stream) := by
  rw [segments_eq]
  exact Loop.runs_within accounts_pass ended (Nat.lt_succ_self _) ()

/-- The members of a resource run as their loop. -/
theorem ResourceMember.runs_listWithin (name : Identifier) (ended : stream.Ended) :
    (memberLoop name).Runs false stream
      ((listWithin name (stream.ahead.length + 1) false).run stream) := by
  rw [listWithin_eq]
  exact Loop.runs_within (accounts_pass name) ended (Nat.lt_succ_self _) false

/-- The elements of a tuple are read as types are, with more fuel than there are tokens. -/
theorem TypeExpr.run_commaItems_parseWithin {fuel : Nat} (close : Token.Kind)
    (ended : stream.Ended) (enough : stream.ahead.length < fuel) :
    (Parser.commaItems close (parseWithin fuel)).run stream =
      (Parser.commaItems close TypeExpr.parser).run stream := by
  have given (pairing : Pairing) :
      Parser.InStep pairing fuel (parseWithin fuel) TypeExpr.parser := by
    intro stream ended few
    refine ⟨(accounts_parseWithin fuel).shrinks ended, fun other pair => ?_⟩
    have length := pairing.length_le pair
    have within : Parser.InStep pairing (stream.ahead.length + 1) (parseWithin fuel)
        (parseWithin (other.ahead.length + 1)) := inStep_parseWithin few (by omega)
    exact (within stream ended (Nat.lt_succ_self _)).follows other pair
  have first := Parser.mirrored_of_inStep fun pairing =>
    Parser.inStep_commaItems close (accounts_parseWithin fuel) (given pairing)
  have second : Parser.Mirrored fuel (Parser.commaItems close TypeExpr.parser) _ :=
    Parser.mirrored_of_inStep fun _ => Parser.inStep_commaItems close parser_accounts parser_inStep
  exact first.run_eq second ended enough

/-- The elements of a tuple run as their loop, with more fuel for a type than there are tokens. -/
theorem TypeExpr.runs_commaItems (ended : stream.Ended) {fuel : Nat}
    (enough : stream.ahead.length < fuel) :
    (commaLoop (.mark .rightAngle) TypeExpr.parser).Runs () stream
      ((Parser.commaItems (.mark .rightAngle) (parseWithin fuel)).run stream) := by
  rw [run_commaItems_parseWithin _ ended enough]
  exact Parser.runs_commaItems parser_accounts ended

/-- The numbers of a version run as their loop. -/
theorem Version.runs_segments (ended : stream.Ended) (count : Nat) :
    segmentLoop.Runs count stream ((segments count).run stream) := by
  have read : segments count =
      segmentLoop.within (pure []) (stream.ahead.length + count + 1) count :=
    segments_eq (by omega)
  rw [read]
  exact Loop.runs_within accounts_pass ended (by omega) count

/-- A statement is passed over as its loop. -/
theorem runs_skipStatement (ended : stream.Ended) :
    skipLoop.Runs () stream ((skipStatement (stream.ahead.length + 1)).run stream) := by
  rw [skipStatement_eq]
  exact Loop.runs_within accounts_skipLoop_pass ended (Nat.lt_succ_self _) ()

/-- The repetitions of the grammar end on every stream that ends. -/
theorem TokenStream.Ended.loops (ended : stream.Ended) : stream.Loops where
  document := Parser.runs_itemsUntil PackageItem.parser_accounts ended
  packagePath := PackageHeader.runs_segments ended
  interface := Parser.runs_itemsUntil InterfaceItem.parser_accounts ended
  resource name := ResourceMember.runs_listWithin name ended
  world := Parser.runs_itemsUntil WorldMember.parser_accounts ended
  fields := Parser.runs_commaItems Field.parser_accounts ended
  cases := Parser.runs_commaItems Case.parser_accounts ended
  names what := Parser.runs_commaItems (Parser.accounts_identifier what false) ended
  uses := Parser.runs_commaItems UseItem.parser_accounts ended
  parameters := Parser.runs_commaItems Parameter.parser_accounts ended
  tuple _ enough := TypeExpr.runs_commaItems ended enough
  version := Version.runs_segments ended 3
  included := runs_skipStatement ended

/-- Where the items of a document are read, the end of the input is at hand. -/
theorem Package.kind_of_run_items {header : Option PackageHeader} {package : Package}
    {rest : TokenStream} (ended : stream.Ended)
    (ran : StateT.run (do
      let items ← Parser.itemsUntil .endOfInput PackageItem.parser
      return (⟨header, items.filterMap (·.interface?), items.filterMap (·.world?),
        items.filterMap (·.use?)⟩ : Package)) stream = .ok (package, rest)) :
    rest.current.kind = .endOfInput := by
  obtain ⟨items, last, read, returned⟩ := Parser.exists_of_run_bind ran
  cases returned
  have runs := ended.loops.document
  rw [read] at runs
  exact Parser.kind_of_runs_untilLoop runs

/-- Where a document is read, the end of the input is at hand. -/
theorem Package.kind_of_run {package : Package} {rest : TokenStream} (ended : stream.Ended)
    (ran : parser.run stream = .ok (package, rest)) : rest.current.kind = .endOfInput := by
  obtain ⟨present, middle, checked, onward⟩ := Parser.exists_of_run_bind ran
  obtain ⟨-, rfl⟩ := Parser.of_run_check checked
  cases present with
  | true =>
    obtain ⟨header, behind, opened, later⟩ := Parser.exists_of_run_bind onward
    have opens : AccountsAt true [] middle PackageHeader.parser :=
      PackageHeader.parser_accounts middle ended
    obtain ⟨taken, rfl, -⟩ := opens.taken opened
    have still : behind.Ended := ended
    exact kind_of_run_items still later
  | false => exact kind_of_run_items ended onward

/-- A document that is read is read to the end of the input, over valid tokens. -/
theorem Package.run_of_parse {source : String} {package : Package}
    (parsed : parse source = .ok package) :
    parser.run (.ofSource source) = .ok (package, ⟨[], (TokenStream.ofSource source).final⟩) ∧
      ∀ token ∈ (TokenStream.ofSource source).ahead, token.kind ≠ .invalid := by
  have ended := TokenStream.ended_ofSource source
  obtain ⟨⟨value, rest⟩, ran, rfl⟩ := map_eq_ok_iff.1 parsed
  have accounts : AccountsAt false [] (TokenStream.ofSource source) parser :=
    parser_accounts _ ended
  obtain ⟨taken, shape, valid, -⟩ := accounts.taken ran
  have last : rest.current.kind = .endOfInput := kind_of_run ended ran
  have ahead : (TokenStream.ofSource source).ahead = taken ++ rest.ahead :=
    congrArg TokenStream.ahead shape
  -- A token ahead of what is left would be one of the source, and none is the end of the input.
  have empty : rest.ahead = [] := by
    obtain ⟨_ | ⟨first, more⟩, final⟩ := rest
    · rfl
    · have member : first ∈ (TokenStream.ofSource source).ahead := by
        rw [ahead]
        exact List.mem_append_right taken List.mem_cons_self
      exact absurd last (Token.kind_ne_of_mem_placed source.toList .start first member)
  have stop : rest = ⟨[], (TokenStream.ofSource source).final⟩ :=
    congr (congrArg TokenStream.mk empty) (congrArg TokenStream.final shape).symm
  rw [empty, List.append_nil] at ahead
  exact ⟨ran.trans (congrArg (fun rest => Except.ok (value, rest)) stop), ahead ▸ valid⟩

/-- A document is read alike where something is behind the end of the input. -/
theorem Package.parser_mirrored {bound : Nat} :
    Parser.Mirrored bound Package.parser Package.parser :=
  Parser.mirrored_of_inStep fun _ => parser_inStep

/-- Reading a text ends, and nothing of it is passed over. The end of the input stands behind all
other tokens; wherever reading has come to, each pass of each repetition of the grammar stops at a
fault or takes a token; and reading does the same where something is behind the end of the input,
which stays there. A text that is a document is read up to that end, and all its tokens are valid,
so a text with an invalid token is refused. -/
theorem consumed_parse (source : String) :
    ((TokenStream.ofSource source).final.kind = .endOfInput ∧
      ∀ token ∈ (TokenStream.ofSource source).ahead, token.kind ≠ .endOfInput) ∧
    (∀ (taken : List Token) (rest : TokenStream),
      TokenStream.ofSource source = taken ++ rest → rest.Loops) ∧
    (∀ beyond : Token, beyond.kind = .endOfInput →
      Package.parser.run ((TokenStream.ofSource source).extended beyond) =
        (Package.parser.run (.ofSource source)).map
          fun found => (found.1, found.2.extended beyond)) ∧
    (∀ package, Package.parse source = .ok package →
      Package.parser.run (.ofSource source) =
          .ok (package, ⟨[], (TokenStream.ofSource source).final⟩) ∧
        ∀ token ∈ (TokenStream.ofSource source).ahead, token.kind ≠ .invalid) ∧
    ((∃ token ∈ (TokenStream.ofSource source).ahead, token.kind = .invalid) →
      ∃ fault, Package.parse source = .error fault) := by
  have ended : (TokenStream.ofSource source).Ended := TokenStream.ended_ofSource source
  refine ⟨⟨ended, Token.kind_ne_of_mem_placed source.toList .start⟩, ?_, ?_, ?_, ?_⟩
  · intro taken rest shape
    have last : rest.Ended := (congrArg (Token.kind ∘ TokenStream.final) shape).symm.trans ended
    exact last.loops
  · intro beyond last
    exact (Package.parser_mirrored _ ended (Nat.lt_succ_self _) beyond last).eq_map
  · exact fun package parsed => Package.run_of_parse parsed
  · rintro ⟨token, member, invalid⟩
    cases parsed : Package.parse source with
    | error fault => exact ⟨fault, rfl⟩
    | ok package => exact absurd invalid ((Package.run_of_parse parsed).2 token member)

end WitBridge
