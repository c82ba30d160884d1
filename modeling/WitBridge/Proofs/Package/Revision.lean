import WitBridge.Proofs.Package.Blindness
import WitBridge.Proofs.Package.Consumption
import WitBridge.Proofs.Package.Slots

/-!
# Versions of a document

Every version of a document that is read is spelled by tokens in one place of the text, and the
text with other tokens there is read with the version that these spell, or refused where one of the
numbers is a word. The walk to that place follows the grammar: each production that may hold a
version leads to the one step that reads it, and behind it stands a semicolon, a new name, or a list
of names, so no dot of such a list is taken for a dot of the version.
-/
namespace WitBridge

open WitBridge.Version (Spelled Misspelled)
open WitBridge.Parser (Refuses RevisesAt Concludes Settles mark keyword word accept
  exists_of_run_bind of_run_accept of_run_accept_mark exists_of_run_mark of_run_docs of_run_current
  of_run_get returns_bind returns_pure accounts_mark accounts_keyword accounts_word
  accounts_identifier accounts_accept_mark inStep_mark inStep_keyword inStep_word
  inStep_identifier inStep_accept_mark settles_mark settles_identifier settles_word refuses_mark
  run_accept run_accept_other run_closed revisesAt_optional revisesAt_itemsUntil)

variable {β γ : Type} {stream left : TokenStream} {version : Option Version}

/-- Behind a version a semicolon may stand. -/
theorem Parser.concludes_semicolon : Concludes (mark .semicolon) where
  follows ran ended := by
    obtain ⟨token, kind, rfl⟩ := exists_of_run_mark ran ended
    exact .semicolon kind
  refuses dangles := refuses_mark (by simp [dangles.1]) (by simp [dangles.1])

/-- What stands behind the path of a use: names in braces, or a new name. -/
def Use.conclusion : Parser (List UseItem × Option Identifier) := do
  if ← accept (.mark .dot) then
    let items ← Parser.bracedItems UseItem.parser
    mark .semicolon
    return (items, none)
  else
    let renamed ← parseRenamed
    mark .semicolon
    return ([], renamed)

/-- A use is a path and what stands behind it. -/
theorem Use.parser_eq : Use.parser = (do
    keyword .use
    let path ← UsePath.parser
    let found ← conclusion
    return ⟨path, found.1, found.2⟩) := by
  simp only [Use.parser, conclusion, bind_assoc]
  refine congrArg _ (funext fun _ => congrArg _ (funext fun path => ?_))
  refine congrArg _ (funext fun dot => ?_)
  split <;> simp

/-- Behind a version in a use stands a list of names, a new name or a semicolon. -/
theorem Use.concludes_conclusion : Concludes conclusion where
  follows {stream _ _} ran ended := by
    obtain ⟨dot, middle, accepted, onward⟩ := exists_of_run_bind ran
    rcases of_run_accept_mark accepted ended with ⟨rfl, token, kind, rfl⟩ | ⟨rfl, -, rfl⟩
    · obtain ⟨items, last, listed, -⟩ := exists_of_run_bind onward
      obtain ⟨_, _, opened, -⟩ := exists_of_run_bind listed
      obtain ⟨brace, same, rfl⟩ := exists_of_run_mark opened ended
      exact .items kind same
    · obtain ⟨renamed, last, named, closing⟩ := exists_of_run_bind onward
      obtain ⟨present, behind, found, returned⟩ := exists_of_run_bind named
      rcases of_run_accept found ended nofun with ⟨rfl, token, kind, rfl⟩ | ⟨rfl, -, rfl⟩
      · exact .renamed kind
      · cases returned
        obtain ⟨_, _, closed, -⟩ := exists_of_run_bind closing
        exact Parser.concludes_semicolon.follows closed ended
  refuses {stream} dangles := by
    have next : stream.advance.current.kind = .integer ∨
        stream.advance.current.kind.isWord = true :=
      stream.kind_current_advance ▸ dangles.2
    refine Refuses.after (run_accept dangles.1) (Refuses.bind (Refuses.bind (refuses_mark ?_ ?_)))
    · intro same
      simp [same, Token.Kind.isWord] at next
    · intro same
      simp [same, Token.Kind.isWord] at next

/-- The version in the rest of a path of another package. -/
theorem UsePath.revisesAt_parseExternal {closing : Parser γ} {make : UsePath → γ → β}
    {put : Option Version → β} (concludes : Concludes closing) (vendor : KebabName)
    (tidy : stream.Tidy)
    (ran : (parseExternal vendor >>= fun path => closing >>= fun value =>
      pure (make path value)).run stream = .ok (put version, left))
    (same : ∀ package interface found value,
      make (.external vendor package interface found) value = put version →
        found = version ∧
          ∀ other, make (.external vendor package interface other) value = put other) :
    RevisesAt 2 stream (parseExternal vendor >>= fun path => closing >>= fun value =>
      pure (make path value)) left version put := by
  simp only [parseExternal, bind_assoc, pure_bind] at ran ⊢
  refine RevisesAt.behind (accounts_word _ _) (fun _ _ => inStep_word _ _) tidy ran
    fun package middle tidy ran => ?_
  refine RevisesAt.settled (settles_mark _) trivial (fun _ _ => trivial) tidy ran
    fun _ middle tidy ran => ?_
  refine RevisesAt.settled (settles_identifier _) trivial (fun _ _ => trivial) tidy ran
    fun interface middle tidy ran => ?_
  exact revisesAt_optional concludes tidy ran (same package interface)

/-- A path of another package begins with its vendor. -/
theorem UsePath.run_parser_bind {next : UsePath → Parser β}
    (colon : stream.peek.kind = .mark .colon) :
    (UsePath.parser >>= next).run stream = (do
      let vendor ← word "package namespace" .vendor
      mark .colon
      let path ← parseExternal vendor
      next path).run stream := by
  change ((if stream.peek.kind = .mark .colon then _ else _ : Parser UsePath) >>= next).run
    stream = _
  rw [if_pos colon]
  simp only [bind_assoc]

/-- A path without a colon behind its first word is one of the same package. -/
theorem UsePath.sibling_of_run {path : UsePath} {rest : TokenStream}
    (other : stream.peek.kind ≠ .mark .colon)
    (ran : UsePath.parser.run stream = .ok (path, rest)) : ∃ name, path = .sibling name := by
  change (if stream.peek.kind = .mark .colon then _ else _ : Parser UsePath).run stream = _ at ran
  rw [if_neg other] at ran
  obtain ⟨name, last, -, returned⟩ := exists_of_run_bind ran
  cases returned
  exact ⟨name, rfl⟩

/-- The version in the path of a use. -/
theorem Use.parser_revisesAt {put : Option Version → Use} (slot : Use.Slot put)
    (tidy : stream.Tidy) (ran : Use.parser.run stream = .ok (put version, left)) :
    RevisesAt 2 stream Use.parser left version put := by
  obtain ⟨⟨vendor, package, interface⟩, items, renamed⟩ := slot
  rw [parser_eq] at ran ⊢
  refine RevisesAt.behind (accounts_keyword _) (fun _ _ => inStep_keyword _) tidy ran
    fun _ middle tidy ran => ?_
  by_cases colon : middle.peek.kind = .mark .colon
  · rw [UsePath.run_parser_bind colon] at ran
    refine RevisesAt.look ?_ fun other _ _ peek => UsePath.run_parser_bind (peek ▸ colon)
    refine RevisesAt.behind (accounts_word _ _) (fun _ _ => inStep_word _ _) tidy ran
      fun vendor middle tidy ran => ?_
    refine RevisesAt.behind (accounts_mark _) (fun _ _ => inStep_mark _) tidy ran
      fun _ middle tidy ran => ?_
    refine UsePath.revisesAt_parseExternal concludes_conclusion vendor tidy ran ?_
    rintro package interface found ⟨items, renamed⟩ same
    cases same
    exact ⟨rfl, fun _ => rfl⟩
  · -- A path of the same package has no version.
    obtain ⟨path, last, read, later⟩ := exists_of_run_bind ran
    obtain ⟨name, rfl⟩ := UsePath.sibling_of_run colon read
    obtain ⟨found, behind, -, returned⟩ := exists_of_run_bind later
    cases returned

/-- The versions in an item of an interface. -/
theorem InterfaceItem.parser_revisesAt {put : Option Version → InterfaceItem}
    (slot : InterfaceItem.Slot put) (tidy : stream.Tidy)
    (ran : InterfaceItem.parser.run stream = .ok (put version, left)) :
    RevisesAt 2 stream InterfaceItem.parser left version put := by
  obtain @⟨use, slot⟩ := slot
  have other {parser : Parser InterfaceItem} (returns : parser.Returns (·.use? = none))
      (ran : parser.run stream = .ok (.use (use version), left)) : False :=
    nomatch returns ran
  refine RevisesAt.docs (RevisesAt.current ?_)
  have ran := of_run_current (of_run_docs ran)
  generalize stream.current.kind = kind at ran ⊢
  split at ran
  case h_7 =>
    obtain ⟨use, middle, read, returned⟩ := exists_of_run_bind ran
    cases returned
    exact (Use.parser_revisesAt slot tidy read).map
  case h_1 =>
    exact (other (returns_bind fun _ => returns_bind fun _ => returns_bind fun _ =>
      returns_bind fun _ => returns_bind fun _ => returns_pure rfl) ran).elim
  case h_2 | h_3 | h_4 | h_5 | h_6 =>
    exact (other (returns_bind fun _ => returns_bind fun _ => returns_bind fun _ =>
      returns_pure rfl) ran).elim
  case h_8 | h_9 =>
    exact (other (returns_bind fun _ => returns_bind fun _ => returns_bind fun _ =>
      returns_bind fun _ => returns_pure rfl) ran).elim
  case h_10 => exact absurd ran (Parser.run_unexpected_ne_ok _ _ _)

/-- The versions in the body of an interface. -/
theorem Interface.revisesAt_parseBody {name : Identifier} {docs : Documentation}
    {put : Option Version → Interface} (slot : Interface.Slot put) (tidy : stream.Tidy)
    (ran : (parseBody name docs).run stream = .ok (put version, left)) :
    RevisesAt 2 stream (parseBody name docs) left version put := by
  refine RevisesAt.behind (accounts_mark _) (fun _ _ => inStep_mark _) tidy ran
    fun _ middle tidy ran => ?_
  obtain ⟨items, last, read, closed⟩ := exists_of_run_bind ran
  obtain ⟨same, again⟩ := run_closed closed
  obtain ⟨make, listed, rfl, makes⟩ := slot.exists_items same
  refine (revisesAt_itemsUntil InterfaceItem.parser_accounts
    (fun _ _ => InterfaceItem.parser_inStep) InterfaceItem.parser_revisesAt listed tidy read).bind
    fun found => ?_
  exact makes found ▸ again (ofItems name docs (make found))

/-- The versions in an interface. -/
theorem Interface.parser_revisesAt {put : Option Version → Interface} (slot : Interface.Slot put)
    (tidy : stream.Tidy) (ran : Interface.parser.run stream = .ok (put version, left)) :
    RevisesAt 2 stream Interface.parser left version put := by
  refine RevisesAt.docs ?_
  refine RevisesAt.behind (accounts_keyword _) (fun _ _ => inStep_keyword _) tidy
    (of_run_docs ran) fun _ middle tidy ran => ?_
  refine RevisesAt.behind (accounts_identifier _ _) (fun _ _ => inStep_identifier _ _) tidy ran
    fun name middle tidy ran => ?_
  exact revisesAt_parseBody slot tidy ran

/-- The versions in what a world imports or exports. -/
theorem WorldItem.parser_revisesAt {docs : Documentation} {put : Option Version → WorldItem}
    (slot : WorldItem.Slot put) (tidy : stream.Tidy)
    (ran : (WorldItem.parser docs).run stream = .ok (put version, left)) :
    RevisesAt 2 stream (WorldItem.parser docs) left version put := by
  refine RevisesAt.current ?_
  refine RevisesAt.behind (accounts_identifier _ _) (fun _ _ => inStep_identifier _ _) tidy
    (of_run_current ran) fun item middle tidy ran => ?_
  refine RevisesAt.behind (accounts_accept_mark _) (fun _ _ => inStep_accept_mark _) tidy ran
    fun bare middle tidy ran => ?_
  cases bare with
  | true =>
    obtain ⟨same, -⟩ := Prod.mk.inj (Except.ok.inj ran)
    obtain _ | ⟨name, ⟨vendor, package, interface⟩⟩ := slot <;> cases same
  | false =>
    simp only [Bool.false_eq_true, ↓reduceIte] at ran ⊢
    refine RevisesAt.behind (accounts_mark _) (fun _ _ => inStep_mark _) tidy ran
      fun _ middle tidy ran => ?_
    refine RevisesAt.current ?_
    have ran := of_run_current ran
    generalize shape : middle.current.kind = kind at ran ⊢
    split at ran
    case h_1 =>
      obtain ⟨_, behind, taken, ran⟩ := exists_of_run_bind ran
      cases taken
      obtain ⟨interface, last, read, returned⟩ := exists_of_run_bind ran
      obtain ⟨name, slot⟩ | ⟨name, ⟨vendor, package, interface⟩⟩ := slot <;> cases returned
      refine RevisesAt.advance (by simp [shape]) tidy fun tidy => ?_
      exact (Interface.revisesAt_parseBody slot tidy read).map.mono (by decide)
    case h_2 | h_3 =>
      obtain ⟨function, last, read, onward⟩ := exists_of_run_bind ran
      obtain ⟨_, _, -, returned⟩ := exists_of_run_bind onward
      obtain _ | ⟨name, ⟨vendor, package, interface⟩⟩ := slot <;> cases returned
    case h_4 =>
      cases named : KebabName.ofText .vendor item.text with
      | error fault =>
        rw [named] at ran
        contradiction
      | ok vendor =>
        rw [named] at ran
        obtain _ | ⟨name, ⟨vendor', package', interface'⟩⟩ := slot
        · obtain ⟨path, last, -, onward⟩ := exists_of_run_bind ran
          obtain ⟨_, _, -, returned⟩ := exists_of_run_bind onward
          cases returned
        · refine UsePath.revisesAt_parseExternal Parser.concludes_semicolon vendor tidy ran ?_
          rintro package interface found value same
          cases same
          exact ⟨rfl, fun _ => rfl⟩

/-- The versions in a member of a world. -/
theorem WorldMember.parser_revisesAt {put : Option Version → WorldMember}
    (slot : WorldMember.Slot put) (tidy : stream.Tidy)
    (ran : WorldMember.parser.run stream = .ok (put version, left)) :
    RevisesAt 2 stream WorldMember.parser left version put := by
  refine RevisesAt.docs (RevisesAt.current ?_)
  have ran := of_run_current (of_run_docs ran)
  generalize shape : stream.current.kind = kind at ran ⊢
  split at ran
  case h_1 | h_2 =>
    obtain ⟨_, behind, taken, ran⟩ := exists_of_run_bind ran
    cases taken
    obtain ⟨item, last, read, returned⟩ := exists_of_run_bind ran
    obtain slot | slot | slot := slot <;> cases returned
    refine RevisesAt.advance (by simp [shape]) tidy fun tidy => ?_
    exact (WorldItem.parser_revisesAt slot tidy read).map.mono (by decide)
  case h_3 =>
    obtain ⟨use, last, read, returned⟩ := exists_of_run_bind ran
    obtain slot | slot | slot := slot <;> cases returned
    exact (Use.parser_revisesAt slot tidy read).map
  case h_4 =>
    obtain ⟨_, last, -, returned⟩ := exists_of_run_bind (of_run_get ran)
    cases slot <;> cases returned
  case h_5 => exact absurd ran (Parser.run_unexpected_ne_ok _ _ _)

/-- The versions in a world. -/
theorem World.parser_revisesAt {put : Option Version → World} (slot : World.Slot put)
    (tidy : stream.Tidy) (ran : World.parser.run stream = .ok (put version, left)) :
    RevisesAt 2 stream World.parser left version put := by
  refine RevisesAt.docs ?_
  refine RevisesAt.behind (accounts_keyword _) (fun _ _ => inStep_keyword _) tidy
    (of_run_docs ran) fun _ middle tidy ran => ?_
  refine RevisesAt.behind (accounts_identifier _ _) (fun _ _ => inStep_identifier _ _) tidy ran
    fun name middle tidy ran => ?_
  refine RevisesAt.behind (accounts_mark _) (fun _ _ => inStep_mark _) tidy ran
    fun _ middle tidy ran => ?_
  obtain ⟨members, last, read, closed⟩ := exists_of_run_bind ran
  obtain ⟨same, again⟩ := run_closed closed
  obtain ⟨make, listed, rfl, makes⟩ := slot.exists_members same
  refine (revisesAt_itemsUntil WorldMember.parser_accounts
    (fun _ _ => WorldMember.parser_inStep) WorldMember.parser_revisesAt listed tidy read).bind
    fun found => ?_
  exact makes found ▸ again (ofMembers name _ (make found))

/-- The versions in an item of a document. -/
theorem PackageItem.parser_revisesAt {put : Option Version → PackageItem}
    (slot : PackageItem.Slot put) (tidy : stream.Tidy)
    (ran : PackageItem.parser.run stream = .ok (put version, left)) :
    RevisesAt 2 stream PackageItem.parser left version put := by
  refine RevisesAt.current ?_
  have ran := of_run_current ran
  generalize stream.current.kind = kind at ran ⊢
  split at ran
  case h_1 =>
    obtain ⟨interface, last, read, returned⟩ := exists_of_run_bind ran
    obtain slot | slot | slot := slot <;> cases returned
    exact (Interface.parser_revisesAt slot tidy read).map
  case h_2 =>
    obtain ⟨world, last, read, returned⟩ := exists_of_run_bind ran
    obtain slot | slot | slot := slot <;> cases returned
    exact (World.parser_revisesAt slot tidy read).map
  case h_3 =>
    obtain ⟨use, last, read, returned⟩ := exists_of_run_bind ran
    obtain slot | slot | slot := slot <;> cases returned
    exact (Use.parser_revisesAt slot tidy read).map
  case h_4 => exact absurd ran (Parser.run_unexpected_ne_ok _ _ _)

namespace PackageHeader

/-- The names of a package, with fuel for all that is ahead. -/
def names : Parser (List KebabName × KebabName) := do
  PackageHeader.segments ((← get).ahead.length + 1)

/-- A name of a package is read, and others behind it if a slash is. -/
theorem run_segments {fuel : Nat} {segment : KebabName} {middle behind : TokenStream} {slash : Bool}
    (read : (word "package name" .package).run stream = .ok (segment, middle))
    (accepted : (accept (.mark .slash)).run middle = .ok (slash, behind)) :
    (PackageHeader.segments (fuel + 1)).run stream =
      (if slash then do
        let (nested, last) ← PackageHeader.segments fuel
        return (segment :: nested, last)
      else
        return ([], segment) : Parser (List KebabName × KebabName)).run behind := by
  rw [PackageHeader.segments, StateT.run_bind, read]
  change (accept (.mark .slash) >>= fun slash => if slash then _ else _ : Parser _).run middle = _
  rw [StateT.run_bind, accepted]
  rfl

/-- The names of a package are taken whatever is behind them, unless a slash is. -/
theorem exists_taken_of_run_segments {fuel : Nat} {found : List KebabName × KebabName}
    (ran : (PackageHeader.segments fuel).run stream = .ok (found, left)) (ended : stream.Ended) :
    ∃ taken : List Token, stream = taken ++ left ∧ taken ≠ [] ∧ left.current.kind ≠ .mark .slash ∧
      ∀ (fuel : Nat) (tail : TokenStream), tail.Ended → tail.current.kind ≠ .mark .slash →
        taken.length ≤ fuel →
          (PackageHeader.segments fuel).run (taken ++ tail) = .ok (found, tail) := by
  induction fuel generalizing stream found with
  | zero => exact absurd ran (Parser.run_unexpected_ne_ok _ _ _)
  | succ fuel ih =>
    obtain ⟨segment, middle, read, onward⟩ := exists_of_run_bind ran
    obtain ⟨taken, rfl, some, -, takes⟩ := settles_word _ _ read ended
    have long := List.length_pos_iff.2 some
    obtain ⟨slash, behind, accepted, chosen⟩ := exists_of_run_bind onward
    rcases of_run_accept_mark accepted ended with ⟨rfl, token, kind, rfl⟩ | ⟨rfl, other, rfl⟩
    · obtain ⟨⟨nested, last⟩, rest, later, returned⟩ := exists_of_run_bind chosen
      cases returned
      obtain ⟨taken', rfl, -, other, again⟩ := ih later ended
      have shape : taken ++ (token :: taken' ++ left) = (taken ++ token :: taken') ++ left :=
        TokenStream.append_append
      refine ⟨taken ++ token :: taken', shape, by simp, other, ?_⟩
      intro fuel tail ended other enough
      rw [List.length_append, List.length_cons] at enough
      obtain ⟨fuel, rfl⟩ : ∃ less, fuel = less + 1 := ⟨fuel - 1, by omega⟩
      have slashed : (accept (.mark .slash)).run (token :: taken' ++ tail) =
          .ok (true, taken' ++ tail) := run_accept kind
      have more := again fuel tail ended other (by omega)
      rw [← TokenStream.append_append, run_segments (takes (token :: taken' ++ tail) ended trivial)
        slashed, if_pos rfl, StateT.run_bind, more]
      rfl
    · cases chosen
      refine ⟨taken, rfl, some, other, fun fuel tail ended other enough => ?_⟩
      obtain ⟨fuel, rfl⟩ : ∃ less, fuel = less + 1 := ⟨fuel - 1, by omega⟩
      exact run_segments (takes tail ended trivial) (run_accept_other other)

/-- The names of a package are taken whatever is behind them, unless a slash is. -/
theorem settles_names : Settles (· ≠ .mark .slash) names := by
  intro stream found rest ran ended
  obtain ⟨taken, rfl, some, other, again⟩ := exists_taken_of_run_segments ran ended
  refine ⟨taken, rfl, some, other, fun tail ended other => ?_⟩
  exact again ((taken ++ tail).ahead.length + 1) tail ended other (by simp; omega)

/-- The version in the header of a document. -/
theorem parser_revisesAt {vendor : KebabName} {nested : List KebabName} {name : KebabName}
    {docs : Documentation} (tidy : stream.Tidy)
    (ran : PackageHeader.parser.run stream = .ok (⟨vendor, nested, name, version, docs⟩, left)) :
    RevisesAt 2 stream PackageHeader.parser left version
      fun found => ⟨vendor, nested, name, found, docs⟩ := by
  refine RevisesAt.docs ?_
  refine RevisesAt.behind (accounts_keyword _) (fun _ _ => inStep_keyword _) tidy
    (of_run_docs ran) fun _ middle tidy ran => ?_
  refine RevisesAt.behind (accounts_word _ _) (fun _ _ => inStep_word _ _) tidy ran
    fun vendor middle tidy ran => ?_
  refine RevisesAt.settled (settles_mark _) trivial (fun _ _ => trivial) tidy ran
    fun _ middle tidy ran => ?_
  change RevisesAt 1 middle (names >>= fun found => Version.optional >>= fun version =>
    mark .semicolon >>= fun _ => pure
      (⟨vendor, found.1, found.2, version, ⟨stream.current.docs⟩⟩ : PackageHeader)) left version _
  have noSlash (stream : TokenStream) (follows : stream.FollowsVersion) :
      stream.current.kind ≠ .mark .slash := follows.kind_ne (by decide) (by decide)
  refine RevisesAt.settled settles_names (by decide) noSlash tidy ran
    fun found middle tidy ran => ?_
  refine revisesAt_optional Parser.concludes_semicolon tidy ran fun found value same => ?_
  cases same
  exact ⟨rfl, fun _ => rfl⟩

end PackageHeader

namespace Package

/-- The items of a document under a header. -/
def body (header : Option PackageHeader) : Parser Package := do
  let items ← Parser.itemsUntil .endOfInput PackageItem.parser
  return ofItems header items

/-- A document with a header. -/
theorem run_parser_headed (headed : stream.current.kind = .keyword .package) :
    parser.run stream =
      (PackageHeader.parser >>= fun header => body (some header)).run stream := by
  have checked : decide (stream.current.kind = .keyword .package) = true := by simpa using headed
  change (if decide (stream.current.kind = .keyword .package) = true then _ else _ :
    Parser Package).run stream = _
  rw [if_pos checked]
  rfl

/-- A document without a header. -/
theorem run_parser_headless (headless : stream.current.kind ≠ .keyword .package) :
    parser.run stream = (body none).run stream := by
  have checked : ¬ decide (stream.current.kind = .keyword .package) = true := by
    simpa using headless
  change (if decide (stream.current.kind = .keyword .package) = true then _ else _ :
    Parser Package).run stream = _
  rw [if_neg checked]
  rfl

/-- The versions in the items of a document. -/
theorem revisesAt_items {header : Option PackageHeader} {make : Option Version → List PackageItem}
    {put : Option Version → Package} (listed : Listed PackageItem.Slot make)
    (makes : ∀ found, ofItems header (make found) = put found) (tidy : stream.Tidy)
    (read : (Parser.itemsUntil .endOfInput PackageItem.parser).run stream =
      .ok (make version, left)) : RevisesAt 2 stream (body header) left version put := by
  have revises := revisesAt_itemsUntil PackageItem.parser_accounts
    (fun _ _ => PackageItem.parser_inStep) PackageItem.parser_revisesAt listed tidy read
  exact revises.bind fun found => makes found ▸ rfl

/-- The versions in a document. -/
theorem parser_revisesAt {put : Option Version → Package} (slot : Package.Slot put)
    (tidy : stream.Tidy) (ran : Package.parser.run stream = .ok (put version, left)) :
    RevisesAt 2 stream Package.parser left version put := by
  by_cases headed : stream.current.kind = .keyword .package
  · rw [run_parser_headed headed] at ran
    refine RevisesAt.look ?_ fun other _ same _ => run_parser_headed (same ▸ headed)
    obtain ⟨header, middle, opened, onward⟩ := exists_of_run_bind ran
    obtain ⟨found, last, read, returned⟩ := exists_of_run_bind onward
    obtain ⟨same, rfl⟩ := Prod.mk.inj (Except.ok.inj returned)
    rcases slot.exists_items same with ⟨_, _, _, _, whole, makes⟩ | ⟨make, listed, rfl, makes⟩
    · cases whole
      refine (PackageHeader.parser_revisesAt tidy opened).bind fun found => ?_
      rw [body, StateT.run_bind, read, ← makes found]
      rfl
    · have accounts : Parser.Accounts false [] PackageHeader.parser := PackageHeader.parser_accounts
      obtain ⟨taken, rfl, -⟩ := (accounts stream tidy.ended).taken opened
      have revises := revisesAt_items listed makes tidy.of_append read
      exact .of_run accounts (fun _ _ => PackageHeader.parser_inStep) tidy.ended opened revises
  · rw [run_parser_headless headed] at ran
    refine RevisesAt.look ?_ fun other _ same _ => run_parser_headless (same ▸ headed)
    obtain ⟨found, last, read, returned⟩ := exists_of_run_bind ran
    obtain ⟨same, rfl⟩ := Prod.mk.inj (Except.ok.inj returned)
    rcases slot.exists_items same with ⟨_, _, _, _, missing, -⟩ | ⟨make, listed, rfl, makes⟩
    · contradiction
    · exact revisesAt_items listed makes tidy read

end Package

/-- Versions in a document. Each place of a version in a document that is read, in its header, in
the path of a use or in an item of a world, is a place of the text: there stands an at sign with one
to three numbers and dots between them, of which the version is made, and where there is no version
there is nothing; behind it is a semicolon, a new name, or a list of names with its dot. Any text
that has another such spelling there, or none, and is the same otherwise is the document with that
version in its place. A text that has a word among the numbers there is refused for its grammar,
whatever is behind it. -/
theorem revised_parse {source : String} {put : Option Version → Package} {version : Option Version}
    (slot : Package.Slot put) (parsed : Package.parse source = .ok (put version)) :
    ∃ (before written : List Token) (after : TokenStream),
      TokenStream.ofSource source = before ++ (written ++ after) ∧
      Spelled written version ∧ after.FollowsVersion ∧
      (∀ (other : String) (spelling : List Token) (found : Option Version),
        Spelled spelling found →
        (TokenStream.ofSource other).Alike (before ++ (spelling ++ after)) →
          Package.parse other = .ok (put found)) ∧
      ∀ (other : String) (spelling : List Token) (tail : TokenStream),
        Misspelled spelling →
        (TokenStream.ofSource other).Alike (before ++ (spelling ++ tail)) →
          ∃ fault, Package.parse other = .error fault ∧ fault.isLexical = false := by
  have tidy := TokenStream.tidy_ofSource source
  obtain ⟨before, written, after, shape, -, revises⟩ :=
    Package.parser_revisesAt slot tidy (Package.run_of_parse parsed).1
  refine ⟨before, written, after, shape, revises.spelled, revises.follows, ?_, ?_⟩
  · intro other spelling found spelled alike
    have accord := Package.parser_blind _ _ alike
    rw [revises.revised spelled] at accord
    change (Package.parser.run (TokenStream.ofSource other)).map (·.1) = _
    generalize Package.parser.run (TokenStream.ofSource other) = outcome at accord
    cases accord with
    | ok same => exact congrArg Except.ok same
  · intro other spelling tail misspelled alike
    have fine := alike.symm.tidy (TokenStream.tidy_ofSource other)
    obtain ⟨fault, ran, grammar⟩ := revises.refused misspelled fine
    have accord := Package.parser_blind _ _ alike
    rw [ran] at accord
    change ∃ fault, (Package.parser.run (TokenStream.ofSource other)).map (·.1) = .error fault ∧ _
    generalize Package.parser.run (TokenStream.ofSource other) = outcome at accord
    cases accord with
    | @error fault' _ sort => exact ⟨fault', rfl, sort.symm.trans grammar⟩

/-- The version of a use with a list of names, of two numbers; the dot of the list is none of its
dots. -/
theorem revised_parse_list :
    let put : Option Version → Package := fun version =>
      { uses := [{
          path := .external ⟨"a", by decide⟩ ⟨"b", by decide⟩ ⟨false, ⟨"c", by decide⟩⟩ version
          items := [{ name := ⟨false, ⟨"d", by decide⟩⟩ }] }] }
    Package.Slot put ∧
      Package.parse "use a:b/c@1.2.\x7bd\x7d;" = .ok (put (some ⟨1, 2, 0, "", ""⟩)) ∧
      ∃ (before written : List Token) (after : TokenStream),
        TokenStream.ofSource "use a:b/c@1.2.\x7bd\x7d;" = before ++ (written ++ after) ∧
        Spelled written (some ⟨1, 2, 0, "", ""⟩) ∧ after.FollowsVersion := by
  intro put
  have slot : Package.Slot put := .use none [] [] (.mk [] (.path (.external _ _ _) _ _) [])
  have parsed : Package.parse "use a:b/c@1.2.\x7bd\x7d;" = .ok (put (some ⟨1, 2, 0, "", ""⟩)) := by
    decide +kernel
  obtain ⟨before, written, after, shape, spelled, follows, -⟩ := revised_parse slot parsed
  exact ⟨slot, parsed, before, written, after, shape, spelled, follows⟩

end WitBridge
