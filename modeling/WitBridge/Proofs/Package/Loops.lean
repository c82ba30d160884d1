import WitBridge.Proofs.Package.Location
import WitBridge.Proofs.Parser.Loops

/-!
# The loops of the grammar of packages

Beside items up to a closing token and items with commas, four parts of a package are read in
passes of their own: the names in the path of a package, the numbers of a version, the members of a
resource and a statement that is passed over. For each of them one equation says that it is read by
its loop, and what holds of all loops holds of it from there.
-/
namespace WitBridge

open WitBridge.Parser (Loop Pass refuse_bind unexpected_bind Accounts accounts_pure accounts_refuse
  accounts_unexpected accounts_current accounts_get accounts_check accountsAt_advance_bind
  accounts_mark accounts_accept_mark accounts_word)

/-- The names after the vendor of a package; a slash calls for another. -/
def PackageHeader.segmentLoop : Loop Unit (List KebabName × KebabName) where
  exit _ _ := none
  pass _ := do
    let segment ← Parser.word "package name" .package
    if ← Parser.accept (.mark .slash) then
      return .again () fun (nested, last) => (segment :: nested, last)
    else
      return .last ([], segment)

/-- A pass reads a name, and the slash after it. -/
theorem PackageHeader.accounts_pass (state : Unit) :
    Accounts true [] (segmentLoop.pass state) := by
  refine (accounts_word _ _).bind fun segment => (accounts_accept_mark _).bind fun slash => ?_
  split <;> exact accounts_pure _

/-- The names of a package are read by their loop. -/
theorem PackageHeader.segments_eq (fuel : Nat) :
    segments fuel = segmentLoop.within (Parser.unexpected "package name") fuel () := by
  induction fuel with
  | zero => rfl
  | succ fuel ih =>
    change _ = segmentLoop.pass () >>= Pass.finish (segmentLoop.within _ fuel)
    rw [segments, ih]
    generalize segmentLoop.within _ fuel = onward
    simp only [segmentLoop, bind_assoc]
    refine congrArg _ (funext fun segment => congrArg _ (funext fun slash => ?_))
    cases slash <;> rfl

/-- The numbers of a version, of which so many may come; a dot calls for another if there may be
one and a number follows. -/
def Version.segmentLoop : Loop Nat (List String) where
  exit count _ := if count = 0 then some [] else none
  pass count := do
    let token ← Parser.current
    if token.kind = .integer || token.kind = .identifier then
      discard Parser.advance
      let next := (← get).peek.kind
      if count ≠ 1 && (← Parser.check (.mark .dot)) &&
          (next = .integer || next = .identifier) then
        discard Parser.advance
        return .again (count - 1) (token.value :: ·)
      else
        return .last [token.value]
    else Parser.unexpected "version number"

/-- A number of a version, and the dot behind it where another number follows. -/
theorem Version.accounts_pass (count : Nat) :
    Accounts true [] (segmentLoop.pass count) := by
  refine accounts_current fun stream ended => ?_
  split
  case isTrue number =>
    obtain ⟨inner, valid⟩ := kind_ne_of_number number
    refine accountsAt_advance_bind rfl ended inner valid ?_
    refine accounts_get fun behind => accounts_check fun stream ended => ?_
    split
    case isTrue dotted =>
      have same := kind_eq_of_dotted dotted
      exact accountsAt_advance_bind same ended nofun nofun (accounts_pure _)
    case isFalse => exact accounts_pure _ stream ended
  case isFalse => exact accounts_unexpected _ stream ended

/-- The numbers of a version are read by their loop, which has a pass for each. -/
theorem Version.segments_eq {spent : Parser (List String)} {count fuel : Nat}
    (enough : count < fuel) : segments count = segmentLoop.within spent fuel count := by
  induction fuel generalizing count with
  | zero => contradiction
  | succ fuel ih =>
    obtain _ | count := count
    · rfl
    change _ = segmentLoop.pass (count + 1) >>= Pass.finish (segmentLoop.within spent fuel)
    rw [segments, ih (Nat.lt_of_succ_lt_succ enough)]
    generalize segmentLoop.within spent fuel = onward
    simp only [segmentLoop, bind_assoc]
    refine congrArg _ (funext fun token => ?_)
    split
    · simp only [bind_assoc, ne_eq, Nat.add_eq_right]
      refine congrArg _ (funext fun _ => congrArg _ (funext fun behind => congrArg _
        (funext fun dotted => ?_)))
      split <;> rfl
    · rw [unexpected_bind]

/-- The members of a resource; the state says whether a constructor came before. -/
def ResourceMember.memberLoop (resource : Identifier) : Loop Bool (List ResourceMember) where
  exit _ kind := if kind = .mark .rightBrace then some [] else none
  pass built := do
    let token ← Parser.current
    if token.kind = .keyword .constructor then
      discard Parser.advance
      let parameters ← Parameter.list
      Parser.mark .semicolon
      if built then
        Parser.refuse token.start (.secondConstructor resource)
      else
        return .again true (.constructor parameters :: ·)
    else
      let method ← Method.parser
      return .again built (.method method :: ·)

/-- A member of a resource; the complaint of a second constructor is of its keyword. -/
theorem ResourceMember.accounts_pass (resource : Identifier) (built : Bool) :
    Accounts true [] ((memberLoop resource).pass built) := by
  refine accounts_current fun stream ended => ?_
  split
  case isTrue same =>
    refine accountsAt_advance_bind same ended nofun nofun ?_
    refine Parameter.accounts_list.bind fun parameters => (accounts_mark _).bind fun _ => ?_
    split
    · exact accounts_refuse List.mem_cons_self (by simp [same]) (by simp)
    · exact accounts_pure _
  case isFalse =>
    exact (Method.parser_accounts.bind fun method => accounts_pure _) stream ended

/-- The members of a resource are read by their loop. -/
theorem ResourceMember.listWithin_eq (resource : Identifier) (fuel : Nat) (built : Bool) :
    listWithin resource fuel built =
      (memberLoop resource).within (Parser.unexpected "method name") fuel built := by
  induction fuel generalizing built with
  | zero => rfl
  | succ fuel ih =>
    refine funext fun stream => ?_
    change (if stream.current.kind = .mark .rightBrace then _ else _ : Parser _).run stream =
      (Option.elim (if stream.current.kind = .mark .rightBrace then some [] else none)
        ((memberLoop resource).pass built >>= Pass.finish ((memberLoop resource).within _ fuel))
        pure).run stream
    split
    · rfl
    · rw [Option.elim_none]
      simp only [ih]
      generalize (memberLoop resource).within _ fuel = onward
      change _ = ((if stream.current.kind = .keyword .constructor then _ else _ : Parser _) >>=
        _).run stream
      split
      · simp only [bind_assoc]
        refine congrArg (StateT.run · stream) (congrArg _ (funext fun _ => congrArg _
          (funext fun parameters => congrArg _ (funext fun _ => ?_))))
        split
        · rw [refuse_bind]
        · rfl
      · simp only [bind_assoc, pure_bind, Pass.finish]

/-- The tokens of a statement that is passed over, through the semicolon. -/
def skipLoop : Loop Unit Unit where
  exit _ _ := none
  pass _ := do
    let token ← Parser.current
    if token.kind = .mark .semicolon then
      discard Parser.advance
      return .last ()
    else if token.kind = .endOfInput || token.kind = .invalid then
      Parser.unexpected (Token.Kind.mark .semicolon).display
    else
      discard Parser.advance
      return .again () id

/-- A token that is passed over is valid. -/
theorem accounts_skipLoop_pass (state : Unit) : Accounts true [] (skipLoop.pass state) := by
  refine accounts_current fun stream ended => ?_
  split
  case isTrue same =>
    exact accountsAt_advance_bind same ended nofun nofun (accounts_pure _)
  case isFalse =>
    split
    case isTrue => exact accounts_unexpected _ stream ended
    case isFalse valid =>
      simp only [Bool.or_eq_true, decide_eq_true_eq, not_or] at valid
      exact accountsAt_advance_bind rfl ended valid.1 valid.2 (accounts_pure _)

/-- A statement is passed over by its loop. -/
theorem skipStatement_eq (fuel : Nat) :
    skipStatement fuel =
      skipLoop.within (Parser.unexpected (Token.Kind.mark .semicolon).display) fuel () := by
  induction fuel with
  | zero => rfl
  | succ fuel ih =>
    change _ = skipLoop.pass () >>= Pass.finish (skipLoop.within _ fuel)
    rw [skipStatement, ih]
    generalize skipLoop.within _ fuel = onward
    simp only [skipLoop, bind_assoc]
    refine congrArg _ (funext fun token => ?_)
    split
    · rfl
    · split
      · rw [unexpected_bind]
      · simp only [bind_assoc, pure_bind, Pass.finish, id, bind_pure]

end WitBridge
