import WitBridge.Proofs.Parser.Yields

/-!
# What is read as a type

The names in a type that is read are settled: a name without an escape is no reserved word.
-/
namespace WitBridge

/-- A change that changes no item of a list changes nothing. -/
theorem map_eq_self {α : Type} {change : α → α} {items : List α}
    (same : ∀ item ∈ items, change item = item) : items.map change = items := by
  rw [List.map_congr_left same, List.map_id']

/-- A change that does not change an optional value changes nothing. -/
theorem option_map_eq_self {α : Type} {change : α → α} {value : Option α}
    (same : ∀ found ∈ value, change found = found) : value.map change = value := by
  cases value with
  | none => rfl
  | some found => rw [Option.map_some, same found rfl]

open WitBridge.Parser (Yields yields_pure yields_unexpected yields_current yields_check
  yields_advance yields_mark yields_accept yields_identifier)

namespace TypeExpr

/-- The children of a type with its names changed. -/
theorem children_mapNames (change : Identifier → Identifier) (type : TypeExpr) :
    (type.mapNames change).children = type.children.map (mapNames change) := by
  have optional : ∀ found : Option TypeExpr,
      (found.map (mapNames change)).toList = found.toList.map (mapNames change) := by
    rintro (_ | found) <;> rfl
  cases type with
  | primitive | named | handle | list | option => rfl
  | result => simp [mapNames, children, optional]
  | tuple => simp [mapNames, children]
  | future | stream => simp [mapNames, children, optional]

/-- The children of a type with settled names have settled names. -/
theorem settled_child {type child : TypeExpr} (settled : type.settled = type)
    (member : child ∈ type.children) : child.settled = child := by
  have children := children_mapNames Identifier.settled type
  rw [show type.mapNames Identifier.settled = type from settled] at children
  exact List.map_inj_left.1 (children.symm.trans (List.map_id' _).symm) child member

variable {item : Parser TypeExpr}

/-- A type in angle brackets has the property of a type. -/
theorem yields_angled {α : Type} {item : Parser α} {property : α → Prop}
    (each : Yields item property) : Yields (angled item) property := by
  apply (yields_mark _).bind
  intro _ _
  apply each.bind
  intro found holds
  exact (yields_mark _).bind fun _ _ => yields_pure holds

/-- A type in optional angle brackets has the property of a type. -/
theorem yields_optionalAngled {α : Type} {item : Parser α} {property : α → Prop}
    (each : Yields item property) :
    Yields (optionalAngled item) fun found => ∀ value ∈ found, property value := by
  apply (yields_check _).bind
  intro isOpen _
  split
  · exact (yields_angled each).bind fun found holds => yields_pure (by simpa using holds)
  · exact yields_pure nofun

/-- The sides of a result are types. -/
theorem yields_resultSides (each : Yields item fun type => type.settled = type) :
    Yields (resultSides item) fun type => type.settled = type := by
  apply (yields_accept _).bind
  intro isOpen _
  split
  · apply (yields_accept _).bind
    intro missing _
    split
    · apply (yields_mark _).bind
      intro _ _
      apply each.bind
      intro err settled
      apply (yields_mark _).bind
      intro _ _
      apply yields_pure
      simpa [TypeExpr.settled, mapNames] using settled
    · apply each.bind
      intro ok settled
      apply (yields_accept _).bind
      intro both _
      split
      · apply each.bind
        intro err other
        apply (yields_mark _).bind
        intro _ _
        apply yields_pure
        simpa [TypeExpr.settled, mapNames] using ⟨settled, other⟩
      · apply (yields_mark _).bind
        intro _ _
        apply yields_pure
        simpa [TypeExpr.settled, mapNames] using settled
  · exact yields_pure rfl

/-- The name of the resource in a handle that is read is settled. -/
theorem yields_handle (ownership : Ownership) :
    Yields (do
      discard Parser.advance
      return handle ownership (← angled (Parser.identifier "resource name")))
      fun type => type.settled = type := by
  apply yields_advance.discard.bind
  intro _ _
  apply (yields_angled (yields_identifier _ _)).bind
  intro name settled
  apply yields_pure
  simpa [TypeExpr.settled, mapNames] using settled

/-- The names in a type that is read are settled, with any fuel. -/
theorem yields_parseWithin (fuel : Nat) :
    Yields (parseWithin fuel) fun type => type.settled = type := by
  induction fuel with
  | zero => exact yields_unexpected _
  | succ fuel ih =>
    refine yields_current fun stream tidy => Yields.at ?_ tidy
    split
    · exact yields_advance.discard.bind fun _ _ => yields_pure rfl
    · apply yields_advance.discard.bind
      intro _ _
      apply (yields_angled ih).bind
      intro element settled
      exact yields_pure (by simpa [TypeExpr.settled, mapNames] using settled)
    · apply yields_advance.discard.bind
      intro _ _
      apply (yields_angled ih).bind
      intro inner settled
      exact yields_pure (by simpa [TypeExpr.settled, mapNames] using settled)
    · exact yields_advance.discard.bind fun _ _ => yields_resultSides ih
    · apply yields_advance.discard.bind
      intro _ _
      apply (yields_angled (Parser.yields_commaItems _ ih)).bind
      intro elements settled
      apply yields_pure
      rw [TypeExpr.settled, mapNames, mapNamesList_eq_map]
      exact congrArg tuple (map_eq_self settled)
    · apply yields_advance.discard.bind
      intro _ _
      apply (yields_optionalAngled ih).bind
      intro inner settled
      apply yields_pure
      rw [TypeExpr.settled, mapNames, mapNamesOption_eq_map]
      exact congrArg future (option_map_eq_self settled)
    · apply yields_advance.discard.bind
      intro _ _
      apply (yields_optionalAngled ih).bind
      intro element settled
      apply yields_pure
      rw [TypeExpr.settled, mapNames, mapNamesOption_eq_map]
      exact congrArg TypeExpr.stream (option_map_eq_self settled)
    · exact yields_handle .own
    · exact yields_handle .borrow
    · apply (yields_identifier _ _).bind
      intro name settled
      apply yields_pure
      simpa [TypeExpr.settled, mapNames] using settled
    · apply (yields_identifier _ _).bind
      intro name settled
      apply yields_pure
      simpa [TypeExpr.settled, mapNames] using settled
    · exact yields_unexpected _

/-- The names in a type that is read are settled. -/
theorem parser_yields : Yields parser fun type => type.settled = type :=
  fun stream tidy => yields_parseWithin _ stream tidy

end TypeExpr

end WitBridge
