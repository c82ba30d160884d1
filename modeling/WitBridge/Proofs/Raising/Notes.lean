import WitBridge.Proofs.Diagnostic
import WitBridge.Raising

/-!
# What raising reports

Whatever the module and the registry, raising reports nothing but names without an identifier,
types that nothing is known of, losses, and integers without a size.
-/
namespace WitBridge.Raising

open Reported (reports_pure reports_note reports_mapM)

/-- A diagnostic that raising reports. -/
inductive IsNote : Diagnostic → Prop
  | name (message : String) : IsNote (.conversionError message .gen)
  | type (name : String) : IsNote (.unknownType name .gen)
  | loss (message : String) : IsNote (.conversionWarning message .gen)
  | size :
    IsNote ⟨.info, .intPrecisionLost, "Int converted to s32 (size unknown)", .gen, none⟩

/-- Raising reports for its own step. -/
theorem IsNote.step {diagnostic : Diagnostic} (noted : IsNote diagnostic) :
    diagnostic.step = .gen := by
  cases noted with
  | name | type | loss | size => rfl

variable (registry : Mapping.Registry)

/-- Raising notes what it reports of a name. -/
theorem reports_identifier (what : String) (name : Ir.Name) :
    (identifier what name).Reports IsNote := by
  unfold identifier
  split
  · exact reports_pure _
  · exact (reports_note (.name _)).bind fun _ => reports_pure _

/-- Raising notes what it reports of a definition by its name. -/
theorem reports_definitionTarget (name : Ir.QualifiedName) :
    (definitionTarget name).Reports IsNote :=
  (reports_identifier _ _).bind fun _ => reports_pure _

/-- Raising notes what it reports of a basic type. -/
theorem reports_basicsTarget (name : String) : (basicsTarget registry name).Reports IsNote := by
  unfold basicsTarget
  split
  · exact reports_pure _
  · split
    · exact reports_pure _
    · exact (reports_note .size).bind fun _ => reports_pure _
    · exact reports_pure _
    · exact reports_pure _
    · exact reports_pure _
    · exact (reports_note (.type _)).bind fun _ => reports_pure _

/-- Raising notes what it reports of a reference. -/
theorem reports_target (name : Ir.QualifiedName) (count : Nat) :
    (target registry name count).Reports IsNote := by
  have sdk : (sdkTarget registry name count).Reports IsNote := by
    simp only [sdkTarget]
    split
    · exact reports_basicsTarget registry _
    · split
      · exact reports_pure _
      · exact (reports_note (.loss _)).bind fun _ => reports_definitionTarget name
  simp only [target]
  split
  · exact reports_pure _
  · split
    · exact reports_pure _
    · split
      · exact sdk
      · split
        · exact reports_pure _
        · exact reports_definitionTarget name

mutual
/-- Raising notes what it reports of a type. -/
theorem reports_type? (type : Ir.TypeExpr) : (type? registry type).Reports IsNote := by
  cases type with
  | var name => exact (reports_identifier _ _).bind fun _ => reports_pure _
  | reference name parameters =>
    refine (reports_target registry name _).bind fun found => ?_
    rcases found with _ | kind | kind | definition
    · exact reports_pure _
    · exact reports_pure _
    · exact reports_container kind parameters
    · exact reports_pure _
  | tuple elements => exact (reports_elementTypes elements).bind fun _ => reports_pure _
  | record fields => exact (reports_note (.loss _)).bind fun _ => reports_pure _
  | unit => exact reports_pure _
/-- Raising notes what it reports of a container. -/
theorem reports_container (kind : ContainerKind) (parameters : List Ir.TypeExpr) :
    (container registry kind parameters).Reports IsNote := by
  match kind, parameters with
  | .list, element :: _ => exact (reports_type? element).bind fun _ => reports_pure _
  | .option, inner :: _ => exact (reports_type? inner).bind fun _ => reports_pure _
  | .result, err :: ok :: _ =>
    exact (reports_type? err).bind fun _ => (reports_type? ok).bind fun _ => reports_pure _
  | .list, [] | .option, [] | .result, [] | .result, [_] => exact reports_pure _
/-- Raising notes what it reports of elements. -/
theorem reports_elementTypes (elements : List Ir.TypeExpr) :
    (elementTypes registry elements).Reports IsNote := by
  cases elements with
  | nil => exact reports_pure _
  | cons first rest =>
    exact (reports_type? first).bind fun _ => (reports_elementTypes rest).bind fun _ =>
      reports_pure _
end

/-- Raising notes what it reports of a type for a place that cannot be empty. -/
theorem reports_required (type : Ir.TypeExpr) : (required registry type).Reports IsNote :=
  (reports_type? registry type).bind fun _ => reports_pure _

/-- Raising notes what it reports of each item is reported of the list of those that are kept. -/
theorem reports_kept {α β : Type} {make : α → Reported (Option β)} {items : List α}
    (each : ∀ item, (make item).Reports IsNote) : (kept make items).Reports IsNote :=
  (reports_mapM fun item _ => each item).bind fun _ => reports_pure _

/-- Raising notes what it reports of a field. -/
theorem reports_field? (field : Ir.Name × Ir.TypeExpr) :
    (field? registry field).Reports IsNote := by
  refine (reports_identifier _ _).bind fun found => ?_
  cases found with
  | none => exact reports_pure _
  | some name =>
    exact (reports_required registry _).bind fun _ => reports_pure _

/-- Raising notes what it reports of a parameter. -/
theorem reports_parameter? (input : Ir.Name × Ir.TypeExpr) :
    (parameter? registry input).Reports IsNote := by
  refine (reports_identifier _ _).bind fun found => ?_
  cases found with
  | none => exact reports_pure _
  | some name =>
    exact (reports_required registry _).bind fun _ => reports_pure _

/-- Raising notes what it reports of a case. -/
theorem reports_case? (constructor : Ir.Constructor) :
    (case? registry constructor).Reports IsNote := by
  refine (reports_identifier _ _).bind fun found => ?_
  cases found with
  | none => exact reports_pure _
  | some name =>
    obtain ⟨identifier, _ | ⟨⟨argument, type⟩, more⟩⟩ := constructor
    · exact reports_pure _
    · exact (reports_required registry _).bind fun _ => reports_pure _

/-- Raising notes what it reports of the body of a definition. -/
theorem reports_body (body : Ir.TypeBody) : (Raising.body registry body).Reports IsNote := by
  unfold Raising.body
  split
  · exact (reports_kept (reports_field? registry)).bind fun _ =>
      reports_pure _
  · exact (reports_required registry _).bind fun _ => reports_pure _
  · split
    · exact (reports_kept fun _ => reports_identifier _ _).bind fun _ => reports_pure _
    · exact (reports_kept (reports_case? registry)).bind fun _ =>
        reports_pure _

/-- Raising notes what it reports of a type definition. -/
theorem reports_typeDefinition? (entry : Ir.TypeEntry) :
    (typeDefinition? registry entry).Reports IsNote :=
  (reports_body registry entry.body).bind fun _ =>
    (reports_identifier _ _).bind fun _ => reports_pure _

/-- Raising notes what it reports of results. -/
theorem reports_results (output : Ir.TypeExpr) : (results registry output).Reports IsNote := by
  unfold results
  split
  · exact reports_pure _
  · exact reports_elementTypes registry _
  · exact (reports_type? registry _).bind fun _ => reports_pure _

/-- Raising notes what it reports of a function. -/
theorem reports_function? (entry : Ir.ValueEntry) :
    (function? registry entry).Reports IsNote :=
  (reports_kept (reports_parameter? registry)).bind fun _ =>
    (reports_results registry entry.output).bind fun _ =>
      (reports_identifier _ _).bind fun _ => reports_pure _

/-- Raising notes what it reports of a module. -/
theorem reports_package (module : Ir.Module) :
    (Raising.package registry module).Reports IsNote :=
  (reports_kept (reports_typeDefinition? registry)).bind fun _ =>
    (reports_kept (reports_function? registry)).bind fun _ =>
      reports_pure _

end WitBridge.Raising
