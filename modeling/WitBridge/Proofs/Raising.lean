import WitBridge.Build
import WitBridge.Proofs.Diagnostic
import WitBridge.Proofs.Package.Raised

/-!
# What a module becomes

Whatever the module and the registry, the package that a module becomes is raised: its types are
carried, and its documentation is in lines without newlines. So its text is read, and what is read
agrees with the package.
-/
namespace WitBridge

/-- No piece of a text holds the separator. -/
theorem Text.not_mem_of_mem_pieces {separator : Char} {text : List Char} :
    ∀ piece ∈ Text.pieces separator text, separator ∉ piece := by
  induction text with
  | nil =>
    intro piece listed
    obtain rfl := List.mem_singleton.1 listed
    exact List.not_mem_nil
  | cons c rest ih =>
    unfold pieces
    split
    · exact List.forall_mem_cons.2 ⟨List.not_mem_nil, ih⟩
    · next other =>
      cases parts : pieces separator rest with
      | nil => exact absurd parts (pieces_ne_nil separator rest)
      | cons first more =>
        rw [parts] at ih
        obtain ⟨absent, others⟩ := List.forall_mem_cons.1 ih
        refine List.forall_mem_cons.2 ⟨fun listed => ?_, others⟩
        rcases List.mem_cons.1 listed with same | listed
        · exact other same.symm
        · exact absent listed

/-- Documentation that is made of a text has no newline in a line. -/
theorem Documentation.single_ofText (text : String) : (ofText text).SingleLines := by
  unfold ofText
  split
  · exact nofun
  · intro line listed
    obtain ⟨piece, inside, rfl⟩ := List.mem_map.1 listed
    rw [String.toList_ofList]
    exact Text.not_mem_of_mem_pieces piece inside

namespace Raising

variable (registry : Mapping.Registry)

/-- What stands for a missing type is carried. -/
theorem carried_placeholder {type : Option TypeExpr} (carried : ∀ found ∈ type, found.Carried) :
    (placeholder type).Carried := by
  cases type with
  | none => rfl
  | some found => exact carried found rfl

mutual
/-- The type that an IR type becomes is carried. -/
theorem carried_type? (type : Ir.TypeExpr) :
    ∀ found ∈ (type? registry type).value, found.Carried := by
  cases type with
  | var name =>
    intro found same
    simp only [type?, Reported.bind_value, Reported.pure_eq] at same
    obtain ⟨identifier, -, rfl⟩ := Option.map_eq_some_iff.1 same
    rfl
  | reference name parameters =>
    simp only [type?, Reported.bind_value]
    split
    · exact nofun
    · rintro found ⟨⟩; rfl
    · rintro found ⟨⟩; rfl
    · exact carried_container _ parameters
  | tuple elements =>
    simp only [type?, Reported.bind_value, Reported.pure_eq]
    rintro found ⟨⟩
    rw [TypeExpr.Carried, TypeExpr.carried, TypeExpr.carriedList_eq_all, List.all_eq_true]
    exact carried_elementTypes elements
  | record fields => exact nofun
  | unit => exact nofun
/-- The container that a reference becomes is carried. -/
theorem carried_container (kind : ContainerKind) (parameters : List Ir.TypeExpr) :
    ∀ found ∈ (container registry kind parameters).value, found.Carried := by
  match kind, parameters with
  | .list, element :: _ =>
    simp only [container, Reported.bind_value, Reported.pure_eq]
    rintro found ⟨⟩
    exact carried_placeholder (carried_type? element)
  | .option, inner :: _ =>
    simp only [container, Reported.bind_value, Reported.pure_eq]
    rintro found ⟨⟩
    exact carried_placeholder (carried_type? inner)
  | .result, err :: ok :: _ =>
    simp only [container, Reported.bind_value, Reported.pure_eq]
    rintro found ⟨⟩
    rw [TypeExpr.Carried, TypeExpr.carried, Bool.and_eq_true]
    exact ⟨TypeExpr.carriedOption_iff.2 (carried_type? ok),
      TypeExpr.carriedOption_iff.2 (carried_type? err)⟩
  | .list, [] | .option, [] | .result, [] | .result, [_] => exact nofun
/-- The types that elements become are carried. -/
theorem carried_elementTypes (elements : List Ir.TypeExpr) :
    ∀ found ∈ (elementTypes registry elements).value, found.Carried := by
  cases elements with
  | nil => exact nofun
  | cons first rest =>
    simp only [elementTypes, Reported.bind_value, Reported.pure_eq]
    exact List.forall_mem_cons.2
      ⟨carried_placeholder (carried_type? first), carried_elementTypes rest⟩
end

/-- A type for a place that cannot be empty is carried. -/
theorem carried_required (type : Ir.TypeExpr) : (required registry type).value.Carried :=
  carried_placeholder (carried_type? registry type)

/-- What is kept of a list is what its items become. -/
theorem mem_kept {α β : Type} {make : α → Reported (Option β)} {items : List α} {found : β}
    (listed : found ∈ (kept make items).value) :
    ∃ item ∈ items, (make item).value = some found := by
  simp only [kept, Reported.bind_value, Reported.pure_eq, Reported.value_mapM] at listed
  obtain ⟨value, inside, same⟩ := List.mem_filterMap.1 listed
  obtain ⟨item, member, rfl⟩ := List.mem_map.1 inside
  exact ⟨item, member, same⟩

/-- The body that a definition becomes is raised. -/
theorem raised_body (body : Ir.TypeBody) : (Raising.body registry body).value.Raised := by
  have single : Documentation.SingleLines {} := nofun
  unfold Raising.body
  split
  · simp only [Reported.bind_value, Reported.pure_eq]
    intro field listed
    obtain ⟨source, -, made⟩ := mem_kept listed
    simp only [field?, Reported.bind_value] at made
    split at made
    · contradiction
    · simp only [Reported.bind_value, Reported.pure_eq, Option.some.injEq] at made
      subst made
      exact ⟨carried_required registry source.2, single⟩
  · exact carried_required registry _
  · split
    · trivial
    · simp only [Reported.bind_value, Reported.pure_eq]
      intro case listed
      obtain ⟨source, -, made⟩ := mem_kept listed
      simp only [case?, Reported.bind_value] at made
      split at made
      · contradiction
      · split at made
        · simp only [Reported.pure_eq, Option.some.injEq] at made
          subst made
          exact ⟨nofun, single⟩
        · next type _ _ =>
          simp only [Reported.bind_value, Reported.pure_eq, Option.some.injEq] at made
          subst made
          refine ⟨?_, single⟩
          rintro found ⟨⟩
          exact carried_required registry _

/-- The type definition that an entry becomes is raised. -/
theorem raised_typeDefinition {entry : Ir.TypeEntry} {definition : TypeDefinition}
    (made : (typeDefinition? registry entry).value = some definition) : definition.Raised := by
  simp only [typeDefinition?, Reported.bind_value, Reported.pure_eq] at made
  obtain ⟨name, -, rfl⟩ := Option.map_eq_some_iff.1 made
  exact ⟨raised_body registry entry.body, Documentation.single_ofText entry.doc⟩

/-- The results that an output becomes are carried. -/
theorem carried_results (output : Ir.TypeExpr) :
    ∀ type ∈ (results registry output).value, type.Carried := by
  unfold results
  split
  · exact nofun
  · exact carried_elementTypes registry _
  · simp only [Reported.bind_value, Reported.pure_eq]
    intro type listed
    exact carried_type? registry output type (by simpa using listed)

/-- The function that an entry becomes is raised. -/
theorem raised_function {entry : Ir.ValueEntry} {function : Function}
    (made : (function? registry entry).value = some function) : function.Raised := by
  simp only [function?, Reported.bind_value, Reported.pure_eq] at made
  obtain ⟨name, -, rfl⟩ := Option.map_eq_some_iff.1 made
  refine ⟨fun parameter listed => ?_, carried_results registry entry.output,
    Documentation.single_ofText entry.doc⟩
  obtain ⟨input, -, made⟩ := mem_kept listed
  simp only [parameter?, Reported.bind_value] at made
  split at made
  · contradiction
  · simp only [Reported.bind_value, Reported.pure_eq, Option.some.injEq] at made
    subst made
    exact carried_required registry input.2

/-- The package that a module becomes is raised. -/
theorem raised_package (module : Ir.Module) : (Raising.package registry module).value.Raised := by
  simp only [Raising.package, Reported.bind_value, Reported.pure_eq]
  refine ⟨?_, ?_, rfl, rfl⟩
  · rintro header ⟨⟩
    refine ⟨?_, rfl⟩
    cases module.doc with
    | none => exact nofun
    | some doc => exact Documentation.single_ofText doc
  · intro interface listed
    obtain rfl := List.mem_singleton.1 listed
    refine ⟨fun definition member => ?_, fun function member => ?_, rfl, nofun⟩
    · obtain ⟨entry, -, made⟩ := mem_kept member
      exact raised_typeDefinition registry made
    · obtain ⟨entry, -, made⟩ := mem_kept member
      exact raised_function registry made

end Raising

/-- The source text of every module is read as its package with three changes, and the two
agree: reserved words carry their escapes, several results are one tuple, and documentation is as
it is written. -/
theorem parse_gen (module : Ir.Module) (options : GenOptions) (registry : Mapping.Registry) :
    ∃ output, (gen module options registry).output = some output ∧
      Package.parse output.source = .ok (output.package.rewrite (.written options.layout)) ∧
      output.package.agrees (output.package.rewrite (.written options.layout)) = true := by
  have raised := Raising.raised_package registry module
  refine ⟨⟨(Raising.package registry module).value, _⟩, rfl, ?_, raised.agrees options.layout⟩
  rw [← raised.reread_eq options.layout]
  exact Package.parse_render _ options.layout raised.legible

end WitBridge
