import WitBridge.Proofs.Ir.WitShape
import WitBridge.Proofs.Package.Image
import WitBridge.Proofs.Raising

/-!
# Modules that come back

A module in the shape of WIT is raised to a package, and what is read from the text of the
package is lowered to the module. Each part of the module comes back on its own: reading settles
the names of what was raised, which changes no name of the IR.
-/
namespace WitBridge

open Lowering (lenient)
open Raising (placeholder type? elementTypes)
open Mapping (witRegistry)

/-- Where each item comes back from what it becomes, the list does. -/
theorem Raising.map_kept {α β : Type} (make : α → Reported (Option β)) (back : β → α)
    {items : List α}
    (each : ∀ item ∈ items, ∃ found, (make item).value = some found ∧ back found = item) :
    (kept make items).value.map back = items := by
  simp only [kept, Reported.bind_value, Reported.pure_eq, Reported.value_mapM,
    List.filterMap_map]
  induction items with
  | nil => rfl
  | cons first rest ih =>
    obtain ⟨⟨found, made, same⟩, others⟩ := List.forall_mem_cons.1 each
    have head : (id ∘ fun item => (make item).value) first = some found := made
    rw [List.filterMap_cons_some head, List.map_cons, same, ih others]

namespace Ir.TypeExpr

/-- A type of the IR that comes back from the type it is raised to. -/
def Returns (type : Ir.TypeExpr) : Prop :=
  ∃ found, (type? witRegistry type).value = some found ∧
    (lenient.type found.settled).value = type

/-- Types of the IR that come back from the elements they are raised to. -/
theorem returns_elements {elements : List Ir.TypeExpr}
    (each : ∀ element ∈ elements, element.Returns) :
    ∃ founds, (elementTypes witRegistry elements).value = founds ∧
      founds.length = elements.length ∧
      (lenient.types (WitBridge.TypeExpr.mapNamesList Identifier.settled founds)).value =
        elements := by
  induction elements with
  | nil => exact ⟨[], rfl, rfl, rfl⟩
  | cons first rest ih =>
    obtain ⟨⟨found, raised, back⟩, others⟩ := List.forall_mem_cons.1 each
    obtain ⟨founds, raisedRest, length, backRest⟩ := ih others
    refine ⟨found :: founds, ?_, by simp [length], ?_⟩
    · simp only [elementTypes, Reported.bind_value, Reported.pure_eq, raised, raisedRest]
      rfl
    · change _ :: _ = _
      rw [backRest]
      exact congrArg (· :: rest) back

/-- A side of a result comes back, whether it is the unit or a type that comes back. -/
theorem returns_side {side : Ir.TypeExpr} (returns : side ≠ .unit → side.Returns) :
    ∃ found, (type? witRegistry side).value = found ∧
      (lenient.optional (WitBridge.TypeExpr.mapNamesOption Identifier.settled found)).value =
        side := by
  by_cases empty : side = .unit
  · subst empty
    exact ⟨none, rfl, rfl⟩
  · obtain ⟨found, raised, back⟩ := returns empty
    exact ⟨some found, raised, back⟩

/-- A basic type comes back. -/
theorem returns_basic {name : String} (listed : name ∈ basicNames) : (basics name).Returns := by
  have kind : ∃ kind : Primitive, kind.basic = name := by
    simp only [basicNames, List.mem_cons, List.not_mem_nil, or_false] at listed
    rcases listed with rfl | rfl | rfl | rfl | rfl
    · exact ⟨.u32, rfl⟩
    · exact ⟨.f64, rfl⟩
    · exact ⟨.bool, rfl⟩
    · exact ⟨.string, rfl⟩
    · exact ⟨.char, rfl⟩
  obtain ⟨kind, rfl⟩ := kind
  refine ⟨.primitive kind.image, Raising.type?_basics kind, ?_⟩
  change (lenient.primitive kind.image).value = _
  rw [Lowering.value_primitive, kind.basic_image]

/-- Every proper type comes back. -/
theorem Proper.returns {type : Ir.TypeExpr} (proper : type.Proper) : type.Returns := by
  induction proper with
  | var worded =>
    refine ⟨.named worded.identifier, ?_, ?_⟩
    · rw [type?, worded.raised]
      rfl
    · exact congrArg Ir.TypeExpr.var worded.irName_identifier
  | basic listed => exact returns_basic listed
  | list _ ih =>
    obtain ⟨found, raised, back⟩ := ih
    refine ⟨.list found, ?_, ?_⟩
    · rw [← Lowering.listOf_lenient, Raising.type?_listOf, raised]
      rfl
    · change lenient.listOf (lenient.type found.settled).value = _
      rw [back, Lowering.listOf_lenient]
  | maybe _ ih =>
    obtain ⟨found, raised, back⟩ := ih
    refine ⟨.option found, ?_, ?_⟩
    · rw [← Lowering.optionOf_lenient, Raising.type?_optionOf, raised]
      rfl
    · change lenient.optionOf (lenient.type found.settled).value = _
      rw [back, Lowering.optionOf_lenient]
  | result _ _ err_ih ok_ih =>
    obtain ⟨err, err_raised, err_back⟩ := returns_side err_ih
    obtain ⟨ok, ok_raised, ok_back⟩ := returns_side ok_ih
    refine ⟨.result ok err, ?_, ?_⟩
    · rw [← Lowering.resultOf_lenient, Raising.type?_resultOf, err_raised, ok_raised]
    · change lenient.resultOf (lenient.optional _).value (lenient.optional _).value = _
      rw [err_back, ok_back, Lowering.resultOf_lenient]
  | tuple _ ih =>
    obtain ⟨founds, raised, -, back⟩ := returns_elements ih
    refine ⟨.tuple founds, ?_, ?_⟩
    · simp only [type?, Reported.bind_value, Reported.pure_eq, raised]
    · exact congrArg Ir.TypeExpr.tuple back

end Ir.TypeExpr

/-- A text that does not end in a blank loses nothing. -/
theorem Text.trimEnd_eq_self {text : List Char} (dark : ∀ c ∈ text.getLast?, isBlank c = false) :
    trimEnd text = text := by
  rcases List.eq_nil_or_concat text with rfl | ⟨front, c, rfl⟩
  · exact trimEnd_nil
  · rw [List.concat_eq_append] at dark ⊢
    exact trimEnd_append_singleton (dark c (by simp))

/-- Trimmed documentation comes back. -/
theorem Documentation.reread_ofText {doc : String} (trimmed : Ir.IsTrimmed doc) :
    (ofText doc).reread {} = ofText doc := by
  have tidy : (ofText doc).Tidy := fun line listed =>
    ⟨single_ofText doc line listed, Text.trimEnd_eq_self (trimmed line listed)⟩
  exact tidy.reread_eq {}

section Members

/-- A field comes back. -/
theorem Ir.returns_field {field : Ir.Name × Ir.TypeExpr} (worded : field.1.Worded)
    (proper : field.2.Proper) :
    ∃ found, (Raising.field? witRegistry field).value = some found ∧
      (lenient.field (found.reread {})).value = field := by
  obtain ⟨found, raised, back⟩ := proper.returns
  refine ⟨{ name := worded.identifier, type := found }, ?_, ?_⟩
  · simp only [Raising.field?, worded.raised, Raising.required, Reported.bind_value,
      Reported.pure_eq, raised]
    rfl
  · exact Prod.ext worded.irName_identifier back

/-- An input comes back. -/
theorem Ir.returns_input {input : Ir.Name × Ir.TypeExpr} (worded : input.1.Worded)
    (proper : input.2.Proper) :
    ∃ found, (Raising.parameter? witRegistry input).value = some found ∧
      (lenient.parameter found.settled).value = input := by
  obtain ⟨found, raised, back⟩ := proper.returns
  refine ⟨⟨worded.identifier, found⟩, ?_, ?_⟩
  · simp only [Raising.parameter?, worded.raised, Raising.required, Reported.bind_value,
      Reported.pure_eq, raised]
    rfl
  · exact Prod.ext worded.irName_identifier back

/-- The word that names the argument of a constructor is the name. -/
theorem Ir.Name.ofText_value : Ir.Name.ofText "value" = ⟨["value"]⟩ := by
  decide +kernel

/-- A constructor comes back as a case. -/
theorem Ir.Constructor.WitShaped.returns {constructor : Ir.Constructor}
    (shaped : constructor.WitShaped) :
    ∃ found, (Raising.case? witRegistry constructor).value = some found ∧
      (lenient.case (found.reread {})).value = constructor := by
  obtain ⟨name, arguments⟩ := constructor
  have named := shaped.name.raised "variant case name"
  have kept := shaped.name.irName_identifier
  rcases shaped.arguments with none | ⟨type, one, proper⟩
  · obtain rfl : arguments = [] := none
    refine ⟨{ name := shaped.name.identifier, payload := none }, ?_, ?_⟩
    · simp only [Raising.case?, named, Reported.bind_value, Reported.pure_eq]
    · exact congrArg (Ir.Constructor.mk · []) kept
  · obtain rfl : arguments = [(⟨["value"]⟩, type)] := one
    obtain ⟨found, raised, back⟩ := proper.returns
    refine ⟨{ name := shaped.name.identifier, payload := some found }, ?_, ?_⟩
    · simp only [Raising.case?, named, Reported.bind_value, Reported.pure_eq, Raising.required,
        raised]
      rfl
    · change Ir.Constructor.mk _ [(Ir.Name.ofText "value", (lenient.type found.settled).value)] = _
      rw [back, Ir.Name.ofText_value]
      exact congrArg (Ir.Constructor.mk · _) kept

/-- A constructor without arguments comes back as a name. -/
theorem Ir.Constructor.WitShaped.returns_name {constructor : Ir.Constructor}
    (shaped : constructor.WitShaped) (none : constructor.arguments = []) :
    ∃ found, (Raising.identifier "enum case name" constructor.name).value = some found ∧
      Ir.Constructor.mk found.settled.irName [] = constructor := by
  refine ⟨shaped.name.identifier, ?_, ?_⟩
  · rw [shaped.name.raised]
    rfl
  · obtain ⟨name, arguments⟩ := constructor
    obtain rfl : arguments = [] := none
    exact congrArg (Ir.Constructor.mk · []) shaped.name.irName_identifier

/-- Another name for a proper type comes back. -/
theorem Ir.TypeExpr.Proper.returns_synonym {target : Ir.TypeExpr} (proper : target.Proper)
    (name : Identifier) (docs : Documentation) :
    (lenient.body
      ⟨name, (Raising.body witRegistry (.synonym target)).value.reread {}, docs⟩).value =
      .synonym target := by
  have plain : ∀ fields, target ≠ .record fields := by
    rintro fields rfl
    cases proper
  obtain ⟨found, raised, back⟩ := proper.returns
  rw [Raising.value_body_synonym _ plain, raised]
  exact congrArg Ir.TypeBody.synonym back

/-- A definition comes back, whatever its name and documentation. -/
theorem Ir.TypeBody.WitShaped.returns {body : Ir.TypeBody} (shaped : body.WitShaped)
    (name : Identifier) (docs : Documentation) :
    (lenient.body ⟨name, (Raising.body witRegistry body).value.reread {}, docs⟩).value = body := by
  cases body with
  | synonym target =>
    cases target with
    | record fields =>
      have each : ∀ field ∈ fields, field.1.Worded ∧ field.2.Proper := shaped
      have kept := Raising.map_kept (Raising.field? witRegistry)
        (fun found => (lenient.field (found.reread {})).value)
        fun field listed => returns_field (each field listed).1 (each field listed).2
      simp only [Raising.body, Reported.bind_value, Reported.pure_eq, Definition.reread,
        Lowering.body, Reported.value_mapM, List.map_map]
      exact congrArg (fun fields => Ir.TypeBody.synonym (.record fields)) kept
    | var | reference | tuple | unit => exact TypeExpr.Proper.returns_synonym shaped name docs
  | custom access constructors =>
    obtain ⟨visible, each⟩ := shaped
    subst visible
    by_cases none : constructors.all (·.arguments.isEmpty) = true
    · have empty := List.all_eq_true.1 none
      have kept := Raising.map_kept
        (fun constructor : Ir.Constructor => Raising.identifier "enum case name" constructor.name)
        (fun found => ⟨found.settled.irName, []⟩)
        fun constructor listed => (each constructor listed).returns_name
          (List.isEmpty_iff.1 (empty constructor listed))
      simp only [Raising.body, none, if_true, Reported.bind_value, Reported.pure_eq,
        Definition.reread, Lowering.body, List.map_map]
      exact congrArg (Ir.TypeBody.custom .everyone) kept
    · have kept := Raising.map_kept (Raising.case? witRegistry)
        (fun found => (lenient.case (found.reread {})).value)
        fun constructor listed => (each constructor listed).returns
      simp only [Raising.body, none, Bool.false_eq_true, if_false, Reported.bind_value,
        Reported.pure_eq, Definition.reread, Lowering.body, Reported.value_mapM, List.map_map]
      exact congrArg (Ir.TypeBody.custom .everyone) kept

/-- A type definition comes back. -/
theorem Ir.TypeEntry.WitShaped.returns {entry : Ir.TypeEntry} (shaped : entry.WitShaped) :
    ∃ found, (Raising.typeDefinition? witRegistry entry).value = some found ∧
      (found.reread {}).lowered = entry := by
  have named := shaped.name.raised "identifier"
  have back := shaped.body.returns
  have docs := Documentation.reread_ofText shaped.doc
  refine ⟨⟨shaped.name.identifier, (Raising.body witRegistry entry.body).value,
    Documentation.ofText entry.doc⟩, ?_, ?_⟩
  · simp only [Raising.typeDefinition?, Reported.bind_value, Reported.pure_eq, named]
    rfl
  · obtain ⟨name, access, doc, parameters, body⟩ := entry
    obtain rfl : access = .everyone := shaped.access
    obtain rfl : parameters = [] := shaped.parameters
    rw [TypeDefinition.reread, docs, TypeDefinition.lowered, back, Documentation.text_ofText]
    exact congrArg (Ir.TypeEntry.mk · .everyone doc [] body) shaped.name.irName_identifier

/-- An output comes back from the results that are read. -/
theorem Ir.TypeExpr.IsOutput.returns {output : Ir.TypeExpr} (shaped : output.IsOutput) :
    (lenient.output ((gatheredResults (Raising.results witRegistry output).value).map
      WitBridge.TypeExpr.settled)).value = output := by
  cases output with
  | unit => rfl
  | tuple elements =>
    obtain ⟨several, each⟩ := shaped
    obtain ⟨founds, raised, length, back⟩ :=
      returns_elements fun element listed => (each element listed).returns
    rw [Raising.results, raised]
    rcases founds with _ | ⟨first, _ | ⟨second, rest⟩⟩
    · rw [← length] at several
      contradiction
    · rw [← length] at several
      contradiction
    · exact congrArg Ir.TypeExpr.tuple back
  | record fields =>
    have proper : Proper (.record fields) := shaped
    cases proper
  | var name =>
    obtain ⟨found, raised, back⟩ := Proper.returns shaped
    simp only [Raising.results, Reported.bind_value, Reported.pure_eq, raised]
    exact back
  | reference name parameters =>
    obtain ⟨found, raised, back⟩ := Proper.returns shaped
    simp only [Raising.results, Reported.bind_value, Reported.pure_eq, raised]
    exact back

/-- A value comes back. -/
theorem Ir.ValueEntry.WitShaped.returns {entry : Ir.ValueEntry} (shaped : entry.WitShaped) :
    ∃ found, (Raising.function? witRegistry entry).value = some found ∧
      (found.reread {}).lowered = entry := by
  have named := shaped.name.raised "function name"
  have inputs := Raising.map_kept (Raising.parameter? witRegistry)
    (fun found => (lenient.parameter found.settled).value)
    fun input listed => returns_input (shaped.inputs input listed).1 (shaped.inputs input listed).2
  have output := shaped.output.returns
  have docs := Documentation.reread_ofText shaped.doc
  refine ⟨{ name := shaped.name.identifier
            parameters := (Raising.kept (Raising.parameter? witRegistry) entry.inputs).value
            results := (Raising.results witRegistry entry.output).value
            docs := Documentation.ofText entry.doc }, ?_, ?_⟩
  · simp only [Raising.function?, Reported.bind_value, Reported.pure_eq, named]
    rfl
  · obtain ⟨name, access, doc, given, result⟩ := entry
    obtain rfl : access = .everyone := shaped.access
    rw [Function.lowered, Function.reread, Function.gatheredResults_eq, docs, List.map_map,
      Documentation.text_ofText, Ir.ValueEntry.mk.injEq]
    exact ⟨shaped.name.irName_identifier, rfl, rfl, inputs, output⟩

end Members

/-- A text that is not empty has lines. -/
theorem Documentation.isEmpty_ofText {text : String} (inhabited : text ≠ "") :
    (ofText text).isEmpty = false := by
  rw [ofText, if_neg inhabited, isEmpty, List.isEmpty_eq_false_iff]
  exact List.map_eq_nil_iff.not.2 (Text.pieces_ne_nil _ _)

/-- The documentation of a module comes back. -/
theorem Ir.Module.WitShaped.returns_doc {module : Ir.Module} (shaped : module.WitShaped) :
    (if ((Raising.package witRegistry module).value.reread {}).docs.isEmpty then none
      else some ((Raising.package witRegistry module).value.reread {}).docs.text) = module.doc := by
  obtain ⟨types, values, doc⟩ := module
  cases doc with
  | none => rfl
  | some text =>
    obtain ⟨inhabited, trimmed⟩ := shaped.doc text rfl
    have docs : ((Raising.package witRegistry ⟨types, values, some text⟩).value.reread {}).docs =
        Documentation.ofText text := Documentation.reread_ofText trimmed
    rw [docs, Documentation.isEmpty_ofText inhabited, Documentation.text_ofText]
    rfl

/-- The source text of a module in the shape of WIT is made into the module again. -/
theorem make_gen {module : Ir.Module} (shaped : module.WitShaped) :
    ∃ generated made, (gen module).output = some generated ∧
      (make generated.source).output = some made ∧ made.module = module := by
  have raised := Raising.raised_package witRegistry module
  have parsed := Package.parse_render (Raising.package witRegistry module).value {} raised.legible
  obtain ⟨made, -⟩ := make_of_parse parsed
  refine ⟨_, _, rfl, made, ?_⟩
  have types := Raising.map_kept (Raising.typeDefinition? witRegistry)
    (fun found => (found.reread {}).lowered) fun entry listed => (shaped.types entry listed).returns
  have values := Raising.map_kept (Raising.function? witRegistry)
    (fun found => (found.reread {}).lowered)
    fun entry listed => (shaped.values entry listed).returns
  let interface : Interface :=
    { name := ⟨false, Raising.generated⟩
      types := (Raising.kept (Raising.typeDefinition? witRegistry) module.types).value
      functions := (Raising.kept (Raising.function? witRegistry) module.values).value }
  have interfaces : ((Raising.package witRegistry module).value.reread {}).interfaces =
      [interface.reread {}] := rfl
  have worlds : ((Raising.package witRegistry module).value.reread {}).worlds = [] := rfl
  have doc := shaped.returns_doc
  change (lenient.package _).value = module
  rw [Package.value_package interfaces worlds]
  obtain ⟨entries, signatures, documentation⟩ := module
  rw [Ir.Module.mk.injEq]
  refine ⟨?_, ?_, doc⟩
  · rw [Interface.reread, List.map_map]
    exact types
  · rw [Interface.reread, List.map_map]
    exact values

/-- A module of a variant, with a number in the name of a case, and of a value that yields a
result without an error. -/
def shapes : Ir.Module where
  types :=
    [{ name := ⟨["shape"]⟩, doc := "What is drawn.\n\nAll of it.",
       body := .custom .everyone
         [⟨⟨["dot", "2", "d"]⟩, []⟩, ⟨⟨["disc"]⟩, [(⟨["value"]⟩, .basics "Float")]⟩] }]
  values :=
    [{ name := ⟨["list"]⟩, inputs := [(⟨["type"]⟩, .var ⟨["shape"]⟩)],
       output := .reference (.sdk "Result" "Result") [.unit, .tuple [.var ⟨["shape"]⟩]] }]
  doc := some "Shapes."

/-- The module of shapes comes back. -/
theorem make_gen_shapes :
    shapes.WitShaped ∧ ∃ generated made, (gen shapes).output = some generated ∧
      (make generated.source).output = some made ∧ made.module = shapes := by
  have shape : (⟨["shape"]⟩ : Ir.Name).Worded := by decide +kernel
  have shaped : shapes.WitShaped := by
    refine ⟨?_, ?_, ?_⟩
    · refine List.forall_mem_singleton.2 ⟨shape, rfl, by decide +kernel, rfl, rfl, ?_⟩
      refine List.forall_mem_cons.2 ⟨⟨by decide +kernel, .inl rfl⟩, ?_⟩
      exact List.forall_mem_singleton.2
        ⟨by decide +kernel, .inr ⟨_, rfl, .basic (by decide)⟩⟩
    · refine List.forall_mem_singleton.2 ⟨by decide +kernel, rfl, by decide +kernel, ?_, ?_⟩
      · exact List.forall_mem_singleton.2 ⟨by decide +kernel, .var shape⟩
      · exact .result (fun unit => absurd rfl unit)
          fun _ => .tuple (List.forall_mem_singleton.2 (.var shape))
    · rintro doc ⟨⟩
      exact ⟨by decide, by decide +kernel⟩
  exact ⟨shaped, make_gen shaped⟩

end WitBridge
