import WitBridge.Proofs.Package.Document
import WitBridge.Proofs.Package.Rewriting

/-!
# Writing and reading back what was read

A package that was read from a source is read back from its written form as itself, with escapes
where names spell reserved words. Such names are names of members only, for the grammar reads no
other name that is a reserved word without its escape. Writing what is read back gives the same
text again.
-/
namespace WitBridge

/-- Escapes for all reserved words, and documentation as it is written. -/
def Rewriting.escapes (layout : Layout) : Rewriting :=
  ⟨Identifier.settled, Identifier.settled, Documentation.kept layout, id⟩

/-- Escapes for reserved words that name members, and documentation as it is written. -/
def Rewriting.memberEscapes (layout : Layout) : Rewriting :=
  ⟨id, Identifier.settled, Documentation.kept layout, id⟩

/-- The package with an escape on each name that spells a reserved word, and without
documentation where it is not written. -/
def Package.normal (layout : Layout) (package : Package) : Package :=
  package.rewrite (.escapes layout)

variable (layout : Layout)

/-- All escapes are added by reading back. -/
theorem Rewriting.escapes_rereads : (escapes layout).Rereads layout :=
  ⟨fun _ settled => settled, fun _ => rfl, fun _ => rfl, fun _ _ => rfl⟩

/-- The escapes of members are added by reading back. -/
theorem Rewriting.memberEscapes_rereads : (memberEscapes layout).Rereads layout :=
  ⟨fun _ _ => rfl, fun _ => rfl, fun _ => rfl, fun _ _ => rfl⟩

/-- A package that was read has no reserved word without an escape but as the name of a member. -/
theorem Package.WellRead.normal_eq {package : Package} (read : package.WellRead) :
    package.normal layout = package.rewrite (.memberEscapes layout) :=
  (reread_eq_rewrite (Rewriting.escapes_rereads layout) read).symm.trans
    (reread_eq_rewrite (Rewriting.memberEscapes_rereads layout) read)

section Written

/-- Documentation that is kept is written as it was. -/
theorem Documentation.lineList_kept (docs : Documentation) :
    (docs.kept layout).lineList layout = docs.lineList layout := by
  unfold kept lineList
  split <;> rfl

/-- Escapes of members change no parameter. -/
theorem Parameter.rewrite_memberEscapes (parameter : Parameter) :
    parameter.rewrite (.memberEscapes layout) = parameter := by
  rw [rewrite, Rewriting.memberEscapes, TypeExpr.mapNames_id]
  rfl

/-- Escapes of members change no parameter. -/
theorem Parameter.map_rewrite_memberEscapes (parameters : List Parameter) :
    parameters.map (Parameter.rewrite (.memberEscapes layout)) = parameters :=
  map_eq_self fun parameter _ => parameter.rewrite_memberEscapes layout

/-- Escapes of members change no type of a function. -/
theorem Function.rewrite_memberEscapes (function : Function) :
    function.rewrite (.memberEscapes layout) =
      { function with docs := function.docs.kept layout } := by
  have results : function.results.map (TypeExpr.mapNames id) = function.results :=
    map_eq_self fun type _ => type.mapNames_id
  rw [rewrite, Parameter.map_rewrite_memberEscapes]
  exact congrArg
    (fun results => { function with results := results, docs := function.docs.kept layout }) results

/-- A function is written the same way. -/
theorem Function.lineList_rewrite (function : Function) :
    (function.rewrite (.memberEscapes layout)).lineList layout = function.lineList layout := by
  rw [rewrite_memberEscapes, lineList, Documentation.lineList_kept]
  rfl

/-- A field is written the same way. -/
theorem Field.lineList_rewrite (field : Field) :
    (field.rewrite (.memberEscapes layout)).lineList layout = field.lineList layout := by
  have type := field.type.mapNames_id
  simp only [rewrite, Rewriting.memberEscapes, type, lineList, Documentation.lineList_kept,
    Identifier.written_settled]

/-- A case is written the same way. -/
theorem Case.lineList_rewrite (case : Case) :
    (case.rewrite (.memberEscapes layout)).lineList layout = case.lineList layout := by
  have payload : case.payload.map (TypeExpr.mapNames id) = case.payload :=
    option_map_eq_self fun type _ => type.mapNames_id
  simp only [rewrite, Rewriting.memberEscapes, payload, lineList, Documentation.lineList_kept,
    Identifier.written_settled]

/-- A method is written the same way. -/
theorem Method.lineList_rewrite (method : Method) :
    (method.rewrite (.memberEscapes layout)).lineList layout = method.lineList layout := by
  rw [rewrite, Function.rewrite_memberEscapes, lineList, lineList, Documentation.lineList_kept,
    show (Rewriting.memberEscapes layout).member = Identifier.settled from rfl,
    Identifier.written_settled]
  rfl

/-- A definition is written the same way. -/
theorem Definition.lineList_rewrite (name : String) (body : Definition) :
    (body.rewrite (.memberEscapes layout)).lineList layout name = body.lineList layout name := by
  cases body with
  | record fields =>
    simp only [rewrite, lineList, List.flatMap_map, Field.lineList_rewrite]
  | variant cases =>
    simp only [rewrite, lineList, List.flatMap_map, Case.lineList_rewrite]
  | enum names => rw [rewrite, show names.map (Rewriting.memberEscapes layout).name = names from
      List.map_id names]
  | flags names => rw [rewrite, show names.map (Rewriting.memberEscapes layout).name = names from
      List.map_id names]
  | resource constructor methods =>
    have parameters : constructor.map (·.map (Parameter.rewrite (.memberEscapes layout))) =
        constructor :=
      option_map_eq_self fun parameters _ => Parameter.map_rewrite_memberEscapes layout parameters
    rw [rewrite, parameters, lineList_resource, lineList_resource]
    simp only [resourceLines, List.flatMap_map, Method.lineList_rewrite, List.map_eq_nil_iff]
  | synonym target =>
    rw [rewrite, show target.mapNames (Rewriting.memberEscapes layout).name = target from
      target.mapNames_id]

/-- A type definition is written the same way. -/
theorem TypeDefinition.lineList_rewrite (definition : TypeDefinition) :
    (definition.rewrite (.memberEscapes layout)).lineList layout = definition.lineList layout := by
  obtain ⟨name, body, docs⟩ := definition
  have named :
      (rewrite (.memberEscapes layout) ⟨name, body, docs⟩).name.written = name.written := by
    cases body with
    | variant cases => exact name.written_settled
    | record | enum | flags | resource | synonym => rfl
  rw [lineList, named]
  exact congrArg₂ (· ++ ·) (Documentation.lineList_kept layout docs)
    (Definition.lineList_rewrite layout name.written body)

/-- Escapes of members change no use. -/
theorem Use.rewrite_memberEscapes (use : Use) : use.rewrite (.memberEscapes layout) = use := by
  obtain ⟨path, items, renamed⟩ := use
  have same : path.rewrite (.memberEscapes layout) = path := by cases path <;> rfl
  have kept : items.map (UseItem.rewrite (.memberEscapes layout)) = items :=
    map_eq_self fun item _ => by
      rw [UseItem.rewrite,
        show item.renamed.map (Rewriting.memberEscapes layout).name = item.renamed from
          Option.map_id_apply]
      rfl
  rw [rewrite, same, kept, show renamed.map (Rewriting.memberEscapes layout).name = renamed from
    Option.map_id_apply]

/-- Uses are the same. -/
theorem Use.map_rewrite_memberEscapes (uses : List Use) :
    uses.map (Use.rewrite (.memberEscapes layout)) = uses :=
  map_eq_self fun use _ => use.rewrite_memberEscapes layout

/-- The members of an interface are written the same way. -/
theorem Interface.memberLines_rewrite (interface : Interface) :
    (interface.rewrite (.memberEscapes layout)).memberLines layout =
      interface.memberLines layout := by
  rw [memberLines, rewrite, Use.map_rewrite_memberEscapes]
  simp only [List.flatMap_map, TypeDefinition.lineList_rewrite, Function.lineList_rewrite,
    memberLines]

/-- An interface is written the same way. -/
theorem Interface.lineList_rewrite (interface : Interface) :
    (interface.rewrite (.memberEscapes layout)).lineList layout = interface.lineList layout := by
  rw [lineList, memberLines_rewrite]
  exact congrArg (· ++ _) (Documentation.lineList_kept layout interface.docs)

/-- A world item is written the same way. -/
theorem WorldItem.lineList_rewrite (direction : String) (item : WorldItem) :
    (item.rewrite (.memberEscapes layout)).lineList layout direction =
      item.lineList layout direction := by
  cases item with
  | inline name interface =>
    rw [rewrite, lineList, Interface.memberLines_rewrite]
    exact congrArg (· ++ _) (Documentation.lineList_kept layout interface.docs)
  | external name path => cases path <;> rfl
  | function found =>
    rw [rewrite, lineList, Function.rewrite_memberEscapes]
    exact congrArg (· ++ _) (Documentation.lineList_kept layout found.docs)

/-- A world is written the same way. -/
theorem World.lineList_rewrite (world : World) :
    (world.rewrite (.memberEscapes layout)).lineList layout = world.lineList layout := by
  have docs := Documentation.lineList_kept layout world.docs
  simp only [lineList, rewrite, Use.map_rewrite_memberEscapes, List.flatMap_map,
    WorldItem.lineList_rewrite]
  exact congrArg (· ++ _) docs

/-- Escapes of members, and documentation as it is written, do not change how a package is
written. -/
theorem Package.render_rewrite (package : Package) :
    (package.rewrite (.memberEscapes layout)).render layout = package.render layout := by
  have header : ∀ header : PackageHeader,
      PackageHeader.lineList layout { header with docs := header.docs.kept layout } =
        header.lineList layout := fun header =>
    congrArg (· ++ _) (Documentation.lineList_kept layout header.docs)
  have sections : (package.rewrite (.memberEscapes layout)).sections layout =
      package.sections layout := by
    have headers : (package.rewrite (.memberEscapes layout)).header.toList.flatMap
        (PackageHeader.lineList layout) =
          package.header.toList.flatMap (PackageHeader.lineList layout) := by
      cases found : package.header with
      | none => simp [rewrite, found]
      | some opening =>
        simp only [rewrite, found, Option.map_some, Option.toList_some, List.flatMap_singleton]
        exact header opening
    simp only [Package.sections, headers]
    simp only [rewrite, Use.map_rewrite_memberEscapes, List.map_map, Function.comp_def,
      Interface.lineList_rewrite, World.lineList_rewrite]
  rw [render, sections, render]

end Written

/-- Documentation that was read has no newline in a line. -/
theorem Documentation.Tidy.single {docs : Documentation} (tidy : docs.Tidy) : docs.SingleLines :=
  fun line listed => (tidy line listed).1

/-- What was read can be written so that it can be read. -/
theorem Definition.WellRead.legible {body : Definition} (read : body.WellRead) : body.Legible := by
  cases body with
  | record fields => exact fun field listed => (read field listed).docs.single
  | variant cases => exact fun case listed => (read case listed).docs.single
  | resource constructor methods =>
    exact fun method listed => (read.2 method listed).function.docs.single
  | enum | flags | synonym => trivial

/-- A path that was read is legible. -/
theorem UsePath.WellRead.legible {path : UsePath} (read : path.WellRead) : path.Legible := by
  cases path with
  | sibling name => trivial
  | external vendor package interface version => exact read

/-- An interface that was read is legible. -/
theorem Interface.WellRead.legible {interface : Interface} (read : interface.WellRead) :
    interface.Legible where
  docs := read.docs.single
  types definition listed :=
    ⟨(read.types definition listed).docs.single, (read.types definition listed).body.legible⟩
  functions function listed := (read.functions function listed).2.docs.single
  uses use listed := (read.uses use listed).path.legible

/-- A world item that was read is legible. -/
theorem WorldItem.WellRead.legible {item : WorldItem} (read : item.WellRead) : item.Legible := by
  cases item with
  | inline name interface => exact Interface.WellRead.legible read.2
  | external name path =>
    cases path with
    | sibling found => trivial
    | external vendor package interface version =>
      exact ⟨UsePath.WellRead.legible read.2.1, read.2.2⟩
  | function found => exact Documentation.Tidy.single read.2.docs

/-- A world that was read is legible. -/
theorem World.WellRead.legible {world : World} (read : world.WellRead) : world.Legible where
  docs := read.docs.single
  imports item listed := (read.imports item listed).legible
  exports item listed := (read.exports item listed).legible
  uses use listed := (read.uses use listed).path.legible

/-- A package that was read is legible. -/
theorem Package.WellRead.legible {package : Package} (read : package.WellRead) :
    package.Legible where
  header header found :=
    ⟨(read.header header found).docs.single, (read.header header found).version⟩
  interfaces interface listed := (read.interfaces interface listed).legible
  worlds world listed := (read.worlds world listed).legible
  uses use listed := (read.uses use listed).path.legible

/-- A package that was read from a source is read back from its written form, in any layout, with
its reserved words escaped and its documentation as it is written; these reserved words name
members; and what is read back is written in the same way. -/
theorem Package.parse_render_of_parse {source : String} {package : Package}
    (read : parse source = .ok package) (layout : Layout) :
    parse (package.render layout) = .ok (package.normal layout) ∧
      package.normal layout = package.rewrite (.memberEscapes layout) ∧
      (package.normal layout).render layout = package.render layout := by
  have wellRead := wellRead_of_parse read
  have normal := wellRead.normal_eq layout
  refine ⟨?_, normal, ?_⟩
  · rw [parse_render package layout wellRead.legible,
      reread_eq_rewrite (Rewriting.escapes_rereads layout) wellRead]
    rfl
  · rw [normal, render_rewrite]

/-- A field that is named by a reserved word is read back with its escape. -/
theorem Package.parse_render_of_parse_reservedField :
    ∃ package, parse "interface shapes \x7b record point \x7b type: u32 \x7d \x7d" = .ok package ∧
      package.normal {} ≠ package ∧
      parse (package.render {}) = .ok (package.normal {}) ∧
      package.normal {} = package.rewrite (.memberEscapes {}) ∧
      (package.normal {}).render {} = package.render {} := by
  let point : TypeDefinition :=
    ⟨⟨false, "point", by decide⟩, .record [⟨⟨false, "type", by decide⟩, .primitive .u32, {}⟩], {}⟩
  let package : Package := ⟨none, [⟨⟨false, "shapes", by decide⟩, [point], [], [], {}⟩], [], []⟩
  have read :
      parse "interface shapes \x7b record point \x7b type: u32 \x7d \x7d" = .ok package := by
    decide +kernel
  exact ⟨package, read, by decide, parse_render_of_parse read {}⟩

end WitBridge
