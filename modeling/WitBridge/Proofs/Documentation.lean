import WitBridge.Proofs.Building
import WitBridge.Proofs.Package.RoundTrip

/-!
# Documentation by way of the IR

The lines of documentation are one text in the IR and lines again in the text that is generated.
They come back as they were read, for what is read has no newlines in its lines and no blanks at
their ends. Only a single empty line is lost: its text is that of no documentation.
-/
namespace WitBridge

namespace Documentation

variable {docs : Documentation}

/-- Documentation by its text: one empty line has the text of none. -/
def collapsed (docs : Documentation) : Documentation :=
  if docs.lines = [""] then {} else docs

/-- The text of documentation is empty where there are no lines and where one is empty. -/
theorem text_eq_empty_iff : docs.text = "" ↔ docs.lines = [] ∨ docs.lines = [""] := by
  obtain ⟨_ | ⟨first, _ | ⟨second, rest⟩⟩⟩ := docs
  · exact ⟨fun _ => .inl rfl, fun _ => rfl⟩
  · rw [← String.toList_inj, text, String.toList_ofList]
    simp [Text.join]
  · rw [← String.toList_inj, text, String.toList_ofList]
    simp [Text.join]

/-- Lines without newlines are the lines of their text, save for a single empty one. -/
theorem SingleLines.ofText_text (single : docs.SingleLines) :
    ofText docs.text = docs.collapsed := by
  obtain ⟨lines⟩ := docs
  by_cases none : lines = []
  · rw [none]
    rfl
  · by_cases blank : lines = [""]
    · rw [blank]
      rfl
    · have some : text ⟨lines⟩ ≠ "" := text_eq_empty_iff.not.2 (not_or_intro none blank)
      have absent : ∀ line ∈ lines.map String.toList, '\n' ∉ line := List.forall_mem_map.2 single
      have pieces := Text.pieces_join (by simpa using none) absent
      rw [ofText, if_neg some, text, String.toList_ofList, pieces, collapsed, if_neg blank]
      simp [Function.comp_def]

/-- The lines of items without a single empty line depend on the lines of the items only. -/
theorem map_collapsed {α : Type} (docs : α → Documentation) (items : List α) :
    items.map (fun item => (docs item).collapsed.lines) =
      (items.map fun item => (docs item).lines).map fun lines => (collapsed ⟨lines⟩).lines := by
  rw [List.map_map]
  rfl

/-- Tidy documentation is tidy without a single empty line. -/
theorem Tidy.collapsed (tidy : docs.Tidy) : docs.collapsed.Tidy := by
  rw [Documentation.collapsed]
  split
  · exact nofun
  · exact tidy

/-- Tidy documentation comes back by way of its text and of the text that is generated. -/
theorem Tidy.reread_ofText_text (tidy : docs.Tidy) :
    (ofText docs.text).reread {} = docs.collapsed := by
  rw [tidy.single.ofText_text]
  exact tidy.collapsed.reread_eq {}

end Documentation

/-- The definitions that a well-read world item spells out have tidy documentation. -/
theorem WorldItem.WellRead.tidy_definitions {item : WorldItem} (read : item.WellRead) :
    ∀ definition ∈ item.definitions, definition.docs.Tidy := by
  cases item with
  | inline name interface => exact fun definition listed => (read.2.types definition listed).docs
  | external | function => exact nofun

/-- The functions that a well-read world item spells out have tidy documentation. -/
theorem WorldItem.WellRead.tidy_functions {item : WorldItem} (read : item.WellRead) :
    ∀ function ∈ item.functions, function.docs.Tidy := by
  cases item with
  | inline name interface =>
    exact fun function listed => (read.2.functions function listed).2.docs
  | external => exact nofun
  | function found =>
    intro function listed
    obtain rfl := List.mem_singleton.1 listed
    exact read.2.docs

namespace Package

variable {package : Package}

/-- The items of the worlds of a well-read package are well read. -/
theorem WellRead.worldItems (read : package.WellRead) :
    ∀ item ∈ package.worldItems, item.WellRead := by
  intro item listed
  obtain ⟨world, inside, member⟩ := List.mem_flatMap.1 listed
  exact (List.mem_append.1 member).elim ((read.worlds world inside).imports item)
    ((read.worlds world inside).exports item)

/-- The definitions of a well-read package have tidy documentation. -/
theorem WellRead.tidy_definitions (read : package.WellRead) :
    ∀ definition ∈ package.definitions, definition.docs.Tidy := by
  intro definition listed
  rcases List.mem_append.1 listed with listed | listed
  · obtain ⟨interface, inside, member⟩ := List.mem_flatMap.1 listed
    exact ((read.interfaces interface inside).types definition member).docs
  · obtain ⟨item, inside, member⟩ := List.mem_flatMap.1 listed
    exact (read.worldItems item inside).tidy_definitions definition member

/-- The functions of a well-read package have tidy documentation. -/
theorem WellRead.tidy_functions (read : package.WellRead) :
    ∀ function ∈ package.functions, function.docs.Tidy := by
  intro function listed
  rcases List.mem_append.1 listed with listed | listed
  · obtain ⟨interface, inside, member⟩ := List.mem_flatMap.1 listed
    exact ((read.interfaces interface inside).functions function member).2.docs
  · obtain ⟨item, inside, member⟩ := List.mem_flatMap.1 listed
    exact (read.worldItems item inside).tidy_functions function member

/-- A well-read package has tidy documentation. -/
theorem WellRead.tidy_docs (read : package.WellRead) : package.docs.Tidy := by
  rw [docs]
  cases found : package.header with
  | none => exact nofun
  | some header => exact (read.header header found).docs

/-- A package of members is reread member by member. -/
theorem reread_ofMembers (docs : Documentation) (types : List TypeDefinition)
    (functions : List Function) :
    (ofMembers docs types functions).reread {} = ofMembers (docs.reread {})
      (types.map (TypeDefinition.reread {})) (functions.map (Function.reread {})) := rfl

end Package

/-- A build with the default mappings and options of a text that is read generates a text that is
read. It has the type definitions and the functions of the first text in the order in which they
are lowered, each under what its name becomes and with the documentation that it was read with, and
the documentation of the package; only a single empty line of documentation is none any more. -/
theorem docs_build {source : String} {package : Package}
    (parsed : Package.parse source = .ok package) :
    ∃ made generated roundTrip reread,
      (build source).output = some ⟨some made, some generated, roundTrip⟩ ∧
      (made.module.types.map (·.name) = package.definitions.map (·.name.irName) ∧
        made.module.values.map (·.name) = package.functions.map (·.name.irName)) ∧
      Package.parse generated.source = .ok reread ∧
      reread.definitions.map (fun definition => (definition.name.bare, definition.docs)) =
        package.definitions.map
          (fun definition => (definition.name.bare.image, definition.docs.collapsed)) ∧
      reread.functions.map (fun function => (function.name.bare, function.docs)) =
        package.functions.map
          (fun function => (function.name.bare.image, function.docs.collapsed)) ∧
      reread.docs = package.docs.collapsed := by
  have read : package.WellRead := Package.wellRead_of_parse parsed
  have raised := Raising.raised_package Mapping.witRegistry (Lowering.lenient.package package).value
  have generated := Package.parse_render package.cycled {} raised.legible
  rw [package.cycled_eq, Package.reread_ofMembers] at generated
  rw [build_eq parsed, package.cycled_eq]
  refine ⟨_, _, _, _, rfl, ?_, generated, ?_, ?_, ?_⟩
  · rw [package.value_lenient]
    simp only [List.map_map]
    exact ⟨rfl, rfl⟩
  · rw [Package.definitions_ofMembers, List.map_map, List.map_map]
    refine List.map_congr_left fun definition listed => Prod.ext rfl ?_
    exact (read.tidy_definitions definition listed).reread_ofText_text
  · rw [Package.functions_ofMembers, List.map_map, List.map_map]
    refine List.map_congr_left fun function listed => Prod.ext rfl ?_
    exact (read.tidy_functions function listed).reread_ofText_text
  · exact read.tidy_docs.reread_ofText_text

/-- Spaces, slashes and empty lines within documentation come back, and an empty line alone does
not. -/
theorem docs_build_lines :
    let text :=
      "///  a\n///\n/// //b \npackage p:q; interface i \x7b///\ntype t = u8; ///c\nf: func();\x7d"
    ∃ made generated roundTrip reread,
      (build text).output = some ⟨some made, some generated, roundTrip⟩ ∧
      Package.parse generated.source = .ok reread ∧
      reread.docs.lines = [" a", "", "//b"] ∧
      reread.definitions.map (·.docs.lines) = [[]] ∧
      reread.functions.map (·.docs.lines) = [["c"]] := by
  intro text
  have known : (Package.parse text).map (fun package => (package.docs.lines,
      package.definitions.map (·.docs.lines), package.functions.map (·.docs.lines))) =
      .ok ([" a", "", "//b"], [[""]], [["c"]]) := by decide +kernel
  obtain ⟨package, parsed, seen⟩ := map_eq_ok_iff.1 known
  obtain ⟨header, members⟩ := Prod.mk.inj seen
  obtain ⟨types, functions⟩ := Prod.mk.inj members
  obtain ⟨made, generated, roundTrip, reread, output, -, again, types', functions', header'⟩ :=
    docs_build parsed
  have types'' := congrArg (List.map (·.2.lines)) types'
  have functions'' := congrArg (List.map (·.2.lines)) functions'
  rw [List.map_map, List.map_map] at types'' functions''
  refine ⟨made, generated, roundTrip, reread, output, again, ?_, ?_, ?_⟩
  · rw [header', Documentation.collapsed, header]
    exact header
  · refine types''.trans ((Documentation.map_collapsed TypeDefinition.docs _).trans ?_)
    rw [types]
    rfl
  · refine functions''.trans ((Documentation.map_collapsed Function.docs _).trans ?_)
    rw [functions]
    rfl

end WitBridge
