import WitBridge.Proofs.Building
import WitBridge.Proofs.Package.Outline

/-!
# What a build without diagnostics keeps of functions

A type that draws no diagnostic and agrees with its image is its image, but for the escapes of its
names. So if a build reports nothing and finds no difference, the functions of the generated
interface have the names, parameters and results of those that were read. The IR does not say
whether a function is asynchronous, and neither a diagnostic nor the comparison tells.
-/
namespace WitBridge

open Lowering (lenient)

/-- What a caller sees of a function: names without escapes, and several results as one tuple. -/
structure Signature where
  name : KebabName
  isAsync : Bool
  parameters : List (KebabName × TypeExpr)
  results : List TypeExpr
  deriving DecidableEq, Repr

/-- A type without the escapes of its names. -/
def TypeExpr.bare (type : TypeExpr) : TypeExpr :=
  type.mapNames Identifier.unescaped

/-- The signature of a function. -/
def Function.outward (function : Function) : Signature where
  name := function.name.bare
  isAsync := function.isAsync
  parameters := function.parameters.map fun parameter => (parameter.name.bare, parameter.type.bare)
  results := function.gatheredResults.map TypeExpr.bare

section Types

/-- A plain name becomes itself without its escape. -/
theorem Identifier.image_of_isPlain {name : Identifier} (plain : name.isPlain = true) :
    name.image = name.unescaped := by
  rw [← name.agrees_image] at plain
  exact congrArg (Identifier.mk false) (of_decide_eq_true plain).symm

/-- A primitive type that draws no diagnostic becomes itself. -/
theorem Primitive.image_of_quiet {kind : Primitive} (quiet : lenient.primitiveNotes kind = []) :
    kind.image = kind := by
  have checked : ∀ kind ∈ Primitive.all, lenient.primitiveNotes kind = [] → kind.image = kind := by
    decide +kernel
  exact checked kind kind.mem_all quiet

namespace TypeExpr

mutual
/-- A kept type that draws no diagnostic becomes itself without the escapes of its names. -/
theorem image_of_quiet (type : TypeExpr) (kept : type.survives = true)
    (quiet : type.nodes.flatMap lenient.nodeNotes = []) : type.image = some type.bare := by
  cases type with
  | primitive kind =>
    have exact : lenient.primitiveNotes kind = [] := by
      simpa [nodes, Lowering.nodeNotes] using quiet
    rw [image, kind.image_of_quiet exact]
    rfl
  | named name =>
    rw [image, Identifier.image_of_isPlain kept]
    rfl
  | list element =>
    rw [nodes, List.flatMap_cons, List.append_eq_nil_iff] at quiet
    rw [image, image_of_quiet element kept quiet.2]
    rfl
  | option inner =>
    rw [nodes, List.flatMap_cons, List.append_eq_nil_iff] at quiet
    rw [image, image_of_quiet inner kept quiet.2]
    rfl
  | result ok err =>
    rw [survives, carried, Bool.and_eq_true] at kept
    rw [nodes, List.flatMap_cons, List.flatMap_append, List.append_eq_nil_iff,
      List.append_eq_nil_iff] at quiet
    rw [image, imageOption_of_quiet ok kept.1 quiet.2.1, imageOption_of_quiet err kept.2 quiet.2.2]
    rfl
  | tuple elements =>
    rw [nodes, List.flatMap_cons, List.append_eq_nil_iff] at quiet
    rw [image, imageList_of_quiet elements kept quiet.2]
    rfl
  | handle | future | stream => contradiction
/-- A kept type that may be missing becomes itself without the escapes of its names if it draws no
diagnostic. -/
theorem imageOption_of_quiet (type : Option TypeExpr)
    (kept : carriedOption Identifier.isPlain type = true)
    (quiet : (nodesOption type).flatMap lenient.nodeNotes = []) :
    imageOption type = mapNamesOption Identifier.unescaped type := by
  cases type with
  | none => rfl
  | some type => exact image_of_quiet type kept quiet
/-- The kept types of a list become themselves without the escapes of their names if they draw no
diagnostic. -/
theorem imageList_of_quiet (types : List TypeExpr)
    (kept : carriedList Identifier.isPlain types = true)
    (quiet : (nodesList types).flatMap lenient.nodeNotes = []) :
    imageList types = mapNamesList Identifier.unescaped types := by
  cases types with
  | nil => rfl
  | cons first rest =>
    rw [carriedList, Bool.and_eq_true] at kept
    rw [nodesList, List.flatMap_append, List.append_eq_nil_iff] at quiet
    rw [imageList, image_of_quiet first kept.1 quiet.1, imageList_of_quiet rest kept.2 quiet.2]
    rfl
end

mutual
/-- A type without escapes has none to lose. -/
theorem bare_bare (type : TypeExpr) : type.bare.bare = type.bare := by
  cases type with
  | primitive | named | handle => rfl
  | list element => exact congrArg list (bare_bare element)
  | option inner => exact congrArg option (bare_bare inner)
  | result ok err => exact congrArg₂ result (bareOption_bare ok) (bareOption_bare err)
  | tuple elements => exact congrArg tuple (bareList_bare elements)
  | future inner => exact congrArg future (bareOption_bare inner)
  | stream element => exact congrArg stream (bareOption_bare element)
/-- A type that may be missing and has no escapes has none to lose. -/
theorem bareOption_bare (type : Option TypeExpr) :
    mapNamesOption Identifier.unescaped (mapNamesOption Identifier.unescaped type) =
      mapNamesOption Identifier.unescaped type := by
  cases type with
  | none => rfl
  | some type => exact congrArg some (bare_bare type)
/-- Types without escapes have none to lose. -/
theorem bareList_bare (types : List TypeExpr) :
    mapNamesList Identifier.unescaped (mapNamesList Identifier.unescaped types) =
      mapNamesList Identifier.unescaped types := by
  cases types with
  | nil => rfl
  | cons first rest => exact congrArg₂ List.cons (bare_bare first) (bareList_bare rest)
end

end TypeExpr

end Types

section Functions

/-- A kept parameter that draws no diagnostic becomes itself without escapes. -/
theorem Parameter.image_of_quiet {parameter : Parameter} (kept : parameter.survives = true)
    (quiet : lenient.typeNotes parameter.type = []) :
    parameter.image = ⟨parameter.name.unescaped, parameter.type.bare⟩ := by
  rw [survives, Bool.and_eq_true] at kept
  have type := parameter.type.image_of_quiet kept.2 quiet
  rw [image, Identifier.image_of_isPlain kept.1, TypeExpr.imaged, type]
  rfl

/-- A kept result that draws no diagnostic becomes itself without escapes, however it is spread. -/
theorem TypeExpr.gatheredResults_of_quiet {result : TypeExpr}
    (kept : result.survivesAsResult = true) (quiet : lenient.typeNotes result = []) :
    gatheredResults (spread result.image) = [result.bare] := by
  rw [survivesAsResult, Bool.and_eq_true] at kept
  obtain ⟨survives, long⟩ := kept
  rw [result.image_of_quiet survives quiet]
  cases result with
  | tuple elements =>
    rcases elements with _ | ⟨first, _ | ⟨second, rest⟩⟩
    · contradiction
    · contradiction
    · rfl
  | primitive | named | list | option | result => rfl
  | handle | future | stream => contradiction

/-- A kept function of no more than one result that draws no diagnostic keeps its signature, but
for being asynchronous. -/
theorem Function.outward_image {function : Function} (one : function.results.length ≤ 1)
    (kept : function.survives = true) (quiet : lenient.functionNotes function = []) :
    function.image.outward = { function.outward with isAsync := false } := by
  rw [survives, Bool.and_eq_true, Bool.and_eq_true, List.all_eq_true, List.all_eq_true] at kept
  obtain ⟨⟨name, parametersKept⟩, resultsKept⟩ := kept
  rw [Lowering.functionNotes, types, List.flatMap_append, List.append_eq_nil_iff,
    List.flatMap_eq_nil_iff, List.flatMap_map, List.flatMap_eq_nil_iff] at quiet
  obtain ⟨resultsQuiet, parametersQuiet⟩ := quiet
  have names : function.name.image.bare = function.name.bare := by
    rw [Identifier.image_of_isPlain name]
    rfl
  have parameters : function.image.outward.parameters = function.outward.parameters := by
    simp only [outward, image, List.map_map]
    refine List.map_congr_left fun parameter listed => ?_
    have becomes := Parameter.image_of_quiet (parametersKept parameter listed)
      (parametersQuiet parameter listed)
    simp only [Function.comp_apply, becomes, TypeExpr.bare_bare]
    rfl
  have results : function.image.outward.results = function.outward.results := by
    simp only [outward, gatheredResults_eq, image]
    rcases shape : function.results with _ | ⟨result, _ | ⟨second, rest⟩⟩
    · rfl
    · have listed : result ∈ function.results := by simp [shape]
      rw [imageResults, TypeExpr.gatheredResults_of_quiet (resultsKept result listed)
        (resultsQuiet result listed), List.map_cons, TypeExpr.bare_bare]
      rfl
    · rw [shape] at one
      simp at one
  exact congr (congr (congrArg (Signature.mk · false) names) parameters) results

/-- The functions of a kept interface that was read and draws no diagnostic keep their signatures,
but for being asynchronous. -/
theorem Interface.outward_image {interface : Interface} (read : interface.WellRead)
    (kept : interface.survives = true) (quiet : lenient.interfaceNotes interface = []) :
    (interface.functions.map Function.image).map Function.outward =
      interface.functions.map fun function => { function.outward with isAsync := false } := by
  rw [survives, Bool.and_eq_true, List.all_eq_true, List.all_eq_true] at kept
  rw [Lowering.interfaceNotes, List.append_eq_nil_iff, List.flatMap_eq_nil_iff,
    List.flatMap_eq_nil_iff] at quiet
  rw [List.map_map]
  refine List.map_congr_left fun function listed => ?_
  exact Function.outward_image (read.functions function listed).2.oneResult
    (kept.2 function listed) (quiet.2 function listed)

end Functions

section Builds

variable {source : String}

/-- A build that reports a round trip has read its text. -/
theorem parse_of_roundTrip {output : BuildOutput} (built : (build source).output = some output)
    (kept : output.roundTrip = true) : ∃ package, Package.parse source = .ok package := by
  cases parsed : Package.parse source with
  | ok package => exact ⟨package, rfl⟩
  | error fault =>
    have none : (build source).output = some {} := by
      rw [build, make, parsed]
    rw [none] at built
    obtain rfl := Option.some.inj built
    contradiction

/-- A package that is kept has one interface, which is kept, and no worlds. -/
theorem Package.interfaces_of_survives {package : Package} (kept : package.survives = true) :
    ∃ interface, package.interfaces = [interface] ∧ package.worlds = [] ∧
      interface.survives = true := by
  unfold survives at kept
  split at kept
  · next interface interfaces worlds => exact ⟨interface, interfaces, worlds, kept⟩
  · contradiction

/-- A build with the default mappings and options that reports nothing but a round trip makes one
interface of the one that was read. Its functions have the signatures of those that were read in
the same order, none of them asynchronous; so the signatures are kept exactly if no function that
was read is asynchronous. -/
theorem outward_build {output : BuildOutput} (built : (build source).output = some output)
    (kept : output.roundTrip = true) (quiet : (build source).diagnostics = []) :
    ∃ made generated given interface,
      (output.make = some made ∧ Package.parse source = .ok made.source ∧
        made.source.interfaces = [given]) ∧
      (output.gen = some generated ∧ generated.package.interfaces = [interface]) ∧
      interface.functions.map Function.outward =
        given.functions.map (fun function => { function.outward with isAsync := false }) ∧
      (interface.functions.map Function.outward = given.functions.map Function.outward ↔
        ∀ function ∈ given.functions, function.isAsync = false) := by
  obtain ⟨package, parsed⟩ := parse_of_roundTrip built kept
  have closed := build_eq parsed
  rw [closed] at built quiet
  obtain rfl := Option.some.inj built
  obtain ⟨given, interfaces, worlds, survives⟩ := Package.interfaces_of_survives kept
  have functions : package.imaged.functions = given.functions.map Function.image := by
    rw [Package.imaged, Package.functions, Package.worldItems, interfaces, worlds]
    simp
  have silent : lenient.interfaceNotes given = [] := by
    have notes := (List.append_eq_nil_iff.1 quiet).1
    rw [Lowering.packageNotes, interfaces, List.append_eq_nil_iff, List.flatMap_singleton] at notes
    exact notes.1
  have outward : package.imaged.functions.map Function.outward =
      given.functions.map (fun function => { function.outward with isAsync := false }) := by
    have read := (Package.wellRead_of_parse parsed).interfaces given (by simp [interfaces])
    rw [functions, Interface.outward_image read survives silent]
  refine ⟨_, _, given, package.imaged, ⟨rfl, parsed, interfaces⟩,
    ⟨rfl, package.interfaces_cycled⟩, outward, ?_⟩
  rw [outward, List.map_inj_left]
  refine forall₂_congr fun function _ => ⟨fun same => ?_, fun synchronous => ?_⟩
  · exact (congrArg Signature.isAsync same).symm
  · rw [← synchronous]
    rfl

/-- Escaped names, a result of two types and a name of a definition are kept by a build. -/
theorem outward_build_escaped :
    let text := "interface i { type %u = bool; f: func(%type: list<%u>) -> tuple<u, u>; }"
    ∃ output, ((build text).output = some output ∧ output.roundTrip = true ∧
        (build text).diagnostics = []) ∧
      ∃ given interface, output.make.map (·.source.interfaces) = some [given] ∧
        output.gen.map (·.package.interfaces) = some [interface] ∧
        interface.functions.map Function.outward = given.functions.map Function.outward := by
  intro text
  have facts : (Package.parse text).map (fun package => (package.survives,
      lenient.packageNotes package, package.functions.all (!·.isAsync))) =
        .ok (true, [], true) := by decide +kernel
  obtain ⟨package, parsed, seen⟩ := map_eq_ok_iff.1 facts
  obtain ⟨survives, notes, synchronous⟩ : package.survives = true ∧
      lenient.packageNotes package = [] ∧ package.functions.all (!·.isAsync) = true := by
    simpa using seen
  have closed := build_eq parsed
  have quiet : (build text).diagnostics = [] := by rw [closed, notes, survives]; rfl
  obtain ⟨made, generated, given, interface, ⟨make, read, source⟩, ⟨gen, raised⟩, -, exactly⟩ :=
    outward_build (congrArg Outcome.output closed) survives quiet
  refine ⟨_, ⟨congrArg Outcome.output closed, survives, quiet⟩, given, interface, ?_, ?_,
    exactly.2 fun function listed => ?_⟩
  · rw [make, Option.map_some, source]
  · rw [gen, Option.map_some, raised]
  · obtain rfl : package = made.source := Except.ok.inj (parsed.symm.trans read)
    have member : function ∈ made.source.functions := by
      simp [Package.functions, source, listed]
    simpa using List.all_eq_true.1 synchronous function member

/-- An asynchronous function comes out of a build as one that is not, without a report. -/
theorem outward_build_async :
    let text := "interface i { f: async func(); }"
    (build text).diagnostics = [] ∧
      (build text).output.map (fun output => (output.roundTrip,
        output.make.map fun made =>
          made.source.interfaces.flatMap fun given => given.functions.map Function.isAsync,
        output.gen.map fun generated =>
          generated.package.interfaces.flatMap fun given =>
            given.functions.map Function.isAsync)) =
        some (true, some [true], some [false]) := by
  intro text
  constructor <;> decide +kernel

end Builds

end WitBridge
