import WitBridge.Proofs.Mapping.Reverse
import WitBridge.Proofs.Raising.Aliases
import WitBridge.Proofs.Raising.Questions

/-!
# Mappings that hold one way

From the IR side a registry only finds mappings that hold both ways, so what is generated with it
does not depend on the mappings that hold one way, whatever their direction. A mapping that holds
towards the IR is used there like one that holds both ways.
-/
namespace WitBridge

open Mapping (Builder Call Registry Wins Owns)

/-- A registry without the mappings that hold one way only. -/
def Mapping.Registry.twoWay (registry : Registry) : Registry where
  binding := registry.binding
  primitives := registry.primitives.filter (·.bidirectional)
  containers := registry.containers.filter (·.bidirectional)

/-- From the IR side nothing is asked of the mappings that hold one way. -/
theorem Raising.alike_twoWay (registry : Registry) : Alike registry.twoWay registry where
  mapping target := by
    have reverse : registry.twoWay.reverse = registry.reverse := by
      simp only [Registry.reverse, Registry.twoWay, List.filter_filter, Bool.and_self]
    rw [Registry.lookupReverse, Registry.lookupReverse, reverse]
  container name := by
    simp only [mappedContainer?, Registry.twoWay, List.find?_filter]
    congr 2
    funext mapping
    cases mapping.bidirectional <;> simp

/-- How a registry uses the mappings of entries that hold both ways and those that hold one way. -/
structure Mapping.Directed (registry : Registry) (entries : List Primitive) : Prop where
  /-- A primitive type becomes the IR type of the mapping that wins it if this holds towards the
  IR. -/
  outward : ∀ (kind : WitBridge.Primitive) (mapping : Primitive) (strict : Bool),
    Wins (·.external) (·.priority) entries mapping → mapping.external = kind.spelling →
      mapping.bidirectional = true ∨ mapping.direction = .toIr →
        (Lowering.primitive ⟨registry, strict⟩ kind).value =
          .reference mapping.target.written []
  /-- An IR type leads back to the owner of its text among the winners that hold both ways. -/
  back : ∀ target found, registry.lookupReverse target = some found ↔
    Owns (·.external) (·.priority) (fun mapping =>
      Wins (·.external) (·.priority) entries mapping ∧ mapping.bidirectional = true ∧
        mapping.target.display = target.display) found
  /-- No IR type leads back to a mapping that holds one way, whatever its direction. -/
  missed : ∀ target found, found.bidirectional = false →
    registry.lookupReverse target ≠ some found
  /-- Without the mappings that hold one way the same is generated. -/
  generated : ∀ module options, gen module options registry.twoWay = gen module options registry

/-- A registry of calls is used by the directions of the mappings that the calls state. -/
theorem Mapping.directed_build (binding : String) (calls : List Call) :
    Directed (Builder.after binding calls).build (Call.stated calls).primitives := by
  have built := Builder.build_after binding calls
  have reflected := reflects_winners Ir.TypeReference.display (·.target.display) (·.external)
    (·.priority) Primitive.bidirectional (Call.stated calls).primitives
  rw [built]
  constructor
  case outward =>
    intro kind mapping strict wins spelled _
    exact Lowering.value_primitive_of_lookup (lookup_winners_eq_some_iff.mpr ⟨spelled, wins⟩)
  case back => exact reflected.owner
  case missed =>
    intro target found oneWay looked
    obtain ⟨⟨-, both, -⟩, -⟩ := (reflected.owner target found).mp looked
    exact Bool.false_ne_true (oneWay.symm.trans both)
  case generated =>
    intro module options
    rw [gen, gen, (Raising.alike_twoWay _).package_eq]

/-- A size of integers that is mapped towards the IR only loses its size there, and what is
generated goes by the mapping that holds both ways. -/
theorem Mapping.directed_build_outward :
    let calls : List Call := [.addPrimitive "s64" "Int" { oneWay := some .toIr, priority := 1 },
      .addPrimitive "u32" "Int" {}]
    let registry := (Builder.after "wit" calls).build
    (Lowering.primitive ⟨registry, false⟩ .s64).value = .basics "Int" ∧
      registry.lookupReverse (.primitive "Int") =
        some { external := "u32", target := .primitive "Int" } := by
  intro calls registry
  have directed := directed_build "wit" calls
  have wins : Wins (·.external) (·.priority) (Call.stated calls).primitives
      { external := "s64", target := .primitive "Int", oneWay := some .toIr, priority := 1 } :=
    ⟨[], [{ external := "u32", target := .primitive "Int" }], by decide +kernel, by decide,
      by decide⟩
  exact ⟨directed.outward .s64 _ false wins (by decide) (by decide), by decide +kernel⟩

/-- A mapping that holds from the IR only wins its external type and is used towards the IR, and its
IR type does not lead back to it though it owns the text among those that hold from the IR. -/
theorem Mapping.not_directed_fromIr :
    let calls : List Call := [.addPrimitive "u32" "Int" { oneWay := some .fromIr }]
    let registry := (Builder.after "wit" calls).build
    let mapping : Primitive :=
      { external := "u32", target := .primitive "Int", oneWay := some .fromIr }
    Wins (·.external) (·.priority) (Call.stated calls).primitives mapping ∧
      mapping.bidirectional = false ∧ mapping.direction = .fromIr ∧
      (Lowering.primitive ⟨registry, false⟩ .u32).value = .reference mapping.target.written [] ∧
      Owns (·.external) (·.priority) (fun candidate =>
        Wins (·.external) (·.priority) (Call.stated calls).primitives candidate ∧
          (candidate.bidirectional = true ∨ candidate.direction = .fromIr) ∧
          candidate.target.display = "Int") mapping ∧
      registry.lookupReverse (.primitive "Int") = none := by
  intro calls registry mapping
  have stated : (Call.stated calls).primitives = [mapping] := by decide +kernel
  have wins : Wins (·.external) (·.priority) (Call.stated calls).primitives mapping :=
    ⟨[], [], stated, by simp, by simp⟩
  refine ⟨wins, rfl, rfl, by decide +kernel, ⟨⟨wins, by decide, by decide⟩, ?_⟩, by decide +kernel⟩
  rintro other ⟨among, -, -⟩
  obtain rfl : other = mapping := by simpa [stated] using among.mem
  exact le_rfl

end WitBridge
