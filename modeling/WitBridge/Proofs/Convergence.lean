import Mathlib.Logic.Function.Iterate
import WitBridge.Proofs.Package.Idempotence
import WitBridge.Proofs.Type.Nodes

/-!
# Going by way of the IR again and again

After one round a package has the interface, the types and the names that it keeps. Only a result
that is a tuple of one type loses a layer in each further round. It has no more layers than its
depth, so the rounds come to rest.
-/
namespace WitBridge

open Raising (placeholder)

section Results

namespace TypeExpr

mutual
/-- How many rounds a result takes in whose place a type stands: one for each tuple of one type in
a row, and one for another tuple that ends the row. -/
def layers : TypeExpr → Nat
  | tuple elements => layersList elements
  | future inner => layersOption inner
  | primitive _ | named _ | list _ | option _ | result _ _ | handle _ _ | stream _ => 0
/-- The rounds for a type that may be missing; the empty tuple stands for a missing one. -/
def layersOption : Option TypeExpr → Nat
  | none => 1
  | some type => layers type
/-- The rounds for a tuple. -/
def layersList : List TypeExpr → Nat
  | [element] => layers element + 1
  | _ => 1
end

/-- A tuple takes a round. -/
theorem one_le_layersList (elements : List TypeExpr) : 1 ≤ layersList elements := by
  unfold layersList
  split
  · exact Nat.le_add_left 1 _
  · exact Nat.le_refl 1

/-- What a type is the future of, if it is one of something, however often. -/
def unwrapped : TypeExpr → TypeExpr
  | future (some inner) => unwrapped inner
  | type => type

/-- Whether a type is a tuple of one type. -/
def isSingle : TypeExpr → Bool
  | tuple [_] => true
  | _ => false

/-- A type takes no more rounds than it is deep. -/
theorem layers_le_depth (type : TypeExpr) : type.layers ≤ type.depth := by
  induction type using TypeExpr.induct with
  | step type ih =>
    cases type with
    | tuple elements =>
      match elements with
      | [] => exact depth_pos _
      | [element] =>
        have member : element ∈ (tuple [element]).children := List.mem_singleton_self element
        exact Nat.le_trans (Nat.succ_le_succ (ih element member)) (depth_child member)
      | first :: second :: rest => exact depth_pos _
    | future inner =>
      cases inner with
      | none => exact depth_pos _
      | some inner =>
        have member : inner ∈ (future (some inner)).children := List.mem_singleton_self inner
        exact Nat.le_trans (ih inner member) (Nat.le_of_lt (depth_child member))
    | primitive | named | list | option | result | handle | stream => exact Nat.zero_le _

/-- A type takes one round at most if it is not, but for futures around it, a tuple of one
type. -/
theorem layers_le_one (type : TypeExpr) (other : type.unwrapped.isSingle = false) :
    type.layers ≤ 1 := by
  induction type using TypeExpr.induct with
  | step type ih =>
    cases type with
    | tuple elements =>
      match elements with
      | [] => exact Nat.le_refl 1
      | [element] => contradiction
      | first :: second :: rest => exact Nat.le_refl 1
    | future inner =>
      cases inner with
      | none => exact Nat.le_refl 1
      | some inner => exact ih inner (List.mem_singleton_self inner) other
    | primitive | named | list | option | result | handle | stream => exact Nat.zero_le 1

end TypeExpr

/-- One result becomes what it stands for, spread. -/
theorem imageResults_imaged (type : TypeExpr) :
    imageResults [type.imaged] = spread (some type.imaged) :=
  congrArg spread type.image_imaged

/-- Instead of a result what stands for it can be taken. -/
theorem imageResults_single (type : TypeExpr) :
    imageResults [type] = imageResults [type.imaged] := by
  rw [imageResults_imaged]
  change spread type.image = spread (some (placeholder type.image))
  cases type.image with
  | none => rfl
  | some image => rfl

/-- No results and several are at rest after one round. -/
theorem imageResults_spread {types : List TypeExpr} (other : types.length ≠ 1) :
    imageResults (TypeExpr.imageList types) = TypeExpr.imageList types := by
  match types with
  | [] => rfl
  | [type] => contradiction
  | first :: second :: rest => exact TypeExpr.imageList_imageList (first :: second :: rest)

/-- What is at rest after a round is at rest after the further ones. -/
theorem iterate_rests {types next : List TypeExpr} (opened : imageResults types = next)
    (fixed : imageResults next = next) {rounds : Nat} (one : 1 ≤ rounds) :
    imageResults^[rounds + 1] types = imageResults^[rounds] types := by
  obtain ⟨later, rfl⟩ := Nat.exists_eq_add_of_le' one
  change imageResults^[later] (imageResults (imageResults types)) =
    imageResults^[later] (imageResults types)
  rw [opened, fixed]

/-- What stands for a type in the place of a result is at rest after its layers. -/
theorem TypeExpr.rests_imaged (type : TypeExpr) {rounds : Nat} (enough : type.layers ≤ rounds) :
    imageResults^[rounds + 1] [type.imaged] = imageResults^[rounds] [type.imaged] := by
  induction type using TypeExpr.induct generalizing rounds with
  | step type ih =>
    have spreads := imageResults_imaged type
    cases type with
    | tuple elements =>
      by_cases single : elements.length = 1
      · obtain ⟨element, rfl⟩ := List.length_eq_one_iff.1 single
        obtain ⟨later, rfl⟩ := Nat.exists_eq_add_of_le' (Nat.le_of_add_left_le enough)
        -- A round takes the tuple off, and the element has a layer less.
        have opened : imageResults [(tuple [element]).imaged] = [element.imaged] := spreads
        change imageResults^[later + 1] (imageResults [(tuple [element]).imaged]) =
          imageResults^[later] (imageResults [(tuple [element]).imaged])
        rw [opened]
        exact ih element (List.mem_singleton_self element) (Nat.le_of_succ_le_succ enough)
      · have one : 1 ≤ rounds := Nat.le_trans (one_le_layersList elements) enough
        exact iterate_rests spreads (imageResults_spread single) one
    | future inner =>
      cases inner with
      | none => exact iterate_rests spreads rfl enough
      | some inner => exact ih inner (List.mem_singleton_self inner) enough
    | primitive | named | list | option | result | handle | stream =>
      rw [Function.iterate_succ_apply, spreads]
      rfl

/-- The results of a function are at rest after one round and after their layers. -/
theorem rests_imageResults {results : List TypeExpr} {rounds : Nat} (one : 1 ≤ rounds)
    (enough : ∀ result ∈ results, result.layers ≤ rounds) :
    imageResults^[rounds + 1] results = imageResults^[rounds] results := by
  by_cases single : results.length = 1
  · obtain ⟨result, rfl⟩ := List.length_eq_one_iff.1 single
    obtain ⟨later, rfl⟩ := Nat.exists_eq_add_of_le' one
    have rests := result.rests_imaged (enough result (List.mem_singleton_self result))
    change imageResults^[later + 1] (imageResults [result.imaged]) =
      imageResults^[later] (imageResults [result.imaged]) at rests
    rw [← imageResults_single] at rests
    exact rests
  · have opened : imageResults results = TypeExpr.imageList results := by
      match results with
      | [] => rfl
      | [result] => contradiction
      | first :: second :: rest => rfl
    exact iterate_rests opened (imageResults_spread single) one

end Results

section Packages

/-- A package by way of the IR with the default options. -/
def Package.cycled (package : Package) : Package :=
  (Raising.package Mapping.witRegistry (Lowering.lenient.package package).value).value

/-- The package that is made of members by way of the IR. -/
def Package.ofMembers (docs : Documentation) (types : List TypeDefinition)
    (functions : List Function) : Package where
  header := some { vendor := Raising.generated, name := Raising.generatedPackage, docs }
  interfaces := [{ name := ⟨false, Raising.generated⟩, types, functions }]

section Members

variable (docs : Documentation) (types : List TypeDefinition) (functions : List Function)

/-- The type definitions of a package of members are these. -/
theorem Package.definitions_ofMembers : (ofMembers docs types functions).definitions = types := by
  simp [definitions, worldItems, ofMembers]

/-- The functions of a package of members are these. -/
theorem Package.functions_ofMembers : (ofMembers docs types functions).functions = functions := by
  simp [Package.functions, worldItems, ofMembers]

end Members

/-- Documentation without lines is that of its text. -/
theorem Documentation.ofText_of_isEmpty {docs : Documentation} (empty : docs.isEmpty = true) :
    ofText docs.text = {} := by
  obtain ⟨lines⟩ := docs
  obtain rfl : lines = [] := List.isEmpty_iff.1 empty
  rfl

/-- A package becomes a package of the images of its members. -/
theorem Package.cycled_eq (package : Package) :
    package.cycled = ofMembers (Documentation.ofText package.docs.text)
      (package.definitions.map TypeDefinition.image) (package.functions.map Function.image) := by
  have types := Raising.value_kept_map _ _ TypeDefinition.raised package.definitions
  have functions := Raising.value_kept_map _ _ Function.raised package.functions
  rw [cycled, package.value_lenient]
  simp only [Raising.package, Reported.bind_value, Reported.pure_eq, types, functions]
  cases empty : package.docs.isEmpty with
  | true =>
    rw [Documentation.ofText_of_isEmpty empty]
    rfl
  | false => rfl

/-- After a first round only the functions of a package change. -/
theorem Package.cycled_iterate (package : Package) (rounds : Nat) :
    cycled^[rounds + 1] package = ofMembers (Documentation.ofText package.docs.text)
      (package.definitions.map TypeDefinition.image)
      (package.functions.map Function.image^[rounds + 1]) := by
  induction rounds with
  | zero => exact package.cycled_eq
  | succ rounds ih =>
    have docs : ∀ docs types functions, (ofMembers docs types functions).docs = docs :=
      fun _ _ _ => rfl
    have types : TypeDefinition.image ∘ TypeDefinition.image = TypeDefinition.image :=
      funext TypeDefinition.image_image
    have functions : Function.image ∘ Function.image^[rounds + 1] = Function.image^[rounds + 2] :=
      (Function.iterate_succ' Function.image (rounds + 1)).symm
    rw [Function.iterate_succ_apply', ih, cycled_eq, docs, definitions_ofMembers,
      functions_ofMembers, Documentation.text_ofText, List.map_map, List.map_map, types, functions]

/-- After a first round only the results of a function change. -/
theorem Function.image_iterate (function : Function) (rounds : Nat) :
    Function.image^[rounds + 1] function =
      { name := function.name.image
        parameters := function.parameters.map Parameter.image
        results := imageResults^[rounds + 1] function.results
        docs := Documentation.ofText function.docs.text } := by
  induction rounds with
  | zero => rfl
  | succ rounds ih =>
    have parameters : Parameter.image ∘ Parameter.image = Parameter.image :=
      funext Parameter.image_image
    have results := Function.iterate_succ_apply' imageResults (rounds + 1) function.results
    rw [Function.iterate_succ_apply', ih, image, results, Identifier.image_image, List.map_map,
      parameters, Documentation.text_ofText]

/-- The greatest depth of a result of a function; without results it is zero. -/
def Package.resultDepth (package : Package) : Nat :=
  ((package.functions.flatMap (·.results)).map TypeExpr.depth).foldl max 0

/-- A package is at rest after one round and after the layers of the results. -/
theorem Package.rests {package : Package} {rounds : Nat} (one : 1 ≤ rounds)
    (enough : ∀ function ∈ package.functions, ∀ result ∈ function.results,
      result.layers ≤ rounds) :
    cycled^[rounds + 1] package = cycled^[rounds] package := by
  obtain ⟨later, rfl⟩ := Nat.exists_eq_add_of_le' one
  rw [cycled_iterate, cycled_iterate]
  refine congrArg (ofMembers _ _) (List.map_congr_left fun function member => ?_)
  rw [Function.image_iterate, Function.image_iterate,
    rests_imageResults one (enough function member)]

/-- By way of the IR again and again a package comes to rest: after as many rounds as the results
of its functions are deep, but at least one, and after one round if no result is, but for futures
around it, a tuple of one type. -/
theorem Package.cycled_rests (package : Package) :
    (∀ rounds, max 1 package.resultDepth ≤ rounds →
      cycled^[rounds + 1] package = cycled^[rounds] package) ∧
    ((∀ function ∈ package.functions, ∀ result ∈ function.results,
        result.unwrapped.isSingle = false) →
      cycled^[2] package = cycled^[1] package) := by
  constructor
  · intro rounds enough
    refine rests (Nat.le_trans (Nat.le_max_left _ _) enough) fun function member result listed => ?_
    have among : result.depth ∈ (package.functions.flatMap (·.results)).map TypeExpr.depth :=
      List.mem_map_of_mem (List.mem_flatMap.2 ⟨function, member, listed⟩)
    calc
      result.layers ≤ result.depth := result.layers_le_depth
      _ ≤ package.resultDepth := le_foldl_max among
      _ ≤ max 1 package.resultDepth := Nat.le_max_right _ _
      _ ≤ rounds := enough
  · intro others
    exact rests (Nat.le_refl 1) fun function member result listed =>
      result.layers_le_one (others function member result listed)

/-- A tuple of a tuple of one type is still on its way after a round and is at rest after three; a
future of a tuple of two types is at rest after one. -/
theorem Package.cycled_rests_tuples :
    let run : Identifier := ⟨false, "run", by decide⟩
    let ofResult (result : TypeExpr) : Package :=
      { interfaces := [{ name := run, functions := [{ name := run, results := [result] }] }] }
    let layered := ofResult (.tuple [.tuple [.primitive .u8]])
    let pair := ofResult (.future (some (.tuple [.primitive .u8, .primitive .f32])))
    (layered.resultDepth = 3 ∧ cycled^[4] layered = cycled^[3] layered ∧
      cycled^[2] layered ≠ cycled^[1] layered) ∧
    cycled^[2] pair = cycled^[1] pair := by
  intro run ofResult layered pair
  have depth : layered.resultDepth = 3 := by
    simp [layered, ofResult, resultDepth, Package.functions, worldItems, TypeExpr.depth_eq,
      TypeExpr.children]
  refine ⟨⟨depth, layered.cycled_rests.1 3 (by rw [depth]; decide), by decide +kernel⟩, ?_⟩
  exact pair.cycled_rests.2 (by decide)

end Packages

end WitBridge
