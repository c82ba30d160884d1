import WitBridge.Package.Comparison
import WitBridge.Proofs.Mapping.Defaults
import WitBridge.Proofs.Package.Members

/-!
# What the comparison of packages looks at

The outline of a package is what of it takes part in the comparison, with all that agrees made
equal: names without escapes, one integer type and one floating-point type, several results as one
tuple, resources and worlds as their counts. Two packages agree exactly if their outlines are equal
and no future or stream stands in a type of the first.
-/
namespace WitBridge

section Outlines

/-- A name without its escape. -/
def Identifier.unescaped (name : Identifier) : Identifier :=
  ⟨false, name.bare⟩

namespace TypeExpr

mutual
/-- The outline of a type. -/
def outline : TypeExpr → TypeExpr
  | primitive kind => primitive kind.image
  | named name => named name.unescaped
  | list element => list (outline element)
  | option inner => option (outline inner)
  | result ok err => result (outlineOption ok) (outlineOption err)
  | tuple elements => tuple (outlineList elements)
  | handle ownership resource => handle ownership resource.unescaped
  | future inner => future (outlineOption inner)
  | stream element => stream (outlineOption element)
/-- The outline of a type that may be missing. -/
def outlineOption : Option TypeExpr → Option TypeExpr
  | none => none
  | some type => some (outline type)
/-- The outlines of the types of a list. -/
def outlineList : List TypeExpr → List TypeExpr
  | [] => []
  | first :: rest => outline first :: outlineList rest
end

/-- Whether neither a future nor a stream stands in a type. -/
def isLasting (type : TypeExpr) : Bool :=
  type.nodes.all (!·.isDeferred)

end TypeExpr

namespace Outline

/-- The outline of what a type definition defines. -/
inductive Body where
  | record (fields : List (Identifier × TypeExpr))
  | variant (cases : List (Identifier × Option TypeExpr))
  | enum (cases : List Identifier)
  | flags (flags : List Identifier)
  /-- A resource: whether it has a constructor, and how many methods. -/
  | resource (constructed : Bool) (methods : Nat)
  | synonym (target : TypeExpr)
  deriving DecidableEq, Repr

/-- The outline of a function. -/
structure Signature where
  name : Identifier
  parameters : List (Identifier × TypeExpr)
  results : List TypeExpr
  deriving DecidableEq, Repr

/-- The outline of an interface. -/
structure Members where
  types : List (Identifier × Body)
  functions : List Signature
  deriving DecidableEq, Repr

end Outline

/-- The outline of a package: of a world it has the numbers of imports and exports. -/
structure Outline where
  interfaces : List Outline.Members
  worlds : List (Nat × Nat)
  deriving DecidableEq, Repr

/-- The outline of what a type definition defines. -/
def Definition.outline : Definition → Outline.Body
  | record fields => .record (fields.map fun field => (field.name.unescaped, field.type.outline))
  | variant cases =>
    .variant (cases.map fun case => (case.name.unescaped, case.payload.map TypeExpr.outline))
  | enum names => .enum (names.map Identifier.unescaped)
  | flags names => .flags (names.map Identifier.unescaped)
  | resource constructor methods => .resource constructor.isSome methods.length
  | synonym target => .synonym target.outline

/-- The outline of a function. -/
def Function.outline (function : Function) : Outline.Signature where
  name := function.name.unescaped
  parameters := function.parameters.map fun parameter =>
    (parameter.name.unescaped, parameter.type.outline)
  results := function.gatheredResults.map TypeExpr.outline

/-- The outline of an interface. -/
def Interface.outline (interface : Interface) : Outline.Members where
  types := interface.types.map fun definition =>
    (definition.name.unescaped, definition.body.outline)
  functions := interface.functions.map Function.outline

/-- The outline of a package. -/
def Package.outline (package : Package) : Outline where
  interfaces := package.interfaces.map Interface.outline
  worlds := package.worlds.map fun world => (world.imports.length, world.exports.length)

/-- The types of the members of an interface: of fields and of what cases carry, the targets, and
those of results and parameters. -/
def Interface.memberTypes (interface : Interface) : List TypeExpr :=
  interface.types.flatMap (·.body.types) ++ interface.functions.flatMap Function.types

/-- Whether neither a future nor a stream stands in a type of the interfaces. -/
def Package.isLasting (package : Package) : Bool :=
  package.interfaces.all fun interface => interface.memberTypes.all TypeExpr.isLasting

end Outlines

section Comparisons

variable {α β γ : Type}

/-- A comparison goes by a form: items agree exactly if their forms are equal and the first of
them lasts, and items of one form last both or neither. -/
structure Compares (agree : α → α → Bool) (form : α → β) (lasts : α → Bool) : Prop where
  agree_iff : ∀ a b, agree a b = true ↔ form a = form b ∧ lasts a = true
  lasts_eq : ∀ a b, form a = form b → lasts a = lasts b

namespace Compares

variable {agree : α → α → Bool} {form : α → β} {lasts : α → Bool}

/-- An item agrees with itself exactly if it lasts. -/
theorem refl_iff (compares : Compares agree form lasts) (a : α) :
    agree a a = true ↔ lasts a = true := by
  rw [compares.agree_iff]
  exact and_iff_right rfl

/-- Agreement goes both ways. -/
theorem symm (compares : Compares agree form lasts) {a b : α} (agrees : agree a b = true) :
    agree b a = true := by
  obtain ⟨same, lasting⟩ := (compares.agree_iff a b).1 agrees
  rw [compares.agree_iff]
  exact ⟨same.symm, (compares.lasts_eq a b same).symm.trans lasting⟩

/-- Agreement goes on. -/
theorem trans (compares : Compares agree form lasts) {a b c : α} (first : agree a b = true)
    (second : agree b c = true) : agree a c = true := by
  obtain ⟨same, lasting⟩ := (compares.agree_iff a b).1 first
  obtain ⟨next, -⟩ := (compares.agree_iff b c).1 second
  exact (compares.agree_iff a c).2 ⟨same.trans next, lasting⟩

/-- Equality of forms goes by the forms, and everything lasts. -/
theorem ofForm [DecidableEq β] (form : α → β) :
    Compares (fun a b => decide (form a = form b)) form fun _ => true where
  agree_iff _ _ := decide_eq_true_iff.trans (and_iff_left rfl).symm
  lasts_eq _ _ _ := rfl

/-- A comparison of a part goes by the form of the part. -/
theorem onPart (compares : Compares agree form lasts) (part : γ → α) :
    Compares (fun a b => agree (part a) (part b)) (fun a => form (part a))
      fun a => lasts (part a) where
  agree_iff a b := compares.agree_iff (part a) (part b)
  lasts_eq a b := compares.lasts_eq (part a) (part b)

/-- Two comparisons in one go by both forms. -/
theorem both {agree' : α → α → Bool} {form' : α → γ} {lasts' : α → Bool}
    (first : Compares agree form lasts) (second : Compares agree' form' lasts') :
    Compares (fun a b => agree a b && agree' a b) (fun a => (form a, form' a))
      fun a => lasts a && lasts' a where
  agree_iff a b := by
    rw [Bool.and_eq_true, first.agree_iff, second.agree_iff, Bool.and_eq_true, Prod.mk.injEq]
    exact and_and_and_comm
  lasts_eq a b same := by
    obtain ⟨left, right⟩ := Prod.mk.inj same
    rw [first.lasts_eq a b left, second.lasts_eq a b right]

/-- A form may be packed as long as it can be told apart. -/
theorem packed (compares : Compares agree form lasts) (pack : β → γ)
    (injective : ∀ left right, pack left = pack right → left = right) :
    Compares agree (fun a => pack (form a)) lasts where
  agree_iff a b := by
    rw [compares.agree_iff]
    exact and_congr_left' ⟨congrArg pack, injective _ _⟩
  lasts_eq a b same := compares.lasts_eq a b (injective _ _ same)

/-- What lasts may be said in another way. -/
theorem lasting (compares : Compares agree form lasts) {lasts' : α → Bool}
    (same : ∀ a, lasts a = lasts' a) : Compares agree form lasts' := by
  obtain rfl : lasts = lasts' := funext same
  exact compares

/-- Lists are compared place by place by the forms of their items. -/
theorem list (compares : Compares agree form lasts) :
    Compares (agreeAll agree) (List.map form) fun items => items.all lasts where
  agree_iff as bs := by
    induction as generalizing bs with
    | nil => cases bs <;> simp [agreeAll]
    | cons a as ih =>
      cases bs with
      | nil => simp [agreeAll]
      | cons b bs =>
        rw [agreeAll, Bool.and_eq_true, compares.agree_iff, ih, List.map_cons, List.map_cons,
          List.cons.injEq, List.all_cons, Bool.and_eq_true]
        exact and_and_and_comm
  lasts_eq as bs same := by
    induction as generalizing bs with
    | nil =>
      rw [List.map_nil, eq_comm, List.map_eq_nil_iff] at same
      rw [same]
    | cons a as ih =>
      cases bs with
      | nil => contradiction
      | cons b bs =>
        obtain ⟨first, rest⟩ := List.cons.inj same
        rw [List.all_cons, List.all_cons, compares.lasts_eq a b first, ih bs rest]

end Compares

end Comparisons

section Parts

/-- Names are compared by their names without escapes. -/
theorem compares_name : Compares Identifier.agrees Identifier.unescaped fun _ => true :=
  (Compares.ofForm Identifier.bare).packed (Identifier.mk false) fun _ _ same =>
    congrArg Identifier.bare same

/-- Primitive types are compared by what they become. -/
theorem Primitive.agrees_iff (a b : Primitive) : a.agrees b = true ↔ a.image = b.image := by
  cases a <;> cases b <;> decide

namespace TypeExpr

mutual
/-- The nodes of an outline are the outlines of the nodes. -/
theorem nodes_outline (type : TypeExpr) : type.outline.nodes = type.nodes.map outline := by
  cases type with
  | primitive | named | handle => rfl
  | list element => simp only [outline, nodes, nodes_outline element, List.map_cons]
  | option inner => simp only [outline, nodes, nodes_outline inner, List.map_cons]
  | result ok err =>
    simp only [outline, nodes, nodes_outlineOption ok, nodes_outlineOption err, List.map_cons,
      List.map_append]
  | tuple elements => simp only [outline, nodes, nodes_outlineList elements, List.map_cons]
  | future inner | stream inner =>
    simp only [outline, nodes, nodes_outlineOption inner, List.map_cons]
/-- The nodes of an outline that may be missing are the outlines of the nodes. -/
theorem nodes_outlineOption (type : Option TypeExpr) :
    nodesOption (outlineOption type) = (nodesOption type).map outline := by
  cases type with
  | none => rfl
  | some type => exact nodes_outline type
/-- The nodes of the outlines of a list are the outlines of the nodes. -/
theorem nodes_outlineList (types : List TypeExpr) :
    nodesList (outlineList types) = (nodesList types).map outline := by
  cases types with
  | nil => rfl
  | cons first rest =>
    simp only [outlineList, nodesList, nodes_outline first, nodes_outlineList rest,
      List.map_append]
end

/-- The nodes of a list of types are those of its types. -/
theorem nodesList_eq (types : List TypeExpr) : nodesList types = types.flatMap nodes := by
  induction types with
  | nil => rfl
  | cons first rest ih => rw [nodesList, ih, List.flatMap_cons]

/-- A tuple lasts if its elements do. -/
theorem isLasting_tuple (elements : List TypeExpr) :
    (tuple elements).isLasting = elements.all isLasting := by
  rw [isLasting, nodes, nodesList_eq, List.all_cons, List.all_flatMap]
  rfl

/-- A type lasts if its outline does. -/
theorem isLasting_outline (type : TypeExpr) : type.outline.isLasting = type.isLasting := by
  have kept : ∀ node : TypeExpr, node.outline.isDeferred = node.isDeferred := by
    intro node
    cases node <;> rfl
  rw [isLasting, isLasting, nodes_outline, List.all_map]
  simp only [Function.comp_def, kept]

mutual
/-- Types agree if their outlines are equal and no future or stream stands in the first. -/
theorem agrees_iff (a b : TypeExpr) :
    a.agrees b = true ↔ a.outline = b.outline ∧ a.isLasting = true := by
  cases a with
  | primitive kind =>
    cases b <;> simp [agrees, outline, isLasting, nodes, isDeferred, kind.agrees_iff]
  | named name | handle _ name =>
    cases b <;>
      simp [agrees, outline, isLasting, nodes, isDeferred, compares_name.agree_iff name]
  | list inner | option inner =>
    cases b <;> simp [agrees, outline, isLasting, nodes, isDeferred, agrees_iff inner]
  | result ok err =>
    cases b <;>
      simp [agrees, outline, isLasting, nodes, isDeferred, agreesOption_iff ok,
        agreesOption_iff err, and_and_and_comm]
  | tuple elements =>
    cases b <;> simp [agrees, outline, isLasting, nodes, isDeferred, agreesList_iff elements]
  | future | stream => simp [agrees, isLasting, nodes, isDeferred]
/-- Types that may be missing agree if their outlines are equal and the first lasts. -/
theorem agreesOption_iff (a b : Option TypeExpr) :
    agreesOption a b = true ↔
      outlineOption a = outlineOption b ∧ (nodesOption a).all (!·.isDeferred) = true := by
  cases a with
  | none => cases b <;> simp [agreesOption, outlineOption, nodesOption]
  | some type =>
    cases b <;> simp [agreesOption, outlineOption, nodesOption, isLasting, agrees_iff type]
/-- Types of lists agree if their outlines are equal and those of the first last. -/
theorem agreesList_iff (as bs : List TypeExpr) :
    agreesList as bs = true ↔
      outlineList as = outlineList bs ∧ (nodesList as).all (!·.isDeferred) = true := by
  cases as with
  | nil => cases bs <;> simp [agreesList, outlineList, nodesList]
  | cons first rest =>
    cases bs <;>
      simp [agreesList, outlineList, nodesList, isLasting, agrees_iff first, agreesList_iff rest,
        and_and_and_comm]
end

/-- Types are compared by their outlines. -/
theorem compares : Compares agrees outline isLasting where
  agree_iff := agrees_iff
  lasts_eq a b same := by rw [← isLasting_outline a, same, isLasting_outline]

/-- Types that may be missing are compared by their outlines. -/
theorem comparesOption :
    Compares agreesOption (Option.map outline) fun type => type.toList.all isLasting where
  agree_iff a b := by
    cases a <;> cases b <;> simp [agreesOption, agrees_iff]
  lasts_eq a b same := by
    cases a <;> cases b
    · rfl
    · contradiction
    · contradiction
    · simpa using compares.lasts_eq _ _ (Option.some.inj same)

/-- Lists of types are compared place by place. -/
theorem agreesList_eq : agreesList = agreeAll agrees := by
  funext as bs
  induction as generalizing bs with
  | nil => cases bs <;> rfl
  | cons a as ih => cases bs <;> simp [agreesList, agreeAll, ih]

end TypeExpr

/-- Fields are compared by names and types. -/
theorem compares_field : Compares Field.agrees
    (fun field => (field.name.unescaped, field.type.outline)) fun field => field.type.isLasting :=
  ((compares_name.onPart Field.name).both (TypeExpr.compares.onPart Field.type)).lasting
    fun _ => Bool.true_and _

/-- Cases are compared by names and what they carry. -/
theorem compares_case : Compares Case.agrees
    (fun case => (case.name.unescaped, case.payload.map TypeExpr.outline))
    fun case => case.payload.toList.all TypeExpr.isLasting :=
  ((compares_name.onPart Case.name).both (TypeExpr.comparesOption.onPart Case.payload)).lasting
    fun _ => Bool.true_and _

/-- Parameters are compared by names and types. -/
theorem compares_parameter : Compares Parameter.agrees
    (fun parameter => (parameter.name.unescaped, parameter.type.outline))
    fun parameter => parameter.type.isLasting :=
  ((compares_name.onPart Parameter.name).both (TypeExpr.compares.onPart Parameter.type)).lasting
    fun _ => Bool.true_and _

/-- Gathered results last if the results do. -/
theorem Function.isLasting_gatheredResults (function : Function) :
    function.gatheredResults.all TypeExpr.isLasting =
      function.results.all TypeExpr.isLasting := by
  unfold gatheredResults
  split
  · next none => rw [none]
  · next one => rw [one]
  · rw [List.all_cons, List.all_nil, Bool.and_true, TypeExpr.isLasting_tuple]

/-- Functions are compared by names, parameters and gathered results. -/
theorem compares_function : Compares Function.agrees Function.outline
    fun function => function.types.all TypeExpr.isLasting := by
  have parameters := compares_parameter.list.onPart Function.parameters
  have results := TypeExpr.compares.list.onPart Function.gatheredResults
  rw [← TypeExpr.agreesList_eq] at results
  have parts := ((compares_name.onPart Function.name).both parameters).both results
  have outlines := parts.packed
    (fun ((name, parameters), results) => Outline.Signature.mk name parameters results)
    (by rintro ⟨⟨_, _⟩, _⟩ ⟨⟨_, _⟩, _⟩ same; cases same; rfl)
  refine outlines.lasting fun function => ?_
  rw [Function.types, List.all_append, List.all_map, function.isLasting_gatheredResults,
    Bool.true_and, Bool.and_comm]
  rfl

/-- Definitions of one kind are compared by their parts, and those of two kinds never agree. -/
theorem compares_definition : Compares Definition.agrees Definition.outline
    fun definition => definition.types.all TypeExpr.isLasting where
  agree_iff a b := by
    cases a <;> cases b
    case record.record fields others =>
      simpa [Definition.agrees, Definition.outline, Definition.types] using
        compares_field.list.agree_iff fields others
    case variant.variant cases others =>
      simpa [Definition.agrees, Definition.outline, Definition.types, List.all_flatMap] using
        compares_case.list.agree_iff cases others
    case enum.enum names others | flags.flags names others =>
      simpa [Definition.agrees, Definition.outline, Definition.types] using
        compares_name.list.agree_iff names others
    case resource.resource =>
      simp [Definition.agrees, Definition.outline, Definition.types, and_comm]
    case synonym.synonym target other =>
      simpa [Definition.agrees, Definition.outline, Definition.types] using target.agrees_iff other
    -- Definitions of two kinds have different outlines.
    all_goals simp [Definition.agrees, Definition.outline]
  lasts_eq a b same := by
    cases a <;> cases b
    case record.record fields others =>
      simpa [Definition.types, Function.comp_def] using
        compares_field.list.lasts_eq fields others (Outline.Body.record.inj same)
    case variant.variant cases others =>
      simpa [Definition.types, List.all_flatMap] using
        compares_case.list.lasts_eq cases others (Outline.Body.variant.inj same)
    case synonym.synonym target other =>
      simpa [Definition.types] using
        TypeExpr.compares.lasts_eq target other (Outline.Body.synonym.inj same)
    case enum.enum | flags.flags | resource.resource => rfl
    all_goals contradiction

/-- Type definitions are compared by names and what they define. -/
theorem compares_typeDefinition : Compares TypeDefinition.agrees
    (fun definition => (definition.name.unescaped, definition.body.outline))
    fun definition => definition.body.types.all TypeExpr.isLasting :=
  ((compares_name.onPart TypeDefinition.name).both
    (compares_definition.onPart TypeDefinition.body)).lasting fun _ => Bool.true_and _

/-- Interfaces are compared by their members. -/
theorem compares_interface : Compares Interface.agrees Interface.outline
    fun interface => interface.memberTypes.all TypeExpr.isLasting := by
  have types := compares_typeDefinition.list.onPart Interface.types
  have functions := compares_function.list.onPart Interface.functions
  have outlines := (types.both functions).packed
    (fun (types, functions) => Outline.Members.mk types functions)
    (by rintro ⟨_, _⟩ ⟨_, _⟩ same; cases same; rfl)
  refine outlines.lasting fun interface => ?_
  rw [Interface.memberTypes, List.all_append, List.all_flatMap, List.all_flatMap]

/-- Worlds are compared by their numbers of imports and exports. -/
theorem compares_world : Compares World.agrees
    (fun world => (world.imports.length, world.exports.length)) fun _ => true :=
  (Compares.ofForm fun world : World => world.imports.length).both
    (Compares.ofForm fun world : World => world.exports.length)

/-- Packages are compared by their interfaces and worlds. -/
theorem compares_package : Compares Package.agrees Package.outline Package.isLasting := by
  have interfaces := compares_interface.list.onPart Package.interfaces
  have worlds := compares_world.list.onPart Package.worlds
  have outlines := (interfaces.both worlds).packed
    (fun (interfaces, worlds) => Outline.mk interfaces worlds)
    (by rintro ⟨_, _⟩ ⟨_, _⟩ same; cases same; rfl)
  refine outlines.lasting fun package => ?_
  have counts : package.worlds.all (fun _ => true) = true := List.all_eq_true.2 fun _ _ => rfl
  rw [counts, Bool.and_true]
  rfl

end Parts

/-- Two packages agree exactly if their outlines are equal and no future or stream stands in a type
of the interfaces of the first. So agreement goes both ways and goes on, and the packages that
agree with themselves are those without futures and streams. -/
theorem Package.agrees_iff_outline :
    (∀ a b : Package, a.agrees b = true ↔ a.outline = b.outline ∧ a.isLasting = true) ∧
      (∀ a b : Package, a.agrees b = b.agrees a) ∧
      (∀ a b c : Package, a.agrees b = true → b.agrees c = true → a.agrees c = true) ∧
      ∀ a : Package, a.agrees a = true ↔ a.isLasting = true := by
  refine ⟨compares_package.agree_iff, fun a b => ?_, fun a b c => compares_package.trans,
    compares_package.refl_iff⟩
  exact Bool.eq_iff_iff.2 ⟨compares_package.symm, compares_package.symm⟩

/-- Two results, a tuple of other integers, and that of an escaped function agree in a row. -/
theorem Package.agrees_iff_outline_results :
    let run : KebabName := ⟨"run", by decide⟩
    let ofFunction (name : Identifier) (results : List TypeExpr) : Package :=
      { interfaces := [{ name, functions := [{ name, results }] }] }
    let a := ofFunction ⟨false, run⟩ [.primitive .u8, .primitive .string]
    let b := ofFunction ⟨false, run⟩ [.tuple [.primitive .s64, .primitive .string]]
    let c := ofFunction ⟨true, run⟩ [.tuple [.primitive .u32, .primitive .string]]
    a.agrees b = true ∧ b.agrees c = true ∧ a.agrees c = true := by
  intro run ofFunction a b c
  have first : a.agrees b = true := by decide +kernel
  have second : b.agrees c = true := by decide +kernel
  exact ⟨first, second, Package.agrees_iff_outline.2.2.1 a b c first second⟩

end WitBridge
