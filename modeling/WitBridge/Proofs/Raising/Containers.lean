import WitBridge.Proofs.Mapping.Defaults
import WitBridge.Proofs.Mapping.Winners

/-!
# Containers that references are raised to

A reference without a primitive type is raised to the container of the first mapping, in the order
of external types, that holds both ways and whose text reads as the name of the reference. The
registry finds by the text the mapping of the highest priority, so the two are one if no mapping
comes before that one.
-/
namespace WitBridge

open Mapping (Builder Registry)

variable {registry : Registry} {name : Ir.QualifiedName} {kind : ContainerKind}

/-- A word names the container whose word it is. -/
theorem ContainerKind.external_of_ofWord? {word : String} (named : ofWord? word = some kind) :
    word = kind.external := by
  unfold ofWord? at named
  split at named <;> cases named <;> rfl

/-- No container needs more than two parameters. -/
theorem ContainerKind.arity_le_two (kind : ContainerKind) : kind.arity ≤ 2 := by
  cases kind <;> decide

/-- A mapping serves a name if it holds both ways and its text reads as the name. -/
structure Mapping.Container.Serves (mapping : Mapping.Container) (name : Ir.QualifiedName) :
    Prop where
  bidirectional : mapping.bidirectional = true
  reads : Ir.QualifiedName.ofText mapping.target = .ok name

namespace Raising

/-- With enough parameters a container is made. -/
theorem exists_container {parameters : List Ir.TypeExpr} (enough : kind.arity ≤ parameters.length) :
    ∃ type, (container registry kind parameters).value = some type ∧
      type.tag = kind.external := by
  cases kind with
  | list =>
    match parameters with
    | element :: rest => exact ⟨_, rfl, rfl⟩
  | option =>
    match parameters with
    | inner :: rest => exact ⟨_, rfl, rfl⟩
  | result =>
    match parameters with
    | err :: ok :: rest => exact ⟨_, rfl, rfl⟩
    | [err] => exact absurd enough (Nat.lt_irrefl 1)

/-- The container of a name is the first that serves it. -/
theorem mappedContainer?_eq_some (ordered : registry.Ordered) {owner : Mapping.Container}
    (listed : owner ∈ registry.containers) (serves : owner.Serves name)
    (first : ∀ other ∈ registry.containers, other.Serves name →
      ¬other.external < owner.external) :
    mappedContainer? registry name = some owner.external := by
  have accepts : ∀ mapping : Mapping.Container, (mapping.bidirectional &&
      (Ir.QualifiedName.ofText mapping.target).toOption = some name) = true ↔
        mapping.Serves name := by
    intro mapping
    rw [Bool.and_eq_true, decide_eq_true_iff]
    refine ⟨fun ⟨both, read⟩ => ⟨both, ?_⟩, fun serves => ⟨serves.bidirectional, ?_⟩⟩
    · cases found : Ir.QualifiedName.ofText mapping.target with
      | ok reading => rw [found] at read; exact congrArg _ (Option.some.inj read)
      | error fault => rw [found] at read; contradiction
    · rw [serves.reads]
      rfl
  have found := ordered.containers.find?_eq_some listed ((accepts owner).2 serves)
    fun other member accepted => first other member ((accepts other).1 accepted)
  exact congrArg (Option.map Mapping.Container.external) found

/-- A reference without a primitive type is raised to the container of its name. -/
theorem type?_of_mappedContainer? {word : String} {parameters : List Ir.TypeExpr}
    (unowned : registry.lookupReverse (.qualified name) = none)
    (mapped : mappedContainer? registry name = some word)
    (named : ContainerKind.ofWord? word = some kind) (enough : kind.arity ≤ parameters.length) :
    (type? registry (.reference name parameters)).value =
      (container registry kind parameters).value := by
  have applies : applicable? (some kind) parameters.length = some (.container kind) := by
    rw [applicable?, Option.bind_eq_bind, Option.bind_some, if_pos enough, Option.pure_def]
  have led : target registry name parameters.length = pure (some (.container kind)) := by
    rw [target, unowned]
    simp only [mapped, Option.bind_some, named, applies]
  rw [type?, led]
  rfl

/-- A reference to a name without a primitive type and with two parameters or more is raised to the
container that owns a text of the name, if this is the first that serves the name. -/
theorem container_of_owner (builder : Builder) {text : String} {owner : Mapping.Container}
    {parameters : List Ir.TypeExpr} (reads : Ir.QualifiedName.ofText text = .ok name)
    (unowned : builder.build.lookupReverse (.qualified name) = none)
    (owned : builder.build.lookupContainerReverse text = some owner)
    (named : ContainerKind.ofWord? owner.external = some kind) (enough : 2 ≤ parameters.length)
    (first : ∀ other ∈ builder.build.containers, other.Serves name →
      ¬other.external < owner.external) :
    (type? builder.build (.reference name parameters)).value =
        (container builder.build kind parameters).value ∧
      ∃ type, (type? builder.build (.reference name parameters)).value = some type ∧
        type.tag = owner.external := by
  obtain ⟨listed, both, rfl⟩ := Registry.mem_of_lookupContainerReverse owned
  have mapped := mappedContainer?_eq_some builder.ordered_build listed ⟨both, reads⟩ first
  have count : kind.arity ≤ parameters.length := kind.arity_le_two.trans enough
  have raised := type?_of_mappedContainer? unowned mapped named count
  rw [raised, ContainerKind.external_of_ofWord? named]
  exact ⟨rfl, exists_container count⟩

/-- Of a list and an option with one text the list is made if it has the higher priority. -/
theorem container_of_owner_list :
    let builder := (Builder.addContainer { binding := "wit" }
      { external := "list", target := "A:B:c", priority := 1 }).addContainer
        { external := "option", target := "A:B:c" }
    let parameters := [Ir.TypeExpr.var ⟨["x"]⟩, .var ⟨["y"]⟩]
    ∃ name owner, Ir.QualifiedName.ofText "A:B:c" = .ok name ∧
      builder.build.lookupContainerReverse "A:B:c" = some owner ∧ owner.external = "list" ∧
        ∃ type, (type? builder.build (.reference name parameters)).value = some type ∧
          type.tag = "list" := by
  intro builder parameters
  have reads : Ir.QualifiedName.ofText "A:B:c" =
      .ok ⟨⟨[⟨["a"]⟩]⟩, ⟨[⟨["b"]⟩]⟩, ⟨["c"]⟩⟩ := by decide +kernel
  have owned : builder.build.lookupContainerReverse "A:B:c" =
      some { external := "list", target := "A:B:c", priority := 1 } := by decide +kernel
  have least : ∀ other ∈ builder.build.containers, ¬other.external < "list" := by decide +kernel
  have enough : 2 ≤ parameters.length := by decide
  have raised := container_of_owner builder reads rfl owned rfl enough fun other listed _ =>
    least other listed
  exact ⟨_, _, reads, owned, rfl, raised.2⟩

/-- Of a list and an option with one text the list is made even if the option owns the text. -/
theorem container_ne_owner :
    let builder := (Builder.addContainer { binding := "wit" }
      { external := "list", target := "A:B:c" }).addContainer
        { external := "option", target := "A:B:c", priority := 1 }
    let name : Ir.QualifiedName := ⟨⟨[⟨["a"]⟩]⟩, ⟨[⟨["b"]⟩]⟩, ⟨["c"]⟩⟩
    Ir.QualifiedName.ofText "A:B:c" = .ok name ∧
      builder.build.lookupReverse (.qualified name) = none ∧
      (builder.build.lookupContainerReverse "A:B:c").map (·.external) = some "option" ∧
      (type? builder.build (.reference name [.var ⟨["x"]⟩, .var ⟨["y"]⟩])).value.map
        TypeExpr.tag = some "list" := by
  decide +kernel

end Raising

end WitBridge
