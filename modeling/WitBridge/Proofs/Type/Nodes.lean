import WitBridge.Type.Traversal

/-!
# Nodes of types

The nodes of a type are the type itself and all types that stand in it, a type before its
children and the children in the order in which they are written. A child is less deep than its
type.
-/
namespace WitBridge

/-- A list has no number above its greatest. -/
theorem le_foldl_max {number : Nat} {numbers : List Nat} (member : number ∈ numbers) :
    number ≤ numbers.foldl max 0 := by
  rw [List.foldl_max]
  exact Nat.le_trans (List.le_max?_getD_of_mem member) (Nat.le_max_right 0 _)

namespace TypeExpr

mutual
/-- The nodes of a type, the type itself first. -/
def nodes : TypeExpr → List TypeExpr
  | primitive kind => [primitive kind]
  | named name => [named name]
  | list element => list element :: nodes element
  | option inner => option inner :: nodes inner
  | result ok err => result ok err :: (nodesOption ok ++ nodesOption err)
  | tuple elements => tuple elements :: nodesList elements
  | handle ownership resource => [handle ownership resource]
  | future inner => future inner :: nodesOption inner
  | stream element => stream element :: nodesOption element
/-- The nodes of a type that may be missing. -/
def nodesOption : Option TypeExpr → List TypeExpr
  | none => []
  | some type => nodes type
/-- The nodes of the types of a list. -/
def nodesList : List TypeExpr → List TypeExpr
  | [] => []
  | first :: rest => nodes first ++ nodesList rest
end

/-- A type comes before the nodes of its children. -/
theorem nodes_eq (type : TypeExpr) : type.nodes = type :: type.children.flatMap nodes := by
  have optional : ∀ found : Option TypeExpr, nodesOption found = found.toList.flatMap nodes := by
    rintro (_ | type)
    · rfl
    · simp [nodesOption]
  have list : ∀ types : List TypeExpr, nodesList types = types.flatMap nodes := by
    intro types
    induction types with
    | nil => rfl
    | cons first rest ih => rw [nodesList, ih, List.flatMap_cons]
  cases type with
  | primitive | named | handle => rfl
  | list | option => simp [nodes, children]
  | result => simp [nodes, children, optional]
  | tuple => simp [nodes, children, list]
  | future | stream => simp [nodes, children, optional]

/-- A node of a type is the type or stands in one of its children. -/
theorem mem_nodes_iff {type node : TypeExpr} :
    node ∈ type.nodes ↔ node = type ∨ ∃ child ∈ type.children, node ∈ child.nodes := by
  rw [nodes_eq, List.mem_cons, List.mem_flatMap]

/-- A type counts for its own depth. -/
theorem depth_pos (type : TypeExpr) : 1 ≤ type.depth := by
  rw [depth_eq]
  omega

/-- A child is less deep than its type. -/
theorem depth_child {parent child : TypeExpr} (member : child ∈ parent.children) :
    child.depth + 1 ≤ parent.depth := by
  have below : child.depth ≤ (parent.children.map depth).foldl max 0 :=
    le_foldl_max (List.mem_map_of_mem member)
  rw [depth_eq parent]
  omega

/-- Whether a type is a handle to a resource. -/
def isHandle : TypeExpr → Bool
  | handle _ _ => true
  | _ => false

/-- Whether a type is what a value will be, a future or a stream. -/
def isDeferred : TypeExpr → Bool
  | future _ | stream _ => true
  | _ => false

end TypeExpr

end WitBridge
