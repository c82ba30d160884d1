import WitBridge.Type.Basic

/-!
# Traversals of type expressions

Every traversal visits a type before its children and the children in the order in which they
are written. Visitors thread a state of their own, so that what they count or collect is
part of the answer.
-/
namespace WitBridge.TypeExpr

/-- Visit a type and, where the visitor says so, what is below it. -/
def walk {σ : Type} (visit : σ → TypeExpr → σ × Bool) (state : σ) (type : TypeExpr) : σ :=
  match visit state type with
  | (state, false) => state
  | (state, true) =>
    type.children.attach.foldl (fun state ⟨child, _⟩ => walk visit state child) state
termination_by sizeOf type
decreasing_by exact sizeOf_child ‹_›

/-- Combine every node into a value, from the left. -/
def fold {α : Type} (combine : α → TypeExpr → α) (value : α) (type : TypeExpr) : α :=
  type.children.attach.foldl (fun value ⟨child, _⟩ => fold combine value child)
    (combine value type)
termination_by sizeOf type
decreasing_by exact sizeOf_child ‹_›

/-- The nodes that a test accepts, in visiting order. What the test answers may depend on a state,
which it threads through the walk. -/
def gather {σ : Type} (ask : σ → TypeExpr → σ × Bool) (state : σ) (type : TypeExpr) :
    σ × List TypeExpr :=
  type.walk
    (fun (state, found) node =>
      let (state, accepted) := ask state node
      ((state, if accepted then found ++ [node] else found), true))
    (state, [])

/-- The nodes that a test accepts, in visiting order. -/
def collect (accept : TypeExpr → Bool) (type : TypeExpr) : List TypeExpr :=
  (gather (fun _ node => ((), accept node)) () type).2

/-- Whether a test accepts some node. The search asks no further once it has found one: it turns
away from everything that the walk still brings to it. -/
def search {σ : Type} (ask : σ → TypeExpr → σ × Bool) (state : σ) (type : TypeExpr) : σ × Bool :=
  type.walk
    (fun (state, found) node =>
      if found then ((state, true), false)
      else
        match ask state node with
        | (state, true) => ((state, true), false)
        | (state, false) => ((state, false), true))
    (state, false)

/-- Whether a test accepts some node. -/
def contains (accept : TypeExpr → Bool) (type : TypeExpr) : Bool :=
  (search (fun _ node => ((), accept node)) () type).2

/-- The number of nodes on the longest way down; a leaf counts one. -/
def depth (type : TypeExpr) : Nat :=
  1 + (type.children.attach.map fun ⟨child, _⟩ => depth child).foldl max 0
termination_by sizeOf type
decreasing_by exact sizeOf_child ‹_›

/-- The same type over what its children become. -/
def mapChildrenM {m : Type → Type} [Monad m] (become : TypeExpr → m TypeExpr) :
    TypeExpr → m TypeExpr
  | list element => list <$> become element
  | option inner => option <$> become inner
  | result ok err => do return result (← ok.mapM become) (← err.mapM become)
  | tuple elements => tuple <$> elements.mapM become
  | future inner => future <$> inner.mapM become
  | stream element => stream <$> element.mapM become
  | leaf => pure leaf

/-- Transform a type and then the children of what it became, down to a depth of `fuel`; `none`
where this goes deeper. -/
def transform? (become : TypeExpr → TypeExpr) : Nat → TypeExpr → Option TypeExpr
  | 0, _ => none
  | fuel + 1, type => mapChildrenM (transform? become fuel) (become type)

/-- Put a type in the place of every node that a test accepts. The new type is searched as well,
so there is an answer only if the test accepts nothing below its head; then the depths of the
two types bound how deep this goes. -/
def substitute? (type : TypeExpr) (accept : TypeExpr → Bool) (replacement : TypeExpr) :
    Option TypeExpr :=
  transform? (fun node => if accept node then replacement else node)
    (type.depth + replacement.depth) type

/-- Walking on the children needs no proof that they are smaller. -/
theorem walk_eq {σ : Type} (visit : σ → TypeExpr → σ × Bool) (state : σ) (type : TypeExpr) :
    walk visit state type =
      match visit state type with
      | (state, false) => state
      | (state, true) => type.children.foldl (walk visit) state := by
  rw [walk]
  split <;> simp_all

/-- Folding the children needs no proof that they are smaller. -/
theorem fold_eq {α : Type} (combine : α → TypeExpr → α) (value : α) (type : TypeExpr) :
    fold combine value type = type.children.foldl (fold combine) (combine value type) := by
  rw [fold]
  simp

/-- A depth is one more than the greatest depth of a child. -/
theorem depth_eq (type : TypeExpr) :
    type.depth = 1 + (type.children.map depth).foldl max 0 := by
  rw [depth]
  simp

end WitBridge.TypeExpr
