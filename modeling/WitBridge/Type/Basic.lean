import WitBridge.Name
import WitBridge.Type.Primitive

/-!
# Type expressions

The types that fields, parameters and results carry: primitive types, names of definitions,
containers, and handles to resources. Equality of type expressions is decidable, and a
property that passes from the direct children of a type to the type holds of every type.
-/
namespace WitBridge

/-- How a handle holds its resource. -/
inductive Ownership where
  | own | borrow
  deriving DecidableEq, Repr

/-- The reserved word of a handle. -/
def Ownership.spelling : Ownership → String
  | own => "own"
  | borrow => "borrow"

/-- A type expression. -/
inductive TypeExpr where
  | primitive (kind : Primitive)
  /-- A reference to a definition by name. -/
  | named (name : Identifier)
  | list (element : TypeExpr)
  | option (inner : TypeExpr)
  /-- A result; either side may be left out. -/
  | result (ok err : Option TypeExpr)
  | tuple (elements : List TypeExpr)
  /-- A handle to a resource. -/
  | handle (ownership : Ownership) (resource : Identifier)
  | future (inner : Option TypeExpr)
  | stream (element : Option TypeExpr)
  deriving Repr

namespace TypeExpr

mutual
/-- Whether two types are the same. -/
def same : TypeExpr → TypeExpr → Bool
  | primitive a, primitive b => a == b
  | named a, named b => a == b
  | list a, list b => same a b
  | option a, option b => same a b
  | result a b, result c d => sameOption a c && sameOption b d
  | tuple as, tuple bs => sameList as bs
  | handle a b, handle c d => a == c && b == d
  | future a, future b => sameOption a b
  | stream a, stream b => sameOption a b
  | _, _ => false
/-- Whether two optional types are the same. -/
def sameOption : Option TypeExpr → Option TypeExpr → Bool
  | none, none => true
  | some a, some b => same a b
  | _, _ => false
/-- Whether two lists of types are the same, place by place. -/
def sameList : List TypeExpr → List TypeExpr → Bool
  | [], [] => true
  | a :: as, b :: bs => same a b && sameList as bs
  | _, _ => false
end

mutual
/-- The comparison is equality. -/
theorem same_iff (a b : TypeExpr) : same a b = true ↔ a = b := by
  cases a <;> cases b <;> simp [same, same_iff, sameOption_iff, sameList_iff]
/-- The comparison is equality on optional types. -/
theorem sameOption_iff (a b : Option TypeExpr) : sameOption a b = true ↔ a = b := by
  cases a <;> cases b <;> simp [sameOption, same_iff]
/-- The comparison is equality on lists of types. -/
theorem sameList_iff (as bs : List TypeExpr) : sameList as bs = true ↔ as = bs := by
  cases as <;> cases bs <;> simp [sameList, same_iff, sameList_iff]
end

instance : DecidableEq TypeExpr := fun a b => decidable_of_iff _ (same_iff a b)

/-- The direct children of a type, in the order in which they are written. -/
def children : TypeExpr → List TypeExpr
  | primitive _ | named _ | handle _ _ => []
  | list inner | option inner => [inner]
  | result ok err => ok.toList ++ err.toList
  | tuple elements => elements
  | future inner | stream inner => inner.toList

/-- A child is smaller than its type. -/
theorem sizeOf_child {parent child : TypeExpr} (member : child ∈ parent.children) :
    sizeOf child < sizeOf parent := by
  cases parent with
  | primitive | named | handle => simp [children] at member
  | list | option => simp [children] at member; subst member; simp
  | result => simp [children] at member; rcases member with h | h <;> subst h <;> simp <;> omega
  | tuple elements =>
    have := List.sizeOf_lt_of_mem (show child ∈ elements from member)
    simp; omega
  | future | stream => simp [children] at member; subst member; simp; omega

/-- A property that every type has if its children have it holds of all types. -/
theorem induct {property : TypeExpr → Prop}
    (step : ∀ type, (∀ child ∈ type.children, property child) → property type)
    (type : TypeExpr) : property type :=
  step type fun child _ => induct step child
termination_by sizeOf type
decreasing_by exact sizeOf_child ‹_›

/-- The head of a type as one word: the name of a primitive, or the constructor. -/
def tag : TypeExpr → String
  | primitive kind => kind.spelling
  | named _ => "named"
  | list _ => "list"
  | option _ => "option"
  | result _ _ => "result"
  | tuple _ => "tuple"
  | handle ownership _ => ownership.spelling
  | future _ => "future"
  | stream _ => "stream"

end TypeExpr

end WitBridge
