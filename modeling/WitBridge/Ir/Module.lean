import WitBridge.Ir.QualifiedName

/-!
# Modules of the IR

A module holds type definitions and the signatures of values. A type is a variable, a
reference with parameters, a tuple, a record or the unit; a definition gives another name to
a type or lists constructors. Every definition is public or private and may be documented.
-/
namespace WitBridge.Ir

/-- A type of the IR. -/
inductive TypeExpr where
  | var (name : Name)
  | reference (name : QualifiedName) (parameters : List TypeExpr)
  | tuple (elements : List TypeExpr)
  | record (fields : List (Name × TypeExpr))
  | unit
  deriving Repr

namespace TypeExpr

mutual
/-- Whether two types are the same. -/
def same : TypeExpr → TypeExpr → Bool
  | var a, var b => a == b
  | reference a as, reference b bs => a == b && sameList as bs
  | tuple as, tuple bs => sameList as bs
  | record as, record bs => sameFields as bs
  | unit, unit => true
  | _, _ => false
/-- Whether two lists of types are the same, place by place. -/
def sameList : List TypeExpr → List TypeExpr → Bool
  | [], [] => true
  | a :: as, b :: bs => same a b && sameList as bs
  | _, _ => false
/-- Whether two lists of fields are the same, place by place. -/
def sameFields : List (Name × TypeExpr) → List (Name × TypeExpr) → Bool
  | [], [] => true
  | (m, a) :: as, (n, b) :: bs => m == n && same a b && sameFields as bs
  | _, _ => false
end

mutual
/-- The comparison is equality. -/
theorem same_iff (a b : TypeExpr) : same a b = true ↔ a = b := by
  cases a <;> cases b <;> simp [same, sameList_iff, sameFields_iff]
/-- The comparison is equality on lists of types. -/
theorem sameList_iff (as bs : List TypeExpr) : sameList as bs = true ↔ as = bs := by
  cases as <;> cases bs <;> simp [sameList, same_iff, sameList_iff]
/-- The comparison is equality on lists of fields. -/
theorem sameFields_iff (as bs : List (Name × TypeExpr)) : sameFields as bs = true ↔ as = bs := by
  match as, bs with
  | [], [] => simp [sameFields]
  | [], _ :: _ => simp [sameFields]
  | _ :: _, [] => simp [sameFields]
  | (m, a) :: as, (n, b) :: bs =>
    simp [sameFields, same_iff, sameFields_iff]
end

instance : DecidableEq TypeExpr := fun a b => decidable_of_iff _ (same_iff a b)

/-- A reference to a basic type of the SDK. -/
def basics (name : String) : TypeExpr :=
  reference (.sdk "Basics" name) []

end TypeExpr

/-- Who may see a definition. -/
inductive Access where
  | everyone | owner
  deriving DecidableEq, Repr

/-- A constructor and its arguments. -/
structure Constructor where
  name : Name
  arguments : List (Name × TypeExpr) := []
  deriving DecidableEq, Repr

/-- What a type definition says. -/
inductive TypeBody where
  /-- Another name for a type. -/
  | synonym (target : TypeExpr)
  /-- A type with constructors of its own, and who may see those. -/
  | custom (access : Access) (constructors : List Constructor)
  deriving DecidableEq, Repr

/-- A type definition of a module. -/
structure TypeEntry where
  name : Name
  access : Access := .everyone
  doc : String := ""
  /-- The type variables of the definition. -/
  parameters : List Name := []
  body : TypeBody
  deriving DecidableEq, Repr

/-- The signature of a value of a module. -/
structure ValueEntry where
  name : Name
  access : Access := .everyone
  doc : String := ""
  inputs : List (Name × TypeExpr) := []
  output : TypeExpr
  deriving DecidableEq, Repr

/-- A module. -/
structure Module where
  types : List TypeEntry := []
  values : List ValueEntry := []
  doc : Option String := none
  deriving DecidableEq, Repr

end WitBridge.Ir
