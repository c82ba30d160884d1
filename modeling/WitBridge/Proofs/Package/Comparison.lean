import WitBridge.Package.Comparison
import WitBridge.Proofs.Package.Rewriting

/-!
# Packages that agree

A type is carried if it is made of primitive types, names and containers alone: no handle, future
or stream stands anywhere in it. A carried type agrees with what it becomes when its names change
in their escapes only, and so does a package with such types.
-/
namespace WitBridge

/-- Lists agree with what their items become if each item does. -/
theorem agreeAll_map {α : Type} {agree : α → α → Bool} {change : α → α} (items : List α) :
    agreeAll agree items (items.map change) = items.all fun item => agree item (change item) := by
  induction items with
  | nil => rfl
  | cons first rest ih => rw [List.map_cons, agreeAll, ih, List.all_cons]

namespace TypeExpr

mutual
/-- Whether a type is made of primitive types, accepted names and containers: no handle, future
or stream stands anywhere in it. -/
def carried (accept : Identifier → Bool) : TypeExpr → Bool
  | primitive _ => true
  | named name => accept name
  | list element => carried accept element
  | option inner => carried accept inner
  | result ok err => carriedOption accept ok && carriedOption accept err
  | tuple elements => carriedList accept elements
  | handle _ _ | future _ | stream _ => false
/-- Whether a type that may be missing is carried. -/
def carriedOption (accept : Identifier → Bool) : Option TypeExpr → Bool
  | none => true
  | some type => carried accept type
/-- Whether each type of a list is carried. -/
def carriedList (accept : Identifier → Bool) : List TypeExpr → Bool
  | [] => true
  | first :: rest => carried accept first && carriedList accept rest
end

variable {accept : Identifier → Bool} {change : Identifier → Identifier}

/-- A list of types is carried if each of them is. -/
theorem carriedList_eq_all (types : List TypeExpr) :
    carriedList accept types = types.all (carried accept) := by
  induction types with
  | nil => rfl
  | cons first rest ih => rw [carriedList, ih, List.all_cons]

mutual
/-- A carried type agrees with the type of changed names if the accepted names do. -/
theorem agrees_mapNames (same : ∀ name, accept name = true → name.agrees (change name) = true)
    (type : TypeExpr) (carried : type.carried accept = true) :
    type.agrees (type.mapNames change) = true := by
  cases type with
  | primitive kind => simp [mapNames, agrees, Primitive.agrees]
  | named name => exact same name carried
  | list element => exact agrees_mapNames same element carried
  | option inner => exact agrees_mapNames same inner carried
  | result ok err =>
    rw [TypeExpr.carried, Bool.and_eq_true] at carried
    rw [mapNames, agrees, Bool.and_eq_true]
    exact ⟨agreesOption_mapNames same ok carried.1, agreesOption_mapNames same err carried.2⟩
  | tuple elements => exact agreesList_mapNames same elements carried
  | handle | future | stream => contradiction
/-- A carried type that may be missing agrees with the type of changed names. -/
theorem agreesOption_mapNames
    (same : ∀ name, accept name = true → name.agrees (change name) = true)
    (type : Option TypeExpr) (carried : carriedOption accept type = true) :
    agreesOption type (mapNamesOption change type) = true := by
  cases type with
  | none => rfl
  | some type => exact agrees_mapNames same type carried
/-- Carried types agree with the types of changed names. -/
theorem agreesList_mapNames
    (same : ∀ name, accept name = true → name.agrees (change name) = true)
    (types : List TypeExpr) (carried : carriedList accept types = true) :
    agreesList types (mapNamesList change types) = true := by
  cases types with
  | nil => rfl
  | cons first rest =>
    rw [carriedList, Bool.and_eq_true] at carried
    rw [mapNamesList, agreesList, Bool.and_eq_true]
    exact ⟨agrees_mapNames same first carried.1, agreesList_mapNames same rest carried.2⟩
end

end TypeExpr

end WitBridge
