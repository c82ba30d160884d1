import WitBridge.Documentation
import WitBridge.Ir.Module
import WitBridge.Proofs.Ir.Spelling

/-!
# Modules in the shape of WIT

A module is in the shape of WIT if all that it says can be said in WIT: its names can be spelled,
its definitions are public and have no type variables, its types are variables, basic types and
containers of the SDK and tuples, a constructor has no more than one argument, and no line of its
documentation ends in a blank.
-/
namespace WitBridge.Ir

/-- The basic types of the SDK that WIT has. -/
def basicNames : List String :=
  ["Int", "Float", "Bool", "String", "Char"]

/-- A type that WIT has: a variable, a basic type, a container of the SDK, or a tuple. Only a
side of a result may be the unit. -/
inductive TypeExpr.Proper : TypeExpr → Prop
  | var {name : Name} (worded : name.Worded) : Proper (var name)
  | basic {name : String} (listed : name ∈ basicNames) : Proper (basics name)
  | list {element : TypeExpr} (proper : element.Proper) :
    Proper (reference (.sdk "List" "List") [element])
  | maybe {inner : TypeExpr} (proper : inner.Proper) :
    Proper (reference (.sdk "Maybe" "Maybe") [inner])
  | result {err ok : TypeExpr} (err_proper : err ≠ unit → err.Proper)
    (ok_proper : ok ≠ unit → ok.Proper) : Proper (reference (.sdk "Result" "Result") [err, ok])
  | tuple {elements : List TypeExpr} (proper : ∀ element ∈ elements, element.Proper) :
    Proper (tuple elements)

/-- An output that WIT has: nothing, several results, or one result that is no tuple. -/
def TypeExpr.IsOutput : TypeExpr → Prop
  | unit => True
  | tuple elements => 2 ≤ elements.length ∧ ∀ element ∈ elements, element.Proper
  | output => output.Proper

/-- Documentation without a blank at the end of a line. -/
def IsTrimmed (doc : String) : Prop :=
  ∀ line ∈ (Documentation.ofText doc).lines, ∀ c ∈ line.toList.getLast?, Text.isBlank c = false

instance (doc : String) : Decidable (IsTrimmed doc) :=
  decidable_of_iff (((Documentation.ofText doc).lines.all fun line =>
      line.toList.getLast?.all fun c => !Text.isBlank c) = true) <| by
    rw [List.all_eq_true]
    apply forall₂_congr
    intro line _
    cases line.toList.getLast? <;> simp

/-- A constructor with no more than one argument, whose name is `value`. -/
structure Constructor.WitShaped (constructor : Constructor) : Prop where
  name : constructor.name.Worded
  arguments : constructor.arguments = [] ∨
    ∃ type, constructor.arguments = [(⟨["value"]⟩, type)] ∧ type.Proper

/-- A definition that WIT has: a record, another name for a type, or public constructors. -/
def TypeBody.WitShaped : TypeBody → Prop
  | synonym (.record fields) => ∀ field ∈ fields, field.1.Worded ∧ field.2.Proper
  | synonym target => target.Proper
  | custom access constructors =>
    access = .everyone ∧ ∀ constructor ∈ constructors, constructor.WitShaped

/-- A public type definition without type variables. -/
structure TypeEntry.WitShaped (entry : TypeEntry) : Prop where
  name : entry.name.Worded
  access : entry.access = .everyone
  doc : IsTrimmed entry.doc
  parameters : entry.parameters = []
  body : entry.body.WitShaped

/-- A public value of proper types. -/
structure ValueEntry.WitShaped (entry : ValueEntry) : Prop where
  name : entry.name.Worded
  access : entry.access = .everyone
  doc : IsTrimmed entry.doc
  inputs : ∀ input ∈ entry.inputs, input.1.Worded ∧ input.2.Proper
  output : entry.output.IsOutput

/-- A module whose members are in the shape of WIT. Documentation that is there is not empty. -/
structure Module.WitShaped (module : Module) : Prop where
  types : ∀ entry ∈ module.types, entry.WitShaped
  values : ∀ entry ∈ module.values, entry.WitShaped
  doc : ∀ doc ∈ module.doc, doc ≠ "" ∧ IsTrimmed doc

end WitBridge.Ir
