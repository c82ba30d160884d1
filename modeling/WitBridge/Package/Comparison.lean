import WitBridge.Package

/-!
# Comparison of a package with its image

Conversion to the IR and back keeps the meaning of a package but not every spelling: integer
types become one, both floating-point types become one, escapes are dropped, and several
results become one tuple. Two packages agree if they are the same up to these. Members are
compared in order; interface names are not, and of resources and worlds only the counts are.
A future or stream agrees with nothing, for conversion never keeps one.
-/
namespace WitBridge

/-- Whether two lists have one length and agree place by place. -/
def agreeAll {α : Type} (agree : α → α → Bool) : List α → List α → Bool
  | [], [] => true
  | a :: as, b :: bs => agree a b && agreeAll agree as bs
  | _, _ => false

/-- Names agree if they are the same without their escapes. -/
def Identifier.agrees (a b : Identifier) : Bool :=
  a.bare = b.bare

/-- Primitive types agree if both are integers, both are floating-point, or they are equal. -/
def Primitive.agrees (a b : Primitive) : Bool :=
  a = b || (a.isInteger && b.isInteger) || (a.isFloat && b.isFloat)

namespace TypeExpr

mutual
/-- Whether two types agree. -/
def agrees : TypeExpr → TypeExpr → Bool
  | primitive a, primitive b => a.agrees b
  | named a, named b => a.agrees b
  | list a, list b => agrees a b
  | option a, option b => agrees a b
  | result a b, result c d => agreesOption a c && agreesOption b d
  | tuple as, tuple bs => agreesList as bs
  | handle a b, handle c d => a = c && b.agrees d
  | _, _ => false
/-- Whether two optional types agree. -/
def agreesOption : Option TypeExpr → Option TypeExpr → Bool
  | none, none => true
  | some a, some b => agrees a b
  | _, _ => false
/-- Whether two lists of types agree place by place. -/
def agreesList : List TypeExpr → List TypeExpr → Bool
  | [], [] => true
  | a :: as, b :: bs => agrees a b && agreesList as bs
  | _, _ => false
end

end TypeExpr

/-- Whether two fields agree. -/
def Field.agrees (a b : Field) : Bool :=
  a.name.agrees b.name && a.type.agrees b.type

/-- Whether two cases agree. -/
def Case.agrees (a b : Case) : Bool :=
  a.name.agrees b.name && TypeExpr.agreesOption a.payload b.payload

/-- Whether two parameters agree. -/
def Parameter.agrees (a b : Parameter) : Bool :=
  a.name.agrees b.name && a.type.agrees b.type

/-- The results of a function with several gathered in one tuple. -/
def Function.gatheredResults (function : Function) : List TypeExpr :=
  match function.results with
  | [] => []
  | [result] => [result]
  | results => [.tuple results]

/-- Whether two functions agree. -/
def Function.agrees (a b : Function) : Bool :=
  a.name.agrees b.name && agreeAll Parameter.agrees a.parameters b.parameters
    && TypeExpr.agreesList a.gatheredResults b.gatheredResults

/-- Whether two definitions agree. -/
def Definition.agrees : Definition → Definition → Bool
  | record a, record b => agreeAll Field.agrees a b
  | variant a, variant b => agreeAll Case.agrees a b
  | enum a, enum b => agreeAll Identifier.agrees a b
  | flags a, flags b => agreeAll Identifier.agrees a b
  | resource a methods, resource b others =>
    methods.length = others.length && a.isSome = b.isSome
  | synonym a, synonym b => a.agrees b
  | _, _ => false

/-- Whether two type definitions agree. -/
def TypeDefinition.agrees (a b : TypeDefinition) : Bool :=
  a.name.agrees b.name && a.body.agrees b.body

/-- Whether two interfaces agree. -/
def Interface.agrees (a b : Interface) : Bool :=
  agreeAll TypeDefinition.agrees a.types b.types && agreeAll Function.agrees a.functions b.functions

/-- Whether two worlds agree. -/
def World.agrees (a b : World) : Bool :=
  a.imports.length = b.imports.length && a.exports.length = b.exports.length

/-- Whether two packages agree. -/
def Package.agrees (a b : Package) : Bool :=
  agreeAll Interface.agrees a.interfaces b.interfaces && agreeAll World.agrees a.worlds b.worlds

end WitBridge
