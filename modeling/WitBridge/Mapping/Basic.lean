import WitBridge.Ir.QualifiedName

/-!
# Type mappings

A mapping ties an external type, such as `u32` or `list`, to a type of the IR. It holds both
ways or in one direction only, and of several mappings of one external type the one with the
highest priority counts.
-/
namespace WitBridge.Mapping

/-- The direction of a mapping that does not hold both ways. -/
inductive Direction where
  | toIr | fromIr
  deriving DecidableEq, Repr

/-- The direction as it is named in settings. -/
def Direction.display : Direction → String
  | toIr => "to_morphir"
  | fromIr => "from_morphir"

/-- A mapping of a type without parameters. -/
structure Primitive where
  external : String
  target : Ir.TypeReference
  /-- The one direction of the mapping; none if it holds both ways. -/
  oneWay : Option Direction := none
  priority : Int := 0
  metadata : List (String × String) := []
  deriving DecidableEq, Repr

/-- The number of type parameters of a container. -/
inductive Arity where
  | fixed (count : Nat)
  | variadic
  deriving DecidableEq, Repr

/-- The arity that a count stands for; a negative count means any number. -/
def Arity.ofCount (count : Int) : Arity :=
  if 0 ≤ count then .fixed count.toNat else .variadic

/-- A mapping of a type with parameters. -/
structure Container where
  external : String
  /-- The text of the IR type. -/
  target : String
  arity : Arity := .fixed 1
  /-- The one direction of the mapping; none if it holds both ways. -/
  oneWay : Option Direction := none
  priority : Int := 0
  deriving DecidableEq, Repr

/-- Whether the mapping holds both ways. -/
def Primitive.bidirectional (mapping : Primitive) : Bool :=
  mapping.oneWay.isNone

/-- The direction of the mapping; to the IR if it holds both ways. -/
def Primitive.direction (mapping : Primitive) : Direction :=
  mapping.oneWay.getD .toIr

/-- Whether the mapping holds both ways. -/
def Container.bidirectional (mapping : Container) : Bool :=
  mapping.oneWay.isNone

/-- The direction of the mapping; to the IR if it holds both ways. -/
def Container.direction (mapping : Container) : Direction :=
  mapping.oneWay.getD .toIr

/-- Mappings from one source, in order. -/
structure Source where
  primitives : List Primitive := []
  containers : List Container := []
  deriving DecidableEq, Repr

namespace Source

/-- The mappings of one source and then those of another. -/
protected def append (first second : Source) : Source :=
  ⟨first.primitives ++ second.primitives, first.containers ++ second.containers⟩

instance : Append Source := ⟨Source.append⟩

end Source

end WitBridge.Mapping
