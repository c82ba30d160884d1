import WitBridge.Position

/-!
# Diagnostics

A step reports what it could not keep or understand next to its result. Diagnostics never
stop a conversion: they are gathered in the order of the work, and a value with the
diagnostics of the work that made it is a `Reported` value.
-/
namespace WitBridge

/-- How grave a diagnostic is. -/
inductive Severity where
  | info | warning | error
  deriving DecidableEq, Repr

/-- The severity as messages name it. -/
def Severity.display : Severity → String
  | info => "info"
  | warning => "warning"
  | error => "error"

/-- The three steps that report. -/
inductive Step where
  | make | gen | build
  deriving DecidableEq, Repr

/-- The name of a step. -/
def Step.display : Step → String
  | make => "wit-make"
  | gen => "wit-gen"
  | build => "wit-build"

namespace Diagnostic

/-- What a diagnostic is about. -/
inductive Code where
  /-- The size and sign of an integer are lost. -/
  | intPrecisionLost
  /-- Single precision is lost. -/
  | floatPrecisionLost
  | flagsUnsupported
  /-- A resource or a handle to one. -/
  | resourceUnsupported
  | roundTripMismatch
  | unknownType
  | parseError
  | conversionError
  /-- A world refers to an interface defined elsewhere. -/
  | externalReference
  deriving DecidableEq, Repr

/-- The stable code of a diagnostic. -/
def Code.display : Code → String
  | intPrecisionLost => "WIT001"
  | floatPrecisionLost => "WIT002"
  | flagsUnsupported => "WIT003"
  | resourceUnsupported => "WIT004"
  | roundTripMismatch => "WIT005"
  | unknownType => "WIT006"
  | parseError => "WIT007"
  | conversionError => "WIT008"
  | externalReference => "WIT_EXTERNAL_REF"

end Diagnostic

/-- A report of a step. -/
structure Diagnostic where
  severity : Severity
  code : Diagnostic.Code
  message : String
  step : Step
  location : Option Position := none
  deriving DecidableEq, Repr

namespace Diagnostic

/-- The diagnostic with a place in the source. -/
def located (diagnostic : Diagnostic) (position : Position) : Diagnostic :=
  { diagnostic with location := some position }

/-- The diagnostic on one line. -/
def display (diagnostic : Diagnostic) : String :=
  let place := match diagnostic.location with
    | some position => s!" (at {position.display})"
    | none => ""
  s!"{diagnostic.severity.display}[{diagnostic.code.display}]: {diagnostic.message}" ++ place

/-- An integer type became the one integer type of the IR. -/
def intPrecisionLost (type : String) (step : Step) : Diagnostic :=
  ⟨.warning, .intPrecisionLost, s!"integer size/signedness lost: {type} → Int", step, none⟩

/-- A single-precision type became the one floating-point type of the IR. -/
def floatPrecisionLost (type : String) (step : Step) : Diagnostic :=
  ⟨.warning, .floatPrecisionLost, s!"float precision hint lost: {type} → Float", step, none⟩

/-- What strict mode makes of a construct that has no image: an error instead of a warning. -/
def strictSeverity (strict : Bool) : Severity :=
  if strict then .error else .warning

/-- A flags type has no image. -/
def flagsUnsupported (name : String) (step : Step) (strict : Bool) : Diagnostic :=
  ⟨strictSeverity strict, .flagsUnsupported, s!"flags type not supported: {name}", step, none⟩

/-- A resource or handle has no image. -/
def resourceUnsupported (name : String) (step : Step) (strict : Bool) : Diagnostic :=
  ⟨strictSeverity strict, .resourceUnsupported, s!"resource type not supported: {name}", step,
    none⟩

/-- A package and its image do not agree. -/
def roundTripMismatch (step : Step) : Diagnostic :=
  ⟨.warning, .roundTripMismatch, "round-trip WIT→IR→WIT produced semantically different output",
    step, none⟩

/-- A type without a mapping. -/
def unknownType (name : String) (step : Step) : Diagnostic :=
  ⟨.error, .unknownType, s!"unknown type: {name}", step, none⟩

/-- A source text that is no document. -/
def parseError (message : String) (step : Step) : Diagnostic :=
  ⟨.error, .parseError, s!"parse error: {message}", step, none⟩

/-- Something that could not be converted. -/
def conversionError (message : String) (step : Step) : Diagnostic :=
  ⟨.error, .conversionError, s!"conversion error: {message}", step, none⟩

/-- Something that was converted with a loss. -/
def conversionWarning (message : String) (step : Step) : Diagnostic :=
  ⟨.warning, .conversionError, message, step, none⟩

/-- A reference to something defined elsewhere. -/
def externalReference (message : String) (step : Step) : Diagnostic :=
  ⟨.info, .externalReference, message, step, none⟩

/-- How many diagnostics of a list have a severity. -/
def count (severity : Severity) (diagnostics : List Diagnostic) : Nat :=
  (diagnostics.filter (·.severity = severity)).length

end Diagnostic

/-- A value with what was reported while it was made. -/
structure Reported (α : Type) where
  value : α
  diagnostics : List Diagnostic := []
  deriving DecidableEq, Repr

namespace Reported

instance : Monad Reported where
  pure value := ⟨value, []⟩
  bind reported next :=
    let result := next reported.value
    ⟨result.value, reported.diagnostics ++ result.diagnostics⟩

/-- Report one diagnostic. -/
def note (diagnostic : Diagnostic) : Reported Unit :=
  ⟨(), [diagnostic]⟩

/-- Two reported values are the same if their values and their diagnostics are. -/
@[ext]
theorem ext {α : Type} {left right : Reported α} (values : left.value = right.value)
    (diagnostics : left.diagnostics = right.diagnostics) : left = right := by
  cases left; cases right; simp_all

/-- A plain value reports nothing. -/
@[simp]
theorem pure_eq {α : Type} (value : α) : (pure value : Reported α) = ⟨value, []⟩ := rfl

/-- The value of two steps is the value of the second. -/
@[simp]
theorem bind_value {α β : Type} (reported : Reported α) (next : α → Reported β) :
    (reported >>= next).value = (next reported.value).value := rfl

/-- The diagnostics of two steps are those of the first and then those of the second. -/
@[simp]
theorem bind_diagnostics {α β : Type} (reported : Reported α) (next : α → Reported β) :
    (reported >>= next).diagnostics =
      reported.diagnostics ++ (next reported.value).diagnostics := rfl

instance : LawfulMonad Reported :=
  LawfulMonad.mk' Reported
    (fun _ => by ext1 <;> simp [Functor.map])
    (fun _ _ => by ext1 <;> simp)
    (fun _ _ _ => by ext1 <;> simp)

end Reported

end WitBridge
