import WitBridge.Ir.Codec
import WitBridge.Lowering
import WitBridge.Mapping.Defaults
import WitBridge.Package.Comparison
import WitBridge.Package.Parser
import WitBridge.Package.Printer
import WitBridge.Raising

/-!
# The steps make, gen and build

`make` turns a source text into a module, `gen` a module into a source text, and `build` does
both and compares the package with its image. A step keeps its output even where it fails on
its diagnostics: any error fails it, and a warning does if warnings count as errors. The
mismatch that `build` reports comes after both steps have succeeded or failed and fails
nothing itself.
-/
namespace WitBridge

/-- How `make` works. -/
structure MakeOptions where
  /-- Flags, resources and handles are errors, and what holds them is left out. -/
  strict : Bool := false
  /-- Warnings fail the step. -/
  warningsAsErrors : Bool := false
  deriving DecidableEq, Repr

/-- How `gen` works. -/
structure GenOptions where
  /-- Warnings fail the step. -/
  warningsAsErrors : Bool := false
  layout : Layout := {}
  deriving DecidableEq, Repr

/-- How `build` works. -/
structure BuildOptions where
  make : MakeOptions := {}
  gen : GenOptions := {}
  deriving DecidableEq, Repr

/-- Why a step failed. -/
inductive StepFault where
  /-- The source text is no document. -/
  | source (fault : SourceFault)
  | errors (step : Step) (count : Nat)
  | warnings (step : Step) (count : Nat)
  deriving DecidableEq, Repr

/-- Why the step failed, in words. -/
def StepFault.message : StepFault → String
  | source fault => fault.message
  | errors step count => s!"step {step.display} failed: {count} error diagnostic(s)"
  | warnings step count =>
    s!"step {step.display} failed: {count} warning(s) treated as errors"

/-- The outcome of a step: its output, which may be there even where the step failed. -/
structure Outcome (α : Type) where
  output : Option α
  diagnostics : List Diagnostic := []
  fault : Option StepFault := none

/-- Whether the step succeeded. -/
def Outcome.succeeded {α : Type} (outcome : Outcome α) : Bool :=
  outcome.fault.isNone

/-- The output of `make`. -/
structure MakeOutput where
  module : Ir.Module
  source : Package
  deriving DecidableEq, Repr

/-- The output of `gen`. -/
structure GenOutput where
  package : Package
  source : String
  deriving DecidableEq, Repr

/-- The output of `build`. -/
structure BuildOutput where
  make : Option MakeOutput := none
  gen : Option GenOutput := none
  /-- Whether the package agrees with its image. -/
  roundTrip : Bool := false
  deriving DecidableEq, Repr

/-- Why diagnostics fail a step, if they do. -/
def stepFault (step : Step) (warningsAsErrors : Bool) (diagnostics : List Diagnostic) :
    Option StepFault :=
  if 0 < Diagnostic.count .error diagnostics then
    some (.errors step (Diagnostic.count .error diagnostics))
  else if warningsAsErrors && 0 < Diagnostic.count .warning diagnostics then
    some (.warnings step (Diagnostic.count .warning diagnostics))
  else none

/-- Source text to module. -/
def make (source : String) (options : MakeOptions := {})
    (registry : Mapping.Registry := Mapping.witRegistry) : Outcome MakeOutput :=
  match Package.parse source with
  | .error fault =>
    { output := none
      diagnostics := [(Diagnostic.parseError fault.detail .make).located fault.position]
      fault := some (.source fault) }
  | .ok package =>
    let lowered := Lowering.package ⟨registry, options.strict⟩ package
    { output := some ⟨lowered.value, package⟩
      diagnostics := lowered.diagnostics
      fault := stepFault .make options.warningsAsErrors lowered.diagnostics }

/-- Module to source text. -/
def gen (module : Ir.Module) (options : GenOptions := {})
    (registry : Mapping.Registry := Mapping.witRegistry) : Outcome GenOutput :=
  let raised := Raising.package registry module
  { output := some ⟨raised.value, raised.value.render options.layout⟩
    diagnostics := raised.diagnostics
    fault := stepFault .gen options.warningsAsErrors raised.diagnostics }

/-- Source text to module and back, with a comparison of the package and its image. -/
def build (source : String) (options : BuildOptions := {})
    (registry : Mapping.Registry := Mapping.witRegistry) : Outcome BuildOutput :=
  let made := make source options.make registry
  match made.fault, made.output with
  | none, some output =>
    let generated := gen output.module options.gen registry
    let agrees := match generated.output with
      | some image => output.source.agrees image.package
      | none => false
    let mismatch := if agrees then [] else [Diagnostic.roundTripMismatch .build]
    { output := some { make := made.output, gen := generated.output, roundTrip := agrees }
      diagnostics := made.diagnostics ++ generated.diagnostics ++ mismatch
      fault := generated.fault }
  | _, _ =>
    { output := some { make := made.output }
      diagnostics := made.diagnostics
      fault := made.fault }

end WitBridge
