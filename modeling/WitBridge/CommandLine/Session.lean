import WitBridge.Build
import WitBridge.CommandLine.Arguments
import WitBridge.CommandLine.Help
import WitBridge.Mapping.Defaults
import WitBridge.Text.Quoted

/-!
# Running the command line

A session reads the input and then the settings, runs the step, and writes its text. The
diagnostics of the step go to the error stream, one on a line, whether it fails or not; a
failure comes after them, with what was being done and why it could not be done. Nothing is
written where anything failed. The files are those of the surroundings, so a session is a
function of the arguments and the surroundings.
-/
namespace WitBridge.CommandLine

/-- Something that could not be done, and why. -/
structure Failure where
  context : String
  /-- The reason, if there is more to say. -/
  cause : Option String := none
  deriving DecidableEq, Repr

/-- Text with its lines four spaces further in. -/
def indented (text : String) : String :=
  String.ofList ("    ".toList ++ text.toList.flatMap fun c =>
    if c = '\n' then "\n    ".toList else [c])

/-- The failure as it is reported. -/
def Failure.display (failure : Failure) : String :=
  let cause := match failure.cause with
    | some reason => s!"\n\nCaused by:\n{indented reason}"
    | none => ""
  s!"Error: {failure.context}{cause}\n"

/-- What a session finds around it. -/
structure Surroundings where
  stdin : String := ""
  /-- The text of a file, or why it cannot be read. -/
  file : String → Except String String

/-- What a session leaves. -/
structure Report where
  /-- 0 for success, 1 for a failure, 2 for arguments that cannot be followed. -/
  status : Nat := 0
  stdout : String := ""
  stderr : String := ""
  /-- A file to be written, with its text. -/
  file : Option (String × String) := none
  deriving DecidableEq, Repr

namespace Report

/-- The report with a failure at its end. -/
def failed (report : Report) (failure : Failure) : Report :=
  { report with status := 1, stderr := report.stderr ++ failure.display, file := none }

/-- The report if the directory of its file cannot be made. -/
def withoutDirectory (report : Report) (directory reason : String) : Report :=
  report.failed ⟨s!"failed to create directory {Text.quoted directory}", some reason⟩

/-- The report if its file cannot be written. -/
def withoutFile (report : Report) (path reason : String) : Report :=
  report.failed ⟨s!"failed to write output file {path}", some reason⟩

/-- The report with a text for the standard output or a file. The standard output ends with a
newline; a file holds just the text. -/
def deliver (report : Report) (text : String) : Option String → Report
  | some path => { report with file := some (path, text) }
  | none => { report with stdout := if text.endsWith "\n" then text else text ++ "\n" }

end Report

/-- The text of the input. -/
def readInput (surroundings : Surroundings) (input : String) : Except Failure String :=
  if input = "-" then .ok surroundings.stdin
  else (surroundings.file input).mapError fun reason =>
    ⟨s!"failed to read input file {input}", some reason⟩

/-- The module that a text spells. -/
def readModule (input text : String) : Except Failure Ir.Module :=
  match Ir.Module.parse? text with
  | some module => .ok module
  | none => .error ⟨s!"failed to parse IR module from {input}", some "not an IR module"⟩

/-- The mappings under the settings of a file, if one is given. -/
def readRegistry (surroundings : Surroundings) :
    Option String → Except Failure Mapping.Registry
  | none => .ok Mapping.witRegistry
  | some path => do
    let text ← (surroundings.file path).mapError fun reason =>
      ⟨s!"failed to read type mapping file {path}", some reason⟩
    match Mapping.Config.ofToml? text with
    | some config => return Mapping.witRegistry (some config)
    | none => throw ⟨s!"invalid type mapping file {path}", some "not type mapping settings"⟩

/-- Lines of text. -/
def lines (texts : List String) : String :=
  String.join (texts.map (· ++ "\n"))

/-- The report of a step, given the lines and the text that its output stands for. -/
def reportOf {α : Type} (command : Command) (outcome : Outcome α)
    (result : α → List String × Option String) (output : Option String) : Report :=
  let report : Report := { stderr := lines (outcome.diagnostics.map (·.display)) }
  match outcome.fault, outcome.output with
  | some fault, _ => report.failed ⟨s!"{command.name} failed", some fault.message⟩
  | none, none => report.failed ⟨s!"{command.name} produced no output", none⟩
  | none, some found =>
    let (notes, text) := result found
    let report := { report with stderr := report.stderr ++ lines notes }
    match text with
    | some text => report.deliver text output
    | none => report.failed ⟨s!"{command.name} produced no WIT output", none⟩

/-- What `build` says about its round trip. -/
def roundTripLine (agrees : Bool) : String :=
  if agrees then "round-trip: valid" else "round-trip: mismatch"

namespace Invocation

/-- Read what the invocation asks for and run its step. -/
def attempt (invocation : Invocation) (surroundings : Surroundings) : Except Failure Report := do
  let warningsAsErrors := invocation.warningsAsErrors
  let text ← readInput surroundings invocation.input
  match invocation.action with
  | .make strict =>
    let registry ← readRegistry surroundings invocation.typeMap
    return reportOf .make (make text ⟨strict, warningsAsErrors⟩ registry)
      (fun made => ([], some made.module.render)) invocation.output
  | .gen layout =>
    let module ← readModule invocation.input text
    let registry ← readRegistry surroundings invocation.typeMap
    return reportOf .gen (gen module ⟨warningsAsErrors, layout⟩ registry)
      (fun generated => ([], some generated.source)) invocation.output
  | .build strict =>
    let registry ← readRegistry surroundings invocation.typeMap
    return reportOf .build
      (build text ⟨⟨strict, warningsAsErrors⟩, ⟨warningsAsErrors, {}⟩⟩ registry)
      (fun built => ([roundTripLine built.roundTrip], built.gen.map (·.source)))
      invocation.output

/-- Run the invocation. -/
def run (invocation : Invocation) (surroundings : Surroundings) : Report :=
  match invocation.attempt surroundings with
  | .ok report => report
  | .error failure => Report.failed {} failure

/-- Whether the standard input is read. -/
def readsStdin (invocation : Invocation) : Bool :=
  invocation.input = "-"

/-- The files that may be read. -/
def files (invocation : Invocation) : List String :=
  (if invocation.readsStdin then [] else [invocation.input]) ++ invocation.typeMap.toList

end Invocation

/-- What is reported where nothing is run. -/
def Stop.report : Stop → Report
  | help topic => { stdout := topic.text }
  | version => { stdout := versionLine }
  | fault reason =>
    { status := 2
      stderr := s!"error: {reason.message}\n\nFor more information, try '--help'.\n" }

/-- Run the command line. -/
def run (arguments : List String) (surroundings : Surroundings) : Report :=
  match Invocation.ofArguments arguments with
  | .ok invocation => invocation.run surroundings
  | .error stop => stop.report

end WitBridge.CommandLine
