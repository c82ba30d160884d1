import WitBridge.CommandLine.Session
import WitBridge.Files.Tree

/-!
# The program

What a session needs of the outside world is read before it runs, and its file is written
after it.
-/
namespace WitBridge.CommandLine

/-- Why the system refused something. -/
def reason : IO.Error → String
  | .noFileOrDirectory .. => Files.Refusal.missing.message
  | .permissionDenied .. => "Permission denied (os error 13)"
  | .alreadyExists .. => Files.Refusal.present.message
  | .inappropriateType _ _ "not a directory" => Files.Refusal.notDirectory.message
  | .inappropriateType .. => Files.Refusal.isDirectory.message
  | .invalidArgument _ 36 _ => Files.Refusal.nameTooLong.message
  | fault => toString fault

/-- A file with its text, or why it cannot be read. -/
def fetch (path : String) : IO (String × Except String String) := do
  try return (path, .ok (← IO.FS.readFile path))
  catch fault => return (path, .error (reason fault))

/-- The surroundings of an invocation: the texts of its files. -/
def survey (invocation : Invocation) : IO Surroundings := do
  let stdin ← if invocation.readsStdin then (do (← IO.getStdin).readToEnd) else pure ""
  let files ← invocation.files.mapM fetch
  return {
    stdin := stdin
    file := fun path => (files.lookup path).getD (.error Files.Refusal.missing.message) }

/-- Write the file of a report; the report of what came of it. -/
def deliver (report : Report) : IO Report := do
  match report.file with
  | none => return report
  | some (path, text) =>
    try
      if let some directory := (Files.directories path).head? then
        try IO.FS.createDirAll directory
        catch fault => return report.withoutDirectory directory (reason fault)
      IO.FS.writeFile path text
      return report
    catch fault => return report.withoutFile path (reason fault)

/-- Run the command line and give its exit status. -/
def perform (arguments : List String) : IO UInt32 := do
  let report ← match Invocation.ofArguments arguments with
    | .ok invocation => do deliver (invocation.run (← survey invocation))
    | .error stop => pure stop.report
  IO.eprint report.stderr
  IO.print report.stdout
  pure (UInt32.ofNat report.status)

end WitBridge.CommandLine

/-- The program. -/
def main (arguments : List String) : IO UInt32 :=
  WitBridge.CommandLine.perform arguments
