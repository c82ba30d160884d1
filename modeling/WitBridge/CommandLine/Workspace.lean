import WitBridge.CommandLine.Session
import WitBridge.Files.Tree

/-!
# Sessions among files

A session reads from a tree of files and leaves a tree of files. Directories that its file needs
are made first; where that or the writing is refused, the report says so, and the directories
made so far stay.
-/
namespace WitBridge.CommandLine

/-- Surroundings with the files of a tree. -/
def Surroundings.ofTree (stdin : String) (tree : Files.Tree) : Surroundings where
  stdin := stdin
  file := fun path => (tree.read path).mapError (·.message)

/-- Write the file of a report into a tree. -/
def Report.commit (report : Report) (tree : Files.Tree) : Report × Files.Tree :=
  match report.file with
  | none => (report, tree)
  | some (path, text) =>
    let directories := Files.directories path
    match tree.ensureAll directories with
    | (made, some refusal) =>
      (report.withoutDirectory (directories.headD "") refusal.message, made)
    | (made, none) =>
      match made.write path text with
      | .error refusal => (report.withoutFile path refusal.message, made)
      | .ok written => (report, written)

/-- Run the command line among the files of a tree. -/
def runAmong (tree : Files.Tree) (arguments : List String) (stdin : String) :
    Report × Files.Tree :=
  (run arguments (.ofTree stdin tree)).commit tree

end WitBridge.CommandLine
