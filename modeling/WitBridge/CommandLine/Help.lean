import WitBridge.CommandLine.Arguments

/-!
# Help

The help on the command line lists the commands with their switches, a column for the
spellings and a column for what they do.
-/
namespace WitBridge.CommandLine

/-- The name of the program. -/
def programName : String := "wit-morphir"

/-- The line that names the version: that of the package that the program comes in. -/
def versionLine : String := s!"{programName}-cli 0.1.0\n"

/-- How a switch may be spelled. -/
def Switch.spelling (switch : Switch) : String :=
  let letter := match switch.letter? with
    | some c => String.ofList ['-', c, ',', ' ']
    | none => "    "
  let value := match switch.operand? with
    | some operand => s!" <{operand.display}>"
    | none => ""
  letter ++ "--" ++ switch.name ++ value

/-- Rows of two columns under a heading, with two spaces in front of each column. -/
def table (heading : String) (rows : List (String × String)) : String :=
  let width := (rows.map (·.1.length)).foldl max 0
  let line := fun (row : String × String) =>
    "  " ++ row.1 ++ String.ofList (List.replicate (width - row.1.length) ' ') ++ "  " ++ row.2
      ++ "\n"
  heading ++ ":\n" ++ String.join (rows.map line)

/-- The switches with what they do. -/
def switchTable (switches : List Switch) : String :=
  table "Options" (switches.map fun switch => (switch.spelling, switch.about))

/-- The help on a command. -/
def commandHelp (command : Command) : String :=
  s!"{command.help}\n\nUsage: {programName} {command.name} [OPTIONS] <INPUT>\n\n"
    ++ table "Arguments" [("<INPUT>", command.inputHelp)] ++ "\n"
    ++ switchTable command.switches

/-- What the word for help does. -/
def helpAbout : String := "Print this message or the help of the given subcommand(s)"

/-- The help on asking for help. -/
def helpHelp : String :=
  s!"{helpAbout}\n\nUsage: {programName} {helpWord} [COMMAND]...\n\n"
    ++ table "Arguments" [("[COMMAND]...", "Print help for the subcommand(s)")]

/-- The help on all commands. -/
def programHelp : String :=
  s!"Convert between WIT and Morphir IR\n\nUsage: {programName} [OPTIONS] <COMMAND>\n\n"
    ++ table "Commands" (Command.all.map (fun command => (command.name, command.help))
      ++ [(helpWord, helpAbout)]) ++ "\n"
    ++ switchTable Switch.leading

/-- The help on a topic. -/
def Topic.text : Topic → String
  | program => programHelp
  | command subject => commandHelp subject
  | help => helpHelp

end WitBridge.CommandLine
