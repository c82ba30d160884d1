import WitBridge.CommandLine.Switch
import WitBridge.Package.Printer

/-!
# Reading arguments

Arguments are read from the left: switches that hold for every command, the command, and then
its input and switches in any order. Letters may be written together; a value follows its
switch as the next argument, behind an equals sign, or right after a letter; and after two
hyphens alone everything is input. No switch is given twice. Reading stops at the first
fault, or where help or the version is asked for.
-/
namespace WitBridge.CommandLine

/-- Why arguments cannot be followed. -/
inductive UsageFault where
  | missingCommand
  | unknownCommand (text : String)
  | unexpected (argument : String)
  | unexpectedValue (switch : Switch)
  | missingValue (switch : Switch)
  | invalidValue (switch : Switch) (text : String)
  | repeated (switch : Switch)
  | missingInput
  deriving DecidableEq, Repr

/-- What the fault is. -/
def UsageFault.message : UsageFault → String
  | missingCommand => "a command is required"
  | unknownCommand text => s!"unrecognized command '{text}'"
  | unexpected argument => s!"unexpected argument '{argument}'"
  | unexpectedValue switch => s!"unexpected value for '--{switch.name}'"
  | missingValue switch => s!"a value is required for '--{switch.name}'"
  | invalidValue switch text => s!"invalid value '{text}' for '--{switch.name}'"
  | repeated switch => s!"the argument '--{switch.name}' cannot be used multiple times"
  | missingInput => "an input is required"

/-- What help may be about. -/
inductive Topic where
  | program
  | command (subject : Command)
  /-- The word that asks for help. -/
  | help
  deriving DecidableEq, Repr

/-- Why nothing is to be run. -/
inductive Stop where
  | help (topic : Topic)
  | version
  | fault (fault : UsageFault)
  deriving DecidableEq, Repr

/-- What has been read of the arguments. -/
structure Progress where
  /-- The command, once it is known. -/
  command : Option Command := none
  /-- The switches given so far, with their values. -/
  given : List (Switch × Option String) := []
  input : Option String := none
  /-- The switch whose value comes next. -/
  awaiting : Option Switch := none
  /-- Whether everything that follows is input. -/
  verbatim : Bool := false
  deriving DecidableEq, Repr

namespace Progress

/-- The switches known at this point. -/
def known (progress : Progress) : List Switch :=
  match progress.command with
  | some command => command.switches
  | none => Switch.leading

/-- Give a switch. -/
def give (progress : Progress) (switch : Switch) (value : Option String) :
    Except Stop Progress :=
  match switch with
  | .help => throw (.help ((progress.command.map .command).getD .program))
  | .version => throw .version
  | _ =>
    if progress.given.any (·.1 = switch) then throw (.fault (.repeated switch))
    else return { progress with given := progress.given ++ [(switch, value)], awaiting := none }

/-- Give a switch with its value. -/
def giveValue (progress : Progress) (switch : Switch) (text : String) : Except Stop Progress :=
  match switch.operand? with
  | none => throw (.fault (.unexpectedValue switch))
  | some operand =>
    if operand.accepts text then progress.give switch (some text)
    else throw (.fault (.invalidValue switch text))

/-- Give a switch whose value, if it takes one, comes next. -/
def giveBare (progress : Progress) (switch : Switch) : Except Stop Progress :=
  if switch.operand?.isSome then return { progress with awaiting := some switch }
  else progress.give switch none

/-- Read a switch by its long name. -/
def readLong (progress : Progress) (text : List Char) : Except Stop Progress :=
  let isName := fun c : Char => c ≠ '='
  match progress.known.find? (·.name.toList = text.takeWhile isName), text.dropWhile isName with
  | none, _ => throw (.fault (.unexpected (String.ofList ('-' :: '-' :: text))))
  | some switch, [] => progress.giveBare switch
  | some switch, _ :: value => progress.giveValue switch (String.ofList value)

/-- Read switches by their letters. The letters after one that takes a value are its value. -/
def readLetters (progress : Progress) : List Char → Except Stop Progress
  | [] => return progress
  | c :: rest =>
    match progress.known.find? (·.letter? = some c) with
    | none => throw (.fault (.unexpected (String.ofList ['-', c])))
    | some switch =>
      if switch.operand?.isSome then
        match rest with
        | [] => progress.giveBare switch
        | '=' :: value => progress.giveValue switch (String.ofList value)
        | value => progress.giveValue switch (String.ofList value)
      else do readLetters (← progress.give switch none) rest

/-- Nothing more comes that could be the value of a switch. -/
def settle (progress : Progress) : Except Stop Unit :=
  match progress.awaiting with
  | some switch => throw (.fault (.missingValue switch))
  | none => return ()

/-- Read an argument that is no switch: a value, the command, or the input. -/
def readPlain (progress : Progress) (argument : String) : Except Stop Progress :=
  match progress.awaiting, progress.command, progress.input with
  | some switch, _, _ => progress.giveValue switch argument
  | none, some _, none => return { progress with input := some argument }
  | none, some _, some _ => throw (.fault (.unexpected argument))
  | none, none, _ =>
    match progress.verbatim, Command.ofName? argument with
    | false, some command => return { command := some command }
    | _, _ => throw (.fault (.unknownCommand argument))

/-- Read an argument. -/
def read (progress : Progress) (argument : String) : Except Stop Progress :=
  match progress.verbatim, argument.toList with
  | false, ['-', '-'] => do
    progress.settle
    return { progress with verbatim := true }
  | false, '-' :: '-' :: text => do
    progress.settle
    progress.readLong text
  | false, '-' :: c :: text => do
    progress.settle
    progress.readLetters (c :: text)
  | _, _ => progress.readPlain argument

end Progress

/-- What a command does with its input. -/
inductive Action where
  | make (strict : Bool)
  | gen (layout : Layout)
  | build (strict : Bool)
  deriving DecidableEq, Repr

/-- What the command line asks for. -/
structure Invocation where
  action : Action
  /-- The file to read; a hyphen stands for the standard input. -/
  input : String
  /-- The file to write, if not to the standard output. -/
  output : Option String := none
  /-- The file with the settings of the type mappings. -/
  typeMap : Option String := none
  warningsAsErrors : Bool := false
  deriving DecidableEq, Repr

namespace Progress

/-- Whether a switch is given. -/
def has (progress : Progress) (switch : Switch) : Bool :=
  progress.given.any (·.1 = switch)

/-- The value that a switch is given. -/
def value? (progress : Progress) (switch : Switch) : Option String :=
  (progress.given.lookup switch).join

/-- The action of a command under the switches given. -/
def action (progress : Progress) : Command → Action
  | .make => .make (progress.has .strict)
  | .build => .build (progress.has .strict)
  | .gen => .gen {
      indent := ((progress.value? .indent).bind count?).getD 4
      comments := !progress.has .noComments }

/-- What is asked for once all arguments are read. -/
def invocation (progress : Progress) : Except Stop Invocation := do
  progress.settle
  match progress.command, progress.input with
  | none, _ => throw (.fault .missingCommand)
  | some _, none => throw (.fault .missingInput)
  | some command, some input =>
    return { action := progress.action command
             input := input
             output := progress.value? .output
             typeMap := progress.value? .typeMap
             warningsAsErrors := progress.has .warningsAsErrors }

end Progress

/-- The word that asks for help. -/
def helpWord : String := "help"

/-- The topic that a word names. -/
def Topic.ofName? (text : String) : Option Topic :=
  if text = helpWord then some .help else (Command.ofName? text).map .command

/-- The help that the arguments after the word for help ask for: one word names the topic. -/
def helpOn : List String → Stop
  | [] => .help .program
  | text :: rest =>
    match Topic.ofName? text, rest with
    | some topic, [] => .help topic
    | some _, text :: _ => .fault (.unknownCommand text)
    | none, _ => .fault (.unknownCommand text)

/-- Read arguments up to the end. The word for help counts only where a command may stand. -/
def readArguments (progress : Progress) : List String → Except Stop Progress
  | [] => return progress
  | argument :: rest =>
    if argument = helpWord && progress.command.isNone && !progress.verbatim then
      throw (helpOn rest)
    else do readArguments (← progress.read argument) rest

/-- What arguments ask for. -/
def Invocation.ofArguments (arguments : List String) : Except Stop Invocation := do
  (← readArguments {} arguments).invocation

end WitBridge.CommandLine
