import SessionScript.Text.Quoted

/-!
# Usage of the command line

The commands of the program, the switches that each of them knows, and what can be wrong with the
words that a command is called with.
-/

namespace SessionScript.CommandLine

/-- The switches of all commands. -/
inductive Switch where
  | target
  | defer
  | assign
  | allowCode
  | verbose
  | help
  deriving DecidableEq, Repr, Inhabited

namespace Switch

/-- The long form of a switch. -/
def long : Switch → String
  | .target => "--target"
  | .defer => "--defer-connection"
  | .assign => "--var"
  | .allowCode => "--allow-code"
  | .verbose => "--verbose"
  | .help => "--help"

/-- The letter of a switch that has a short form. -/
def letter? : Switch → Option Char
  | .target => some 't'
  | .verbose => some 'v'
  | _ => none

/-- What the value of a switch is called, if it takes one. -/
def valueName? : Switch → Option String
  | .target => some "TEXT"
  | .assign => some "NAME=VALUE"
  | _ => none

/-- Whether a switch takes a value. -/
def takesValue (s : Switch) : Bool := s.valueName?.isSome

/-- What a switch is for. -/
def purpose : Switch → String
  | .target => "Base WebSocket URL; overrides the scenario target."
  | .defer => "Do not open the target connection before the first step."
  | .assign => "Initial template variable; may be repeated."
  | .allowCode => "Enable functions defined as code in the scenario."
  | .verbose => "Increase logging verbosity."
  | .help => "Show this message and exit."

/-- All forms of a switch with the name of its value. -/
def forms (s : Switch) : String :=
  let short := match s.letter? with
    | some c => String.ofList ['-', c] ++ ", "
    | none => ""
  let value := match s.valueName? with
    | some v => " " ++ v
    | none => ""
  short ++ s.long ++ value

end Switch

/-- A part of the program that is called with words of its own. -/
structure Part where
  /-- The words that lead to it. -/
  name : String
  /-- The words that it takes besides switches. -/
  operands : String
  purpose : String
  switches : List Switch
  /-- Whether switches are still looked for after the first other word. -/
  mixesOperands : Bool := true
  /-- The commands that it takes, with their purposes. -/
  commands : List (String × String) := []

namespace Part

/-- The command that runs a scenario. -/
def run : Part :=
  { name := "loco-ws run"
    operands := " SCENARIO"
    purpose := "Run one session of a scenario file."
    switches := [.target, .defer, .assign, .allowCode, .verbose, .help] }

/-- The command that prints the schema of scenarios. -/
def schema : Part :=
  { name := "loco-ws schema"
    operands := ""
    purpose := "Print the scenario document JSON Schema to standard output."
    switches := [.help] }

/-- The program itself, which takes the name of a command and its words. -/
def program : Part :=
  { name := "loco-ws"
    operands := " COMMAND [ARGS]..."
    purpose := "Scripted WebSocket session engine."
    switches := [.help]
    mixesOperands := false
    commands := [("run", run.purpose), ("schema", schema.purpose)] }

/-- The line that shows how a part is called. -/
def usage (p : Part) : String := "Usage: " ++ p.name ++ " [OPTIONS]" ++ p.operands ++ "\n"

/-- A text filled up with blanks to a width. -/
def padded (width : Nat) (s : String) : String :=
  s ++ String.ofList (List.replicate (width - s.length) ' ')

/-- A section of the help: a title, and a line for every row of a table of two columns. -/
def helpSection (title : String) (rows : List (String × String)) : String :=
  let width := (rows.map fun r => r.1.length).foldl max 0
  let line := fun (r : String × String) => "  " ++ padded width r.1 ++ "  " ++ r.2 ++ "\n"
  if rows.isEmpty then "" else "\n" ++ title ++ ":\n" ++ String.join (rows.map line)

/-- The help of a part. -/
def help (p : Part) : String :=
  p.usage ++ "\n  " ++ p.purpose ++ "\n" ++
    helpSection "Options" (p.switches.map fun s => (s.forms, s.purpose)) ++
    helpSection "Commands" p.commands

end Part

/-- What is wrong with the words that a part of the program is called with. -/
inductive Misuse where
  | unknownSwitch (name : String) (similar : List String)
  | valueMissing (name : String)
  | valueUnwanted (name : String)
  | commandMissing
  | unknownCommand (name : String) (similar : List String)
  | notAnAssignment (item : String)
  | scenarioMissing
  | fileMissing (path : String)
  | fileIsDirectory (path : String)
  | fileUnreadable (path : String)
  | extraOperands (words : List String)
  deriving DecidableEq, Repr

namespace Misuse

/-- A message with the words that may have been meant. -/
def suggesting (message : String) : List String → String
  | [] => message
  | [word] => message ++ " Did you mean " ++ Text.quoted word ++ "?"
  | words =>
    message ++ " (Did you mean one of: " ++ String.intercalate ", " (words.map Text.quoted) ++ "?)"

/-- A message about a scenario file. -/
def aboutFile (path complaint : String) : String :=
  "Invalid value for 'SCENARIO': File " ++ Text.quoted path ++ " " ++ complaint ++ "."

/-- The wording of a misuse. -/
def message : Misuse → String
  | .unknownSwitch name similar => suggesting ("No such option " ++ Text.quoted name ++ ".") similar
  | .valueMissing name => "Option " ++ Text.quoted name ++ " requires an argument."
  | .valueUnwanted name => "Option " ++ Text.quoted name ++ " does not take a value."
  | .commandMissing => "Missing command."
  | .unknownCommand name similar =>
    suggesting ("No such command " ++ Text.quoted name ++ ".") similar
  | .notAnAssignment item =>
    "Invalid value for '--var': " ++ Text.quoted item ++ " is not a NAME=VALUE pair"
  | .scenarioMissing => "Missing argument 'SCENARIO'."
  | .fileMissing path => aboutFile path "does not exist"
  | .fileIsDirectory path => aboutFile path "is a directory"
  | .fileUnreadable path => aboutFile path "is not readable"
  | .extraOperands words =>
    "Got unexpected extra argument" ++ (if words.length == 1 then "" else "s") ++ " (" ++
      String.intercalate " " words ++ ")"

/-- Whether the usage of the part is shown with the message. It is not where only the value of a
    switch is missing or unwanted. -/
def showsUsage : Misuse → Bool
  | .valueMissing _ | .valueUnwanted _ => false
  | _ => true

/-- What the user is told about a misuse of a part. -/
def report (m : Misuse) (p : Part) : String :=
  let usage := p.usage ++ "Try '" ++ p.name ++ " --help' for help.\n\n"
  (if m.showsUsage then usage else "") ++ "Error: " ++ m.message ++ "\n"

end Misuse

end SessionScript.CommandLine
