import SessionScript.CommandLine.Words
import SessionScript.Scenario.Source
import SessionScript.Template.Path

/-!
# Requests

What a user asks of the program: the command that the words name, and for a run the scenario file
and everything that is set for it.
-/

namespace SessionScript.CommandLine

/-- How a call of the program ends. -/
inductive Finish where
  /-- It did what it was asked for and prints a text. -/
  | done (output : String)
  /-- It was asked for nothing and shows how it is called. -/
  | idle
  | misused (p : Part) (m : Misuse)
  /-- It failed, and tells the user why. -/
  | failed (message : String)
  /-- An error ended it that nothing in it handles. -/
  | crashed (f : Failure)
  deriving Inhabited

namespace Finish

/-- The exit code of the program. -/
def exitCode : Finish → Nat
  | .done _ => 0
  | .failed _ | .crashed _ => 1
  | .idle | .misused _ _ => 2

/-- What the program prints. -/
def output : Finish → String
  | .done output => output
  | .idle => Part.program.help
  | .misused p m => m.report p
  | .failed message => "Error: " ++ message ++ "\n"
  | .crashed _ => ""

end Finish

/-- A command with its words. -/
inductive Command where
  | schema
  | run (w : Words)

namespace Command

/-- Sorts the words for a part of the program, which shows its help if it is asked to. -/
def wordsOf (p : Part) (words : List String) : Except Finish Words := do
  let w ← (Words.read p words).mapError (Finish.misused p)
  if w.has .help then throw (.done p.help)
  return w

/-- Reads a command that does not exist. A switch in its place is a fault of its own. -/
def unknown (name : String) (words : List String) : Except Finish Command := do
  let _ ← wordsOf .program (if Words.isSwitch name then name :: words else [])
  throw (.misused .program (.unknownCommand name (Text.similarTo name (Part.program.commands.map (·.1)))))

/-- Reads the words that the program is called with. -/
def ofWords (words : List String) : Except Finish Command := do
  if words.isEmpty then throw .idle
  match (← wordsOf .program words).operands with
  | [] => throw (.misused .program .commandMissing)
  | "run" :: words => return .run (← (Words.read .run words).mapError (Finish.misused .run))
  | "schema" :: words => do
    let extra := (← wordsOf .schema words).operands
    if extra.isEmpty then return .schema else throw (.misused .schema (.extraOperands extra))
  | name :: words => unknown name words

end Command

/-- What is found at the path of a file. -/
inductive FileState where
  | missing
  | directory
  | unreadable
  | file (bytes : List UInt8)
  deriving Inhabited

/-- A request to run a scenario. -/
structure RunRequest where
  path : String
  bytes : List UInt8
  target : Option String
  defers : Bool
  vars : Entries
  allowsCode : Bool
  /-- How often more logging was asked for. -/
  verbosity : Nat

namespace RunRequest

/-- Whether a text names a variable. A line feed may stand behind the name. -/
def isVariable (name : List Char) : Bool :=
  Template.isName name || (name.getLast? == some '\n' && Template.isName name.dropLast)

/-- The value that a text sets a variable to. It is read as a document; a text that is none stands
    for itself. -/
def settingOf (text : String) : Except Failure Value :=
  if text.isEmpty then .ok (.text "")
  else
    match Yaml.read [] text.toList with
    | .ok v => .ok (v.getD .null)
    | .error (.text (.character _)) | .error (.text (.marked _ _)) => .ok (.text text)
    | .error (.text (.value e)) => .error (.raise e.kind "")
    | .error (.tag (.marked _)) => .ok (.text text)
    | .error (.tag (.failure f)) => .error f

/-- The variables after `NAME=VALUE` was read. -/
def assign (vars : Entries) (item : String) : Except Finish Entries :=
  match Words.splitValue item with
  | (name, some text) =>
    if isVariable name.toList then
      match settingOf text with
      | .ok v => .ok (vars.put (.text name) v)
      | .error f => .error (.crashed f)
    else .error (.misused .run (.notAnAssignment item))
  | (_, none) => .error (.misused .run (.notAnAssignment item))

/-- The bytes of the scenario file. -/
def bytesOf (path : String) : FileState → Except Misuse (List UInt8)
  | .missing => .error (.fileMissing path)
  | .directory => .error (.fileIsDirectory path)
  | .unreadable => .error (.fileUnreadable path)
  | .file bytes => .ok bytes

/-- Reads the words of a run, given what is found at a path. Variables are read first, then the
    scenario is looked for, and last nothing more may be left. -/
def ofWords (find : String → FileState) (w : Words) : Except Finish RunRequest := do
  if w.has .help then throw (.done Part.run.help)
  let vars ← (w.values .assign).foldlM assign []
  match w.operands with
  | [] => throw (.misused .run .scenarioMissing)
  | path :: extra =>
    let bytes ← (bytesOf path (find path)).mapError (Finish.misused .run)
    if !extra.isEmpty then throw (.misused .run (.extraOperands extra))
    pure
      { path := path
        bytes := bytes
        target := w.value? .target
        defers := w.has .defer
        vars := vars
        allowsCode := w.has .allowCode
        verbosity := w.count .verbose }

/-- The scenario in the file of a request. -/
def scenario (r : RunRequest) : Except (Report Failure) Scenario := do
  Scenario.ofSource [] (← Source.ofFile r.path r.bytes)

end RunRequest

end SessionScript.CommandLine
