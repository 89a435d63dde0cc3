import SessionScript.Report
import SessionScript.Scenario.Reader
import SessionScript.Schema.Report
import SessionScript.Text.FilePath
import SessionScript.Yaml.Node.Reader
import SessionScript.Yaml.Node.Value

/-!
# Scenarios from texts

A scenario is written as a document. Whatever keeps a text from being a scenario is reported as a
failure of the schema.
-/

namespace SessionScript

/-- The value of a document, if the text holds one. -/
def Yaml.read (host : List (String × Yaml.Node.HostTag)) (text : List Char) :
    Except Yaml.ReadError (Option Value) := do
  match ← (Yaml.Node.ofText? text).mapError .text with
  | some node => return some (← Yaml.Node.rootValue host node)
  | none => return none

/-- The kind of the error of a stage of reading. -/
def Yaml.Stage.errorKind : Yaml.Stage → String
  | .scanning => "ScannerError"
  | .parsing => "ParserError"
  | .composing => "ComposerError"
  | .constructing => "ConstructorError"

/-- Where a text comes from. -/
structure Source where
  text : List Char
  filename : Option String := none
  /-- Whether reports show an excerpt of the text. -/
  showsExcerpt : Bool := true

namespace Source

/-- The name that a source is reported under where its text is at fault. -/
def reportedName (s : Source) (mark : Option Yaml.Mark) : Option String :=
  match s.filename.filter (· != ""), mark with
  | some name, _ => some name
  | none, some _ => some Place.unknownSource
  | none, none => none

/-- The report of a fault with its position, raised as an error of some kind. -/
def markedReport (s : Source) (kind : String) (f : Yaml.MarkedFault) : Report Failure :=
  let problem := match f.problem with
    | some p => if p.isEmpty then "" else "\n    " ++ p
    | none => ""
  let mark := f.mark
  let excerpt := match mark with
    | some m => if s.showsExcerpt then String.ofList (m.excerpt s.text) else ""
    | none => ""
  let place : Place :=
    { filename := s.reportedName mark
      line := mark.map fun m => (m.line : Int)
      column := mark.map fun m => (m.column : Int)
      excerpt := some excerpt }
  Schema.causedBy
    { kind := .schema, message := "Invalid YAML" ++ problem, place := some place }
    kind

/-- The report of an error that no document is expected to raise. -/
def unexpectedReport (kind : String) : Report Failure :=
  Schema.causedBy { kind := .schema, message := "Unexpected error" } kind

/-- The source in a file, whose text is UTF-8. Reports show no excerpt of it. -/
def ofFile (path : String) (bytes : List UInt8) : Except (Report Failure) Source :=
  match Text.Utf8.decode? bytes with
  | some s =>
    .ok
      { text := Text.unifyLineEnds s.toList
        filename := some (Text.FilePath.normal path)
        showsExcerpt := false }
  | none => .error (unexpectedReport "UnicodeDecodeError")

/-- The failure of a source whose text is no document. -/
def faultReport (s : Source) : Yaml.Fault → Report Failure
  | .character _ => unexpectedReport "ReaderError"
  | .marked stage f => s.markedReport stage.errorKind f
  | .value e => unexpectedReport e.kind

/-- The failure of a source in which a tag of the host raises an error. Reports stay as they are. -/
def tagReport (s : Source) : Yaml.TagError → Report Failure
  | .marked f => s.markedReport "MarkedYAMLError" f
  | .failure (.report r) => r
  | .failure f => { unexpectedReport f.kind with cause := some f }

/-- The value of the document in a source. -/
def value (host : List (String × Yaml.Node.HostTag)) (s : Source) :
    Except (Report Failure) Value :=
  match Yaml.read host s.text with
  | .ok none | .ok (some .null) =>
    .error { kind := .schema, message := "Scenario document is empty" }
  | .ok (some v) => .ok v
  | .error (.text f) => .error (s.faultReport f)
  | .error (.tag e) => .error (s.tagReport e)

end Source

/-- Reads a scenario from a source, in which tags of the host may stand. -/
def Scenario.ofSource (host : List (String × Yaml.Node.HostTag)) (s : Source) :
    Except (Report Failure) Scenario := do
  Schema.validate Scenario.ofValue (← s.value host) s.filename

end SessionScript
