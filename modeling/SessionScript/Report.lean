import SessionScript.Failure
import SessionScript.Text.Lines
import SessionScript.Yaml.Writer

/-!
# Texts of reports

A reported failure as text: its message, the place where it happened, and below it the excerpt of
the document or the element that failed with the variables of that moment.
-/

namespace SessionScript

namespace Place

/-- What stands for values that have no written form. -/
def opaqueText : String := "<runtime object>"

/-- The name of a source without a file. -/
def unknownSource : String := "<unicode string>"

/-- Replaces a leaf that is no plain scalar. -/
def maskLeaf : Value → Value
  | .null => .null
  | .bool b => .bool b
  | .int i => .int i
  | .float x => .float x
  | .text s => .text s
  | .bytes b => .bytes b
  | _ => .text opaqueText

/-- A value as a document in which every leaf that is no plain scalar is masked. -/
def document (v : Value) : Except Yaml.WriteError String := Yaml.write (v.mapLeaves maskLeaf)

/-- The source with line and column, counted from one, and the number of the step. -/
def location (p : Place) : String :=
  let name := match p.filename with
    | some f => if f.isEmpty then unknownSource else f
    | none => unknownSource
  let column := match p.column with
    | some c => ", column " ++ Text.ofInt (c + 1)
    | none => ""
  let line := match p.line with
    | some l => ", line " ++ Text.ofInt (l + 1) ++ column
    | none => ""
  let step := match p.step with
    | some s => "\non step " ++ Text.ofInt (s + 1)
    | none => ""
  "in \"" ++ name ++ "\"" ++ line ++ step

/-- The failing element below the variables, if there are any. -/
def elementText (vars : Option Value) (element : Value) : Except Yaml.WriteError String := do
  let above ←
    match vars with
    | some vs =>
      if vs.isFalsy then pure []
      else do
        let t ← document (.dict [(.text "vars", vs)])
        pure [t, "---"]
    | none => pure []
  let body ← document element
  return String.intercalate "\n" (["..."] ++ above ++ [body])

/-- The excerpt of the document, or else the failing element; nothing if there is neither. -/
def snippet (p : Place) : Except Yaml.WriteError String :=
  match p.excerpt, p.element with
  | some e, _ => .ok e
  | none, some v => if v.isFalsy then .ok "" else elementText p.vars v
  | none, none => .ok ""

end Place

/-- The text of a report. -/
def Report.text {α : Type} (r : Report α) : Except Yaml.WriteError String :=
  match r.place with
  | none => .ok r.message
  | some p => do
    let snippet ← p.snippet
    let blocks := [Text.indent 4 p.location] ++
      (if snippet.isEmpty then [] else [Text.indent 8 snippet])
    return String.intercalate "\n" (r.message :: blocks)

/-- The text of a failure. -/
def Failure.text : Failure → Except Yaml.WriteError String
  | .report r => r.text
  | .host e => .ok e.text
  | .rejected status _ => .ok ("server rejected WebSocket connection: HTTP " ++ Text.ofInt status)

/-- The text of a failure, or the reason why its place can not be written. -/
def Failure.plainText (f : Failure) : String :=
  match f.text with
  | .ok s => s
  | .error e => e.message

end SessionScript
