import SessionScript.Decimal.Layout
import SessionScript.Text.Base64
import SessionScript.Text.Blank
import SessionScript.Text.Numeral
import SessionScript.Value.Shown
import SessionScript.Yaml.Scalar

/-!
# Writing documents

A value as a document in block form: one item or entry per line, nested containers indented by
two columns, empty containers in brackets.
-/

namespace SessionScript.Yaml

/-- Why a value is not written. -/
inductive WriteError where
  /-- A value that no document can hold. -/
  | unsupported (value : Value)
  /-- An integer with more digits than are written. -/
  | longInteger
  deriving Inhabited

/-- The kind of an error. -/
def WriteError.kind : WriteError → String
  | .unsupported _ => "RepresenterError"
  | .longInteger => "ValueError"

/-- The wording of an error. -/
def WriteError.message : WriteError → String
  | .unsupported value => "('cannot represent an object', " ++ value.shown ++ ")"
  | .longInteger => Text.Numeral.tooLong

/-- A scalar to write: the length of its tag, its text, whether the text without quotes denotes
    it, and whether it is binary data. -/
structure ScalarText where
  tagLength : Nat
  text : List Char
  denoted : Bool
  binary : Bool := false

/-- The scalar that a value is. -/
def ScalarText.ofValue? : Value → Option ScalarText
  | .null => some ⟨6, "null".toList, true, false⟩
  | .bool b => some ⟨6, (if b then "true" else "false").toList, true, false⟩
  | .int i => some ⟨5, (Text.ofInt i).toList, true, false⟩
  | .float x => some ⟨7, (NumberLayout.document.render x).toList, true, false⟩
  | .text s => some ⟨5, s.toList, PlainKind.ofText s.toList == .text, false⟩
  | .bytes b => some ⟨8, (Text.Base64.encodeLines b).toList, false, true⟩
  | .date d => some ⟨11, d.iso.toList, true, false⟩
  | .datetime t => some ⟨11, (t.iso " ").toList, true, false⟩
  | _ => none

/-- The scalar that is written for a value. -/
def ScalarText.ofValue (v : Value) : Except WriteError ScalarText :=
  match v, ofValue? v with
  | .int i, some s => if Text.Numeral.isLong i then .error .longInteger else .ok s
  | _, some s => .ok s
  | _, none => .error (.unsupported v)

/-- Where a node stands. -/
inductive NodePlace where
  | root
  | item
  /-- A key on the line of its value. -/
  | simpleKey
  /-- A value of a mapping, or a key on lines of its own. -/
  | entry
  deriving DecidableEq, Repr

/-- The way a scalar is written at a place. -/
def ScalarText.style (s : ScalarText) (place : NodePlace) : Style :=
  let a := Analysis.ofText s.text
  let inKey := place == .simpleKey
  if s.denoted && a.allowsPlain && !(inKey && (a.empty || a.multiline)) then .plain
  else if s.binary then if a.allowsLiteral && !inKey then .literal else .double
  else if a.allowsSingle && !(inKey && a.multiline) then .single
  else .double

/-- Whether a key can stand on the line of its value: a short scalar on one line, or an empty
    container. -/
def isSimpleKey (key : Value) : Bool :=
  match ScalarText.ofValue? key with
  | some s =>
    s.tagLength + s.text.length < 128 && !s.text.isEmpty && !(s.text.any isBreak)
  | none =>
    match key with
    | .list [] | .tuple [] | .dict [] | .set [] => true
    | _ => false

/-- The depth of what a node holds. -/
def deeper (atRoot : Nat) : Option Nat → Nat
  | none => atRoot
  | some d => d + 2

/-- Writes a scalar. -/
def writeScalar (depth : Option Nat) (place : NodePlace) (s : ScalarText) (v : Canvas) : Canvas :=
  let inner := deeper 2 depth
  let splits := place != .simpleKey
  let v := if s.binary then v.mark "!!binary" false false else v
  match s.style place with
  | .plain => writePlain inner splits (place == .root) s.text v
  | .single => writeSingle inner splits s.text v
  | .double => writeDouble inner splits s.text v
  | .literal => writeLiteral inner s.text v

/-- The place of a key. -/
def keyPlace (key : Value) : NodePlace := if isSimpleKey key then .simpleKey else .entry

/-- Goes to where a key is written. -/
def openKey (depth : Nat) (key : Value) (v : Canvas) : Canvas :=
  let v := v.indentTo depth
  if isSimpleKey key then v else v.mark "?" false true

/-- Writes the colon after a key. -/
def closeKey (depth : Nat) (key : Value) (v : Canvas) : Canvas :=
  if isSimpleKey key then v.close ":" else (v.indentTo depth).mark ":" false true

mutual

/-- Writes a node. -/
def writeNode (depth : Option Nat) (place : NodePlace) : Value → Canvas → Except WriteError Canvas
  | .list [], v | .tuple [], v => .ok ((v.mark "[" true false).close "]")
  | .list (x :: xs), v | .tuple (x :: xs), v =>
    let inMapping := place == .entry || place == .simpleKey
    let inner := if inMapping && !v.fresh then depth.getD 0 else deeper 0 depth
    writeItems inner (x :: xs) v
  | .dict [], v => .ok ((v.mark "\x7b" true false).close "\x7d")
  | .dict (e :: es), v => writeEntries (deeper 0 depth) (e :: es) v
  | .set [], v => .ok (((v.mark "!!set" false false).mark "\x7b" true false).close "\x7d")
  | .set (x :: xs), v => writeMembers (deeper 0 depth) (x :: xs) (v.mark "!!set" false false)
  | leaf, v => do return writeScalar depth place (← ScalarText.ofValue leaf) v

/-- Writes the items of a sequence. -/
def writeItems (depth : Nat) : List Value → Canvas → Except WriteError Canvas
  | [], v => .ok v
  | x :: xs, v => do
    let v ← writeNode (some depth) .item x ((v.indentTo depth).mark "-" false true)
    writeItems depth xs v

/-- Writes the entries of a mapping. -/
def writeEntries (depth : Nat) : List (Value × Value) → Canvas → Except WriteError Canvas
  | [], v => .ok v
  | (key, value) :: es, v => do
    let v ← writeNode (some depth) (keyPlace key) key (openKey depth key v)
    let v ← writeNode (some depth) .entry value (closeKey depth key v)
    writeEntries depth es v

/-- Writes the members of a set as keys without values. -/
def writeMembers (depth : Nat) : List Value → Canvas → Except WriteError Canvas
  | [], v => .ok v
  | x :: xs, v => do
    let v ← writeNode (some depth) (keyPlace x) x (openKey depth x v)
    let v := writeScalar (some depth) .entry ⟨6, "null".toList, true, false⟩ (closeKey depth x v)
    writeMembers depth xs v

end

/-- The text of a value as a document, without white space at its end. -/
def write (value : Value) : Except WriteError String := do
  let v ← writeNode none .root value {}
  let v := v.indentTo 0
  let v := if v.openEnded then (v.mark "..." false false).indentTo 0 else v
  return String.ofList (Text.trimEnd Text.isBlank v.text)

end SessionScript.Yaml
