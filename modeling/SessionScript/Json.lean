import SessionScript.Decimal.Layout
import SessionScript.Text.Numeral
import SessionScript.Text.Quoted
import SessionScript.Text.Utf8
import SessionScript.Value.Shown

/-!
# JSON text

The JSON text of a value, with a space after every comma and colon, and the text of a value
inside a template, which is JSON for containers.
-/

namespace SessionScript.Json

/-- Why a value has no JSON text. -/
inductive WriteError where
  /-- A value of a type that JSON cannot hold. -/
  | unsupported (typeName : String)
  /-- A mapping key that is neither text nor a number, a boolean or null. -/
  | unsupportedKey (typeName : String)
  /-- An integer with more digits than are written. -/
  | longInteger
  deriving DecidableEq, Repr

/-- The kind of an error. -/
def WriteError.kind : WriteError → String
  | .unsupported _ | .unsupportedKey _ => "TypeError"
  | .longInteger => "ValueError"

/-- The wording of an error. -/
def WriteError.message : WriteError → String
  | .unsupported name => "Object of type " ++ name ++ " is not JSON serializable"
  | .unsupportedKey name => "keys must be str, int, float, bool or None, not " ++ name
  | .longInteger => Text.Numeral.tooLong

/-- A character inside a JSON string: only the quote, the backslash and the controls below the
    space are escaped. -/
def escapeChar (c : Char) : List Char :=
  if c == '"' then ['\\', '"']
  else if c == '\\' then ['\\', '\\']
  else if c == '\n' then ['\\', 'n']
  else if c == '\r' then ['\\', 'r']
  else if c == '\t' then ['\\', 't']
  else if c.val.toNat == 8 then ['\\', 'b']
  else if c.val.toNat == 12 then ['\\', 'f']
  else if c.val.toNat < 0x20 then '\\' :: 'u' :: Text.hexPad 4 c.val.toNat
  else [c]

/-- A JSON string. -/
def quote (s : String) : String :=
  String.ofList ('"' :: s.toList.flatMap escapeChar ++ ['"'])

/-- The text of an integer, unless it has more digits than are written. -/
def integerText (i : Int) : Except WriteError String :=
  if Text.Numeral.isLong i then .error .longInteger else .ok (Text.ofInt i)

/-- The text of a mapping key. -/
def keyText : Value → Except WriteError String
  | .text s => .ok s
  | .int i => integerText i
  | .float x => .ok (NumberLayout.json.render x)
  | .bool b => .ok (if b then "true" else "false")
  | .null => .ok "null"
  | v => .error (.unsupportedKey v.typeName)

mutual

/-- The JSON text of a value. -/
def write : Value → Except WriteError String
  | .null => .ok "null"
  | .bool b => .ok (if b then "true" else "false")
  | .int i => integerText i
  | .float x => .ok (NumberLayout.json.render x)
  | .text s => .ok (quote s)
  | .list xs => do return "[" ++ Value.commaSeparated (← writeItems xs) ++ "]"
  | .tuple xs => do return "[" ++ Value.commaSeparated (← writeItems xs) ++ "]"
  | .dict es => do return "\x7b" ++ Value.commaSeparated (← writeEntries es) ++ "\x7d"
  | v => .error (.unsupported v.typeName)

/-- The JSON texts of items, up to the first that has none. -/
def writeItems : List Value → Except WriteError (List String)
  | [] => .ok []
  | v :: vs => do
    let t ← write v
    return t :: (← writeItems vs)

/-- The JSON texts of entries, each key before its value. -/
def writeEntries : List (Value × Value) → Except WriteError (List String)
  | [] => .ok []
  | (k, v) :: es => do
    let key ← keyText k
    let t ← write v
    return (quote key ++ ": " ++ t) :: (← writeEntries es)

end

/-! ## In lines

The JSON text of a value with a line for every item and entry, indented by the depth that it lies
at. -/

/-- The start of a line at a depth, two blanks for each level. -/
def lineStart (depth : Nat) : String := "\n" ++ String.ofList (List.replicate (2 * depth) ' ')

/-- Texts between brackets at a depth, each on a line of its own. -/
def bracketed (depth : Nat) (opening closing : String) (texts : List String) : String :=
  if texts.isEmpty then opening ++ closing
  else
    opening ++ lineStart (depth + 1) ++ String.intercalate ("," ++ lineStart (depth + 1)) texts ++
      lineStart depth ++ closing

mutual

/-- The JSON text of a value that lies at a depth. -/
def layout (depth : Nat) : Value → Except WriteError String
  | .list xs => do return bracketed depth "[" "]" (← layoutItems (depth + 1) xs)
  | .tuple xs => do return bracketed depth "[" "]" (← layoutItems (depth + 1) xs)
  | .dict es => do return bracketed depth "\x7b" "\x7d" (← layoutEntries (depth + 1) es)
  | v => write v

/-- The JSON texts of items, up to the first that has none. -/
def layoutItems (depth : Nat) : List Value → Except WriteError (List String)
  | [] => .ok []
  | v :: vs => do
    let t ← layout depth v
    return t :: (← layoutItems depth vs)

/-- The JSON texts of entries, each key before its value. -/
def layoutEntries (depth : Nat) : List (Value × Value) → Except WriteError (List String)
  | [] => .ok []
  | (k, v) :: es => do
    let key ← keyText k
    let t ← layout depth v
    return (quote key ++ ": " ++ t) :: (← layoutEntries depth es)

end

end SessionScript.Json

namespace SessionScript.Value

/-- The text of a value that is no container inside a template: nothing for null, lower case for
    booleans, decoded bytes. -/
def leafText : Value → String
  | .null => ""
  | .bool b => if b then "true" else "false"
  | .bytes b => Text.Utf8.decodeLossy b
  | v => v.plainText

/-- A leaf that JSON can hold is kept; every other one is replaced by its text. -/
def jsonLeaf : Value → Value
  | .null => .null
  | .bool b => .bool b
  | .int i => .int i
  | .float x => .float x
  | .text s => .text s
  | v => .text v.leafText

/-- The text of a value inside a template. -/
def stringify : Value → Except Json.WriteError String
  | .dict es => Json.write (mapLeaves jsonLeaf (.dict es))
  | .list xs => Json.write (mapLeaves jsonLeaf (.list xs))
  | .tuple xs => Json.write (mapLeaves jsonLeaf (.tuple xs))
  | .set xs => Json.write (mapLeaves jsonLeaf (.set xs))
  | .int i => Json.integerText i
  | leaf => .ok leaf.leafText

end SessionScript.Value
