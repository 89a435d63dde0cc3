import SessionScript.Value.Shown

/-!
# Violations

Where a value breaks the schema of documents, and which rule it breaks.
-/

namespace SessionScript.Schema

/-- A component of a location: a key of a mapping, a label of the schema or the index of an item. -/
inductive Key where
  | name (s : String)
  | index (i : Int)
  deriving DecidableEq, Repr, Inhabited

/-- A key of a mapping as a component of a location. -/
def Key.ofValue : Value → Key
  | .text s => .name s
  | .int i => .index i
  | .bool b => .index (if b then 1 else 0)
  | v => .name v.shown

/-- The rules of the schema. -/
inductive Rule where
  | required
  | notExtra
  | textKey
  | text
  | decodableText
  | number
  | numberText
  | atLeastZero
  | flag
  | flagWord
  | mapping
  /-- A mapping with the fields of a named record. -/
  | record (name : String)
  | list
  | tuple
  | variableName
  | atLeastOne
  | oneKind
  deriving DecidableEq, Repr, Inhabited

/-- What is said when a rule is broken. -/
def Rule.message : Rule → String
  | .required => "Field required"
  | .notExtra => "Extra inputs are not permitted"
  | .textKey => "Keys should be strings"
  | .text => "Input should be a valid string"
  | .decodableText =>
    "Input should be a valid string, unable to parse raw data as a unicode string"
  | .number => "Input should be a valid number"
  | .numberText => "Input should be a valid number, unable to parse string as a number"
  | .atLeastZero => "Input should be greater than or equal to 0"
  | .flag => "Input should be a valid boolean"
  | .flagWord => "Input should be a valid boolean, unable to interpret input"
  | .mapping => "Input should be a valid dictionary"
  | .record name => "Input should be a valid dictionary or instance of " ++ name
  | .list => "Input should be a valid list"
  | .tuple => "Input should be a valid tuple"
  | .variableName => "String should match pattern '^[a-zA-Z][\\w]*$'"
  | .atLeastOne => "Tuple should have at least 1 item after validation, not 0"
  | .oneKind => "Step must define exactly one of: connect, send, think"

/-- A broken rule and its place. -/
structure Violation where
  location : List Key
  rule : Rule
  deriving DecidableEq, Repr, Inhabited

end SessionScript.Schema
