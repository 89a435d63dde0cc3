import SessionScript.Failure
import SessionScript.Yaml.Cursor

/-!
# Faults of documents

Why a text can not be read as a document.
-/

namespace SessionScript.Yaml

/-- The stage of reading at which a fault shows. -/
inductive Stage where
  | scanning
  | parsing
  | composing
  | constructing
  deriving DecidableEq, Repr, Inhabited

/-- A fault with its position: what was being read and from where on, and what is wrong where. -/
structure MarkedFault where
  context : Option String := none
  contextMark : Option Mark := none
  problem : Option String := none
  problemMark : Option Mark := none
  deriving DecidableEq, Repr, Inhabited

/-- The position that a fault is reported at. -/
def MarkedFault.mark (f : MarkedFault) : Option Mark :=
  match f.problemMark with
  | some m => some m
  | none => f.contextMark

/-- The errors of the host that show that a scalar does not denote a value of its type. -/
inductive ConversionError where
  | attribute
  | index
  | key
  | overflow
  | type
  | value
  deriving DecidableEq, Repr, Inhabited

/-- The kind of an error. -/
def ConversionError.kind : ConversionError → String
  | .attribute => "AttributeError"
  | .index => "IndexError"
  | .key => "KeyError"
  | .overflow => "OverflowError"
  | .type => "TypeError"
  | .value => "ValueError"

/-- A fault of a text. -/
inductive Fault where
  /-- The text holds a character that no document may hold. -/
  | character (c : Char)
  | marked (stage : Stage) (f : MarkedFault)
  /-- A scalar does not denote a value of its type. -/
  | value (e : ConversionError)
  deriving Inhabited

/-- What a tag of the host raises: a fault with a position, or a failure. -/
inductive TagError where
  | marked (f : MarkedFault)
  | failure (f : Failure)
  deriving Inhabited

/-- Why no value is read from a text. -/
inductive ReadError where
  | text (f : Fault)
  | tag (e : TagError)
  deriving Inhabited

end SessionScript.Yaml
