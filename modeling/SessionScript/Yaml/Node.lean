import SessionScript.Yaml.Cursor
import SessionScript.Yaml.Plain

/-!
# Nodes

The tree of a document before its scalars are given values. Every node has a tag, which says what
it denotes.
-/

namespace SessionScript.Yaml

/-- A standard tag. -/
def coreTag (name : String) : String := "tag:yaml.org,2002:" ++ name

/-- The tag of a plain scalar without one. -/
def PlainKind.tag : PlainKind → String
  | .null => coreTag "null"
  | .bool => coreTag "bool"
  | .int => coreTag "int"
  | .float => coreTag "float"
  | .timestamp => coreTag "timestamp"
  | .merge => coreTag "merge"
  | .defaultValue => coreTag "value"
  | .indicator => coreTag "yaml"
  | .text => coreTag "str"

/-- A node. -/
inductive Node where
  | scalar (tag : String) (text : List Char) (start stop : Mark)
  | sequence (tag : String) (items : List Node) (start stop : Mark)
  | mapping (tag : String) (entries : List (Node × Node)) (start stop : Mark)
  /-- An alias of a collection that holds it: the tag of the collection and whether that is a
      mapping. -/
  | enclosing (tag : String) (isMapping : Bool) (start : Mark)
  deriving Inhabited

namespace Node

/-- Where a node starts. -/
def start : Node → Mark
  | .scalar _ _ m _ | .sequence _ _ m _ | .mapping _ _ m _ | .enclosing _ _ m => m

/-- Where a node ends. -/
def stop : Node → Mark
  | .scalar _ _ _ m | .sequence _ _ _ m | .mapping _ _ _ m | .enclosing _ _ m => m

/-- The tag of a node. -/
def tag : Node → String
  | .scalar t _ _ _ | .sequence t _ _ _ | .mapping t _ _ _ | .enclosing t _ _ => t

/-- What a node is, in messages. -/
def shape : Node → String
  | .scalar _ _ _ _ => "scalar"
  | .sequence _ _ _ _ | .enclosing _ false _ => "sequence"
  | .mapping _ _ _ _ | .enclosing _ true _ => "mapping"

/-- The empty scalar at a place where a node is left out. -/
def empty (m : Mark) : Node := .scalar PlainKind.null.tag [] m m

end Node

end SessionScript.Yaml
