import SessionScript.Calendar
import SessionScript.Decimal.Binary64

/-!
# Values

The values that documents hold, templates address and functions return. Mappings keep their
entries in order of insertion, and their keys may be any value that can be compared.
-/

namespace SessionScript

/-- A value of a running session. -/
inductive Value where
  | null
  | bool (b : Bool)
  | int (i : Int)
  | float (x : Binary64)
  | text (s : String)
  | bytes (b : List UInt8)
  | list (items : List Value)
  | tuple (items : List Value)
  | set (items : List Value)
  | dict (entries : List (Value × Value))
  | date (d : Date)
  | datetime (t : DateTime)
  /-- A host object that shows its label and nothing else. -/
  | object (label : String)
  /-- A raised error held as a value: its kind and its text. -/
  | error (kind message : String)
  /-- Any other host object, known by the name of its type and the text that shows it. -/
  | other (typeName shownAs : String)
  deriving Inhabited, Repr

namespace Value

/-- The integer that a boolean or an integral number equals. -/
def integer? : Value → Option Int
  | .bool b => some (if b then 1 else 0)
  | .int i => some i
  | .float x => x.toInt?
  | _ => none

mutual

/-- Equality of mapping keys and set members. Numbers and booleans are equal by value, whatever
    their kind; containers other than tuples are never keys. -/
def sameKey : Value → Value → Bool
  | .null, .null => true
  | .text s, .text t => s == t
  | .bytes a, .bytes b => a == b
  | .date a, .date b => a == b
  | .datetime a, .datetime b => a == b
  | .float x, .float y => x.eq y
  | .tuple xs, .tuple ys => sameKeys xs ys
  | v, w =>
    match v.integer?, w.integer? with
    | some i, some j => i == j
    | _, _ => false

/-- Equality of keys, member by member. -/
def sameKeys : List Value → List Value → Bool
  | [], [] => true
  | x :: xs, y :: ys => sameKey x y && sameKeys xs ys
  | _, _ => false

end

/-- Whether a value counts as false: null, zero and everything empty. -/
def isFalsy : Value → Bool
  | .null => true
  | .bool b => !b
  | .int i => i == 0
  | .float x => x.isZero
  | .text s => s.isEmpty
  | .bytes b => b.isEmpty
  | .list xs | .tuple xs | .set xs => xs.isEmpty
  | .dict es => es.isEmpty
  | _ => false

/-- The name of a value's type, as messages give it. -/
def typeName : Value → String
  | .null => "NoneType"
  | .bool _ => "bool"
  | .int _ => "int"
  | .float _ => "float"
  | .text _ => "str"
  | .bytes _ => "bytes"
  | .list _ => "list"
  | .tuple _ => "tuple"
  | .set _ => "set"
  | .dict _ => "dict"
  | .date _ => "date"
  | .datetime _ => "datetime"
  | .object _ => "Opaque"
  | .error kind _ => kind
  | .other name _ => name

end Value

/-- The entries of a mapping in order of insertion. -/
abbrev Entries := List (Value × Value)

namespace Entries

/-- The value under a key. -/
def get? : Entries → Value → Option Value
  | [], _ => none
  | (k, v) :: es, key => if k.sameKey key then some v else get? es key

/-- Whether there is an entry under a key. -/
def has (es : Entries) (key : Value) : Bool := (es.get? key).isSome

/-- Sets the value under a key. An entry that is there keeps its place and its key. -/
def put : Entries → Value → Value → Entries
  | [], key, value => [(key, value)]
  | (k, v) :: es, key, value =>
    if k.sameKey key then (k, value) :: es else (k, v) :: put es key value

/-- Removes the entry under a key. -/
def erase : Entries → Value → Entries
  | [], _ => []
  | (k, v) :: es, key => if k.sameKey key then es else (k, v) :: erase es key

/-- Sets entry after entry. -/
def putAll (es : Entries) (more : Entries) : Entries :=
  more.foldl (fun acc e => acc.put e.1 e.2) es

/-- The entries of a list of pairs, of which a later one replaces an earlier one. -/
def ofPairs (pairs : List (Value × Value)) : Entries := putAll [] pairs

end Entries

namespace Value

/-- Adds a member to a set unless an equal one is there. -/
def addMember (members : List Value) (v : Value) : List Value :=
  if members.any (·.sameKey v) then members else members ++ [v]

/-- The members of a set made from a list. -/
def distinct (items : List Value) : List Value := items.foldl addMember []

mutual

/-- Rebuilds a value with every leaf replaced, in document order. Keys are kept, and every
    container keeps its kind. -/
def mapLeavesM {m : Type → Type} [Monad m] (f : Value → m Value) : Value → m Value
  | .dict es => do return .dict (← mapEntriesM f es)
  | .list xs => do return .list (← mapItemsM f xs)
  | .tuple xs => do return .tuple (← mapItemsM f xs)
  | .set xs => do return .set (distinct (← mapItemsM f xs))
  | leaf => f leaf

/-- Replaces the leaves of items from left to right. -/
def mapItemsM {m : Type → Type} [Monad m] (f : Value → m Value) : List Value → m (List Value)
  | [] => return []
  | v :: vs => do
    let w ← mapLeavesM f v
    return w :: (← mapItemsM f vs)

/-- Replaces the leaves of entries in order. -/
def mapEntriesM {m : Type → Type} [Monad m] (f : Value → m Value) :
    List (Value × Value) → m (List (Value × Value))
  | [] => return []
  | (k, v) :: es => do
    let w ← mapLeavesM f v
    return (k, w) :: (← mapEntriesM f es)

end

/-- Rebuilds a value with every leaf replaced by a function of it alone. -/
def mapLeaves (f : Value → Value) (v : Value) : Value :=
  Id.run (@mapLeavesM Id _ f v)

end Value

end SessionScript
