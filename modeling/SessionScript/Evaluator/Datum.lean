import SessionScript.Code.Names
import SessionScript.Value.Basic

/-!
# Data of running code

What code works with while it runs. Containers that can change, functions and iterators are cells
of a store, so that two names can share one of them; everything else is a value of its own.
-/

namespace SessionScript.Evaluator

/-- What a view of a mapping shows. -/
inductive ViewKind where
  | keys | values | items
  deriving DecidableEq, Repr, Inhabited

/-- A value of running code. -/
inductive Datum where
  | none
  | bool (b : Bool)
  | int (i : Int)
  | float (x : Binary64)
  | complex (re im : Binary64)
  | text (s : String)
  | bytes (b : List UInt8)
  | ellipsis
  | tuple (items : List Datum)
  | range (start stop step : Int)
  | slice (low high step : Datum)
  /-- A container, a function or an iterator in the store. -/
  | cell (address : Nat)
  /-- A view of a mapping in the store. -/
  | view (kind : ViewKind) (address : Nat)
  /-- A type by name. -/
  | type (name : String)
  /-- A function of the host by name. -/
  | builtin (name : String)
  /-- A method of a value. -/
  | method (owner : Datum) (name : String)
  /-- A method of a type that is not bound to a value yet. -/
  | unbound (typeName name : String)
  | error (kind : String) (args : List Datum)
  /-- A date or an object of the host. -/
  | host (v : Value)
  deriving Inhabited

/-- An error that code raises: its kind and what it was raised with. -/
structure Raised where
  kind : String
  args : List Datum
  deriving Inhabited

/-- An error as a value. -/
def Raised.datum (e : Raised) : Datum := .error e.kind e.args

/-- The names of a function's block, where they are kept, and whether the block is the loop of a
    comprehension. -/
structure Frame where
  address : Nat
  names : Code.BlockNames
  isComprehension : Bool
  deriving Inhabited

/-- Where code runs: the cell of the names of the whole code, the table of builtins, and the
    frames around, innermost first. -/
structure Scope where
  globals : Nat
  builtins : Datum
  frames : List Frame
  /-- The names of the functions around, each followed by a dot. -/
  path : String := ""
  /-- The list that a function puts its results in if it gives them one by one. -/
  results : Option Nat := Option.none
  deriving Inhabited

/-- What a function does when it is called. -/
inductive Body where
  | value (e : Code.Expr)
  | block (body : List Code.Stmt)
  deriving Inhabited

/-- A parameter with its default. -/
structure Parameter where
  kind : Code.ParamKind
  name : String
  default : Option Datum

/-- A function that code defines. -/
structure Closure where
  name : String
  /-- The name with the names of the functions around it. -/
  fullName : String
  params : List Parameter
  body : Body
  names : Code.BlockNames
  givesResultsOneByOne : Bool
  isAsync : Bool
  scope : Scope
  deriving Inhabited

/-- A loop of a comprehension that is running: where its items come from, and the loops inside. -/
structure Loop where
  target : Code.Expr
  conditions : List Code.Expr
  source : Datum
  inner : List Code.Clause
  deriving Inhabited

/-- What a comprehension makes of each round. -/
inductive Element where
  | item (e : Code.Expr)
  | entry (key value : Code.Expr)
  deriving Inhabited

/-- Something that gives its items one by one. -/
inductive Iterator where
  | finished
  /-- Items that are known, and an error to raise when they are used up. -/
  | items (kind : String) (rest : List Datum) (ending : Option Raised)
  | range (next : Int) (left : Nat) (step : Int)
  /-- The items of a list as it is when each of them is asked for. -/
  | list (address position : Nat)
  | listReversed (address left : Nat)
  | dict (kind : ViewKind) (address position size : Nat)
  | set (rest : List Datum) (address size : Nat)
  | numbered (source : Datum) (next : Int)
  | zipped (sources : List Datum) (strict : Bool)
  | mapped (f : Datum) (sources : List Datum)
  | filtered (f source : Datum)
  | comprehension (scope : Scope) (element : Element) (loops : List Loop)
  /-- A call of a function that gives its results one by one, before its first result. -/
  | suspended (f : Closure) (frame : Nat)
  deriving Inhabited

/-- A cell of the store. -/
inductive Cell where
  | list (items : Array Datum)
  | dict (entries : List (Datum × Datum))
  | set (members : List Datum) (frozen : Bool)
  | names (bound : List (String × Datum))
  | function (f : Closure)
  | iterator (it : Iterator)
  | coroutine
  deriving Inhabited

/-- The store, and the errors that are being handled, innermost first. -/
structure Store where
  cells : Array Cell := #[]
  handling : List Raised := []
  /-- How many more calls may nest. -/
  room : Nat := 0
  deriving Inhabited

/-- A computation on the store that may raise an error. What it changed before the error stays
    changed. -/
abbrev Work := EStateM Raised Store

namespace Work

/-- Raises an error of a kind with a message. -/
def raise {α : Type} (kind message : String) : Work α := throw ⟨kind, [.text message]⟩

/-- Raises an error about types. -/
def typeError {α : Type} (message : String) : Work α := raise "TypeError" message

/-- Raises an error about values. -/
def valueError {α : Type} (message : String) : Work α := raise "ValueError" message

/-- A new cell. -/
def newCell (c : Cell) : Work Nat := do
  let s ← get
  set { s with cells := s.cells.push c }
  return s.cells.size

/-- A new cell as a value. -/
def new (c : Cell) : Work Datum := return .cell (← newCell c)

/-- A new list. -/
def newList (items : List Datum) : Work Datum := new (.list items.toArray)

/-- What a cell holds. -/
def read (address : Nat) : Work Cell := return (← get).cells.getD address (.names [])

/-- Replaces what a cell holds. -/
def write (address : Nat) (c : Cell) : Work Unit :=
  modify fun s => { s with cells := s.cells.setIfInBounds address c }

end Work

namespace Datum

/-- A text of characters. -/
def ofChars (cs : List Char) : Datum := .text (String.ofList cs)

/-- The integer of an integer or a boolean. -/
def integer? : Datum → Option Int
  | .int i => some i
  | .bool b => some (if b then 1 else 0)
  | _ => Option.none

/-- The name of a view's type. -/
def viewType : ViewKind → String
  | .keys => "dict_keys"
  | .values => "dict_values"
  | .items => "dict_items"

/-- The name of an iterator's type. -/
def iteratorType : Iterator → String
  | .finished => "generator"
  | .items kind _ _ => kind
  | .range _ _ _ => "range_iterator"
  | .list _ _ => "list_iterator"
  | .listReversed _ _ => "list_reverseiterator"
  | .dict .keys _ _ _ => "dict_keyiterator"
  | .dict .values _ _ _ => "dict_valueiterator"
  | .dict .items _ _ _ => "dict_itemiterator"
  | .set _ _ _ => "set_iterator"
  | .numbered _ _ => "enumerate"
  | .zipped _ _ => "zip"
  | .mapped _ _ => "map"
  | .filtered _ _ => "filter"
  | .comprehension _ _ _ => "generator"
  | .suspended _ _ => "generator"

/-- The name of the type of what a cell holds. -/
def cellType : Cell → String
  | .list _ => "list"
  | .dict _ => "dict"
  | .set _ frozen => if frozen then "frozenset" else "set"
  | .names _ => "dict"
  | .function _ => "function"
  | .iterator it => iteratorType it
  | .coroutine => "coroutine"

/-- The name of a value's type in a store. -/
def typeIn (s : Store) : Datum → String
  | .none => "NoneType"
  | .bool _ => "bool"
  | .int _ => "int"
  | .float _ => "float"
  | .complex _ _ => "complex"
  | .text _ => "str"
  | .bytes _ => "bytes"
  | .ellipsis => "ellipsis"
  | .tuple _ => "tuple"
  | .range _ _ _ => "range"
  | .slice _ _ _ => "slice"
  | .cell a => cellType (s.cells.getD a (.names []))
  | .view kind _ => viewType kind
  | .type _ => "type"
  | .builtin _ => "builtin_function_or_method"
  | .method _ _ => "builtin_function_or_method"
  | .unbound _ _ => "method_descriptor"
  | .error kind _ => kind
  | .host v => v.typeName

/-- The name of a value's type. -/
def typeName (d : Datum) : Work String := return d.typeIn (← get)

end Datum

end SessionScript.Evaluator
