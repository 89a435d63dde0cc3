import SessionScript.Decimal.Numeral
import SessionScript.Schema.Violation
import SessionScript.Text.Ranges
import SessionScript.Text.Utf8

/-!
# Reading by schema

Readers take values of documents as what a schema wants. They are lenient where nothing is lost:
bytes are read as texts, words and numbers as truth values, and texts as numbers.
-/

namespace SessionScript.Schema

/-- A result or the first violation. -/
abbrev Reading := Except Violation

/-- A violation by the value itself. -/
def broken {α : Type} (rule : Rule) : Reading α := .error ⟨[], rule⟩

/-- Reads a part of a value; its violations lie under a key. -/
def under {α : Type} (key : Key) (part : Reading α) : Reading α :=
  part.mapError fun v => { v with location := key :: v.location }

/-- Reads a text, or bytes that are the UTF-8 form of one. -/
def readText : Value → Reading String
  | .text s => .ok s
  | .bytes b =>
    match Text.Utf8.decode? b with
    | some s => .ok s
    | none => broken .decodableText
  | _ => broken .text

/-- Reads a text or nothing. -/
def readOptionalText : Value → Reading (Option String)
  | .null => .ok none
  | v => (readText v).map some

/-- Whether a text is the name of a variable in a document: an ASCII letter followed by word
    characters. -/
def isVariableName : List Char → Bool
  | [] => false
  | c :: cs => Text.isAsciiLetter c && cs.all Text.isWord

/-- Reads the name of a variable. -/
def readName (v : Value) : Reading String := do
  let s ← readText v
  if isVariableName s.toList then return s else broken .variableName

/-- The text without its underscores, unless two stand together or one at an end. -/
def dropUnderscores? (cs : List Char) : Option (List Char) :=
  if (Text.Numeral.splitUnderscores cs).any List.isEmpty then none else some (cs.filter (· != '_'))

/-- The number that a text denotes, with blanks around it or underscores in it. -/
def numberOfText? (cs : List Char) : Option Binary64 :=
  match Binary64.read? (Text.trimBoth Text.isSpaceProperty cs) with
  | some x => some x
  | none =>
    (dropUnderscores? cs).bind fun ds => Binary64.read? (Text.trimBoth Text.isSpaceProperty ds)

/-- Reads a number. -/
def readNumber : Value → Reading Binary64
  | .float x => .ok x
  | .bool b => .ok (Binary64.ofInt (if b then 1 else 0))
  | .int i =>
    match Binary64.ofInt? i with
    | some x => .ok x
    | none => broken .number
  | .text s =>
    match numberOfText? s.toList with
    | some x => .ok x
    | none => broken .numberText
  | .bytes b =>
    match (Text.Utf8.decode? b).bind fun s => numberOfText? s.toList with
    | some x => .ok x
    | none => broken .numberText
  | _ => broken .number

/-- Reads a number that is not below zero. -/
def readDuration (v : Value) : Reading Binary64 := do
  let x ← readNumber v
  if x.lt (Binary64.zero false) then broken .atLeastZero else return x

/-- The truth value of an integer, if it is zero or one. -/
def flagOfInt (i : Int) : Reading Bool :=
  if i == 0 then .ok false else if i == 1 then .ok true else broken .flagWord

/-- The truth value of a word in letters of either case. -/
def flagOfWord (s : String) : Reading Bool :=
  let word := String.ofList (s.toList.map Char.toLower)
  if ["0", "off", "f", "false", "n", "no"].contains word then .ok false
  else if ["1", "on", "t", "true", "y", "yes"].contains word then .ok true
  else broken .flagWord

/-- Reads a truth value. -/
def readFlag : Value → Reading Bool
  | .bool b => .ok b
  | .int i => flagOfInt i
  | .float x =>
    match x.toInt? with
    | some i => flagOfInt i
    | none => broken .flag
  | .text s => flagOfWord s
  | .bytes b =>
    match Text.Utf8.decode? b with
    | some s => flagOfWord s
    | none => broken .flagWord
  | _ => broken .flag

/-- The items of a list, a tuple or a set. -/
def items? : Value → Option (List Value)
  | .list xs | .tuple xs | .set xs => some xs
  | _ => none

/-- Reads items from a position on. -/
def readItemsFrom {α : Type} (read : Value → Reading α) : Nat → List Value → Reading (List α)
  | _, [] => .ok []
  | i, v :: vs => do
    let a ← under (.index i) (read v)
    return a :: (← readItemsFrom read (i + 1) vs)

/-- Reads the entries of a mapping from names. The key of an entry is looked at before its value. -/
def readNamed {α : Type} (read : Value → Reading α) : Entries → Reading (List (String × α))
  | [] => .ok []
  | (k, v) :: es => do
    let key := Key.ofValue k
    let name ← under key (under (.name "[key]") (readName k))
    let a ← under key (read v)
    return (name, a) :: (← readNamed read es)

/-- Reads a mapping from names. -/
def readNames {α : Type} (read : Value → Reading α) : Value → Reading (List (String × α))
  | .dict es => readNamed read es
  | _ => broken .mapping

/-- Reads a mapping as a record of a name. -/
def readRecord (name : String) : Value → Reading Entries
  | .dict es => .ok es
  | _ => broken (.record name)

/-- Reads the field of a record that has to be there. -/
def required {α : Type} (es : Entries) (name : String) (read : Value → Reading α) : Reading α :=
  match es.get? (.text name) with
  | some v => under (.name name) (read v)
  | none => under (.name name) (broken .required)

/-- The first of some names that is a key of a record. -/
def present? (es : Entries) (names : List String) : Option String :=
  names.find? fun n => es.has (.text n)

/-- Reads the field of a record under the first of its names that is there, or takes a default. -/
def optional {α : Type} (es : Entries) (names : List String) (default : α)
    (read : Value → Reading α) : Reading α :=
  match present? es names with
  | some name => required es name read
  | none => .ok default

/-- Refuses keys of a record other than the names of its fields. -/
def noExtras (names : List String) : Entries → Reading Unit
  | [] => .ok ()
  | (.text s, _) :: es =>
    if names.contains s then noExtras names es else under (.name s) (broken .notExtra)
  | (k, _) :: _ => under (Key.ofValue k) (broken .textKey)

mutual

/-- Reads a value of a payload or a variable: a scalar, a list or a mapping with texts as keys. -/
def readValue? : Value → Option Value
  | .list xs => (readValues? xs).map .list
  | .tuple xs => (readValues? xs).map .tuple
  | .dict es => (readEntries? es).map fun es => .dict (Entries.ofPairs es)
  | .null => some .null
  | .bool b => some (.bool b)
  | .int i => some (.int i)
  | .float x => some (.float x)
  | .text s => some (.text s)
  | .bytes b => some (.bytes b)
  | _ => none

/-- Reads items. -/
def readValues? : List Value → Option (List Value)
  | [] => some []
  | v :: vs => do
    let w ← readValue? v
    return w :: (← readValues? vs)

/-- Reads entries. -/
def readEntries? : List (Value × Value) → Option (List (Value × Value))
  | [] => some []
  | (k, v) :: es => do
    let name ← (readText k).toOption
    let w ← readValue? v
    return (.text name, w) :: (← readEntries? es)

end

/-- Reads a value of a payload or a variable. The form that a violation names is the first one,
    a text. -/
def readValue (v : Value) : Reading Value :=
  match readValue? v with
  | some w => .ok w
  | none => under (.name "str") (broken .text)

end SessionScript.Schema
