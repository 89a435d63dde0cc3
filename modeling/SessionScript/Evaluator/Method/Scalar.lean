import SessionScript.Decimal.Rounded
import SessionScript.Evaluator.Method.Container
import SessionScript.Evaluator.Method.Text
import SessionScript.Value.Integer

/-!
# Methods of numbers and bytes

What code can ask of numbers, bytes and ranges, and the attributes of values that are no methods.
-/

namespace SessionScript.Evaluator.Method

/-- The numerator and the denominator of a number of the machine. -/
def ratioOf (x : Binary64) : Work Datum := do
  if x.isNaN then Work.valueError "cannot convert NaN to integer ratio"
  if x.isInfinite then Work.raise "OverflowError" "cannot convert Infinity to integer ratio"
  let r := x.magnitude
  let g := Nat.gcd r.num r.den
  let n : Int := (r.num / g : Nat)
  return .tuple [.int (if x.negative then -n else n), .int (r.den / g : Nat)]

/-- The number of digits of a number in base two. -/
def bitLength (n : Nat) : Nat := if n = 0 then 0 else n.log2 + 1

/-- How many digits of a number in base two are not zero. -/
def bitCount (n : Nat) : Nat := ((Text.digits 2 n).filter (· == '1')).length

/-- The names of the methods of integers. -/
def intNames : List String :=
  ["bit_length", "bit_count", "conjugate", "as_integer_ratio"]

/-- A call of a method of an integer. -/
def ofInt (name : String) (i : Int) (args : Args) : Work Datum := do
  args.none ("int." ++ name)
  match name with
  | "bit_length" => return .int (bitLength i.natAbs)
  | "bit_count" => return .int (bitCount i.natAbs)
  | "as_integer_ratio" => return .tuple [.int i, .int 1]
  | _ => return .int i

/-- The names of the methods of numbers of the machine. -/
def floatNames : List String := ["is_integer", "as_integer_ratio", "conjugate"]

/-- A call of a method of a number of the machine. -/
def ofFloat (name : String) (x : Binary64) (args : Args) : Work Datum := do
  args.none ("float." ++ name)
  match name with
  | "is_integer" => return .bool x.isIntegral
  | "as_integer_ratio" => ratioOf x
  | _ => return .float x

/-- Bytes as characters of the same numbers. -/
def charsOf (b : List UInt8) : List Char := b.map fun x => Char.ofNat x.toNat

/-- Characters as bytes of the same numbers. -/
def bytesOf (cs : List Char) : List UInt8 := cs.map fun c => UInt8.ofNat c.val.toNat

/-- A value with bytes for its texts. -/
def toBytes : Datum → Datum
  | .text s => .bytes (bytesOf s.toList)
  | d => d

/-- A value with texts for its bytes. -/
def fromBytes : Datum → Datum
  | .bytes b => Datum.ofChars (charsOf b)
  | d => d

/-- The names of the methods of bytes that behave like those of texts. -/
def bytesNames : List String :=
  ["startswith", "endswith", "find", "rfind", "index", "rindex", "count", "replace", "split",
    "rsplit", "strip", "lstrip", "rstrip", "join", "zfill", "center", "ljust", "rjust",
    "isdigit", "isspace", "isalpha", "isalnum", "partition", "rpartition", "splitlines"]

/-- The text that bytes stand for. -/
def decoded (b : List UInt8) (args : Args) : Work Datum := do
  let ds ← args.byName "decode" ["encoding", "errors"]
  let name ← match ds.getD 0 none with
    | none => pure "utf-8".toList
    | some d => needText "decode() argument 'encoding' must be str, not " d
  let plain := name.filterMap fun c =>
    if c == '-' || c == '_' || c == ' ' then none else some c.toLower
  let lossy := match ds.getD 1 none with
    | some (.text s) => s == "replace"
    | _ => false
  match String.ofList plain with
  | "utf8" =>
    if lossy then return .text (Text.Utf8.decodeLossy b)
    match Text.Utf8.decode? b, Text.Utf8.fault? b with
    | some s, _ => return .text s
    | none, some f =>
      let reason := match f.kind with
        | .badStart => "invalid start byte"
        | .badContinuation => "invalid continuation byte"
        | .cutShort => "unexpected end of data"
      throw ⟨"UnicodeDecodeError",
        [.text "utf-8", .bytes b, .int f.start, .int (f.start + f.length), .text reason]⟩
    | none, none => return .text ""
  | "ascii" =>
    match b.zipIdx.find? fun p => 128 ≤ p.1.toNat with
    | none => return Datum.ofChars (charsOf b)
    | some (_, i) =>
      throw ⟨"UnicodeDecodeError",
        [.text "ascii", .bytes b, .int i, .int (i + 1), .text "ordinal not in range(128)"]⟩
  | "latin1" | "iso88591" => return Datum.ofChars (charsOf b)
  | _ => Work.raise "LookupError" ("unknown encoding: " ++ String.ofList name)

/-- A call of a method of bytes. -/
def ofBytes (name : String) (b : List UInt8) (args : Args) : Work Datum := do
  match name with
  | "decode" => decoded b args
  | "hex" =>
    args.none "bytes.hex"
    return Datum.ofChars (b.flatMap fun x => Text.hexPad 2 x.toNat)
  | "upper" => return .bytes (bytesOf ((charsOf b).map Char.toUpper))
  | "lower" => return .bytes (bytesOf ((charsOf b).map Char.toLower))
  | name =>
    let texts : Args := ⟨args.positional.map fun d => match d with
      | .tuple xs => .tuple (xs.map fromBytes)
      | d => fromBytes d, args.named.map fun (k, d) => (k, fromBytes d)⟩
    match ← ofText name (String.ofList (charsOf b)) texts with
    | .tuple xs => return .tuple (xs.map toBytes)
    | .cell a =>
      match ← Work.read a with
      | .list xs => Work.new (.list (xs.map toBytes))
      | _ => return .cell a
    | d => return toBytes d

/-- The methods of a type by name. -/
def namesOf : String → List String
  | "list" => listNames
  | "tuple" => tupleNames
  | "dict" => dictNames
  | "set" => setNames
  | "frozenset" => frozenNames
  | "int" => intNames
  | "bool" => intNames
  | "float" => floatNames
  | "bytes" => "decode" :: "hex" :: "upper" :: "lower" :: bytesNames
  | "range" => ["index", "count"]
  | "complex" => ["conjugate"]
  | _ => []

/-- Whether values of a type have a method. -/
def exists? (typeName name : String) : Bool :=
  if typeName == "str" then isOfText name else (namesOf typeName).contains name

/-- An attribute of a value that is no method. -/
def ownMember? (d : Datum) (name : String) : Work (Option Datum) := do
  let number := fun (real imag : Datum) => match name with
    | "real" => some real
    | "imag" => some imag
    | _ => none
  match d with
  | .int _ | .bool _ =>
    let i := d.integer?.getD 0
    match name with
    | "numerator" => return some (.int i)
    | "denominator" => return some (.int 1)
    | _ => return number (.int i) (.int 0)
  | .float x => return number (.float x) (.float (Binary64.zero false))
  | .complex a b => return number (.float a) (.float b)
  | .range a b c =>
    match name with
    | "start" => return some (.int a)
    | "stop" => return some (.int b)
    | "step" => return some (.int c)
    | _ => return none
  | .slice a b c =>
    match name with
    | "start" => return some a
    | "stop" => return some b
    | "step" => return some c
    | _ => return none
  | .error _ xs => return if name == "args" then some (.tuple xs) else none
  | .type t => return if name == "__name__" || name == "__qualname__" then some (.text t) else none
  | .builtin t =>
    return if name == "__name__" || name == "__qualname__" then some (.text t) else none
  | .cell a =>
    match ← Work.read a with
    | .function f =>
      return if name == "__name__" || name == "__qualname__" then some (.text f.name)
        else if name == "__doc__" then some .none else none
    | _ => return none
  | .host (.date x) =>
    match name with
    | "year" => return some (.int x.year)
    | "month" => return some (.int x.month)
    | "day" => return some (.int x.day)
    | _ => return none
  | _ => return none

/-- The attribute of a value: its type, one of its own, or a method of its type. -/
def memberOf (d : Datum) (name : String) : Work Datum := do
  match ← ownMember? d name with
  | some v => return v
  | none =>
    let typeName ← d.typeName
    if name == "__class__" then return .type typeName
    match d with
    | .type t =>
      if t == "dict" && name == "fromkeys" || t == "str" && name == "maketrans" then
        return .method d name
      if exists? t name then return .unbound t name
      Work.raise "AttributeError" ("type object '" ++ t ++ "' has no attribute '" ++ name ++ "'")
    | d =>
      if exists? typeName name then return .method d name
      Work.raise "AttributeError"
        ("'" ++ typeName ++ "' object has no attribute '" ++ name ++ "'")

/-- Calls a method of a value. Arguments that are walked through come as tuples. -/
def call (d : Datum) (name : String) (args : Args) : Work Datum := do
  match d with
  | .text s => ofText name s args
  | .bytes b => ofBytes name b args
  | .tuple xs => ofTuple name xs args
  | .float x => ofFloat name x args
  | .complex a b => return .complex a b.neg
  | .range a b c =>
    let items := (List.range (Datum.rangeLength a b c)).map fun (i : Nat) =>
      Datum.int (a + c * (i : Int))
    if name == "count" then countOf (← args.one "range.count") items
    else positionOf args items fun x => do return (← x.shown) ++ " is not in range"
  | .cell a =>
    match ← Work.read a with
    | .list xs => ofList name a xs args
    | .dict es => ofDict name a es args
    | .set ms frozen => ofSet name a ms frozen args
    | _ => return .none
  | d =>
    match d.integer? with
    | some i => ofInt name i args
    | none => return .none

end SessionScript.Evaluator.Method
