import SessionScript.Decimal.Numeral
import SessionScript.Evaluator.ErrorKind
import SessionScript.Evaluator.Format.Fields
import SessionScript.Evaluator.Scope

/-!
# Builtin functions

The functions and types of the host that code can be given, as far as they call no code themselves.
Arguments that are walked through come as tuples.
-/

namespace SessionScript.Evaluator.Builtin

/-- The types among the builtins. -/
def types : List String :=
  ["bool", "bytearray", "bytes", "classmethod", "complex", "dict", "enumerate", "filter", "float",
    "frozenset", "int", "list", "map", "memoryview", "object", "property", "range", "reversed",
    "set", "slice", "staticmethod", "str", "super", "tuple", "type", "zip"]

/-- The functions among the builtins. -/
def functions : List String :=
  ["__build_class__", "__import__", "abs", "aiter", "all", "anext", "any", "ascii", "bin",
    "breakpoint", "callable", "chr", "compile", "delattr", "dir", "divmod", "eval", "exec",
    "format", "getattr", "globals", "hasattr", "hash", "hex", "id", "input", "isinstance",
    "issubclass", "iter", "len", "locals", "max", "min", "next", "oct", "open", "ord", "pow",
    "print", "repr", "round", "setattr", "sorted", "sum", "vars"]

/-- The builtin of a name. -/
def ofName? (name : String) : Option Datum :=
  if types.contains name then some (.type name)
  else if functions.contains name then some (.builtin name)
  else if ErrorKind.exists? name then some (.type name)
  else
    match ErrorKind.alias? name, name with
    | some kind, _ => some (.type kind)
    | none, "True" => some (.bool true)
    | none, "False" => some (.bool false)
    | none, "None" => some .none
    | none, "Ellipsis" => some .ellipsis
    | none, "__debug__" => some (.bool true)
    | none, "__name__" => some (.text "builtins")
    | none, _ => none

/-- The names that code is given unless something else is asked for. -/
def standard : List String :=
  ["abs", "all", "any", "bool", "chr", "dict", "divmod", "enumerate", "filter", "float", "format",
    "hex", "int", "isinstance", "len", "list", "map", "max", "min", "ord", "pow", "range", "repr",
    "reversed", "round", "set", "sorted", "str", "sum", "tuple", "zip"]

/-- All names of builtins. -/
def everything : List String :=
  types ++ functions ++ ErrorKind.below.flatMap (·.2) ++ ["BaseException"]

/-- The integer that a number is cut to. -/
def cut (x : Binary64) : Work Datum := do
  if x.isNaN then Work.valueError "cannot convert float NaN to integer"
  if x.isInfinite then Work.raise "OverflowError" "cannot convert float infinity to integer"
  return .int x.truncate

/-- The base that a numeral has a mark of; ten without one. -/
def markedBase (cs : List Char) : Nat :=
  match (Text.Numeral.splitSign (Text.Numeral.normalized cs)).2 with
  | '0' :: 'x' :: _ | '0' :: 'X' :: _ => 16
  | '0' :: 'o' :: _ | '0' :: 'O' :: _ => 8
  | '0' :: 'b' :: _ | '0' :: 'B' :: _ => 2
  | _ => 10

/-- The integer that a text denotes in a base. -/
def readInteger (base : Nat) (shown : Datum) (cs : List Char) : Work Datum := do
  match Text.Numeral.readInt? (if base == 0 then markedBase cs else base) cs with
  | some i => return .int i
  | none =>
    let count := (cs.filter fun c => (Text.Numeral.decimalDigit? c).isSome).length
    let withoutLimit := Text.number? 10
      ((Text.Numeral.splitSign (Text.Numeral.normalized cs)).2.filter (· != '_'))
    if base == 10 && Text.Numeral.greatestLength < count && withoutLimit.isSome then
      Work.valueError ("Exceeds the limit (" ++ Text.ofNat Text.Numeral.greatestLength ++
        " digits) for integer string conversion: value has " ++ Text.ofNat count ++
        " digits; use sys.set_int_max_str_digits() to increase the limit")
    Work.valueError ("invalid literal for int() with base " ++ Text.ofNat base ++ ": " ++
      (← shown.shown))

/-- A value as an integer. -/
def toInteger (args : Args) : Work Datum := do
  let ds ← args.byName "int" ["x", "base"]
  match ds.getD 0 none, ds.getD 1 none with
  | none, none => return .int 0
  | none, some _ => Work.typeError "int() missing string argument"
  | some d, some b =>
    let base ← Args.integer b
    if base != 0 && (base < 2 || 36 < base) then
      Work.valueError "int() base must be >= 2 and <= 36, or 0"
    match d with
    | .text s => readInteger base.toNat d s.toList
    | .bytes b => readInteger base.toNat d (Method.charsOf b)
    | _ => Work.typeError "int() can't convert non-string with explicit base"
  | some d, none =>
    match d with
    | .float x => cut x
    | .text s => readInteger 10 d s.toList
    | .bytes b => readInteger 10 d (Method.charsOf b)
    | d =>
      match d.integer? with
      | some i => return .int i
      | none =>
        Work.typeError
          ("int() argument must be a string, a bytes-like object or a real number, not '" ++
            (← d.typeName) ++ "'")

/-- A value as a number of the machine. -/
def toFloat (args : Args) : Work Datum := do
  let ds ← args.between "float" 0 1
  let read := fun (d : Datum) (cs : List Char) => do
    match Binary64.readLoose? cs with
    | some x => return Datum.float x
    | none => Work.valueError ("could not convert string to float: " ++ (← d.shown))
  match ds.headD (.float (Binary64.zero false)) with
  | .text s => read (.text s) s.toList
  | .bytes b => read (.bytes b) (Method.charsOf b)
  | d =>
    match ← d.toFloat? with
    | some x => return .float x
    | none =>
      Work.typeError ("float() argument must be a string or a real number, not '" ++
        (← d.typeName) ++ "'")

/-- A value as a text. -/
def toText (args : Args) : Work Datum := do
  let ds ← args.byName "str" ["object", "encoding", "errors"]
  match ds.getD 0 none, ds.getD 1 none, ds.getD 2 none with
  | none, _, _ => return .text ""
  | some d, none, none => return .text (← d.plainText)
  | some (.bytes b), encoding, errors =>
    Method.decoded b ⟨[encoding.getD (.text "utf-8"), errors.getD (.text "strict")], []⟩
  | some d, _, _ =>
    Work.typeError ("decoding to str: need a bytes-like object, " ++ (← d.typeName) ++ " found")

/-- A number rounded. -/
def rounded (args : Args) : Work Datum := do
  let ds ← args.byName "round" ["number", "ndigits"]
  let places ← match ds.getD 1 none with
    | none | some .none => pure none
    | some d => some <$> Args.integer d
  match ds.getD 0 none with
  | none => Work.typeError "round() missing required argument 'number' (pos 1)"
  | some (.float x) =>
    match places with
    | some n =>
      let y := x.roundAt n
      if y.isInfinite && x.isFinite then
        Work.raise "OverflowError" "rounded value too large to represent"
      return .float y
    | none =>
      if x.isFinite then return .int x.nearest else cut x
  | some d =>
    match d.integer? with
    | some i =>
      match places with
      | some n =>
        if 0 ≤ n then return .int i
        else
          let unit := tenTo n.natAbs
          let m : Int := (Binary64.roundDiv i.natAbs unit * unit : Nat)
          return .int (if i < 0 then -m else m)
      | none => return .int i
    | none => Work.typeError ("type " ++ (← d.typeName) ++ " doesn't define __round__ method")

/-- A value without its sign. -/
def absolute (d : Datum) : Work Datum := do
  match d with
  | .float x => return .float x.abs
  | .complex a b =>
    return .float (Binary64.ofFloat (((a.mul a).add (b.mul b)).toFloat.sqrt))
  | d =>
    match d.integer? with
    | some i => return .int i.natAbs
    | none => Work.typeError ("bad operand type for abs(): '" ++ (← d.typeName) ++ "'")

/-- A quotient and its remainder. -/
def divided (a b : Datum) : Work Datum := do
  match ← a.numbers? b with
  | some (.ints i k) =>
    if k == 0 then Work.divisionByZero "integer division or modulo by zero"
    return .tuple [.int (Int.fdiv i k), .int (Int.fmod i k)]
  | some (.floats x y) =>
    if y.isZero then Work.divisionByZero "float divmod()"
    let (q, r) := x.divMod y
    return .tuple [.float q, .float r]
  | _ => Work.unsupported "divmod()" a b

/-- The number that is inverse to another one in the ring of remainders; the steps of Euclid's
    algorithm are bounded by the first argument. -/
def inverse : Nat → Int → Int → Int → Int → Option Int
  | 0, _, _, _, _ => none
  | n + 1, a, m, x, y =>
    if m == 0 then (if a == 1 || a == -1 then some (x * a) else none)
    else inverse n m (Int.fmod a m) y (x - Int.fdiv a m * y)

/-- A power in the ring of remainders, by repeated squaring. -/
def powMod (m : Int) : Nat → Int → Nat → Int → Int
  | 0, _, _, acc => acc
  | fuel + 1, base, e, acc =>
    if e = 0 then acc
    else
      powMod m fuel (Int.fmod (base * base) m) (e / 2)
        (if e % 2 = 1 then Int.fmod (acc * base) m else acc)

/-- A power, of which the remainder is taken if a third number is given. -/
def power (args : Args) : Work Datum := do
  let ds ← args.byName "pow" ["base", "exp", "mod"]
  match ds.getD 0 none, ds.getD 1 none, ds.getD 2 none with
  | some a, some b, none | some a, some b, some .none => a.binary .pow false b
  | some a, some b, some m =>
    match a.integer?, b.integer?, m.integer? with
    | some i, some k, some m =>
      if m == 0 then Work.valueError "pow() 3rd argument cannot be 0"
      let base := Int.fmod i m
      if 0 ≤ k then
        return .int (Int.fmod (powMod m (k.toNat.log2 + 2) base k.toNat 1) m)
      else
        match inverse (m.natAbs.log2 * 2 + 4) base m 1 0 with
        | some v =>
          return .int (Int.fmod (powMod m (k.natAbs.log2 + 2) (Int.fmod v m) k.natAbs 1) m)
        | none => Work.valueError "base is not invertible for the given modulus"
    | _, _, _ =>
      Work.typeError "pow() 3rd argument not allowed unless all arguments are integers"
  | none, _, _ => Work.typeError "pow() missing required argument 'base' (pos 1)"
  | _, none, _ => Work.typeError "pow() missing required argument 'exp' (pos 2)"

/-- The character of a number. -/
def character (d : Datum) : Work Datum := do
  let i ← Args.integer d
  if i < 0 || 0x110000 ≤ i then Work.valueError "chr() arg not in range(0x110000)"
  return Datum.ofChars [Char.ofNat i.toNat]

/-- The number of a character. -/
def ordinal (d : Datum) : Work Datum := do
  let wrong := fun (n : Nat) => Work.typeError
    ("ord() expected a character, but string of length " ++ Text.ofNat n ++ " found")
  match d with
  | .text s =>
    match s.toList with
    | [c] => return .int c.val.toNat
    | cs => wrong cs.length
  | .bytes [x] => return .int x.toNat
  | .bytes b => wrong b.length
  | d =>
    Work.typeError ("ord() expected string of length 1, but " ++ (← d.typeName) ++ " found")

/-- An integer in a base with its mark. -/
def inBase (base : Nat) (mark : List Char) (d : Datum) : Work Datum := do
  let i ← Args.integer d
  return Datum.ofChars ((if i < 0 then ['-'] else []) ++ mark ++ Text.digits base i.natAbs)

/-- The range of some arguments. -/
def range (args : Args) : Work Datum := do
  let ds ← args.between "range" 1 3
  let ns ← ds.mapM Args.integer
  match ns with
  | [stop] => return .range 0 stop 1
  | [start, stop] => return .range start stop 1
  | start :: stop :: step :: _ =>
    if step == 0 then Work.valueError "range() arg 3 must not be zero"
    return .range start stop step
  | [] => return .none

/-- The slice of some arguments. -/
def slice (args : Args) : Work Datum := do
  match ← args.between "slice" 1 3 with
  | [high] => return .slice .none high .none
  | [low, high] => return .slice low high .none
  | low :: high :: step :: _ => return .slice low high step
  | [] => return .none

/-- The kinds of types that a type includes besides itself. -/
def isBelow (s : Store) (d : Datum) (name : String) : Bool :=
  let own := d.typeIn s
  own == name || name == "object" || (own == "bool" && name == "int") ||
    ErrorKind.includes name own

/-- Whether a value is of a type, or of one of several. -/
def isInstance (d : Datum) : Datum → Nat → Work Bool
  | _, 0 => return false
  | t, n + 1 => do
    match t with
    | .type name => return isBelow (← get) d name
    | .tuple ts => ts.anyM fun t => isInstance d t n
    | _ =>
      Work.typeError "isinstance() arg 2 must be a type, a tuple of types, or a union"

/-- The sum of numbers of the machine and of the values that are left. -/
def sumFrom : Datum → List Datum → Work Datum
  | acc, [] => return acc
  | acc, d :: ds => do sumFrom (← acc.binary .add false d) ds

/-- The sum of values that were walked through. -/
def sum (args : Args) : Work Datum := do
  let ds ← args.byName "sum" ["iterable", "start"]
  match ds.getD 1 none with
  | some (.text _) => Work.typeError "sum() can't sum strings [use ''.join(seq) instead]"
  | some (.bytes _) => Work.typeError "sum() can't sum bytes [use b''.join(seq) instead]"
  | start => sumFrom (start.getD (.int 0)) (Method.walked ((ds.getD 0 none).getD .none))

/-- The items of an argument that was walked through, or nothing. -/
def items (name : String) (args : Args) : Work (List Datum) := do
  return Method.walked ((← args.between name 0 1).headD (.tuple []))

/-- The mapping of some arguments: a mapping or pairs that were walked through, and names. -/
def mapping (args : Args) : Work Datum := do
  if 1 < args.positional.length then
    Work.typeError
      ("dict expected at most 1 argument, got " ++ Text.ofNat args.positional.length)
  let es ← match args.positional with
    | [d] => Method.entriesOf d
    | _ => pure []
  Work.new (.dict (Method.putAll [] (es ++ args.named.map fun (k, d) => (Datum.text k, d))))

/-- The bytes of an argument: so many zeros, numbers that were walked through, or a text. -/
def toBytes (args : Args) : Work Datum := do
  let ds ← args.byName "bytes" ["source", "encoding", "errors"]
  match ds.getD 0 none with
  | none => return .bytes []
  | some (.bytes b) => return .bytes b
  | some (.text s) =>
    match ds.getD 1 none with
    | some e => Method.encoded s.toList (.ofList [e])
    | none => Work.typeError "string argument without an encoding"
  | some (.tuple xs) =>
    let step := fun (d : Datum) => do
      let i ← Args.integer d
      if i < 0 || 256 ≤ i then Work.valueError "bytes must be in range(0, 256)"
      return UInt8.ofNat i.toNat
    return .bytes (← xs.mapM step)
  | some d =>
    let n ← Args.integer d
    if n < 0 then Work.valueError "negative count"
    return .bytes (List.replicate n.toNat 0)

/-- The complex number of some arguments. -/
def toComplex (args : Args) : Work Datum := do
  let ds ← args.byName "complex" ["real", "imag"]
  let zero := Binary64.zero false
  let parts := fun (d : Option Datum) => do
    match d with
    | none => return (zero, zero)
    | some d =>
      match ← d.parts? with
      | some p => return p
      | none =>
        Work.typeError ("complex() first argument must be a string or a number, not '" ++
          (← d.typeName) ++ "'")
  let (a, b) ← parts (ds.getD 0 none)
  let (c, d) ← parts (ds.getD 1 none)
  return .complex (a.sub d) (b.add c)

/-- Calls a builtin function or makes a value of a type. -/
def call (name : String) (args : Args) : Work Datum := do
  match name with
  | "int" => toInteger args
  | "float" => toFloat args
  | "str" => toText args
  | "complex" => toComplex args
  | "bytes" => toBytes args
  | "bool" =>
    match ← args.between name 0 1 with
    | [d] => return .bool (← d.truth)
    | _ => return .bool false
  | "list" => Work.newList (← items name args)
  | "tuple" => return .tuple (← items name args)
  | "set" | "frozenset" =>
    let ds ← items name args
    ds.forM Datum.needKey
    Work.new (.set (Members.ofList ds) (name == "frozenset"))
  | "dict" => mapping args
  | "range" => range args
  | "slice" => slice args
  | "object" => return .host (.other "object" "<object object>")
  | "type" => return .type (← (← args.one "type").typeName)
  | "abs" => absolute (← args.one "abs")
  | "ascii" => return .text (← (← args.one "ascii").asciiText)
  | "bin" => inBase 2 ['0', 'b'] (← args.one "bin")
  | "oct" => inBase 8 ['0', 'o'] (← args.one "oct")
  | "hex" => inBase 16 ['0', 'x'] (← args.one "hex")
  | "callable" =>
    let t ← (← args.one "callable").typeName
    return .bool (["function", "type", "builtin_function_or_method", "method_descriptor"].contains t)
  | "chr" => character (← args.one "chr")
  | "ord" => ordinal (← args.one "ord")
  | "divmod" =>
    let ds ← args.between name 2 2
    divided (ds.headD .none) (ds.getD 1 .none)
  | "format" =>
    let ds ← args.between name 1 2
    match ds.getD 1 (.text "") with
    | .text spec => return .text (← (ds.headD .none).format spec)
    | d => Work.typeError ("format() argument 2 must be str, not " ++ (← d.typeName))
  | "getattr" =>
    let ds ← args.between name 2 3
    match ds.getD 1 .none, ds[2]? with
    | .text n, none => Method.memberOf (ds.headD .none) n
    | .text n, some d =>
      tryCatch (Method.memberOf (ds.headD .none) n) fun (e : Raised) =>
        if e.kind == "AttributeError" then pure d else throw e
    | _, _ => Work.typeError "attribute name must be string, not 'int'"
  | "hasattr" =>
    let ds ← args.between name 2 2
    match ds.getD 1 .none with
    | .text n =>
      tryCatch (do let _ ← Method.memberOf (ds.headD .none) n; return Datum.bool true)
        fun (e : Raised) => if e.kind == "AttributeError" then pure (.bool false) else throw e
    | _ => Work.typeError "attribute name must be string, not 'int'"
  | "isinstance" =>
    let ds ← args.between name 2 2
    return .bool (← isInstance (ds.headD .none) (ds.getD 1 .none) 100)
  | "len" =>
    let d ← args.one "len"
    match ← d.length? with
    | some n => return .int n
    | none => Work.typeError ("object of type '" ++ (← d.typeName) ++ "' has no len()")
  | "pow" => power args
  | "print" => return .none
  | "repr" => return .text (← (← args.one "repr").shown)
  | "round" => rounded args
  | "sum" => sum args
  | _ => Work.raise "RuntimeError" (name ++ " is not available")

end SessionScript.Evaluator.Builtin
