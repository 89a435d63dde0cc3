import SessionScript.Decimal.Arithmetic
import SessionScript.Decimal.Rounded
import SessionScript.Evaluator.Compare

/-!
# Operators

What the operators of code do with two values: arithmetic on numbers, joining and repeating of
sequences, and operations on sets and mappings. An integer becomes a number of the machine where
the other operand is one.
-/

namespace SessionScript.Evaluator

open Code (BinaryOp UnaryOp)

/-- The sign of an operator. -/
def binarySign : BinaryOp → String
  | .add => "+"
  | .sub => "-"
  | .mul => "*"
  | .matMul => "@"
  | .div => "/"
  | .mod => "%"
  | .pow => "**"
  | .shiftLeft => "<<"
  | .shiftRight => ">>"
  | .bitOr => "|"
  | .bitXor => "^"
  | .bitAnd => "&"
  | .floorDiv => "//"

/-- The sign of an operator in messages; an augmented assignment has an equals sign in it. -/
def signShown (op : BinaryOp) (augmented : Bool) : String :=
  if augmented then binarySign op ++ "="
  else if op == .pow then "** or pow()"
  else binarySign op

namespace Work

/-- The error of two values that an operator does not join. -/
def unsupported {α : Type} (sign : String) (a b : Datum) : Work α := do
  typeError ("unsupported operand type(s) for " ++ sign ++ ": '" ++ (← a.typeName) ++ "' and '" ++
    (← b.typeName) ++ "'")

/-- The number of the machine for an integer. -/
def toFloat (i : Int) : Work Binary64 :=
  match Binary64.ofInt? i with
  | some x => return x
  | none => raise "OverflowError" "int too large to convert to float"

/-- The error of a division by zero. -/
def divisionByZero {α : Type} (message : String) : Work α := raise "ZeroDivisionError" message

end Work

/-- Two numbers brought to one kind. -/
inductive Numbers where
  | ints (a b : Int)
  | floats (x y : Binary64)
  | complexes (a b c d : Binary64)

namespace Datum

/-- A number of the machine for a real number. -/
def toFloat? : Datum → Work (Option Binary64)
  | .float x => return some x
  | d =>
    match d.integer? with
    | some i => return some (← Work.toFloat i)
    | Option.none => return Option.none

/-- The parts of a number as a complex one. -/
def parts? : Datum → Work (Option (Binary64 × Binary64))
  | .complex a b => return some (a, b)
  | d => do return (← d.toFloat?).map fun x => (x, Binary64.zero false)

/-- Two values as numbers of one kind. -/
def numbers? (a b : Datum) : Work (Option Numbers) := do
  match a.integer?, b.integer? with
  | some i, some k => return some (.ints i k)
  | _, _ =>
    match a, b with
    | .complex _ _, _ | _, .complex _ _ =>
      match ← a.parts?, ← b.parts? with
      | some (p, q), some (r, s) => return some (.complexes p q r s)
      | _, _ => return Option.none
    | .float _, _ | _, .float _ =>
      match ← a.toFloat?, ← b.toFloat? with
      | some x, some y => return some (.floats x y)
      | _, _ => return Option.none
    | _, _ => return Option.none

end Datum

namespace Numbers

/-- The bits of an integer, as many as asked for, negative ones as their complement. -/
def bitsOf (width : Nat) (i : Int) : Nat := (i % (twoTo width : Nat)).toNat

/-- The integer that some bits stand for. -/
def ofBits (width n : Nat) : Int :=
  if twoTo (width - 1) ≤ n then (n : Int) - (twoTo width : Nat) else n

/-- An operation on the bits of two integers. -/
def bitwise (f : Nat → Nat → Nat) (a b : Int) : Int :=
  let width := max a.natAbs.log2 b.natAbs.log2 + 2
  ofBits width (f (bitsOf width a) (bitsOf width b))

/-- A power of two integers; a negative exponent gives a number of the machine. -/
def powInts (a b : Int) : Work Datum := do
  if 0 ≤ b then return .int (Int.pow a b.toNat)
  else if a == 0 then
    Work.divisionByZero "0.0 cannot be raised to a negative power"
  else return .float ((← Work.toFloat a).pow (← Work.toFloat b))

/-- The error of a result that is too large. -/
def tooLarge {α : Type} : Work α :=
  throw ⟨"OverflowError", [.int 34, .text "Numerical result out of range"]⟩

/-- The complex power of a negative number with an exponent that is not integral. -/
def complexPow (x y : Binary64) : Datum :=
  let size := (x.toFloat.abs) ^ y.toFloat
  let angle := 3.141592653589793 * y.toFloat
  .complex (Binary64.ofFloat (size * angle.cos)) (Binary64.ofFloat (size * angle.sin))

/-- A power of two numbers of the machine. -/
def powFloats (x y : Binary64) : Work Datum := do
  if x.isZero && y.negative && !y.isNaN && !y.isZero then
    Work.divisionByZero "0.0 cannot be raised to a negative power"
  else if x.negative && x.isFinite && !x.isZero && y.isFinite && !y.isIntegral then
    return complexPow x y
  else
    let z := x.pow y
    if z.isInfinite && x.isFinite && y.isFinite then tooLarge
    return .float z

/-- A shift of bits; to the right if the number of places is negative. -/
def shift (a places : Int) : Int :=
  if 0 ≤ places then a * (twoTo places.toNat : Nat)
  else Int.fdiv a (twoTo places.natAbs : Nat)

/-- An operation on integers, if there is one. -/
def onInts (op : BinaryOp) (a b : Int) : Work (Option Datum) := do
  match op with
  | .add => return some (.int (a + b))
  | .sub => return some (.int (a - b))
  | .mul => return some (.int (a * b))
  | .matMul => return none
  | .div =>
    if b == 0 then Work.divisionByZero "division by zero"
    let x := Binary64.ofRatio ((a < 0) != (b < 0)) a.natAbs b.natAbs
    if x.isInfinite then
      Work.raise "OverflowError" "integer division result too large for a float"
    return some (.float x)
  | .floorDiv =>
    if b == 0 then Work.divisionByZero "integer division or modulo by zero"
    return some (.int (Int.fdiv a b))
  | .mod =>
    if b == 0 then Work.divisionByZero "integer modulo by zero"
    return some (.int (Int.fmod a b))
  | .pow => return some (← powInts a b)
  | .shiftLeft =>
    if b < 0 then Work.valueError "negative shift count"
    return some (.int (shift a b))
  | .shiftRight =>
    if b < 0 then Work.valueError "negative shift count"
    return some (.int (if a.natAbs.log2 + 1 < b then (if a < 0 then -1 else 0) else shift a (-b)))
  | .bitOr => return some (.int (bitwise (· ||| ·) a b))
  | .bitXor => return some (.int (bitwise (· ^^^ ·) a b))
  | .bitAnd => return some (.int (bitwise (· &&& ·) a b))

/-- An operation on numbers of the machine, if there is one. -/
def onFloats (op : BinaryOp) (x y : Binary64) : Work (Option Datum) := do
  match op with
  | .add => return some (.float (x.add y))
  | .sub => return some (.float (x.sub y))
  | .mul => return some (.float (x.mul y))
  | .div =>
    if y.isZero then Work.divisionByZero "float division by zero"
    return some (.float (x.div y))
  | .floorDiv =>
    if y.isZero then Work.divisionByZero "float floor division by zero"
    return some (.float (x.divMod y).1)
  | .mod =>
    if y.isZero then Work.divisionByZero "float modulo"
    return some (.float (x.divMod y).2)
  | .pow => return some (← powFloats x y)
  | _ => return none

/-- An operation on complex numbers, if there is one. -/
def onComplexes (op : BinaryOp) (a b c d : Binary64) : Work (Option Datum) := do
  match op with
  | .add => return some (.complex (a.add c) (b.add d))
  | .sub => return some (.complex (a.sub c) (b.sub d))
  | .mul => return some (.complex ((a.mul c).sub (b.mul d)) ((a.mul d).add (b.mul c)))
  | .div =>
    let size := (c.mul c).add (d.mul d)
    if size.isZero then Work.divisionByZero "complex division by zero"
    return some (.complex (((a.mul c).add (b.mul d)).div size)
      (((b.mul c).sub (a.mul d)).div size))
  | .pow =>
    match if d.isZero then c.toInt? else none with
    | some n =>
      if n < 0 then return some (.complex Binary64.nan Binary64.nan)
      let step := fun (acc : Binary64 × Binary64) (_ : Nat) =>
        ((acc.1.mul a).sub (acc.2.mul b), (acc.1.mul b).add (acc.2.mul a))
      let (p, q) := (List.range (min n.toNat 1000)).foldl step
        (Binary64.ofInt 1, Binary64.zero false)
      return some (.complex p q)
    | none => return some (.complex Binary64.nan Binary64.nan)
  | _ => return none

end Numbers

namespace Datum

/-- An operation on two booleans that gives a boolean. -/
def onBools? (op : BinaryOp) (a b : Datum) : Option Datum :=
  match op, a, b with
  | .bitAnd, .bool p, .bool q => some (.bool (p && q))
  | .bitOr, .bool p, .bool q => some (.bool (p || q))
  | .bitXor, .bool p, .bool q => some (.bool (p != q))
  | _, _, _ => Option.none

/-- An operation on two numbers. -/
def onNumbers (op : BinaryOp) (a b : Datum) : Work (Option Datum) := do
  match onBools? op a b with
  | some d => return some d
  | Option.none =>
    match ← a.numbers? b with
    | some (.ints i k) => Numbers.onInts op i k
    | some (.floats x y) => Numbers.onFloats op x y
    | some (.complexes p q r s) => Numbers.onComplexes op p q r s
    | Option.none => return Option.none

/-- A sequence repeated some times. -/
def repeated {α : Type} (n : Int) (xs : List α) : List α :=
  (List.replicate n.toNat xs).flatten

/-- A sequence repeated; nothing if a value is no sequence. -/
def repeat? (d : Datum) (n : Int) : Work (Option Datum) := do
  match d with
  | .text s => return some (ofChars (repeated n s.toList))
  | .bytes b => return some (.bytes (repeated n b))
  | .tuple xs => return some (.tuple (repeated n xs))
  | d =>
    match ← d.sequence? with
    | some (_, xs) => return some (← Work.newList (repeated n xs))
    | Option.none => return Option.none

/-- Whether a value is a sequence that can be joined and repeated. -/
def isSequence (d : Datum) : Work Bool := do
  match d with
  | .text _ | .bytes _ | .tuple _ => return true
  | d => return (← d.sequence?).isSome

/-- The product of two values of which one is a sequence. -/
def repeatBy (sign : String) (a b : Datum) : Work Datum := do
  if ← a.isSequence then
    match b.integer? with
    | some n => return (← a.repeat? n).getD .none
    | Option.none =>
      Work.typeError ("can't multiply sequence by non-int of type '" ++ (← b.typeName) ++ "'")
  else if ← b.isSequence then
    match a.integer? with
    | some n => return (← b.repeat? n).getD .none
    | Option.none =>
      Work.typeError ("can't multiply sequence by non-int of type '" ++ (← a.typeName) ++ "'")
  else Work.unsupported sign a b

/-- The sum of two values of which the first is no number. -/
def join (sign : String) (a b : Datum) : Work Datum := do
  match a, b with
  | .text s, .text t => return .text (s ++ t)
  | .bytes s, .bytes t => return .bytes (s ++ t)
  | .tuple xs, .tuple ys => return .tuple (xs ++ ys)
  | a, b =>
    match ← a.sequence?, ← b.sequence? with
    | some (true, xs), some (true, ys) => Work.newList (xs ++ ys)
    | _, _ =>
      let only := fun (kind : String) => do
        Work.typeError ("can only concatenate " ++ kind ++ " (not \"" ++ (← b.typeName) ++
          "\") to " ++ kind)
      match a with
      | .text _ => only "str"
      | .bytes _ => Work.typeError ("can't concat " ++ (← b.typeName) ++ " to bytes")
      | .tuple _ => only "tuple"
      | a => if (← a.sequence?).isSome then only "list" else Work.unsupported sign a b

/-- The members of two sets combined. -/
def combineMembers (op : BinaryOp) (xs ys : Members) : Option Members :=
  match op with
  | .sub => some (xs.filter fun x => !Members.has ys x)
  | .bitAnd => some (xs.filter (Members.has ys))
  | .bitOr => some (ys.foldl Members.add xs)
  | .bitXor =>
    some ((xs.filter fun x => !Members.has ys x) ++ (ys.filter fun y => !Members.has xs y))
  | _ => Option.none

/-- Whether a value is a set that can not change. -/
def isFrozen (d : Datum) : Work Bool := do return (← d.typeName) == "frozenset"

/-- An operation on two values that behave like sets, if there is one. -/
def onSets (op : BinaryOp) (a b : Datum) : Work (Option Datum) := do
  match ← a.members?, ← b.members? with
  | some xs, some ys =>
    match combineMembers op xs ys with
    | some ms => return some (← Work.new (.set ms (← a.isFrozen)))
    | Option.none => return Option.none
  | _, _ => return Option.none

/-- An operation on sets or mappings, if there is one. -/
def onMembers (op : BinaryOp) (a b : Datum) : Work (Option Datum) := do
  match a, b with
  | .cell x, .cell y =>
    match op, ← Work.read x, ← Work.read y with
    | .bitOr, .dict xs, .dict ys =>
      return some (← Work.new (.dict (ys.foldl (fun acc e => Pairs.put acc e.1 e.2) xs)))
    | _, _, _ => onSets op a b
  | _, _ => onSets op a b

/-- What an operator other than `%` on texts makes of two values. -/
def operate (op : BinaryOp) (augmented : Bool) (a b : Datum) : Work Datum := do
  let sign := signShown op augmented
  match ← a.onNumbers op b with
  | some d => return d
  | Option.none =>
    match ← a.onMembers op b with
    | some d => return d
    | Option.none =>
      match op with
      | .add => join sign a b
      | .mul => repeatBy sign a b
      | _ => Work.unsupported sign a b

/-- The error of an operator that does not fit a value. -/
def badOperand (sign : String) (d : Datum) : Work Datum := do
  Work.typeError ("bad operand type for unary " ++ sign ++ ": '" ++ (← d.typeName) ++ "'")

/-- What an operator makes of one value. -/
def operateUnary (op : UnaryOp) (d : Datum) : Work Datum := do
  match op with
  | .not => return .bool !(← d.truth)
  | .neg =>
    match d with
    | .float x => return .float x.neg
    | .complex a b => return .complex a.neg b.neg
    | d =>
      match d.integer? with
      | some i => return .int (-i)
      | Option.none => badOperand "-" d
  | .pos =>
    match d with
    | .float x => return .float x
    | .complex a b => return .complex a b
    | d =>
      match d.integer? with
      | some i => return .int i
      | Option.none => badOperand "+" d
  | .invert =>
    match d.integer? with
    | some i => return .int (-i - 1)
    | Option.none => badOperand "~" d
end Datum

end SessionScript.Evaluator
