import SessionScript.Evaluator.Arithmetic
import SessionScript.Evaluator.Format.Number
import SessionScript.Evaluator.Shown

/-!
# Format specifications

How a value is laid out as text: fill and alignment, sign, base, width, groups of digits, precision
and a letter for the kind of text.
-/

namespace SessionScript.Evaluator

/-- A format specification. -/
structure FormatSpec where
  fill : Option Char := none
  align : Option Char := none
  sign : Option Char := none
  noNegativeZero : Bool := false
  alternate : Bool := false
  zero : Bool := false
  width : Nat := 0
  grouping : Option Char := none
  precision : Option Nat := none
  kind : Option Char := none
  deriving Repr, Inhabited

namespace FormatSpec

/-- Whether a character stands for an alignment. -/
def isAlign (c : Char) : Bool := c == '<' || c == '>' || c == '=' || c == '^'

/-- Whether a character is a decimal digit. -/
def isDigit (c : Char) : Bool := '0' ≤ c && c ≤ '9'

/-- Takes a character off the front if it passes a test. -/
def takeIf (p : Char → Bool) : List Char → Option Char × List Char
  | c :: cs => if p c then (some c, cs) else (none, c :: cs)
  | [] => (none, [])

/-- Takes a number off the front. -/
def takeNumber (cs : List Char) : Option Nat × List Char :=
  let ds := cs.takeWhile isDigit
  (if ds.isEmpty then none else Text.number? 10 ds, cs.drop ds.length)

/-- The specification that a text denotes. -/
def parse? (cs : List Char) : Option FormatSpec := do
  let (fill, align, cs) := match cs with
    | f :: a :: rest =>
      if isAlign a then (some f, some a, rest)
      else if isAlign f then (none, some f, a :: rest)
      else (none, none, cs)
    | [a] => if isAlign a then (none, some a, []) else (none, none, cs)
    | [] => (none, none, [])
  let (sign, cs) := takeIf (fun c => c == '+' || c == '-' || c == ' ') cs
  let (z, cs) := takeIf (· == 'z') cs
  let (alternate, cs) := takeIf (· == '#') cs
  let (zero, cs) := if fill.isNone then takeIf (· == '0') cs else (none, cs)
  let (width, cs) := takeNumber cs
  let (grouping, cs) := takeIf (fun c => c == ',' || c == '_') cs
  let (precision, cs) ← match cs with
    | '.' :: rest =>
      match takeNumber rest with
      | (none, _) => none
      | (some n, rest) => some (some n, rest)
    | _ => some (none, cs)
  let (kind, cs) := takeIf (fun _ => true) cs
  if !cs.isEmpty then none
  return {
    fill := fill, align := align, sign := sign, noNegativeZero := z.isSome
    alternate := alternate.isSome, zero := zero.isSome, width := width.getD 0
    grouping := grouping, precision := precision, kind := kind }

/-- The character that fills up the width. -/
def filler (s : FormatSpec) : Char := s.fill.getD (if s.zero then '0' else ' ')

/-- Fills up a text to the width. -/
def pad (s : FormatSpec) (standard : Char) (cs : List Char) : List Char :=
  let missing := s.width - cs.length
  let fill := fun n => List.replicate n s.filler
  match s.align.getD standard with
  | '<' => cs ++ fill missing
  | '^' => fill (missing / 2) ++ cs ++ fill (missing - missing / 2)
  | _ => fill missing ++ cs

/-- The alignment of a number. -/
def numberAlign (s : FormatSpec) : Char := s.align.getD (if s.zero then '=' else '>')

/-- The sign in front of a number. -/
def signOf (s : FormatSpec) (negative : Bool) : List Char :=
  if negative then ['-']
  else match s.sign with
    | some '+' => ['+']
    | some ' ' => [' ']
    | _ => []

/-- Lays out a number: a sign and a mark of its base, the digits before the point, and the rest. -/
def layNumber (s : FormatSpec) (groupSize : Nat) (lead whole rest : List Char) : List Char :=
  let inner := s.width - lead.length - rest.length
  let aligned := s.numberAlign == '='
  let zeros := aligned && s.filler == '0'
  let whole := match s.grouping with
    | some mark => groupPadded mark groupSize whole (if zeros then s.width else 0)
        (if zeros then inner else 0)
    | none => if zeros then List.replicate (inner - whole.length) '0' ++ whole else whole
  if aligned then
    let missing := s.width - (lead.length + whole.length + rest.length)
    lead ++ List.replicate missing s.filler ++ whole ++ rest
  else s.pad '>' (lead ++ whole ++ rest)

/-- The error of a specification that is malformed. -/
def invalid {α : Type} (text typeName : String) : Work α :=
  Work.valueError ("Invalid format specifier '" ++ text ++ "' for object of type '" ++ typeName ++
    "'")

/-- The error of a letter that a type does not know. -/
def unknownKind {α : Type} (c : Char) (typeName : String) : Work α :=
  let shown := if 32 < c.val.toNat && c.val.toNat < 128 then String.singleton c
    else "\\x" ++ String.ofList (Text.digits 16 c.val.toNat)
  Work.valueError ("Unknown format code '" ++ shown ++ "' for object of type '" ++ typeName ++ "'")

/-- The error of grouping where there are no digits to group. -/
def noGrouping {α : Type} (mark kind : Char) : Work α :=
  Work.valueError ("Cannot specify '" ++ String.singleton mark ++ "' with '" ++
    String.singleton kind ++ "'.")

/-- A text laid out. -/
def layText (s : FormatSpec) (text : String) : Work String := do
  if s.sign.isSome then
    Work.valueError ("Sign not allowed in string format specifier")
  if s.alternate then
    Work.valueError "Alternate form (#) not allowed in string format specifier"
  if s.align == some '=' then
    Work.valueError "'=' alignment not allowed in string format specifier"
  match s.grouping with
  | some mark => noGrouping mark 's'
  | none => pure ()
  match s.kind with
  | none | some 's' => pure ()
  | some c => unknownKind c "str"
  let cs := match s.precision with
    | some n => text.toList.take n
    | none => text.toList
  return String.ofList (s.pad '<' cs)

/-- The base of a letter, the mark of the base, and the size of its groups. -/
def base? : Char → Option (Nat × List Char × Nat)
  | 'd' | 'n' => some (10, [], 3)
  | 'b' => some (2, ['0', 'b'], 4)
  | 'o' => some (8, ['0', 'o'], 4)
  | 'x' => some (16, ['0', 'x'], 4)
  | 'X' => some (16, ['0', 'X'], 4)
  | _ => none

/-- An integer laid out in a base. -/
def layInteger (s : FormatSpec) (kind : Char) (base : Nat) (mark : List Char) (groupSize : Nat)
    (i : Int) : Work String := do
  if s.precision.isSome then
    Work.valueError "Precision not allowed in integer format specifier"
  if s.grouping == some ',' && base != 10 then noGrouping ',' kind
  if s.grouping.isSome && kind == 'n' then noGrouping (s.grouping.getD ',') 'n'
  if base == 10 then let _ ← Datum.decimalText i
  let ds := Text.digits base i.natAbs
  let ds := if kind == 'X' then ds.map Char.toUpper else ds
  let lead := s.signOf (i < 0) ++ (if s.alternate then mark else [])
  return String.ofList (s.layNumber groupSize lead ds [])

/-- The style of a letter. -/
def style? : Char → Option NumberStyle
  | 'e' | 'E' => some .exponent
  | 'f' | 'F' | '%' => some .fixed
  | 'g' | 'G' | 'n' => some .general
  | _ => none

/-- A number of the machine laid out. -/
def layFloat (s : FormatSpec) (x : Binary64) : Work String := do
  let style ← match s.kind with
    | none => pure (if s.precision.isSome then NumberStyle.pointed else .shortest)
    | some c =>
      match style? c with
      | some style => pure style
      | none => unknownKind c "float"
  if s.grouping.isSome && s.kind == some 'n' then noGrouping (s.grouping.getD ',') 'n'
  let percent := s.kind == some '%'
  let x := if percent then x.mul (Binary64.ofInt 100) else x
  let (whole, rest) :=
    if x.isNaN then (['n', 'a', 'n'], [])
    else if x.isInfinite then (['i', 'n', 'f'], [])
    else style.write s.alternate (s.precision.getD 6) x
  let isZero := (whole ++ rest.takeWhile (· != 'e')).all fun c => c == '0' || c == '.'
  let negative := x.negative && !x.isNaN && !(s.noNegativeZero && isZero)
  let upper := s.kind == some 'E' || s.kind == some 'F' || s.kind == some 'G'
  let case := fun (cs : List Char) => if upper then cs.map Char.toUpper else cs
  let s := if x.isFinite then s else { s with grouping := none }
  return String.ofList
    (s.layNumber 3 (s.signOf negative) (case whole) (case rest ++ (if percent then ['%'] else [])))

/-- An integer laid out. -/
def layInt (s : FormatSpec) (i : Int) : Work String := do
  let kind := s.kind.getD 'd'
  match base? kind with
  | some (base, mark, size) => s.layInteger kind base mark size i
  | none =>
    if kind == 'c' then
      if s.sign.isSome then
        Work.valueError "Sign not allowed with integer format specifier 'c'"
      if s.precision.isSome then
        Work.valueError "Precision not allowed in integer format specifier"
      if s.grouping.isSome then noGrouping (s.grouping.getD ',') 'c'
      if i < 0 || 0x110000 ≤ i then
        Work.raise "OverflowError" "%c arg not in range(0x110000)"
      return String.ofList
        (({ s with grouping := none }).layNumber 3 [] [Char.ofNat i.toNat] [])
    else
      match style? kind with
      | some _ => s.layFloat (← Work.toFloat i)
      | none => unknownKind kind "int"

end FormatSpec

/-- A value laid out by a specification. An empty one gives the plain text of the value. -/
def Datum.format (d : Datum) (spec : String) : Work String := do
  if spec.isEmpty then d.plainText
  else
    let typeName ← d.typeName
    let read : Work FormatSpec := match FormatSpec.parse? spec.toList with
      | some s => return s
      | Option.none => FormatSpec.invalid spec typeName
    match d with
    | .text t => (← read).layText t
    | .float x => (← read).layFloat x
    | d =>
      match d.integer? with
      | some i =>
        let s ← read
        s.layInt i
      | Option.none =>
        Work.typeError ("unsupported format string passed to " ++ typeName ++ ".__format__")

end SessionScript.Evaluator
