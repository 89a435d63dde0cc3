import SessionScript.Evaluator.Format.Spec
import SessionScript.Value.Integer

/-!
# Texts with conversions

The `%` operator on texts: each conversion in the text takes an argument and lays it out.
-/

namespace SessionScript.Evaluator

/-- The flags, the width and the precision of a conversion. -/
structure Conversion where
  left : Bool := false
  plus : Bool := false
  space : Bool := false
  alternate : Bool := false
  zero : Bool := false
  width : Nat := 0
  precision : Option Nat := none

/-- The arguments of conversions: those that are left, whether there is only one for all, and the
    mapping that names are looked up in. -/
structure Arguments where
  left : List Datum
  mapping : Option Datum

namespace Conversion

/-- Reads flags. -/
def flags : Conversion → List Char → Conversion × List Char
  | c, '-' :: cs => flags { c with left := true } cs
  | c, '+' :: cs => flags { c with plus := true } cs
  | c, ' ' :: cs => flags { c with space := true } cs
  | c, '#' :: cs => flags { c with alternate := true } cs
  | c, '0' :: cs => flags { c with zero := true } cs
  | c, cs => (c, cs)

/-- The next argument. -/
def next (args : Arguments) : Work (Datum × Arguments) :=
  match args.left with
  | d :: ds => return (d, { args with left := ds })
  | [] => Work.typeError "not enough arguments for format string"

/-- A number that is written in the text, or an argument where a star stands. -/
def starOrNumber (args : Arguments) (cs : List Char) :
    Work (Option Int × Arguments × List Char) := do
  match cs with
  | '*' :: cs =>
    let (d, args) ← next args
    match d.integer? with
    | some i => return (some i, args, cs)
    | none => Work.typeError "* wants int"
  | cs =>
    let (n, cs) := FormatSpec.takeNumber cs
    return (n.map fun k => (k : Int), args, cs)

/-- Fills up a text with blanks to the width. -/
def fill (c : Conversion) (cs : List Char) : List Char :=
  let blanks := List.replicate (c.width - cs.length) ' '
  if c.left then cs ++ blanks else blanks ++ cs

/-- Fills up a number: with zeros after its sign if that is asked for. -/
def fillNumber (c : Conversion) (sign body : List Char) : List Char :=
  if c.zero && !c.left then
    sign ++ List.replicate (c.width - sign.length - body.length) '0' ++ body
  else c.fill (sign ++ body)

/-- The sign of a number. -/
def sign (c : Conversion) (negative : Bool) : List Char :=
  if negative then ['-'] else if c.plus then ['+'] else if c.space then [' '] else []

/-- The digits of an integer, with zeros in front up to the precision. -/
def integer (c : Conversion) (kind : Char) (i : Int) : List Char :=
  let base := if kind == 'x' || kind == 'X' then 16 else if kind == 'o' then 8 else 10
  let ds := Text.digits base i.natAbs
  let ds := List.replicate (c.precision.getD 0 - ds.length) '0' ++ ds
  let mark := if !c.alternate then []
    else if base == 16 then ['0', 'x'] else if base == 8 then ['0', 'o'] else []
  let up := fun (cs : List Char) => if kind == 'X' then cs.map Char.toUpper else cs
  c.fillNumber (c.sign (i < 0) ++ up mark) (up ds)

/-- The integer that a number is cut to. -/
def cutInteger (kind : Char) (d : Datum) : Work Int := do
  match d with
  | .float x =>
    if kind == 'x' || kind == 'X' || kind == 'o' then
      Work.typeError ("%" ++ String.singleton kind ++ " format: an integer is required, not float")
    if x.isNaN then Work.valueError "cannot convert float NaN to integer"
    if x.isInfinite then Work.raise "OverflowError" "cannot convert float infinity to integer"
    return x.truncate
  | d =>
    match d.integer? with
    | some i => return i
    | none =>
      let wanted := if kind == 'x' || kind == 'X' || kind == 'o' then "an integer is required"
        else "a real number is required"
      Work.typeError ("%" ++ String.singleton kind ++ " format: " ++ wanted ++ ", not " ++
        (← d.typeName))

/-- The text of a number of the machine. -/
def float (c : Conversion) (kind : Char) (x : Binary64) : List Char :=
  let style := (FormatSpec.style? kind).getD .general
  let body :=
    if x.isNaN then ['n', 'a', 'n']
    else if x.isInfinite then ['i', 'n', 'f']
    else
      let (whole, rest) := style.write c.alternate (c.precision.getD 6) x
      whole ++ rest
  let body := if kind.isUpper then body.map Char.toUpper else body
  c.fillNumber (c.sign (x.negative && !x.isNaN)) body

/-- The text that a conversion makes of an argument. -/
def apply (c : Conversion) (kind : Char) (d : Datum) (position : Nat) : Work (List Char) := do
  let cutText := fun (s : String) => match c.precision with
    | some n => c.fill (s.toList.take n)
    | none => c.fill s.toList
  match kind with
  | 's' => return cutText (← d.plainText)
  | 'r' => return cutText (← d.shown)
  | 'a' => return cutText (← d.asciiText)
  | 'c' =>
    match d with
    | .text s =>
      if s.length == 1 then return c.fill s.toList else Work.typeError "%c requires int or char"
    | d =>
      match d.integer? with
      | some i =>
        if i < 0 || 0x110000 ≤ i then
          Work.raise "OverflowError" "%c arg not in range(0x110000)"
        return c.fill [Char.ofNat i.toNat]
      | none => Work.typeError "%c requires int or char"
  | 'd' | 'i' | 'u' | 'x' | 'X' | 'o' =>
    let i ← cutInteger (if kind == 'i' || kind == 'u' then 'd' else kind) d
    if kind == 'd' || kind == 'i' || kind == 'u' then let _ ← Datum.decimalText i
    return c.integer kind i
  | 'e' | 'E' | 'f' | 'F' | 'g' | 'G' =>
    match ← d.toFloat? with
    | some x => return c.float kind x
    | none => Work.typeError ("must be real number, not " ++ (← d.typeName))
  | k =>
    Work.valueError ("unsupported format character '" ++ String.singleton k ++ "' (0x" ++
      String.ofList (Text.digits 16 k.val.toNat) ++ ") at index " ++ Text.ofNat position)

end Conversion

namespace Percent

/-- Whether a value can be looked up in by name. -/
def isMapping (d : Datum) : Work Bool := do
  match d with
  | .bytes _ | .range _ _ _ => return true
  | .cell a =>
    match ← Work.read a with
    | .list _ | .dict _ | .names _ => return true
    | _ => return false
  | _ => return false

/-- The characters of a name up to the bracket that closes it. -/
def keyEnd : Nat → List Char → List Char → Option (List Char × List Char)
  | _, _, [] => none
  | depth, acc, c :: cs =>
    if c == ')' then
      match depth with
      | 0 => some (acc.reverse, cs)
      | n + 1 => keyEnd n (c :: acc) cs
    else keyEnd (if c == '(' then depth + 1 else depth) (c :: acc) cs

/-- The arguments after a name in brackets: the value under the name. -/
def named (args : Arguments) (cs : List Char) : Work (Arguments × List Char) := do
  match args.mapping with
  | none => Work.typeError "format requires a mapping"
  | some m =>
    match keyEnd 0 [] cs with
    | none => Work.valueError "incomplete format key"
    | some (key, rest) =>
      match m with
      | .cell a =>
        let es ← Work.entriesOf a
        match Pairs.get? es (Datum.ofChars key) with
        | some d => return ({ args with left := [d] }, rest)
        | none =>
          match ← Work.read a with
          | .list _ => Work.typeError "list indices must be integers or slices, not str"
          | _ => throw ⟨"KeyError", [Datum.ofChars key]⟩
      | m => Work.typeError ((← m.typeName) ++ " indices must be integers or slices, not str")

/-- Lays out the conversions of a text. The first argument exceeds the length of the text, and
    the second one is that length. -/
def conversions : Nat → Nat → Arguments → List Char → Work (List Char × Arguments)
  | 0, _, args, _ => return ([], args)
  | _, _, args, [] => return ([], args)
  | n + 1, total, args, '%' :: cs => do
    let (args, cs) ← match cs with
      | '(' :: rest => named args rest
      | _ => pure (args, cs)
    let (c, cs) := Conversion.flags {} cs
    let (width, args, cs) ← Conversion.starOrNumber args cs
    let c := match width with
      | some w => { c with width := w.natAbs, left := c.left || w < 0 }
      | none => c
    let (precision, args, cs) ← match cs with
      | '.' :: rest => do
        let (p, args, rest) ← Conversion.starOrNumber args rest
        pure (some (p.getD 0).toNat, args, rest)
      | _ => pure (none, args, cs)
    let c := { c with precision := precision }
    let cs := match cs with
      | 'l' :: rest | 'h' :: rest | 'L' :: rest => rest
      | _ => cs
    match cs with
    | [] => Work.valueError "incomplete format"
    | '%' :: rest =>
      let (out, args) ← conversions n total args rest
      return ('%' :: out, args)
    | kind :: rest =>
      let (d, args) ← Conversion.next args
      let here ← c.apply kind d (total - rest.length - 1)
      let (out, args) ← conversions n total args rest
      return (here ++ out, args)
  | n + 1, total, args, c :: cs => do
    let (out, args) ← conversions n total args cs
    return (c :: out, args)

/-- A text with its conversions laid out. -/
def apply (text : String) (d : Datum) : Work Datum := do
  let mapping ← isMapping d
  let args : Arguments := match d with
    | .tuple xs => ⟨xs, none⟩
    | d => ⟨[d], if mapping then some d else none⟩
  let cs := text.toList
  let (out, args) ← conversions (cs.length + 1) cs.length args cs
  if !args.left.isEmpty && args.mapping.isNone then
    Work.typeError "not all arguments converted during string formatting"
  return Datum.ofChars out

end Percent

/-- What an operator makes of two values. -/
def Datum.binary (op : Code.BinaryOp) (augmented : Bool) (a b : Datum) : Work Datum :=
  match op, a with
  | .mod, .text s => Percent.apply s b
  | _, _ => a.operate op augmented b

end SessionScript.Evaluator
