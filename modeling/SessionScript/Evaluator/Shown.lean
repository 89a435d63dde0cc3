import SessionScript.Evaluator.Compare
import SessionScript.Failure
import SessionScript.Text.Numeral

/-!
# Texts of values

The text of a value as code itself would write it, and the text of a value that stands for itself.
A container inside itself is shown as dots.
-/

namespace SessionScript.Evaluator

namespace Datum

/-- The text of a number inside a complex number: without a fraction of zero. -/
def partText (x : Binary64) : List Char :=
  let cs := (NumberLayout.plain.render x).toList
  match cs.reverse with
  | '0' :: '.' :: rest => rest.reverse
  | _ => cs

/-- The text of a complex number. -/
def complexText (re im : Binary64) : String :=
  let i := String.ofList (partText im) ++ "j"
  if re.isZero && !re.negative then i
  else
    let sign := if im.negative || im.isNaN then "" else "+"
    "(" ++ String.ofList (partText re) ++ sign ++ i ++ ")"

/-- The text of an integer, unless it has more digits than are allowed. -/
def decimalText (i : Int) : Work String := do
  if Text.Numeral.isLong i then Work.valueError Text.Numeral.tooLong
  return Text.ofInt i

/-- Texts with commas between them. -/
def commas (parts : List String) : String := String.intercalate ", " parts

/-- The texts of all values, given the text of one. -/
def shownAll (shown : Datum → Work String) (xs : List Datum) : Work (List String) :=
  xs.mapM shown

/-- The texts of entries, given the text of a value. -/
def shownPairs (shown : Datum → Work String) (es : Pairs) : Work (List String) :=
  es.mapM fun (k, v) => do return (← shown k) ++ ": " ++ (← shown v)

/-- The text of a function or another object that has no text of its own. -/
def objectText (typeName : String) : String := "<" ++ typeName ++ " object>"

/-- The text of a value, up to some depth and below some cells. -/
def shownWithin : Nat → List Nat → Datum → Work String
  | 0, _, _ => Work.tooDeep " while getting the repr of an object"
  | n + 1, above, d => do
    match d with
    | .none => return "None"
    | .bool b => return if b then "True" else "False"
    | .int i => decimalText i
    | .float x => return NumberLayout.plain.render x
    | .complex a b => return complexText a b
    | .text s => return Text.quoted s
    | .bytes b => return Text.quotedBytes b
    | .ellipsis => return "Ellipsis"
    | .tuple [x] => return "(" ++ (← shownWithin n above x) ++ ",)"
    | .tuple xs => return "(" ++ commas (← shownAll (shownWithin n above) xs) ++ ")"
    | .range a b c =>
      return "range(" ++ Text.ofInt a ++ ", " ++ Text.ofInt b ++
        (if c == 1 then "" else ", " ++ Text.ofInt c) ++ ")"
    | .slice a b c =>
      return "slice(" ++ commas (← shownAll (shownWithin n above) [a, b, c]) ++ ")"
    | .type name => return "<class '" ++ name ++ "'>"
    | .builtin name => return "<built-in function " ++ name ++ ">"
    | .method owner name =>
      return "<built-in method " ++ name ++ " of " ++ (← owner.typeName) ++ " object>"
    | .unbound t name => return "<method '" ++ name ++ "' of '" ++ t ++ "' objects>"
    | .error kind [x] => return kind ++ "(" ++ (← shownWithin n above x) ++ ")"
    | .error kind xs => return kind ++ "(" ++ commas (← shownAll (shownWithin n above) xs) ++ ")"
    | .host v => return v.shown
    | .view kind a =>
      let items := commas (← shownAll (shownWithin n (a :: above)) (← Work.viewItems kind a))
      return viewType kind ++ "([" ++ items ++ "])"
    | .cell a =>
      let inside := shownWithin n (a :: above)
      match ← Work.read a with
      | .list xs =>
        if above.contains a then return "[...]"
        return "[" ++ commas (← shownAll inside xs.toList) ++ "]"
      | .dict es =>
        if above.contains a then return "\x7b...\x7d"
        return "\x7b" ++ commas (← shownPairs inside es) ++ "\x7d"
      | .set [] frozen => return if frozen then "frozenset()" else "set()"
      | .set ms frozen =>
        let items := "\x7b" ++ commas (← shownAll inside (Members.inOrder ms)) ++ "\x7d"
        return if frozen then "frozenset(" ++ items ++ ")" else items
      | .function f => return "<function " ++ f.name ++ ">"
      | c => return objectText (cellType c)

/-- The text of a value as code would write it. -/
def shown (d : Datum) : Work String := shownWithin Work.deepest [] d

/-- The text of a value that stands for itself. -/
def plainText (d : Datum) : Work String := do
  match d with
  | .text s => return s
  | .host v => return v.plainText
  | .error _ [] => return ""
  | .error kind [x] =>
    if kind == "KeyError" then x.shown
    else match x with
      | .text s => return s
      | x => x.shown
  | .error _ xs => (Datum.tuple xs).shown
  | d => d.shown

/-- The text of a value with everything but ASCII characters escaped. -/
def asciiText (d : Datum) : Work String := do
  let s ← d.shown
  return String.ofList (s.toList.flatMap fun c =>
    if c.val.toNat < 128 then [c] else Text.escapeCode c.val.toNat)

end Datum

end SessionScript.Evaluator
