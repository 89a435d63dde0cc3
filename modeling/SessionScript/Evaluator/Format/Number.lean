import SessionScript.Decimal.Layout
import SessionScript.Decimal.Rounded

/-!
# Numbers with a format

The digits of a number as a format asks for them: with a fixed number of places, with an exponent,
or with whichever of the two is shorter; and digits in groups.
-/

namespace SessionScript.Evaluator

/-- How the digits of a number are written. -/
inductive NumberStyle where
  /-- With an exponent. -/
  | exponent
  /-- Without an exponent. -/
  | fixed
  /-- Without an exponent unless the number is very large or very small; zeros at the end are
      dropped. -/
  | general
  /-- Like `general`, with a point in every number. -/
  | pointed
  /-- The shortest digits that denote the number. -/
  | shortest
  deriving DecidableEq, Repr

namespace NumberStyle

/-- The digits before the point, and everything from the point on. -/
abbrev Written := List Char × List Char

/-- The fraction after a point; the point alone only if it is asked for. -/
def fraction (keepPoint : Bool) (cs : List Char) : List Char :=
  if cs.isEmpty then (if keepPoint then ['.'] else []) else '.' :: cs

/-- Digits without zeros at their end. -/
def dropZeros (cs : List Char) : List Char := (cs.reverse.dropWhile (· == '0')).reverse

/-- Digits with a point after the first, and an exponent. -/
def withExponent (keepPoint : Bool) (ds : List Char) (e : Int) : Written :=
  (ds.take 1, fraction keepPoint (ds.drop 1) ++ 'e' :: NumberLayout.exponentText e)

/-- Digits of a number in the general style. -/
def writeGeneral (pointed keepZeros : Bool) (precision : Nat) (r : Decimal.Ratio) : Written :=
  let count := if precision == 0 then 1 else precision
  let (ds, e) := Decimal.leading r count
  let ds := if keepZeros then ds else dropZeros ds
  let ds := if ds.isEmpty then ['0'] else ds
  let most : Int := if pointed then (count : Int) - 1 else count
  if e < -4 || most ≤ e then withExponent keepZeros ds e
  else if e < 0 then
    (['0'], fraction keepZeros (List.replicate (e.natAbs - 1) '0' ++ ds))
  else
    let whole := e.toNat + 1
    let padded := ds ++ List.replicate (whole - ds.length) '0'
    let rest := padded.drop whole
    (padded.take whole,
      if pointed && rest.isEmpty then ['.', '0'] else fraction keepZeros rest)

/-- The text of a number cut at its point or its exponent. -/
def cut (cs : List Char) : Written :=
  (cs.takeWhile fun c => c != '.' && c != 'e', cs.dropWhile fun c => c != '.' && c != 'e')

/-- The digits of a finite number without its sign. -/
def write (style : NumberStyle) (alternate : Bool) (precision : Nat) (x : Binary64) : Written :=
  let r := x.magnitude
  match style with
  | .exponent =>
    let (ds, e) := Decimal.leading r (precision + 1)
    withExponent alternate ds e
  | .fixed =>
    let (whole, part) := Decimal.fixed r precision
    (whole, fraction alternate part)
  | .general => writeGeneral false alternate precision r
  | .pointed => writeGeneral true alternate precision r
  | .shortest => cut (NumberLayout.plain.render x.abs).toList

end NumberStyle

/-- Digits in groups from the right, with a mark between groups. -/
def groupDigits (mark : Char) (size : Nat) (ds : List Char) : List Char :=
  let marked := fun (acc : List Char) (d : Char × Nat) =>
    if d.2 ≠ 0 && d.2 % size = 0 then d.1 :: mark :: acc else d.1 :: acc
  (ds.reverse.zipIdx).foldl marked []

/-- Digits in groups, with zeros in front so that they take some width. -/
def groupPadded (mark : Char) (size : Nat) (ds : List Char) : Nat → Nat → List Char
  | 0, _ => groupDigits mark size ds
  | fuel + 1, width =>
    let grouped := groupDigits mark size ds
    if grouped.length < width then groupPadded mark size ('0' :: ds) fuel width else grouped

end SessionScript.Evaluator
