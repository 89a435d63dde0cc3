import SessionScript.Decimal.Shortest
import SessionScript.Text.Digits

/-!
# Layout of numbers

The text of a binary number: its shortest decimal, laid out by the rules of an output format.
-/

namespace SessionScript

/-- What an output format decides about the text of numbers: the texts of the patterns without
    digits, the positions of the decimal point that are written without an exponent, and whether
    a lone digit before an exponent keeps a point and a zero. -/
structure NumberLayout where
  nan : String
  infinity : String
  negativeInfinity : String
  positionalFrom : Int
  positionalTo : Int
  pointBeforeExponent : Bool
  deriving DecidableEq, Repr

namespace NumberLayout

/-- Numbers as templates and messages show them. -/
def plain : NumberLayout := ⟨"nan", "inf", "-inf", -3, 16, false⟩

/-- Numbers as JSON messages show them. -/
def json : NumberLayout := ⟨"NaN", "Infinity", "-Infinity", -3, 16, false⟩

/-- Numbers as snippets of documents show them. -/
def document : NumberLayout := ⟨".nan", ".inf", "-.inf", -3, 16, true⟩

/-- An exponent of at least two digits with its sign. -/
def exponentText (e : Int) : List Char :=
  let ds := Text.digits 10 e.natAbs
  (if e < 0 then '-' else '+') :: (if ds.length < 2 then '0' :: ds else ds)

/-- A decimal without an exponent; a zero stands where a side of the point would be empty. -/
def positional (d : Decimal) : List Char :=
  if d.point ≤ 0 then
    '0' :: '.' :: (List.replicate d.point.natAbs '0' ++ d.digits)
  else
    let n := d.point.toNat
    if d.digits.length ≤ n then
      d.digits ++ List.replicate (n - d.digits.length) '0' ++ ['.', '0']
    else d.digits.take n ++ '.' :: d.digits.drop n

/-- A decimal with an exponent. -/
def scientific (layout : NumberLayout) (d : Decimal) : List Char :=
  let mantissa :=
    match d.digits with
    | [c] => if layout.pointBeforeExponent then [c, '.', '0'] else [c]
    | c :: cs => c :: '.' :: cs
    | [] => []
  mantissa ++ 'e' :: exponentText (d.point - 1)

/-- The text of a number. -/
def render (layout : NumberLayout) (x : Binary64) : String :=
  if x.isNaN then layout.nan
  else if x.isInfinite then if x.negative then layout.negativeInfinity else layout.infinity
  else
    let body :=
      if x.isZero then ['0', '.', '0']
      else
        let d := Decimal.shortest x.abs
        if layout.positionalFrom ≤ d.point && d.point ≤ layout.positionalTo then positional d
        else scientific layout d
    String.ofList (if x.negative then '-' :: body else body)

end NumberLayout

end SessionScript
