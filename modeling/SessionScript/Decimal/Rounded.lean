import SessionScript.Decimal.Shortest
import SessionScript.Text.Digits

/-!
# Rounding to decimals

The decimal nearest to a binary number with a given number of places or of digits. A number halfway
between two decimals goes to the even one.
-/

namespace SessionScript

/-- The magnitude of a finite number as a ratio. -/
def Binary64.magnitude (x : Binary64) : Decimal.Ratio := .scaled x.significand x.scale

namespace Decimal

/-- A ratio times `10 ^ places`, rounded to an integer. -/
def Ratio.roundAt (r : Ratio) (places : Int) : Nat :=
  if places < 0 then Binary64.roundDiv r.num (r.den * tenTo places.natAbs)
  else Binary64.roundDiv (r.num * tenTo places.natAbs) r.den

/-- The digits of a ratio before and after the point, with some places after it. -/
def fixed (r : Ratio) (places : Nat) : List Char × List Char :=
  let n := r.roundAt places
  let ds := Text.digits 10 n
  let ds := List.replicate (places + 1 - ds.length) '0' ++ ds
  (ds.take (ds.length - places), ds.drop (ds.length - places))

/-- The first digits of a ratio, at least one, and the decimal exponent of the first of them. -/
def leading (r : Ratio) (count : Nat) : List Char × Int :=
  if r.num = 0 then (List.replicate count '0', 0)
  else
    let e := exponentOf r
    let n := r.roundAt ((count : Int) - 1 - e)
    if tenTo count ≤ n then (Text.digits 10 (n / 10), e + 1) else (Text.digits 10 n, e)

end Decimal

namespace Binary64

/-- A number rounded to some places after the point, or before it if their number is negative. -/
def roundAt (x : Binary64) (places : Int) : Binary64 :=
  if !x.isFinite || 323 < places then x
  else if places < -308 then zero x.negative
  else ofDecimal x.negative (x.magnitude.roundAt places) (-places)

/-- The integer nearest to a finite number. -/
def nearest (x : Binary64) : Int :=
  let n := x.magnitude.roundAt 0
  if x.negative then -(n : Int) else n

end Binary64

end SessionScript
