import SessionScript.Decimal.Shortest

/-!
# Arithmetic of binary numbers

Sums, products and quotients are those of the machine. A remainder is exact, and takes the sign of
the divisor.
-/

namespace SessionScript.Binary64

/-- The sum of two numbers. -/
def add (x y : Binary64) : Binary64 := ofFloat (x.toFloat + y.toFloat)

/-- The difference of two numbers. -/
def sub (x y : Binary64) : Binary64 := ofFloat (x.toFloat - y.toFloat)

/-- The product of two numbers. -/
def mul (x y : Binary64) : Binary64 := ofFloat (x.toFloat * y.toFloat)

/-- The quotient of two numbers. -/
def div (x y : Binary64) : Binary64 := ofFloat (x.toFloat / y.toFloat)

/-- A power of a number. -/
def pow (x y : Binary64) : Binary64 := ofFloat (x.toFloat ^ y.toFloat)

/-- The greatest integral number that is not above a number. -/
def floor (x : Binary64) : Binary64 := ofFloat x.toFloat.floor

/-- A number with the sign of another one. -/
def withSign (x sign : Binary64) : Binary64 := if x.negative == sign.negative then x else x.neg

/-- The exact remainder of a division that is cut toward zero, with the sign of the first number.
    The second one is not zero. -/
def remainder (x y : Binary64) : Binary64 :=
  if x.isNaN || y.isNaN || x.isInfinite then nan
  else if y.isInfinite then x
  else
    let q := min x.scale y.scale
    let a := x.significand * twoTo (x.scale - q).natAbs
    let b := y.significand * twoTo (y.scale - q).natAbs
    let r := Decimal.Ratio.scaled (a % b) q
    ofRatio x.negative r.num r.den

/-- The quotient of a division that goes down to an integral number, and its remainder, which has
    the sign of the divisor. The divisor is not zero. -/
def divMod (x y : Binary64) : Binary64 × Binary64 :=
  let r := remainder x y
  let q := (x.sub r).div y
  let (q, r) :=
    if r.isNaN then (q, r)
    else if r.isZero then (q, (zero false).withSign y)
    else if r.negative != y.negative then (q.sub (ofInt 1), r.add y)
    else (q, r)
  if q.isNaN then (q, r)
  else if q.isZero then ((zero false).withSign (x.div y), r)
  else
    let down := q.floor
    let half := ofRatio false 1 2
    (if half.lt (q.sub down) then down.add (ofInt 1) else down, r)

end SessionScript.Binary64
