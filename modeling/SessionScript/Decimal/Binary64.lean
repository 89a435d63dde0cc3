import SessionScript.Decimal.Power

/-!
# Binary floating point numbers

A number of the 64-bit binary format, held as its bit pattern, so that every question about it
is one about natural numbers: the magnitude is `m · 2 ^ q`, and reading a ratio picks the pattern
nearest to it, the even one of two.
-/

namespace SessionScript

/-- A number of the 64-bit binary floating point format. -/
structure Binary64 where
  bits : UInt64
  deriving DecidableEq, Repr, Inhabited

namespace Binary64

/-- Whether the sign bit is set. -/
def negative (x : Binary64) : Bool := twoTo 63 ≤ x.bits.toNat

/-- The exponent field. -/
def exponentField (x : Binary64) : Nat := x.bits.toNat / twoTo 52 % 2048

/-- The fraction field. -/
def fraction (x : Binary64) : Nat := x.bits.toNat % twoTo 52

/-- Whether the pattern is no number. -/
def isNaN (x : Binary64) : Bool := x.exponentField == 2047 && x.fraction != 0

/-- Whether the number is infinite. -/
def isInfinite (x : Binary64) : Bool := x.exponentField == 2047 && x.fraction == 0

/-- Whether the pattern is a finite number. -/
def isFinite (x : Binary64) : Bool := x.exponentField != 2047

/-- Whether the number is zero of either sign. -/
def isZero (x : Binary64) : Bool := x.exponentField == 0 && x.fraction == 0

/-- The integer significand of a finite number. -/
def significand (x : Binary64) : Nat :=
  if x.exponentField == 0 then x.fraction else x.fraction + twoTo 52

/-- The power of two that scales the significand of a finite number. -/
def scale (x : Binary64) : Int :=
  if x.exponentField == 0 then -1074 else (x.exponentField : Int) - 1075

/-- The pattern of a sign, an exponent field and a fraction. -/
def ofFields (negative : Bool) (exponent fraction : Nat) : Binary64 :=
  ⟨UInt64.ofNat ((if negative then twoTo 63 else 0) + exponent * twoTo 52 + fraction)⟩

/-- Positive or negative infinity. -/
def infinity (negative : Bool) : Binary64 := ofFields negative 2047 0

/-- The pattern shown for no number. -/
def nan : Binary64 := ofFields false 2047 (twoTo 51)

/-- Zero of a sign. -/
def zero (negative : Bool) : Binary64 := ofFields negative 0 0

/-- A quotient rounded to the nearest integer, a half to the even neighbour. -/
def roundDiv (num den : Nat) : Nat :=
  let q := num / den
  let r := num % den
  if 2 * r < den then q else if den < 2 * r then q + 1 else if q % 2 = 0 then q else q + 1

/-- The quotient `num / (den · 2 ^ q)` rounded to the nearest integer. -/
def roundScaled (num den : Nat) (q : Int) : Nat :=
  if q < 0 then roundDiv (num * twoTo q.natAbs) den else roundDiv num (den * twoTo q.natAbs)

/-- Packs `m · 2 ^ q` for a significand of at most 53 bits; too large a number is infinite. -/
def pack (negative : Bool) (m : Nat) (q : Int) : Binary64 :=
  if m < twoTo 52 then ofFields negative 0 m
  else
    let (m, q) := if m = twoTo 53 then (twoTo 52, q + 1) else (m, q)
    if 971 < q then infinity negative
    else ofFields negative (q + 1075).toNat (m - twoTo 52)

/-- The number nearest to a ratio of a sign. The scale is chosen so that the significand has 53
    bits, unless the number is so small that the least scale leaves it fewer. -/
def ofRatio (negative : Bool) (num den : Nat) : Binary64 :=
  if num = 0 then zero negative
  else
    let guess : Int := (num.log2 : Int) - (den.log2 : Int) - 53
    let below := if guess < 0 then num * twoTo guess.natAbs < den * twoTo 53
      else num < den * twoTo guess.natAbs * twoTo 53
    let q := max (if below then guess else guess + 1) (-1074)
    pack negative (roundScaled num den q) q

/-- The number nearest to an integer. -/
def ofInt (i : Int) : Binary64 := ofRatio (i < 0) i.natAbs 1

/-- The number nearest to an integer, unless that is infinite. -/
def ofInt? (i : Int) : Option Binary64 :=
  let x := ofInt i
  if x.isInfinite then none else some x

/-- The number nearest to `digits · 10 ^ exponent`. Exponents far outside the format are settled
    by the number of digits. -/
def ofDecimal (negative : Bool) (digits : Nat) (exponent : Int) : Binary64 :=
  if digits = 0 then zero negative
  else
    let top : Int := (digits.log2 : Int) * 3 / 10 + exponent
    if 400 < top then infinity negative
    else if top < -500 then zero negative
    else if exponent < 0 then ofRatio negative digits (tenTo exponent.natAbs)
    else ofRatio negative (digits * tenTo exponent.natAbs) 1

/-- The number with the other sign. -/
def neg (x : Binary64) : Binary64 := ⟨x.bits ^^^ 0x8000000000000000⟩

/-- The number without its sign. -/
def abs (x : Binary64) : Binary64 := if x.negative then x.neg else x

/-- The position of a number that is not `nan` in the order of the numbers; both zeros share
    theirs. -/
def rank (x : Binary64) : Int :=
  let n : Int := (x.bits.toNat % twoTo 63 : Nat)
  if x.negative then -n else n

/-- Numeric equality; the zeros are equal and `nan` equals nothing. -/
def eq (x y : Binary64) : Bool := !x.isNaN && !y.isNaN && x.rank == y.rank

/-- Numeric order. -/
def lt (x y : Binary64) : Bool := !x.isNaN && !y.isNaN && x.rank < y.rank

/-- Numeric order or equality. -/
def le (x y : Binary64) : Bool := !x.isNaN && !y.isNaN && x.rank ≤ y.rank

/-- The integer part of a finite number, cut toward zero. -/
def truncate (x : Binary64) : Int :=
  let n := if x.scale < 0 then x.significand / twoTo x.scale.natAbs
    else x.significand * twoTo x.scale.natAbs
  if x.negative then -(n : Int) else n

/-- Whether a finite number has no fractional part. -/
def isIntegral (x : Binary64) : Bool :=
  x.isFinite && (0 ≤ x.scale || x.significand % twoTo x.scale.natAbs = 0)

/-- The integer equal to a number, if there is one. -/
def toInt? (x : Binary64) : Option Int :=
  if x.isIntegral then some x.truncate else none

/-- The machine number of the same pattern, for arithmetic. -/
def toFloat (x : Binary64) : Float := Float.ofBits x.bits

/-- The pattern of a machine number. -/
def ofFloat (x : Float) : Binary64 := ⟨x.toBits⟩

end Binary64

end SessionScript
