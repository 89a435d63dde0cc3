import SessionScript.Decimal.Binary64

/-!
# Shortest decimals

The fewest decimal digits that read back as a given binary number. A binary number stands for the
interval of reals that round to it; on every decimal grid, from one digit up, only the two grid
points next to the number can be the nearest ones inside. The first grid with a point inside
wins, of two points the nearer one.
-/

namespace SessionScript

/-- A positive decimal: the digits of `digits` after a point that stands `point` places to the
    right of the first digit's left edge, so that the value is `0.d₁d₂… · 10 ^ point`. -/
structure Decimal where
  digits : List Char
  point : Int
  deriving DecidableEq, Repr

namespace Decimal

/-- A ratio of natural numbers, the second one positive. -/
structure Ratio where
  num : Nat
  den : Nat
  deriving DecidableEq, Repr

/-- Order of ratios. -/
def Ratio.le (a b : Ratio) : Bool := a.num * b.den ≤ b.num * a.den

/-- Strict order of ratios. -/
def Ratio.lt (a b : Ratio) : Bool := a.num * b.den < b.num * a.den

/-- `n · 2 ^ q` as a ratio. -/
def Ratio.scaled (n : Nat) (q : Int) : Ratio :=
  if q < 0 then ⟨n, twoTo q.natAbs⟩ else ⟨n * twoTo q.natAbs, 1⟩

/-- `n · 10 ^ k` as a ratio. -/
def Ratio.decimal (n : Nat) (k : Int) : Ratio :=
  if k < 0 then ⟨n, tenTo k.natAbs⟩ else ⟨n * tenTo k.natAbs, 1⟩

/-- The reals that round to a binary number: its value between two ends, which belong to it
    exactly if the significand is even. -/
structure Interval where
  low : Ratio
  value : Ratio
  high : Ratio
  closed : Bool
  deriving DecidableEq, Repr

/-- Whether a ratio rounds to the number of the interval. -/
def Interval.has (i : Interval) (r : Ratio) : Bool :=
  if i.closed then i.low.le r && r.le i.high else i.low.lt r && r.lt i.high

/-- The interval of a finite positive number. Below a power of two the neighbours are half as
    far away. -/
def Interval.of (x : Binary64) : Interval :=
  let m := x.significand
  let q := x.scale - 2
  let down := if x.fraction = 0 && 1 < x.exponentField then 1 else 2
  ⟨.scaled (4 * m - down) q, .scaled (4 * m) q, .scaled (4 * m + 2) q, m % 2 = 0⟩

/-- The decimal exponent `e` with `10 ^ e ≤ r < 10 ^ (e + 1)`, searched downward from a guess
    that is not too small. -/
def exponentBelow (r : Ratio) : Nat → Int → Int
  | 0, e => e
  | fuel + 1, e => if (Ratio.decimal 1 e).le r then e else exponentBelow r fuel (e - 1)

/-- The decimal exponent of a positive ratio. -/
def exponentOf (r : Ratio) : Int :=
  let twos : Int := (r.num.log2 : Int) - (r.den.log2 : Int) + 1
  let guess := twos * (if twos < 0 then 301 else 302) / 1000 + 1
  exponentBelow r 20 guess

/-- The grid point that stands for the interval when decimals have the step `10 ^ k`: the nearer
    one of the value's two neighbours inside the interval, of two equally near ones the even
    one. -/
def onGrid (i : Interval) (k : Int) : Option Nat :=
  let unit := Ratio.decimal 1 k
  let below := i.value.num * unit.den / (i.value.den * unit.num)
  let above := below + 1
  let belowIn := i.has (.decimal below k)
  let aboveIn := i.has (.decimal above k)
  if belowIn && aboveIn then
    -- twice the value against the sum of the two grid points
    let twice : Ratio := ⟨2 * i.value.num, i.value.den⟩
    let middle := Ratio.decimal (below + above) k
    if twice.lt middle then some below
    else if middle.lt twice then some above
    else some (if below % 2 = 0 then below else above)
  else if belowIn then some below
  else if aboveIn then some above
  else none

/-- The first grid with a point inside the interval, from `n` digits on. -/
def firstGrid (i : Interval) (e : Int) : Nat → Nat → Nat × Int
  | 0, n => (0, e + 1 - n)
  | fuel + 1, n =>
    let k := e + 1 - n
    match onGrid i k with
    | some d => (d, k)
    | none => firstGrid i e fuel (n + 1)

/-- The decimal digits of a positive number, most significant first. -/
def digitsOf : Nat → Nat → List Char → List Char
  | 0, _, acc => acc
  | fuel + 1, n, acc =>
    let acc := Char.ofNat (48 + n % 10) :: acc
    if n / 10 = 0 then acc else digitsOf fuel (n / 10) acc

/-- The shortest decimal that reads back as a finite positive number. -/
def shortest (x : Binary64) : Decimal :=
  let i := Interval.of x
  let (d, k) := firstGrid i (exponentOf i.value) 17 1
  let ds := digitsOf 20 d []
  let kept := (ds.reverse.dropWhile (· == '0')).reverse
  ⟨kept, k + ds.length⟩

end Decimal

end SessionScript
