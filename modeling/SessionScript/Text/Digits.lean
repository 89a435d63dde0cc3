/-!
# Digits

Writing and reading of natural numbers in a base up to sixteen.
-/

namespace SessionScript.Text

/-- The digit character of a number below sixteen, in lower case. -/
def digitChar (n : Nat) : Char :=
  if n < 10 then Char.ofNat (48 + n) else Char.ofNat (87 + n)

/-- The digits of a number, most significant first, put in front of the given ones. The first
    argument bounds the number of digits. -/
def digitsInto (base : Nat) : Nat → Nat → List Char → List Char
  | 0, _, acc => acc
  | fuel + 1, n, acc =>
    let acc := digitChar (n % base) :: acc
    if n / base = 0 then acc else digitsInto base fuel (n / base) acc

/-- The digits of a number in a base, without leading zeros. -/
def digits (base n : Nat) : List Char :=
  digitsInto base (n.log2 + 1) n []

/-- Hexadecimal digits, with zeros in front up to a width. -/
def hexPad (width n : Nat) : List Char :=
  let ds := digits 16 n
  List.replicate (width - ds.length) '0' ++ ds

/-- The value of a digit of a base up to thirty-six, whatever its case. -/
def digitValue? (base : Nat) (c : Char) : Option Nat :=
  let n := c.val.toNat
  let v :=
    if 48 ≤ n && n ≤ 57 then n - 48
    else if 97 ≤ n && n ≤ 122 then n - 87
    else if 65 ≤ n && n ≤ 90 then n - 55
    else 99
  if v < base then some v else none

/-- The number that digits of a base denote, going on from the number read so far. -/
def numberFrom (base : Nat) : Nat → List Char → Option Nat
  | acc, [] => some acc
  | acc, c :: cs =>
    match digitValue? base c with
    | some v => numberFrom base (acc * base + v) cs
    | none => none

/-- The number that a sequence of one or more digits denotes. -/
def number? (base : Nat) (cs : List Char) : Option Nat :=
  if cs.isEmpty then none else numberFrom base 0 cs

/-- The decimal text of a natural number. -/
def ofNat (n : Nat) : String :=
  String.ofList (digits 10 n)

/-- The decimal text of an integer. -/
def ofInt (i : Int) : String :=
  if i < 0 then "-" ++ ofNat i.natAbs else ofNat i.natAbs

end SessionScript.Text
