import SessionScript.Decimal.Power
import SessionScript.Text.Blank
import SessionScript.Text.Digits

/-!
# Numerals

Integers as texts: a sign, a mark of the base and digits of any script, with underscores between
them.
-/

namespace SessionScript.Text.Numeral

/-- The code points of the zeros of all scripts with decimal digits; the other digits follow
    their zero. -/
def zeros : List Nat := [
  0x30, 0x660, 0x6F0, 0x7C0, 0x966, 0x9E6, 0xA66, 0xAE6, 0xB66, 0xBE6, 0xC66, 0xCE6, 0xD66,
  0xDE6, 0xE50, 0xED0, 0xF20, 0x1040, 0x1090, 0x17E0, 0x1810, 0x1946, 0x19D0, 0x1A80, 0x1A90,
  0x1B50, 0x1BB0, 0x1C40, 0x1C50, 0xA620, 0xA8D0, 0xA900, 0xA9D0, 0xA9F0, 0xAA50, 0xABF0, 0xFF10,
  0x104A0, 0x10D30, 0x11066, 0x110F0, 0x11136, 0x111D0, 0x112F0, 0x11450, 0x114D0, 0x11650,
  0x116C0, 0x11730, 0x118E0, 0x11950, 0x11C50, 0x11D50, 0x11DA0, 0x16A60, 0x16AC0, 0x16B50,
  0x1D7CE, 0x1D7D8, 0x1D7E2, 0x1D7EC, 0x1D7F6, 0x1E140, 0x1E2F0, 0x1E950, 0x1FBF0]

/-- The value of a decimal digit of any script. -/
def decimalDigit? (c : Char) : Option Nat :=
  let n := c.val.toNat
  if n < 0x80 then digitValue? 10 c
  else (zeros.find? fun z => z ≤ n && n < z + 10).map (n - ·)

/-- A digit of any script as an ASCII digit; any other character stays. -/
def asciiDigit (c : Char) : Char :=
  match decimalDigit? c with
  | some d => digitChar d
  | none => c

/-- A text without blanks at its ends and with ASCII digits only. -/
def normalized (cs : List Char) : List Char := (trimBoth isBlank cs).map asciiDigit

/-- Whether a text starts with a minus sign, and the text without its sign. -/
def splitSign : List Char → Bool × List Char
  | '-' :: cs => (true, cs)
  | '+' :: cs => (false, cs)
  | cs => (false, cs)

/-- Cuts a text at every underscore. -/
def splitUnderscores : List Char → List (List Char)
  | [] => [[]]
  | c :: cs =>
    if c == '_' then [] :: splitUnderscores cs
    else
      match splitUnderscores cs with
      | [] => [[c]]
      | s :: ss => (c :: s) :: ss

/-- The letter that marks a base. -/
def baseLetter? : Nat → Option Char
  | 2 => some 'b'
  | 8 => some 'o'
  | 16 => some 'x'
  | _ => none

/-- Drops the mark of a base, with an underscore after it, where the text starts with one. -/
def dropBaseMark (base : Nat) (cs : List Char) : List Char :=
  match baseLetter? base, cs with
  | some letter, '0' :: c :: rest =>
    if c == letter || c == letter.toUpper then
      match rest with
      | '_' :: rest => rest
      | _ => rest
    else cs
  | _, _ => cs

/-- The greatest number of decimal digits that are read as an integer, or written for one. -/
def greatestLength : Nat := 4300

/-- Whether an integer has more decimal digits than are written. Few binary digits settle that
    without the large power. -/
def isLong (i : Int) : Bool := greatestLength ≤ i.natAbs.log2 && tenTo greatestLength ≤ i.natAbs

/-- The reason why an integer is not written. -/
def tooLong : String :=
  "Exceeds the limit (" ++ ofNat greatestLength ++
    " digits) for integer string conversion; use sys.set_int_max_str_digits() to increase the limit"

/-- The integer that a text denotes in a base. -/
def readInt? (base : Nat) (cs : List Char) : Option Int := do
  let (negative, body) := splitSign (normalized cs)
  let groups := splitUnderscores (dropBaseMark base body)
  if groups.any List.isEmpty then none
  let digits := groups.flatten
  if base == 10 && greatestLength < digits.length then none
  let n ← number? base digits
  return if negative then -(n : Int) else n

end SessionScript.Text.Numeral
