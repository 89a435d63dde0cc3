import SessionScript.Decimal.Binary64
import SessionScript.Text.Numeral

/-!
# Decimal numerals

Floating point numbers as texts: decimal digits with an optional point and exponent, and words for
infinity and for no number.
-/

namespace SessionScript.Binary64

/-- The digits at the start of a text, and the rest. -/
def splitDigits (cs : List Char) : List Char × List Char :=
  cs.span fun c => '0' ≤ c && c ≤ '9'

/-- The exponent that a text denotes; nothing at all means zero. -/
def readExponent? : List Char → Option Int
  | [] => some 0
  | e :: cs =>
    if e == 'e' || e == 'E' then
      let (negative, digits) := Text.Numeral.splitSign cs
      (Text.number? 10 digits).map fun n => if negative then -(n : Int) else n
    else none

/-- The number of a sign that decimal digits denote. -/
def readDecimal? (negative : Bool) (cs : List Char) : Option Binary64 := do
  let (whole, rest) := splitDigits cs
  let (fraction, rest) := match rest with
    | '.' :: rest => splitDigits rest
    | _ => ([], rest)
  let exponent ← readExponent? rest
  let digits ← Text.number? 10 (whole ++ fraction)
  return ofDecimal negative digits (exponent - fraction.length)

/-- The number that a text denotes; words may have letters of either case. -/
def read? (cs : List Char) : Option Binary64 :=
  let (negative, body) := Text.Numeral.splitSign cs
  let word := String.ofList (body.map Char.toLower)
  if word == "inf" || word == "infinity" then some (infinity negative)
  else if word == "nan" then some nan
  else readDecimal? negative body

/-- A text without its underscores, each of which has to stand between digits. -/
def dropUnderscores? : Bool → List Char → Option (List Char)
  | _, [] => some []
  | afterDigit, '_' :: cs =>
    let beforeDigit := match cs with
      | d :: _ => '0' ≤ d && d ≤ '9'
      | [] => false
    if afterDigit && beforeDigit then dropUnderscores? false cs else none
  | _, c :: cs => (dropUnderscores? ('0' ≤ c && c ≤ '9') cs).map (c :: ·)

/-- The number that a text denotes, with digits of any script, underscores between digits and
    blanks around it. -/
def readLoose? (cs : List Char) : Option Binary64 :=
  (dropUnderscores? false (Text.Numeral.normalized cs)).bind read?

end SessionScript.Binary64
