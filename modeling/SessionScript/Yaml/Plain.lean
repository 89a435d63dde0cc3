import SessionScript.Yaml.Timestamp

/-!
# Plain scalars

What a scalar without quotes and without a tag means.
-/

namespace SessionScript.Yaml

/-- The kinds of scalars that are told apart by their text alone. -/
inductive PlainKind where
  | null
  | bool
  | int
  | float
  | timestamp
  /-- The key `<<`, under which mappings are merged. -/
  | merge
  /-- The key `=`. -/
  | defaultValue
  /-- A lone indicator of a tag, an anchor or an alias. -/
  | indicator
  | text
  deriving DecidableEq, Repr, Inhabited

namespace PlainKind

/-- The words for null. -/
def nullWords : List String := ["", "~", "null", "Null", "NULL"]

/-- The words for true. -/
def trueWords : List String :=
  ["yes", "Yes", "YES", "true", "True", "TRUE", "on", "On", "ON"]

/-- The words for false. -/
def falseWords : List String :=
  ["no", "No", "NO", "false", "False", "FALSE", "off", "Off", "OFF"]

/-- A text without its sign. -/
def unsigned : List Char → List Char
  | '+' :: cs => cs
  | '-' :: cs => cs
  | cs => cs

/-- Whether a character is a digit of a base or an underscore. -/
def isDigitOf (isDigit : Char → Bool) (c : Char) : Bool := isDigit c || c == '_'

/-- Whether a text is not empty and has digits and underscores only. -/
def areDigits (isDigit : Char → Bool) (cs : List Char) : Bool :=
  !cs.isEmpty && cs.all (isDigitOf isDigit)

/-- Whether a character is a binary digit. -/
def isBinary (c : Char) : Bool := c == '0' || c == '1'

/-- Whether a character is an octal digit. -/
def isOctal (c : Char) : Bool := '0' ≤ c && c ≤ '7'

/-- Whether a character is a hexadecimal digit. -/
def isHexadecimal (c : Char) : Bool :=
  Text.isAsciiDigit c || ('a' ≤ c && c ≤ 'f') || ('A' ≤ c && c ≤ 'F')

/-- Cuts a text at every colon. -/
def splitColons : List Char → List (List Char)
  | [] => [[]]
  | c :: cs =>
    if c == ':' then [] :: splitColons cs
    else
      match splitColons cs with
      | [] => [[c]]
      | s :: ss => (c :: s) :: ss

/-- Whether a text is a digit of base sixty. -/
def isSixtieth : List Char → Bool
  | [c] => Text.isAsciiDigit c
  | [c, d] => '0' ≤ c && c ≤ '5' && Text.isAsciiDigit d
  | _ => false

/-- Whether a text without its sign is a number in base sixty, whose first digit passes a test. -/
def isSexagesimal (leading : Char → Bool) (cs : List Char) : Bool :=
  match splitColons cs with
  | (c :: first) :: second :: more =>
    leading c && first.all (isDigitOf Text.isAsciiDigit) && isSixtieth second && more.all isSixtieth
  | _ => false

/-- Whether a text is a decimal digit other than zero. -/
def isPositiveDigit (c : Char) : Bool := '1' ≤ c && c ≤ '9'

/-- Whether a text is an integer. -/
def isInt (cs : List Char) : Bool :=
  match unsigned cs with
  | [] => false
  | ['0'] => true
  | '0' :: 'b' :: ds => areDigits isBinary ds
  | '0' :: 'x' :: ds => areDigits isHexadecimal ds
  | '0' :: ds => areDigits isOctal ds
  | c :: ds =>
    (isPositiveDigit c && ds.all (isDigitOf Text.isAsciiDigit)) ||
      isSexagesimal isPositiveDigit (c :: ds)

/-- Whether a text is an exponent with its sign, or nothing. -/
def isExponent : List Char → Bool
  | [] => true
  | e :: sign :: d :: ds =>
    (e == 'e' || e == 'E') && (sign == '+' || sign == '-') && (d :: ds).all Text.isAsciiDigit
  | _ => false

/-- Whether a text after the decimal point is a fraction with an optional exponent. -/
def isFraction (cs : List Char) : Bool :=
  isExponent (cs.dropWhile (isDigitOf Text.isAsciiDigit))

/-- Whether a text is a number with a point, an infinity or no number. -/
def isFloat (cs : List Char) : Bool :=
  let body := unsigned cs
  let whole := body.takeWhile (isDigitOf Text.isAsciiDigit)
  let startsWithDigit := (whole.head?.map Text.isAsciiDigit).getD false
  let decimal :=
    match body.drop whole.length with
    | '.' :: rest => startsWithDigit && isFraction rest
    | _ => false
  let fractional :=
    match cs with
    | '.' :: d :: rest => Text.isAsciiDigit d && isFraction rest
    | _ => false
  let sexagesimal :=
    match body.span (· != '.') with
    | (front, '.' :: rest) =>
      isSexagesimal Text.isAsciiDigit front && rest.all (isDigitOf Text.isAsciiDigit)
    | _ => false
  let word := String.ofList cs
  let signless := String.ofList body
  decimal || fractional || sexagesimal || [".inf", ".Inf", ".INF"].contains signless ||
    [".nan", ".NaN", ".NAN"].contains word

/-- The kind of a plain scalar. -/
def ofText (cs : List Char) : PlainKind :=
  let word := String.ofList cs
  if nullWords.contains word then .null
  else if trueWords.contains word || falseWords.contains word then .bool
  else if isFloat cs then .float
  else if isInt cs then .int
  else if word == "<<" then .merge
  else if Timestamp.isPlain cs then .timestamp
  else if word == "=" then .defaultValue
  else if ["!", "&", "*"].contains word then .indicator
  else .text

end PlainKind

end SessionScript.Yaml
