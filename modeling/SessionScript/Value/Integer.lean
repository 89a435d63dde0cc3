import SessionScript.Failure
import SessionScript.Text.Numeral
import SessionScript.Text.Utf8

/-!
# Integers from values

The integer that a value is converted to: a number cut toward zero, or a text read as a numeral.
-/

namespace SessionScript.Value

/-- The failure of a text that is no numeral of a base. -/
def notNumeral (base : Nat) (v : Value) : Failure :=
  .raise "ValueError"
    ("invalid literal for int() with base " ++ Text.ofNat base ++ ": " ++ v.shown)

/-- The integer part of a number. -/
def integerOfFloat (x : Binary64) : Except Failure Int :=
  if x.isNaN then .error (.raise "ValueError" "cannot convert float NaN to integer")
  else if x.isInfinite then
    .error (.raise "OverflowError" "cannot convert float infinity to integer")
  else .ok x.truncate

/-- The integer that a value is converted to. -/
def toInteger : Value → Except Failure Int
  | .int i => .ok i
  | .bool b => .ok (if b then 1 else 0)
  | .float x => integerOfFloat x
  | .text s =>
    match Text.Numeral.readInt? 10 s.toList with
    | some i => .ok i
    | none => .error (notNumeral 10 (.text s))
  | .bytes b =>
    match (Text.Utf8.decode? b).bind fun s => Text.Numeral.readInt? 10 s.toList with
    | some i => .ok i
    | none => .error (notNumeral 10 (.bytes b))
  | v =>
    .error (.raise "TypeError"
      ("int() argument must be a string, a bytes-like object or a real number, not '" ++
        v.typeName ++ "'"))

end SessionScript.Value
