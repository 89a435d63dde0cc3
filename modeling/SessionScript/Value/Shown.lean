import SessionScript.Decimal.Layout
import SessionScript.Text.Quoted
import SessionScript.Value.Basic

/-!
# Values in messages

The text of a value in error messages and logs: texts stand in quotes, containers in brackets.
-/

namespace SessionScript.Value

/-- Texts with a comma and a space between them. -/
def commaSeparated (parts : List String) : String := String.intercalate ", " parts

/-- The distance of a time zone from universal time. -/
def zoneText (offset : Int) : String :=
  if offset == 0 then "datetime.timezone.utc"
  else
    let day := if offset < 0 then "days=-1, " else ""
    "datetime.timezone(datetime.timedelta(" ++ day ++ "seconds=" ++
      Text.ofInt (offset % 86400) ++ "))"

/-- The parts of a time from the year on; seconds and smaller parts only where they matter. -/
def dateTimeParts (t : DateTime) : List String :=
  let small :=
    if t.microsecond ≠ 0 then [t.second, t.microsecond]
    else if t.second ≠ 0 then [t.second] else []
  ([t.date.year, t.date.month, t.date.day, t.hour, t.minute] ++ small).map Text.ofNat ++
    (match t.offset with
      | some offset => ["tzinfo=" ++ zoneText offset]
      | none => [])

mutual

/-- The text of a value in messages. -/
def shown : Value → String
  | .null => "None"
  | .bool b => if b then "True" else "False"
  | .int i => Text.ofInt i
  | .float x => NumberLayout.plain.render x
  | .text s => Text.quoted s
  | .bytes b => Text.quotedBytes b
  | .list xs => "[" ++ commaSeparated (shownItems xs) ++ "]"
  | .tuple [x] => "(" ++ shown x ++ ",)"
  | .tuple xs => "(" ++ commaSeparated (shownItems xs) ++ ")"
  | .set [] => "set()"
  | .set xs => "\x7b" ++ commaSeparated (shownItems xs) ++ "\x7d"
  | .dict es => "\x7b" ++ commaSeparated (shownEntries es) ++ "\x7d"
  | .date d =>
    "datetime.date(" ++ commaSeparated [Text.ofNat d.year, Text.ofNat d.month, Text.ofNat d.day] ++
      ")"
  | .datetime t => "datetime.datetime(" ++ commaSeparated (dateTimeParts t) ++ ")"
  | .object label => "<" ++ label ++ ">"
  | .error kind message => kind ++ "(" ++ Text.quoted message ++ ")"
  | .other _ shownAs => shownAs

/-- The texts of items. -/
def shownItems : List Value → List String
  | [] => []
  | v :: vs => shown v :: shownItems vs

/-- The texts of entries. -/
def shownEntries : List (Value × Value) → List String
  | [] => []
  | (k, v) :: es => (shown k ++ ": " ++ shown v) :: shownEntries es

end

/-- The text of a value that stands for itself: a text as it is, a date in ISO form, everything
    else as in messages. -/
def plainText : Value → String
  | .text s => s
  | .date d => d.iso
  | .datetime t => t.iso " "
  | .error _ message => message
  | v => v.shown

end SessionScript.Value
