import SessionScript.Decimal.Arithmetic
import SessionScript.Decimal.Numeral
import SessionScript.Text.Base64
import SessionScript.Yaml.Fault
import SessionScript.Yaml.Plain

/-!
# Values of scalars

The value that the text of a scalar denotes under a standard tag.
-/

namespace SessionScript.Yaml.Scalar

/-- The fault of a node that no value of its tag can be made from. -/
def constructionFault (problem : String) (start : Mark) : Fault :=
  .marked .constructing { problem := some problem, problemMark := some start }

/-- The truth value that a word denotes, in letters of either case. -/
def readBool (cs : List Char) : Except Fault Value :=
  let word := String.ofList (cs.map Char.toLower)
  if PlainKind.trueWords.contains word then .ok (.bool true)
  else if PlainKind.falseWords.contains word then .ok (.bool false)
  else .error (.value .key)

/-- The sign of a number and the rest of it. Underscores do not count, and there has to be a
    character. -/
def splitNumber (cs : List Char) : Except Fault (Bool × List Char) :=
  let cs := cs.filter (· != '_')
  if cs.isEmpty then .error (.value .index) else .ok (Text.Numeral.splitSign cs)

/-- The integer that a text denotes in a base. -/
def integer (base : Nat) (cs : List Char) : Except Fault Int :=
  match Text.Numeral.readInt? base cs with
  | some i => .ok i
  | none => .error (.value .value)

/-- The integer that a text without its sign denotes: digits after a mark of base two or sixteen,
    octal digits after a zero, groups in base sixty, or decimal digits. -/
def readMagnitude (cs : List Char) : Except Fault Int :=
  match cs with
  | [] => .error (.value .index)
  | ['0'] => .ok 0
  | '0' :: 'b' :: ds => integer 2 ds
  | '0' :: 'x' :: ds => integer 16 ds
  | '0' :: _ => integer 8 cs
  | _ =>
    if cs.contains ':' then do
      let groups ← (PlainKind.splitColons cs).mapM (integer 10)
      return groups.foldl (fun total g => total * 60 + g) 0
    else integer 10 cs

/-- The integer that a text denotes. -/
def readInt (cs : List Char) : Except Fault Value := do
  let (negative, body) ← splitNumber cs
  let i ← readMagnitude body
  return .int (if negative then -i else i)

/-- The floating point number that a text denotes. -/
def float (cs : List Char) : Except Fault Binary64 :=
  match Binary64.readLoose? cs with
  | some x => .ok x
  | none => .error (.value .value)

/-- The sum of groups in base sixty, the least one first. The weight of a group is an integer, which
    may be too large for a number. -/
def sexagesimal (groups : List Binary64) : Except Fault Binary64 := do
  let (total, _) ← groups.foldlM
    (fun (acc : Binary64 × Int) g =>
      match Binary64.ofInt? acc.2 with
      | some weight => .ok (acc.1.add (g.mul weight), acc.2 * 60)
      | none => .error (.value .overflow)) (Binary64.zero false, 1)
  return total

/-- The number that a text denotes: infinity, no number, groups in base sixty or a decimal. -/
def readFloat (cs : List Char) : Except Fault Value := do
  let (negative, body) ← splitNumber (cs.map Char.toLower)
  let x ←
    if body == ".inf".toList then pure (Binary64.infinity false)
    else if body == ".nan".toList then pure Binary64.nan
    else if body.contains ':' then do
      sexagesimal (← (PlainKind.splitColons body).mapM float).reverse
    else float body
  return .float (if negative then x.neg else x)

/-- Why a text can not be written in ASCII, if it can not. -/
def notAscii? (cs : List Char) : Option String :=
  let before := cs.takeWhile fun c => c.val.toNat < 0x80
  match cs.drop before.length with
  | [] => none
  | c :: rest =>
    let more := rest.takeWhile fun d => 0x80 ≤ d.val.toNat
    let first := Text.ofNat before.length
    let place :=
      if more.isEmpty then
        "character '" ++ String.ofList (Text.escapeCode c.val.toNat) ++ "' in position " ++ first
      else
        "characters in position " ++ first ++ "-" ++ Text.ofNat (before.length + more.length)
    some ("'ascii' codec can't encode " ++ place ++ ": ordinal not in range(128)")

/-- The bytes that a text denotes. -/
def readBytes (cs : List Char) (start : Mark) : Except Fault Value :=
  match notAscii? cs with
  | some reason =>
    .error (constructionFault ("failed to convert base64 data into ascii: " ++ reason) start)
  | none =>
    match Text.Base64.decode cs with
    | .ok bytes => .ok (.bytes bytes)
    | .error e =>
      .error (constructionFault ("failed to decode base64 data: " ++ e.message) start)

/-- The first six digits of a fraction as a number of millionths. -/
def millionths (digits : List Char) : Nat :=
  (Text.number? 10 ((digits ++ List.replicate 6 '0').take 6)).getD 0

/-- The day or the time that a text denotes. A line feed may stand behind it. -/
def readTimestamp (cs : List Char) : Except Fault Value :=
  match Timestamp.read? (if cs.getLast? == some '\n' then cs.dropLast else cs) with
  | none => .error (.value .attribute)
  | some t =>
    let date : Date := ⟨t.year, t.month, t.day⟩
    match t.clock with
    | none => if date.isValid then .ok (.date date) else .error (.value .value)
    | some c =>
      let time : DateTime := ⟨date, c.hour, c.minute, c.second, millionths c.fraction, c.offset⟩
      if time.isValid then .ok (.datetime time) else .error (.value .value)

end SessionScript.Yaml.Scalar
