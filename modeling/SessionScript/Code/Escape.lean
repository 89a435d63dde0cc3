import SessionScript.Code.Token
import SessionScript.Text.Digits
import SessionScript.Text.Utf8

/-!
# Escapes in strings of code

The characters and bytes that the body of a string denotes.
-/

namespace SessionScript.Code.Escape

/-- The character of a one-letter escape. -/
def simple? : Char → Option Char
  | '\\' => some '\\'
  | '\'' => some '\''
  | '"' => some '"'
  | 'a' => some (Char.ofNat 7)
  | 'b' => some (Char.ofNat 8)
  | 'f' => some (Char.ofNat 12)
  | 'n' => some '\n'
  | 'r' => some '\r'
  | 't' => some '\t'
  | 'v' => some (Char.ofNat 11)
  | _ => none

/-- Exactly a number of hexadecimal digits. -/
def hexDigits : Nat → Nat → List Char → Option (Nat × List Char)
  | 0, acc, cs => some (acc, cs)
  | k + 1, acc, c :: cs =>
    match Text.digitValue? 16 c with
    | some v => hexDigits k (acc * 16 + v) cs
    | none => none
  | _ + 1, _, [] => none

/-- At most a number of octal digits. -/
def octalDigits : Nat → Nat → List Char → Nat × List Char
  | k + 1, acc, c :: cs =>
    match Text.digitValue? 8 c with
    | some v => octalDigits k (acc * 8 + v) cs
    | none => (acc, c :: cs)
  | _, acc, cs => (acc, cs)

/-- The number of hexadecimal digits after an escape letter. -/
def hexWidth? (wide : Bool) : Char → Option Nat
  | 'x' => some 2
  | 'u' => if wide then some 4 else none
  | 'U' => if wide then some 8 else none
  | _ => none

/-- The code points of a string body. A backslash before a line break joins the lines; one before
    a letter of no escape stands for itself. The first argument exceeds the length of the body. -/
def decodeFrom (wide : Bool) : Nat → List Char → Except GrammarError (List Nat)
  | 0, _ => .ok []
  | _, [] => .ok []
  | fuel + 1, '\\' :: '\n' :: cs => decodeFrom wide fuel cs
  | fuel + 1, '\\' :: c :: cs =>
    match simple? c with
    | some d => do return d.val.toNat :: (← decodeFrom wide fuel cs)
    | none =>
      match hexWidth? wide c with
      | some k =>
        match hexDigits k 0 cs with
        | some (n, rest) =>
          if n < 0x110000 then do return n :: (← decodeFrom wide fuel rest) else .error .invalid
        | none => .error .invalid
      | none =>
        if (Text.digitValue? 8 c).isSome then do
          let (n, rest) := octalDigits 3 0 (c :: cs)
          return n :: (← decodeFrom wide fuel rest)
        else if wide && c == 'N' then .error .invalid
        else do return '\\'.val.toNat :: (← decodeFrom wide fuel (c :: cs))
  | fuel + 1, c :: cs => do return c.val.toNat :: (← decodeFrom wide fuel cs)

/-- The text that a string body denotes. -/
def text (raw : Bool) (body : List Char) : Except GrammarError String :=
  if raw then .ok (String.ofList body)
  else do
    let points ← decodeFrom true (body.length + 1) body
    return String.ofList (points.map Char.ofNat)

/-- The bytes that a string body denotes; it must be ASCII. -/
def bytes (raw : Bool) (body : List Char) : Except GrammarError (List UInt8) :=
  if body.any (fun c => 0x80 ≤ c.val.toNat) then .error .invalid
  else if raw then .ok (body.map fun c => UInt8.ofNat c.val.toNat)
  else do
    let points ← decodeFrom false (body.length + 1) body
    return points.map UInt8.ofNat

end SessionScript.Code.Escape
