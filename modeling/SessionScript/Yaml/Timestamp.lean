import SessionScript.Calendar
import SessionScript.Text.Ranges

/-!
# Timestamps

The written form of dates and times: a day, and after a `T` or blanks a time of day with an
optional fraction and an optional zone.
-/

namespace SessionScript.Yaml

/-- The time of day of a written timestamp, with the digits of its fraction and, where a zone is
    given, its distance from universal time in seconds. -/
structure Clock where
  hour : Nat
  minute : Nat
  second : Nat
  fraction : List Char
  offset : Option Int
  deriving DecidableEq, Repr

/-- A timestamp as written. The numbers may be out of range. -/
structure Timestamp where
  year : Nat
  month : Nat
  day : Nat
  /-- Whether month and day have two digits each. -/
  padded : Bool
  clock : Option Clock
  deriving DecidableEq, Repr

namespace Timestamp

/-- The value of a decimal digit. -/
def digit? (c : Char) : Option Nat :=
  if Text.isAsciiDigit c then some (c.toNat - '0'.toNat) else none

/-- Exactly a number of digits. -/
def digits? : Nat → Nat → List Char → Option (Nat × List Char)
  | 0, acc, cs => some (acc, cs)
  | n + 1, acc, c :: cs => (digit? c).bind fun d => digits? n (acc * 10 + d) cs
  | _ + 1, _, [] => none

/-- One digit or two, and whether there are two. -/
def oneOrTwo? : List Char → Option (Nat × Bool × List Char)
  | c :: d :: cs =>
    match digit? c, digit? d with
    | some a, some b => some (a * 10 + b, true, cs)
    | some a, none => some (a, false, d :: cs)
    | none, _ => none
  | [c] => (digit? c).map fun a => (a, false, [])
  | [] => none

/-- A character that has to come next. -/
def expect? (c : Char) : List Char → Option (List Char)
  | d :: cs => if d == c then some cs else none
  | [] => none

/-- Whether a character is a space or a tab. -/
def isGap (c : Char) : Bool := c == ' ' || c == '\t'

/-- A zone up to the end: nothing, `Z`, or a signed distance in hours and minutes. -/
def zone? (cs : List Char) : Option (Option Int) :=
  match cs.dropWhile isGap with
  | [] => if cs.isEmpty then some none else none
  | ['Z'] => some (some 0)
  | sign :: rest =>
    if sign == '+' || sign == '-' then do
      let (hours, _, rest) ← oneOrTwo? rest
      let minutes ←
        match rest with
        | [] => some 0
        | ':' :: rest =>
          match digits? 2 0 rest with
          | some (m, []) => some m
          | _ => none
        | _ => none
      let distance : Int := ((hours * 60 + minutes) * 60 : Nat)
      return some (if sign == '-' then -distance else distance)
    else none

/-- A time of day up to the end. -/
def clock? (cs : List Char) : Option Clock := do
  let (hour, _, cs) ← oneOrTwo? cs
  let cs ← expect? ':' cs
  let (minute, cs) ← digits? 2 0 cs
  let cs ← expect? ':' cs
  let (second, cs) ← digits? 2 0 cs
  let (fraction, cs) := match cs with
    | '.' :: rest => (rest.takeWhile Text.isAsciiDigit, rest.dropWhile Text.isAsciiDigit)
    | _ => ([], cs)
  let offset ← zone? cs
  return ⟨hour, minute, second, fraction, offset⟩

/-- Reads a timestamp. -/
def read? (cs : List Char) : Option Timestamp := do
  let (year, cs) ← digits? 4 0 cs
  let cs ← expect? '-' cs
  let (month, longMonth, cs) ← oneOrTwo? cs
  let cs ← expect? '-' cs
  let (day, longDay, cs) ← oneOrTwo? cs
  let padded := longMonth && longDay
  match cs with
  | [] => return ⟨year, month, day, padded, none⟩
  | c :: rest =>
    if c == 'T' || c == 't' then
      return ⟨year, month, day, padded, some (← clock? rest)⟩
    else if isGap c then
      return ⟨year, month, day, padded, some (← clock? (rest.dropWhile isGap))⟩
    else none

/-- Whether a plain text is a timestamp; a day alone needs two digits for month and day. -/
def isPlain (cs : List Char) : Bool :=
  match read? cs with
  | some t => t.clock.isSome || t.padded
  | none => false

end Timestamp

end SessionScript.Yaml
