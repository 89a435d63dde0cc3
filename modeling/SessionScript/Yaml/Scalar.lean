import SessionScript.Text.Digits
import SessionScript.Yaml.Canvas
import SessionScript.Yaml.Chars
import SessionScript.Yaml.Plain

/-!
# Writing scalars

How a scalar is written: plain where its text allows it, in quotes otherwise. Long texts are
folded at spaces; characters outside printable ASCII are escaped.
-/

namespace SessionScript.Yaml

/-- What the text of a scalar allows. -/
structure Analysis where
  empty : Bool
  multiline : Bool
  allowsPlain : Bool
  allowsSingle : Bool
  allowsLiteral : Bool
  deriving DecidableEq, Repr

/-- The ways to write a scalar. -/
inductive Style where
  | plain
  | single
  | double
  | literal
  deriving DecidableEq, Repr

/-- The column after which long texts are folded. -/
def bestWidth : Nat := 80

/-- Whether a character can stand in a scalar without an escape. -/
def isSimple (c : Char) : Bool :=
  c == '\n' || (0x20 ≤ c.val.toNat && c.val.toNat ≤ 0x7E)

/-- Whether a word ends after a character. -/
def endsAfter : List Char → Bool
  | [] => true
  | c :: _ => isBreakOrBlank c

/-- Whether a text has a mark that a plain scalar may not start with. -/
def startsWithIndicator : List Char → Bool
  | '-' :: '-' :: '-' :: _ => true
  | '.' :: '.' :: '.' :: _ => true
  | c :: cs =>
    ['#', ',', '[', ']', '\x7b', '\x7d', '&', '*', '!', '|', '>', '\'', '"', '%', '@',
        Char.ofNat 0x60].contains c ||
      ((c == '?' || c == ':' || c == '-') && endsAfter cs)
  | [] => false

/-- Whether a text has a mark that ends a plain scalar within it. The flag tells whether the
    character before ends a word. -/
def hasIndicator : Bool → List Char → Bool
  | _, [] => false
  | afterBlank, c :: cs =>
    (c == ':' && endsAfter cs) || (c == '#' && afterBlank) || hasIndicator (isBreakOrBlank c) cs

/-- Whether some pair of neighbours passes a test. -/
def anyNeighbours (p : Char → Char → Bool) : List Char → Bool
  | a :: b :: cs => p a b || anyNeighbours p (b :: cs)
  | _ => false

/-- What a text allows. -/
def Analysis.ofText : List Char → Analysis
  | [] => ⟨true, false, true, true, false⟩
  | c :: cs =>
    let text := c :: cs
    let last := (c :: cs).getLast (List.cons_ne_nil c cs)
    let multiline := text.any isBreak
    let special := text.any fun d => !isSimple d
    let spaceBreak := anyNeighbours (fun a b => a == ' ' && isBreak b) text
    let breakSpace := anyNeighbours (fun a b => isBreak a && b == ' ') text
    let edge := fun d => d == ' ' || isBreak d
    let indicators := startsWithIndicator text || hasIndicator (isBreakOrBlank c) cs
    { empty := false
      multiline := multiline
      allowsPlain :=
        !(edge c || edge last || breakSpace || spaceBreak || special || multiline || indicators)
      allowsSingle := !(breakSpace || spaceBreak || special)
      allowsLiteral := !(last == ' ' || spaceBreak || special) }

/-- The letter that escapes a character. -/
def escapeLetter? (c : Char) : Option Char :=
  match c.val.toNat with
  | 0x00 => some '0'
  | 0x07 => some 'a'
  | 0x08 => some 'b'
  | 0x09 => some 't'
  | 0x0A => some 'n'
  | 0x0B => some 'v'
  | 0x0C => some 'f'
  | 0x0D => some 'r'
  | 0x1B => some 'e'
  | 0x22 => some '"'
  | 0x5C => some '\\'
  | 0x85 => some 'N'
  | 0xA0 => some '_'
  | 0x2028 => some 'L'
  | 0x2029 => some 'P'
  | _ => none

/-- A number with upper-case hexadecimal digits up to a width. -/
def upperHex (width n : Nat) : List Char := (Text.hexPad width n).map Char.toUpper

/-- The escape of a character. -/
def escape (c : Char) : List Char :=
  match escapeLetter? c with
  | some l => ['\\', l]
  | none =>
    let n := c.val.toNat
    if n ≤ 0xFF then '\\' :: 'x' :: upperHex 2 n
    else if n ≤ 0xFFFF then '\\' :: 'u' :: upperHex 4 n
    else '\\' :: 'U' :: upperHex 8 n

/-- The runs of a text: characters that a test takes and characters that it does not take, in
    turn. -/
def runs (p : Char → Bool) : List Char → List (List Char)
  | [] => []
  | c :: cs =>
    match runs p cs with
    | (d :: run) :: rest =>
      if p c == p d then (c :: d :: run) :: rest else [c] :: (d :: run) :: rest
    | rest => [c] :: rest

/-- Writes the words of a plain scalar. A lone space past the width becomes a line break. -/
def plainRuns (depth : Nat) (splits : Bool) : List (List Char) → Canvas → Canvas
  | [], v => v
  | run :: rest, v =>
    if run == [' '] && bestWidth < v.column && splits then
      plainRuns depth splits rest { v.indentTo depth with spaced := false, fresh := false }
    else plainRuns depth splits rest (v.put run)

/-- Writes a plain scalar. -/
def writePlain (depth : Nat) (splits atRoot : Bool) (cs : List Char) (v : Canvas) : Canvas :=
  let v := { v with openEnded := v.openEnded || atRoot }
  if cs.isEmpty then v
  else
    let v := if v.spaced then v else v.put [' ']
    plainRuns depth splits (runs (· == ' ') cs) { v with spaced := false, fresh := false }

/-- The runs of a text in single quotes: spaces, line breaks, and other characters. -/
def quotedRuns : List Char → List (List Char)
  | [] => []
  | c :: cs =>
    let kind := fun d => if d == ' ' then 0 else if isBreak d then 1 else 2
    match quotedRuns cs with
    | (d :: run) :: rest =>
      if kind c == kind d then (c :: d :: run) :: rest else [c] :: (d :: run) :: rest
    | rest => [c] :: rest

/-- Doubles the single quotes of a text. -/
def doubleQuotes (cs : List Char) : List Char :=
  cs.flatMap fun c => if c == '\'' then ['\'', '\''] else [c]

/-- Writes the runs of a text in single quotes. A lone space past the width becomes a line break,
    unless the text starts or ends there; a line break is written twice. -/
def singleRuns (depth : Nat) (splits : Bool) : Bool → List (List Char) → Canvas → Canvas
  | _, [], v => v
  | first, run :: rest, v =>
    let v :=
      if run == [' '] && bestWidth < v.column && splits && !first && !rest.isEmpty then
        v.indentTo depth
      else if run.any isBreak then
        (run.foldl (fun w _ => w.lineBreak) v.lineBreak).indentTo depth
      else v.put (doubleQuotes run)
    singleRuns depth splits false rest v

/-- Writes a scalar in single quotes. -/
def writeSingle (depth : Nat) (splits : Bool) (cs : List Char) (v : Canvas) : Canvas :=
  (singleRuns depth splits true (quotedRuns cs) (v.mark "'" false false)).close "'"

/-- Writes characters in double quotes from one on. Characters that need no escape are held back
    until one that does, a place to fold or the end. The count tells how many characters came
    before. -/
def doubleChars (depth : Nat) (splits : Bool) :
    Nat → List Char → List Char → Canvas → Canvas
  | _, held, [], v => v.put held.reverse
  | index, held, c :: cs, v =>
    let escapes := c == '"' || c == '\\' || !(0x20 ≤ c.val.toNat && c.val.toNat ≤ 0x7E)
    let v := if escapes then (v.put held.reverse).put (escape c) else v
    let pending := if escapes then [] else held
    let width := if escapes then bestWidth + 1 else bestWidth
    let folds :=
      0 < index && !cs.isEmpty && (c == ' ' || pending.isEmpty) &&
        width < v.column + pending.length && splits
    if folds then
      let v := { (v.put (pending.reverse ++ ['\\'])).indentTo depth with
        spaced := false, fresh := false }
      let next := if escapes then cs.head? else some c
      let v := if next == some ' ' then v.put ['\\'] else v
      doubleChars depth splits (index + 1) (if escapes then [] else [c]) cs v
    else doubleChars depth splits (index + 1) (if escapes then [] else c :: held) cs v

/-- Writes a scalar in double quotes. -/
def writeDouble (depth : Nat) (splits : Bool) (cs : List Char) (v : Canvas) : Canvas :=
  (doubleChars depth splits 0 [] cs (v.mark "\"" false false)).close "\""

/-- The lines of a text of which every line ends. -/
def endedLines : List Char → List Char → List (List Char)
  | held, [] => if held.isEmpty then [] else [held.reverse]
  | held, c :: cs => if c == '\n' then held.reverse :: endedLines [] cs else endedLines (c :: held) cs

/-- Writes a text line by line as it is. -/
def writeLiteral (depth : Nat) (cs : List Char) (v : Canvas) : Canvas :=
  (endedLines [] cs).foldl (fun w l => ((w.indentTo depth).put l).lineBreak)
    (v.mark "|" false false).lineBreak

end SessionScript.Yaml
