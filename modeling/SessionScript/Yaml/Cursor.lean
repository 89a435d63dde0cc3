import SessionScript.Yaml.Chars

/-!
# Marks and cursors

A mark is a position in the text of a document; an excerpt shows the line around it. A cursor is a
place in a text, with the text after it and the position that marks report.
-/

namespace SessionScript.Yaml

/-- A position: the number of characters before it, its line and its column. -/
structure Mark where
  index : Nat
  line : Nat
  column : Nat
  deriving DecidableEq, Repr, Inhabited

/-- The greatest number of characters that an excerpt shows on a side of its mark. -/
def excerptReach : Nat := 36

/-- What an excerpt shows on a side of its mark, given the characters of the line on that side from
    the mark on, and whether more follow. -/
def excerptSide (cs : List Char) : List Char × Bool :=
  let line := cs.takeWhile fun c => !endsLine c
  if excerptReach < line.length then (line.take (excerptReach + 1 - 5), true) else (line, false)

/-- The part of a line around a mark, with a caret below the mark. -/
def Mark.excerpt (text : List Char) (m : Mark) : List Char :=
  let (before, cutBefore) := excerptSide (text.take m.index).reverse
  let (after, cutAfter) := excerptSide (text.drop m.index)
  let dots := [' ', '.', '.', '.', ' ']
  let head := if cutBefore then dots else []
  let tail := if cutAfter then dots else []
  head ++ before.reverse ++ after ++ tail ++ '\n' ::
    (List.replicate (before.length + head.length) ' ' ++ ['^'])

/-- The text that is left, and where it starts. -/
structure Cursor where
  rest : List Char
  index : Nat := 0
  line : Nat := 0
  column : Nat := 0
  deriving DecidableEq, Repr, Inhabited

namespace Cursor

/-- The next character, or the end mark. -/
def peek (c : Cursor) : Char := c.rest.headD endMark

/-- The character after a number of others, or the end mark. -/
def peekAt (c : Cursor) (n : Nat) : Char := c.rest.getD n endMark

/-- The position of the cursor. -/
def mark (c : Cursor) : Mark := ⟨c.index, c.line, c.column⟩

/-- Moves past one character. A carriage return before a line feed does not end its line, and a
    byte order mark takes no column. -/
def step (c : Cursor) : Cursor :=
  match c.rest with
  | [] => c
  | d :: ds =>
    if isBreak d || (d == '\r' && ds.head? != some '\n') then ⟨ds, c.index + 1, c.line + 1, 0⟩
    else if d.val.toNat == 0xFEFF then ⟨ds, c.index + 1, c.line, c.column⟩
    else ⟨ds, c.index + 1, c.line, c.column + 1⟩

/-- Moves past a number of characters. -/
def skip : Nat → Cursor → Cursor
  | 0, c => c
  | n + 1, c => skip n c.step

/-- Moves past characters of a class. -/
def skipWhile (p : Char → Bool) (c : Cursor) : Cursor := c.skip (c.rest.takeWhile p).length

/-- The characters of a class that come next, and the cursor after them. -/
def span (p : Char → Bool) (c : Cursor) : List Char × Cursor :=
  let cs := c.rest.takeWhile p
  (cs, c.skip cs.length)

/-- Moves past a comment up to the end of its line. -/
def skipComment (c : Cursor) : Cursor :=
  if c.peek == '#' then c.skipWhile fun d => !endsLine d else c

/-- The line break that comes next as it counts in a scalar, and the cursor after it. -/
def lineBreak (c : Cursor) : List Char × Cursor :=
  match c.rest with
  | '\r' :: '\n' :: _ => (['\n'], c.skip 2)
  | d :: _ =>
    if d == '\r' || d == '\n' || d.val.toNat == 0x85 then (['\n'], c.step)
    else if d.val.toNat == 0x2028 || d.val.toNat == 0x2029 then ([d], c.step)
    else ([], c)
  | [] => ([], c)

/-- Whether a mark of a document's start or end comes next, followed by the end of a word. -/
def atSeparator (c : Cursor) : Bool :=
  match c.rest with
  | '-' :: '-' :: '-' :: ds => isBreakOrBlank (ds.headD endMark)
  | '.' :: '.' :: '.' :: ds => isBreakOrBlank (ds.headD endMark)
  | _ => false

end Cursor

end SessionScript.Yaml
