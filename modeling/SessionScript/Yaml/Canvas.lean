/-!
# Canvas

Text that is written piece by piece, with what the next piece has to know about the current line.
-/

namespace SessionScript.Yaml

/-- What has been written, last character first, and where the pen stands. -/
structure Canvas where
  written : List Char := []
  column : Nat := 0
  /-- The last piece was white space, so that the next one needs no space before it. -/
  spaced : Bool := true
  /-- The current line holds indentation and list marks only. -/
  fresh : Bool := true
  /-- The document ends with a plain scalar, which has no end of its own. -/
  openEnded : Bool := false
  deriving Repr, Inhabited

namespace Canvas

/-- Writes characters within a line. -/
def put (cs : List Char) (v : Canvas) : Canvas :=
  { v with written := cs.reverse ++ v.written, column := v.column + cs.length }

/-- Ends the line. -/
def lineBreak (v : Canvas) : Canvas :=
  { v with written := '\n' :: v.written, column := 0, spaced := true, fresh := true }

/-- Goes to the start of a line of some depth, on a new line unless the current one is empty so
    far. -/
def indentTo (depth : Nat) (v : Canvas) : Canvas :=
  let v :=
    if !v.fresh || depth < v.column || (v.column == depth && !v.spaced) then v.lineBreak else v
  if v.column < depth then
    { v.put (List.replicate (depth - v.column) ' ') with spaced := true }
  else v

/-- Writes a mark after a space, unless the last piece was one. -/
def mark (s : String) (spacedAfter keepsFresh : Bool) (v : Canvas) : Canvas :=
  let cs := s.toList
  { v.put (if v.spaced then cs else ' ' :: cs) with
    spaced := spacedAfter, fresh := v.fresh && keepsFresh, openEnded := false }

/-- Writes a mark right after the last piece. -/
def close (s : String) (v : Canvas) : Canvas :=
  { v.put s.toList with spaced := false, fresh := false, openEnded := false }

/-- The text written so far. -/
def text (v : Canvas) : List Char := v.written.reverse

end Canvas

end SessionScript.Yaml
