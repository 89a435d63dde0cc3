import SessionScript.Text.Blank

/-!
# Lines

Splitting a text into lines at every line boundary of Unicode, and the indentation of a block.
-/

namespace SessionScript.Text

/-- The characters that end a line. A carriage return with a line feed after it ends one line. -/
def isLineEnd (c : Char) : Bool :=
  let n := c.val.toNat
  (0x0A ≤ n && n ≤ 0x0D) || (0x1C ≤ n && n ≤ 0x1E) || n == 0x85 || n == 0x2028 || n == 0x2029

/-- The lines of a text, given the characters of the current line in reverse. A text that ends
    with a line end has no empty last line. -/
def linesFrom : List Char → List Char → List (List Char)
  | [], [] => []
  | current, [] => [current.reverse]
  | current, '\r' :: '\n' :: rest => current.reverse :: linesFrom [] rest
  | current, c :: rest =>
    if isLineEnd c then current.reverse :: linesFrom [] rest else linesFrom (c :: current) rest

/-- The lines of a text without their line ends. -/
def lines (s : String) : List String :=
  (linesFrom [] s.toList).map String.ofList

/-- A text in which every line end that starts with a carriage return is a line feed. -/
def unifyLineEnds : List Char → List Char
  | [] => []
  | '\r' :: '\n' :: rest => '\n' :: unifyLineEnds rest
  | c :: rest => (if c == '\r' then '\n' else c) :: unifyLineEnds rest

/-- Joins lines by a line feed. -/
def unlines (ls : List String) : String :=
  String.intercalate "\n" ls

/-- Indents every line of a block that is not blank and leaves the blank ones out. -/
def indent (width : Nat) (block : String) : String :=
  let kept := (lines block).filter fun l => !(l.toList.all isBlank)
  unlines (kept.map fun l => String.ofList (List.replicate width ' ') ++ l)

end SessionScript.Text
