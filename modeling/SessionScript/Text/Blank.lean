/-!
# Blank characters

The characters that count as white space in templates, paths and numbers, and the removal of
blanks from the ends of a text.
-/

namespace SessionScript.Text

/-- White space of any script: the five ASCII layout controls, the four ASCII separators, the
    space, the next-line control and every space or line separator of Unicode. -/
def isBlank (c : Char) : Bool :=
  let n := c.val.toNat
  (0x09 ≤ n && n ≤ 0x0D) || (0x1C ≤ n && n ≤ 0x20) || n == 0x85 || n == 0xA0 || n == 0x1680 ||
    (0x2000 ≤ n && n ≤ 0x200A) || n == 0x2028 || n == 0x2029 || n == 0x202F || n == 0x205F ||
    n == 0x3000

/-- The Unicode property White_Space: blanks without the four ASCII separators. -/
def isSpaceProperty (c : Char) : Bool :=
  isBlank c && !(0x1C ≤ c.val.toNat && c.val.toNat ≤ 0x1F)

/-- Drops the characters of a class from both ends. -/
def trimBoth (p : Char → Bool) (cs : List Char) : List Char :=
  ((cs.dropWhile p).reverse.dropWhile p).reverse

/-- Drops the characters of a class from the end. -/
def trimEnd (p : Char → Bool) (cs : List Char) : List Char :=
  (cs.reverse.dropWhile p).reverse

/-- A text without the blanks at its ends. -/
def strip (s : String) : String :=
  String.ofList (trimBoth isBlank s.toList)

end SessionScript.Text
