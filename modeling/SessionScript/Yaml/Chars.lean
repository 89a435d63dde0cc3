/-!
# Characters of documents

The classes of characters that the grammar of documents tells apart. The null character stands for
the end of the text; it never occurs within one.
-/

namespace SessionScript.Yaml

/-- The character that stands for the end of the text. -/
def endMark : Char := Char.ofNat 0

/-- Whether a character is a line break other than the carriage return. -/
def isBreak (c : Char) : Bool :=
  c == '\n' || c.val.toNat == 0x85 || c.val.toNat == 0x2028 || c.val.toNat == 0x2029

/-- Whether a character ends a line. -/
def endsLine (c : Char) : Bool := isBreak c || c == '\r' || c == endMark

/-- Whether a character starts a line break. -/
def startsBreak (c : Char) : Bool := isBreak c || c == '\r'

/-- Whether a character ends a line or is a space. -/
def endsLineOrSpace (c : Char) : Bool := endsLine c || c == ' '

/-- Whether a character ends a word: a break, a blank or the end of the text. -/
def isBreakOrBlank (c : Char) : Bool := endsLine c || c == ' ' || c == '\t'

/-- Whether a character may stand in a document. -/
def isAllowed (c : Char) : Bool :=
  let n := c.val.toNat
  n == 0x09 || n == 0x0A || n == 0x0D || (0x20 ≤ n && n ≤ 0x7E) || n == 0x85 ||
    (0xA0 ≤ n && n ≤ 0xD7FF) || (0xE000 ≤ n && n ≤ 0xFFFD) || 0x10000 ≤ n

/-- Whether a character may stand in the name of an anchor, a directive or a tag handle. -/
def isNameChar (c : Char) : Bool :=
  ('0' ≤ c && c ≤ '9') || ('A' ≤ c && c ≤ 'Z') || ('a' ≤ c && c ≤ 'z') || c == '-' || c == '_'

/-- Whether a character may stand in a tag. -/
def isUriChar (c : Char) : Bool :=
  isNameChar c ||
    [';', '/', '?', ':', '@', '&', '=', '+', '$', ',', '.', '!', '~', '*', '\'', '(', ')', '[', ']',
      '%'].contains c

end SessionScript.Yaml
