import SessionScript.Decimal.Binary64

/-!
# Tokens of code

The lexical units of the code language that template calls and code functions are written in.
-/

namespace SessionScript.Code

/-- Why a piece of code is rejected before it runs. Faults of the layout of lines are told apart
    from all others. -/
inductive GrammarError where
  /-- The text fits no rule of the grammar. -/
  | invalid
  /-- A block is missing, or a line is indented where it may not be. -/
  | indentation
  /-- Tabs and spaces are mixed so that the depth of a line depends on the width of a tab. -/
  | tabs
  deriving DecidableEq, Repr, Inhabited

/-- A number as written. -/
inductive Number where
  | int (n : Nat)
  | float (x : Binary64)
  | imaginary (x : Binary64)
  deriving DecidableEq, Repr

/-- What the letters in front of a string say about it. -/
structure StringMark where
  raw : Bool := false
  bytes : Bool := false
  format : Bool := false
  unicode : Bool := false
  deriving DecidableEq, Repr

/-- A lexical unit. Names include keywords; the body of a string is still as written. -/
inductive Token where
  | name (s : String)
  | number (n : Number)
  | string (mark : StringMark) (body : List Char)
  | op (s : String)
  | newline
  | indent
  | dedent
  deriving DecidableEq, Repr

/-- The names that are reserved. -/
def keywords : List String :=
  ["False", "None", "True", "and", "as", "assert", "async", "await", "break", "class", "continue",
    "def", "del", "elif", "else", "except", "finally", "for", "from", "global", "if", "import",
    "in", "is", "lambda", "nonlocal", "not", "or", "pass", "raise", "return", "try", "while",
    "with", "yield"]

/-- Whether a name is reserved. -/
def isKeyword (s : String) : Bool := keywords.contains s

/-- The operators and delimiters, those of three characters first, so that the longest one that
    fits comes first. -/
def operators : List String :=
  ["**=", "//=", ">>=", "<<=", "...", "**", "//", ">>", "<<", "<=", ">=", "==", "!=", "->", "+=",
    "-=", "*=", "/=", "%=", "&=", "|=", "^=", "@=", ":=", "+", "-", "*", "/", "%", "@", "&", "|",
    "^", "~", "<", ">", "(", ")", "[", "]", "\x7b", "\x7d", ",", ":", ".", ";", "="]

end SessionScript.Code
