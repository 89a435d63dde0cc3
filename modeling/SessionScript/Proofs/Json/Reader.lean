import SessionScript.Text.Digits

/-!
# Reading JSON text

The tree that a JSON text denotes. A text is cut into tokens first: marks, strings with their
escapes undone, and words, which are numbers and the three constants. The tokens are then read with
a stack of the containers that are still open. Members of objects keep their order, and every
number keeps its exact value.
-/

namespace SessionScript.Json

/-- What a JSON text denotes. A number with a fraction or an exponent is `m · 10 ^ e`. -/
inductive Tree where
  | null
  | bool (b : Bool)
  | int (i : Int)
  | decimal (m e : Int)
  | text (s : String)
  | array (items : List Tree)
  | object (members : List (String × Tree))
  deriving Inhabited, Repr

/-! ## Words -/

/-- Whether a character is a decimal digit. -/
def isDigit (c : Char) : Bool := '0' ≤ c && c ≤ '9'

/-- The digits that a text starts with, and the text after them; at least one is needed. -/
def digits? (cs : List Char) : Option (List Char × List Char) :=
  let ds := cs.takeWhile isDigit
  if ds.isEmpty then none else some (ds, cs.drop ds.length)

/-- The digits of the fraction that a text starts with, if it does, and the text after them. -/
def fraction? : List Char → Option (List Char × List Char)
  | '.' :: cs => digits? cs
  | cs => some ([], cs)

/-- The sign that a text starts with. -/
def sign : List Char → Int × List Char
  | '-' :: cs => (-1, cs)
  | '+' :: cs => (1, cs)
  | cs => (1, cs)

/-- The exponent that a text is; nothing if it is none and not empty. -/
def exponent? : List Char → Option (Option Int)
  | [] => some none
  | e :: cs =>
    if e == 'e' || e == 'E' then
      let (s, cs) := sign cs
      match digits? cs with
      | some (ds, []) => (Text.number? 10 ds).map fun n => some (s * n)
      | _ => none
    else none

/-- The number that a word is without its sign: no zero stands in front of other digits. -/
def unsigned? (s : Int) (cs : List Char) : Option Tree := do
  let (whole, cs) ← digits? cs
  if whole.head? == some '0' && whole.length != 1 then none
  let (part, cs) ← fraction? cs
  let e ← exponent? cs
  let n ← Text.number? 10 (whole ++ part)
  if part.isEmpty && e.isNone then return .int (s * n)
  return .decimal (s * n) (e.getD 0 - part.length)

/-- The number that a word is. -/
def number? : List Char → Option Tree
  | '-' :: cs => unsigned? (-1) cs
  | cs => unsigned? 1 cs

/-- The constant that a word is. -/
def constant? (word : List Char) : Option Tree :=
  if word == ['n', 'u', 'l', 'l'] then some .null
  else if word == ['t', 'r', 'u', 'e'] then some (.bool true)
  else if word == ['f', 'a', 'l', 's', 'e'] then some (.bool false)
  else none

/-- The leaf that a word is: a number or a constant. -/
def leaf? (word : List Char) : Option Tree := number? word <|> constant? word

/-! ## Strings -/

/-- Whether a number is the first half of a character beyond the first plane. -/
def isLeading (n : Nat) : Bool := 0xD800 ≤ n && n < 0xDC00

/-- Whether a number is the second half of such a character. -/
def isTrailing (n : Nat) : Bool := 0xDC00 ≤ n && n < 0xE000

/-- The characters of code points, of which two halves that follow each other are one. A half that
    stands alone is no character. -/
def characters? : List Nat → Option (List Char)
  | [] => some []
  | n :: ns =>
    if isLeading n then
      match ns with
      | m :: ms =>
        if isTrailing m then
          (characters? ms).map (Char.ofNat (0x10000 + (n - 0xD800) * 0x400 + (m - 0xDC00)) :: ·)
        else none
      | [] => none
    else if isTrailing n then none
    else (characters? ns).map (Char.ofNat n :: ·)

/-- The code point that a character stands for after a backslash. -/
def escaped? : Char → Option Nat
  | '"' => some 34
  | '\\' => some 92
  | '/' => some 47
  | 'b' => some 8
  | 'f' => some 12
  | 'n' => some 10
  | 'r' => some 13
  | 't' => some 9
  | _ => none

/-! ## Tokens -/

/-- A token of a JSON text. -/
inductive Token where
  | mark (c : Char)
  | text (s : String)
  | word (w : List Char)
  deriving DecidableEq, Repr

/-- Whether a character stands between tokens. -/
def isBlank (c : Char) : Bool := c == ' ' || c == '\t' || c == '\n' || c == '\r'

/-- Whether a character is a token of its own. -/
def isMark (c : Char) : Bool :=
  c == '[' || c == ']' || c == '\x7b' || c == '\x7d' || c == ',' || c == ':'

/-- Puts a word in front of tokens, if there is one. -/
def flush (word : List Char) (tokens : List Token) : List Token :=
  if word.isEmpty then tokens else .word word :: tokens

mutual

/-- The tokens of a text within a word, which may be empty. -/
def tokensFrom (word : List Char) : List Char → Option (List Token)
  | [] => some (flush word [])
  | c :: cs =>
    if c == '"' then if word.isEmpty then stringFrom [] cs else none
    else if isBlank c then (tokensFrom [] cs).map (flush word)
    else if isMark c then (tokensFrom [] cs).map fun ts => flush word (.mark c :: ts)
    else tokensFrom (word ++ [c]) cs

/-- The tokens of a text within a string, of which some code points are known. -/
def stringFrom (points : List Nat) : List Char → Option (List Token)
  | [] => none
  | '\\' :: 'u' :: a :: b :: c :: d :: cs =>
    match Text.number? 16 [a, b, c, d] with
    | some n => stringFrom (points ++ [n]) cs
    | none => none
  | '\\' :: c :: cs =>
    match escaped? c with
    | some n => stringFrom (points ++ [n]) cs
    | none => none
  | c :: cs =>
    if c == '"' then
      match characters? points with
      | some s => (tokensFrom [] cs).map (.text (String.ofList s) :: ·)
      | none => none
    else if c == '\\' || c.toNat < 0x20 then none
    else stringFrom (points ++ [c.toNat]) cs

end

/-! ## Trees -/

/-- A container that is still open: its items so far, or its members so far and the key of the
    next one. -/
inductive Frame where
  | array (items : List Tree)
  | object (members : List (String × Tree)) (key : String)

mutual

/-- Goes on after a tree that is complete. -/
def afterTree (t : Tree) : List Frame → List Token → Option Tree
  | [], [] => some t
  | .array items :: fs, .mark ',' :: ts => beforeTree (.array (items ++ [t]) :: fs) ts
  | .array items :: fs, .mark ']' :: ts => afterTree (.array (items ++ [t])) fs ts
  | .object members k :: fs, .mark ',' :: .text k' :: .mark ':' :: ts =>
    beforeTree (.object (members ++ [(k, t)]) k' :: fs) ts
  | .object members k :: fs, .mark '\x7d' :: ts => afterTree (.object (members ++ [(k, t)])) fs ts
  | _, _ => none

/-- Goes on where a tree has to start. -/
def beforeTree (fs : List Frame) : List Token → Option Tree
  | .mark '[' :: .mark ']' :: ts => afterTree (.array []) fs ts
  | .mark '[' :: ts => beforeTree (.array [] :: fs) ts
  | .mark '\x7b' :: .mark '\x7d' :: ts => afterTree (.object []) fs ts
  | .mark '\x7b' :: .text k :: .mark ':' :: ts => beforeTree (.object [] k :: fs) ts
  | .text s :: ts => afterTree (.text s) fs ts
  | .word w :: ts =>
    match leaf? w with
    | some t => afterTree t fs ts
    | none => none
  | _ => none

end

/-- Reads a JSON text. -/
def read (s : String) : Option Tree := (tokensFrom [] s.toList).bind (beforeTree [])

end SessionScript.Json
