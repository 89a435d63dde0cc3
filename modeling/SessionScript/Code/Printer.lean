import SessionScript.Code.Tree
import SessionScript.Decimal.Layout
import SessionScript.Text.Quoted

/-!
# Expressions as text

The canonical text of an expression: one space around operators, and brackets only where a
construct binds less tightly than its place asks for.
-/

namespace SessionScript.Code

/-- How tightly constructs bind; a place asks for a level, and a construct below it is put in
    brackets. -/
abbrev Level := Nat

namespace Level

/-- A named value. -/
def named : Level := 0

/-- A tuple without brackets. -/
def tuple : Level := 1

/-- A yield. -/
def yields : Level := 2

/-- A conditional or a function; what most places ask for. -/
def test : Level := 3

/-- A negation. -/
def negation : Level := 6

/-- A comparison. -/
def comparison : Level := 7

/-- Operands of operators on bits. -/
def operand : Level := 8

/-- A sign. -/
def sign : Level := 14

/-- An awaited value. -/
def awaited : Level := 16

/-- A name, a constant or anything in brackets. -/
def atom : Level := 17

/-- The next tighter level; above atoms there is none. -/
def next (l : Level) : Level := min (l + 1) atom

end Level

/-- The sign or word of an operator with one operand, and its level. -/
def UnaryOp.spelling : UnaryOp → String × Level
  | .neg => ("-", Level.sign)
  | .pos => ("+", Level.sign)
  | .invert => ("~", Level.sign)
  | .not => ("not ", Level.negation)

/-- The sign of an operator with two operands, and its level. -/
def BinaryOp.spelling : BinaryOp → String × Level
  | .bitOr => ("|", 8)
  | .bitXor => ("^", 9)
  | .bitAnd => ("&", 10)
  | .shiftLeft => ("<<", 11)
  | .shiftRight => (">>", 11)
  | .add => ("+", 12)
  | .sub => ("-", 12)
  | .mul => ("*", 13)
  | .matMul => ("@", 13)
  | .div => ("/", 13)
  | .mod => ("%", 13)
  | .floorDiv => ("//", 13)
  | .pow => ("**", 15)

/-- The word of a lazy operator, and its level. -/
def BoolOp.spelling : BoolOp → String × Level
  | .or => ("or", 4)
  | .and => ("and", 5)

/-- The sign or words of a comparison. -/
def CompareOp.spelling : CompareOp → String
  | .eq => "=="
  | .notEq => "!="
  | .lt => "<"
  | .le => "<="
  | .gt => ">"
  | .ge => ">="
  | .is => "is"
  | .isNot => "is not"
  | .isIn => "in"
  | .notIn => "not in"

/-- Numbers in code: infinity is written as a number too large to hold. -/
def numberLayout : NumberLayout := ⟨"nan", "1e309", "-1e309", -3, 16, false⟩

/-- The factor of an imaginary number: an integral one has no point. -/
def imaginaryText (x : Binary64) : String :=
  let s := numberLayout.render x
  (if s.endsWith ".0" then (s.dropEnd 2).toString else s) ++ "j"

/-- The text of a constant. -/
def Constant.render : Constant → String
  | .none => "None"
  | .bool b => if b then "True" else "False"
  | .int n => Text.ofNat n
  | .float x => numberLayout.render x
  | .imaginary x => imaginaryText x
  | .text s marked => (if marked then "u" else "") ++ Text.quoted s
  | .bytes b => Text.quotedBytes b
  | .ellipsis => "..."

/-- Whether a constant followed by a dot would read as a number with a fraction. -/
def Constant.isInteger : Constant → Bool
  | .int _ | .bool _ => true
  | _ => false

/-- Texts with a comma and a space between them. -/
def joinComma (parts : List String) : String := String.intercalate ", " parts

/-- Texts as the items of a tuple: a lone item is followed by a comma. -/
def joinItems : List String → String
  | [s] => s ++ ","
  | ss => joinComma ss

/-- Puts a text in round brackets where a place asks for them. -/
def bracketed (needed : Bool) (s : String) : String := if needed then "(" ++ s ++ ")" else s

/-- The parameter list of a function from the texts of its parameters with their defaults. -/
def joinParams (ps : List (ParamKind × String)) : String :=
  joinComma (ps.map fun (kind, s) =>
    match kind with
    | .rest => "*" ++ s
    | .keywords => "**" ++ s
    | .positionalOnly => "/"
    | _ => s)

/-- Doubles the braces of a formatted string's text. -/
def doubleBraces (s : String) : String :=
  String.ofList (s.toList.flatMap fun c => if c == '\x7b' || c == '\x7d' then [c, c] else [c])

/-- The quotes a string may stand in, preferred ones first. -/
def quoteMarks : List String := ["'", "\"", "\"\"\"", "'''"]

/-- A character of a formatted string; line breaks and tabs are escaped in text only. -/
def formattedChar (inText : Bool) (c : Char) : List Char :=
  if !inText && (c == '\n' || c == '\t') then [c]
  else if c == '\\' then ['\\', '\\']
  else if c == '\n' then ['\\', 'n']
  else if c == '\r' then ['\\', 'r']
  else if c == '\t' then ['\\', 't']
  else if Text.isPrintable c then [c]
  else Text.escapeCode c.val.toNat

/-- Whether a text occurs in another. -/
def occursIn (pattern s : String) : Bool := (s.splitOn pattern).length > 1

/-- Quotes whose first character does not end a text come first. -/
def preferQuotes (last : Option Char) (marks : List String) : List String :=
  let clashes := fun (q : String) => q.toList.head? == last
  marks.filter (fun q => !clashes q) ++ marks.filter clashes

/-- Adds a part of a formatted string to its text and narrows the quotes it can stand in. A part
    that fits no quote is escaped for the first one. -/
def addFormatted (acc : String × List String) (part : String × Bool) : String × List String :=
  let body := String.ofList (part.1.toList.flatMap (formattedChar part.2))
  let fitting := acc.2.filter fun q =>
    !occursIn q body && (!body.toList.contains '\n' || q.length == 3)
  if fitting.isEmpty then
    let shown := (Text.quoted part.1).toList
    let quote := shown.take 1
    let marks := acc.2.filter fun q => q.toList.take 1 == quote
    (acc.1 ++ String.ofList ((shown.drop 1).dropLast),
      if marks.isEmpty then [String.ofList quote] else marks.take 1)
  else
    let marks := if body.isEmpty then fitting else preferQuotes body.toList.getLast? fitting
    match marks.head?.bind (·.toList.head?), body.toList.getLast? with
    | some q, some l =>
      if q == l then (acc.1 ++ String.ofList (body.toList.dropLast ++ ['\\', l]), marks)
      else (acc.1 ++ body, marks)
    | _, _ => (acc.1 ++ body, marks)

/-- A formatted string from its parts, each marked as text or as a replacement field. -/
def quoteFormatted (parts : List (String × Bool)) : String :=
  let (body, marks) := parts.foldl addFormatted ("", quoteMarks)
  let q := marks.headD "'"
  "f" ++ q ++ body ++ q

/-- A replacement field; a space keeps an opening brace of the value apart from the field's. -/
def fieldText (value : String) (conversion : Option Char) (format : Option String) : String :=
  "\x7b" ++ (if value.startsWith "\x7b" then " " else "") ++ value ++
    (match conversion with
      | some c => "!" ++ c.toString
      | none => "") ++
    (match format with
      | some f => ":" ++ f
      | none => "") ++
    "\x7d"

mutual

/-- The text of an expression at a place that asks for a level. -/
def Expr.render : Level → Expr → String
  | _, .constant c => c.render
  | _, .formatted parts => quoteFormatted (formatTexts parts)
  | _, .name s => s
  | _, .attribute (.constant c) name =>
    c.render ++ (if c.isInteger then " ." else ".") ++ name
  | _, .attribute e name => Expr.render Level.atom e ++ "." ++ name
  | _, .subscript e (.tuple (i :: is)) =>
    Expr.render Level.atom e ++ "[" ++ joinItems (renderAll (i :: is)) ++ "]"
  | _, .subscript e index => Expr.render Level.atom e ++ "[" ++ Expr.render Level.test index ++ "]"
  | _, .slice low high step =>
    renderOptional "" low ++ ":" ++ renderOptional "" high ++ renderOptional ":" step
  | _, .call f args keywords =>
    Expr.render Level.atom f ++ "(" ++ joinComma (renderAll args ++ renderKeywords keywords) ++ ")"
  | l, .unary op e =>
    let (s, own) := op.spelling
    bracketed (l > own) (s ++ Expr.render own e)
  | l, .binary op a b =>
    let (s, own) := op.spelling
    let rightFirst := op == .pow
    bracketed (l > own)
      (Expr.render (if rightFirst then own.next else own) a ++ " " ++ s ++ " " ++
        Expr.render (if rightFirst then own else own.next) b)
  | l, .boolean op es =>
    let (s, own) := op.spelling
    bracketed (l > own) (String.intercalate (" " ++ s ++ " ") (renderRising own.next es))
  | l, .compare first rest =>
    bracketed (l > Level.comparison)
      (Expr.render Level.operand first ++ String.join (renderComparisons rest))
  | l, .conditional test body orElse =>
    bracketed (l > Level.test)
      (Expr.render (Level.next Level.test) body ++ " if " ++
        Expr.render (Level.next Level.test) test ++ " else " ++ Expr.render Level.test orElse)
  | l, .lambda ps body =>
    bracketed (l > Level.test)
      ("lambda" ++ (if ps.isEmpty then "" else " " ++ joinParams (renderParams ps)) ++ ": " ++
        Expr.render Level.test body)
  | _, .list es => "[" ++ joinComma (renderAll es) ++ "]"
  | l, .tuple es => bracketed (es.isEmpty || l > Level.tuple) (joinItems (renderAll es))
  | _, .set es => "\x7b" ++ joinComma (renderAll es) ++ "\x7d"
  | _, .dict es => "\x7b" ++ joinComma (renderEntries es) ++ "\x7d"
  | _, .comprehension kind e cs =>
    let body := Expr.render Level.test e ++ String.join (renderClauses cs)
    match kind with
    | .list => "[" ++ body ++ "]"
    | .set => "\x7b" ++ body ++ "\x7d"
    | .generator => "(" ++ body ++ ")"
  | _, .dictComprehension k v cs =>
    "\x7b" ++ Expr.render Level.test k ++ ": " ++ Expr.render Level.test v ++
      String.join (renderClauses cs) ++ "\x7d"
  | _, .starred e => "*" ++ Expr.render Level.operand e
  | l, .assigned name e =>
    bracketed (l > Level.named) (name ++ " := " ++ Expr.render Level.atom e)
  | l, .await e => bracketed (l > Level.awaited) ("await " ++ Expr.render Level.atom e)
  | l, .yield none => bracketed (l > Level.yields) "yield"
  | l, .yield (some e) => bracketed (l > Level.yields) ("yield " ++ Expr.render Level.atom e)
  | l, .yieldFrom e => bracketed (l > Level.yields) ("yield from " ++ Expr.render Level.atom e)

/-- The texts of expressions at ordinary places. -/
def renderAll : List Expr → List String
  | [] => []
  | e :: es => Expr.render Level.test e :: renderAll es

/-- The text of an expression that may be missing, after a mark. -/
def renderOptional (mark : String) : Option Expr → String
  | none => ""
  | some e => mark ++ Expr.render Level.test e

/-- The texts of keyword arguments and of mappings to unpack. -/
def renderKeywords : List (Option String × Expr) → List String
  | [] => []
  | (some k, e) :: es => (k ++ "=" ++ Expr.render Level.test e) :: renderKeywords es
  | (none, e) :: es => ("**" ++ Expr.render Level.test e) :: renderKeywords es

/-- The texts of operands each of which asks for a tighter level than the one before. -/
def renderRising (l : Level) : List Expr → List String
  | [] => []
  | e :: es => Expr.render l e :: renderRising l.next es

/-- The texts of comparisons after a first operand. -/
def renderComparisons : List (CompareOp × Expr) → List String
  | [] => []
  | (op, e) :: es =>
    (" " ++ op.spelling ++ " " ++ Expr.render Level.operand e) :: renderComparisons es

/-- The texts of parameters. -/
def renderParams : List Param → List (ParamKind × String)
  | [] => []
  | .mk kind name typeNote default :: ps =>
    (kind, name ++ renderOptional ": " typeNote ++ renderOptional "=" default) :: renderParams ps

/-- The texts of a mapping's entries. -/
def renderEntries : List (Option Expr × Expr) → List String
  | [] => []
  | (some k, v) :: es =>
    (Expr.render Level.test k ++ ": " ++ Expr.render Level.test v) :: renderEntries es
  | (none, v) :: es => ("**" ++ Expr.render Level.operand v) :: renderEntries es

/-- The texts of the loops of a comprehension. -/
def renderClauses : List Clause → List String
  | [] => []
  | .mk target source conditions isAsync :: cs =>
    ((if isAsync then " async for " else " for ") ++ Expr.render Level.tuple target ++ " in " ++
      Expr.render (Level.next Level.test) source ++ renderConditions conditions) :: renderClauses cs

/-- The text of the conditions of a loop. -/
def renderConditions : List Expr → String
  | [] => ""
  | e :: es => " if " ++ Expr.render (Level.next Level.test) e ++ renderConditions es

/-- The parts of a formatted string, each marked as text or not. -/
def formatTexts : List FormatPart → List (String × Bool)
  | [] => []
  | .text s :: ps => (doubleBraces s, true) :: formatTexts ps
  | .field e conversion format :: ps =>
    (fieldText (Expr.render (Level.next Level.test) e) conversion (formatOptional format), false) ::
      formatTexts ps

/-- The text of a format that may be missing. -/
def formatOptional : Option (List FormatPart) → Option String
  | none => none
  | some ps => some (String.join ((formatTexts ps).map (·.1)))

end

end SessionScript.Code
