import SessionScript.Code.Token
import SessionScript.Text.Digits
import SessionScript.Text.Identifier

/-!
# Lexer of code

Cuts code into tokens. Line breaks count outside brackets only; the depth of each line that holds
code is compared with the depths of the open blocks.
-/

namespace SessionScript.Code.Token

/-- Removes a given start from a text. -/
def dropLead : List Char → List Char → Option (List Char)
  | [], cs => some cs
  | l :: ls, c :: cs => if l == c then dropLead ls cs else none
  | _ :: _, [] => none

/-- Whether a text starts with a given one. -/
def startsWith (lead cs : List Char) : Bool := (dropLead lead cs).isSome

/-- Digits of a class, each underscore between two of them, after at least one digit. Gives the
    digits without underscores and the rest; a lone underscore is a fault. -/
def digitRun (p : Char → Bool) : List Char → Except GrammarError (List Char × List Char)
  | c :: '_' :: d :: cs =>
    if p c then
      if p d then do
        let (ds, rest) ← digitRun p (d :: cs)
        return (c :: ds, rest)
      else .error .invalid
    else .ok ([], c :: '_' :: d :: cs)
  | [c, '_'] => if p c then .error .invalid else .ok ([], [c, '_'])
  | c :: cs =>
    if p c then do
      let (ds, rest) ← digitRun p cs
      return (c :: ds, rest)
    else .ok ([], c :: cs)
  | [] => .ok ([], [])

/-- Whether a number may end before the rest: no identifier character follows, unless it starts
    a keyword that may stand right after a number. -/
def numberMayEnd : List Char → Bool
  | [] => true
  | c :: cs =>
    if !(Text.isIdentifierPart c || 0x80 ≤ c.val.toNat) then true
    else
      ["and", "else", "for", "if", "in", "is", "not", "or"].any fun k =>
        startsWith k.toList (c :: cs)

/-- The digits of a number in a base that is a power of two, after its marker. -/
def basedNumber (base : Nat) (cs : List Char) : Except GrammarError (Number × List Char) := do
  let cs := match cs with
    | '_' :: rest => rest
    | _ => cs
  let (ds, rest) ← digitRun (fun c => (Text.digitValue? base c).isSome) cs
  match Text.number? base ds with
  | some n => if numberMayEnd rest then return (.int n, rest) else .error .invalid
  | none => .error .invalid

/-- The exponent of a decimal number, if the text starts with one. -/
def exponent? (cs : List Char) : Except GrammarError (Option (Int × List Char)) := do
  match cs with
  | e :: rest =>
    if e == 'e' || e == 'E' then
      let (negative, digitsAt) := match rest with
        | '-' :: r => (true, r)
        | '+' :: r => (false, r)
        | _ => (false, rest)
      match digitsAt with
      | d :: _ =>
        if Text.isAsciiDigit d then
          let (ds, after) ← digitRun Text.isAsciiDigit digitsAt
          let n : Int := (Text.number? 10 ds).getD 0
          return some (if negative then -n else n, after)
        else return none
      | [] => return none
    else return none
  | [] => return none

/-- The most decimal digits that an integer may be written with. -/
def maxIntegerDigits : Nat := 4300

/-- A whole number in decimal digits: no zero in front, unless it is zero. -/
def wholeNumber (ds rest : List Char) : Except GrammarError (Number × List Char) :=
  if ds.length > maxIntegerDigits then .error .invalid
  else if ds.head? == some '0' && ds.any (· != '0') then .error .invalid
  else .ok (.int ((Text.number? 10 ds).getD 0), rest)

/-- A number that starts with a decimal digit or a point. -/
def decimalNumber (cs : List Char) : Except GrammarError (Number × List Char) := do
  let (whole, rest) ← digitRun Text.isAsciiDigit cs
  let (fraction, pointed, rest) ← match rest with
    | '.' :: r => do
      let (ds, r) ← digitRun Text.isAsciiDigit r
      pure (ds, true, r)
    | _ => pure ([], false, rest)
  let ex ← exponent? rest
  let (power, rest) := match ex with
    | some (n, r) => (n, r)
    | none => ((0 : Int), rest)
  let value := Binary64.ofDecimal false ((Text.number? 10 (whole ++ fraction)).getD 0)
    (power - fraction.length)
  match rest with
  | 'j' :: after | 'J' :: after =>
    if numberMayEnd after then return (.imaginary value, after) else .error .invalid
  | _ =>
    if !numberMayEnd rest then .error .invalid
    else if pointed || ex.isSome then return (.float value, rest)
    else wholeNumber whole rest

/-- A number at the start of a text. -/
def lexNumber : List Char → Except GrammarError (Number × List Char)
  | '0' :: 'x' :: cs | '0' :: 'X' :: cs => basedNumber 16 cs
  | '0' :: 'o' :: cs | '0' :: 'O' :: cs => basedNumber 8 cs
  | '0' :: 'b' :: cs | '0' :: 'B' :: cs => basedNumber 2 cs
  | cs => decimalNumber cs

/-- The marks that letters in front of a quote set, if they may stand there. -/
def stringMark? (letters : String) : Option StringMark :=
  match letters.toLower with
  | "" => some ⟨false, false, false, false⟩
  | "r" => some ⟨true, false, false, false⟩
  | "u" => some ⟨false, false, false, true⟩
  | "b" => some ⟨false, true, false, false⟩
  | "br" | "rb" => some ⟨true, true, false, false⟩
  | "f" => some ⟨false, false, true, false⟩
  | "fr" | "rf" => some ⟨true, false, true, false⟩
  | _ => none

/-- The body of a string up to a lone quote on the same line. A backslash keeps the character
    after it in the body. -/
def shortBody (quote : Char) : List Char → Option (List Char × List Char)
  | [] => none
  | '\\' :: c :: cs => (shortBody quote cs).map fun (b, rest) => ('\\' :: c :: b, rest)
  | c :: cs =>
    if c == quote then some ([], cs)
    else if c == '\n' then none
    else (shortBody quote cs).map fun (b, rest) => (c :: b, rest)

/-- The body of a string up to three quotes in a row. -/
def longBody (quote : Char) : List Char → Option (List Char × List Char)
  | [] => none
  | '\\' :: c :: cs => (longBody quote cs).map fun (b, rest) => ('\\' :: c :: b, rest)
  | c :: cs =>
    if startsWith [quote, quote, quote] (c :: cs) then some ([], cs.drop 2)
    else (longBody quote cs).map fun (b, rest) => (c :: b, rest)

/-- A string whose opening quote starts the text. -/
def lexString (mark : StringMark) (quote : Char) (cs : List Char) :
    Except GrammarError (Token × List Char) :=
  let body :=
    if startsWith [quote, quote, quote] cs then longBody quote (cs.drop 3)
    else shortBody quote (cs.drop 1)
  match body with
  | some (b, rest) => .ok (.string mark b, rest)
  | none => .error .invalid

/-- The first operator of a list that starts the text. -/
def lexOperator (cs : List Char) : Option (String × List Char) :=
  operators.findSome? fun o => (dropLead o.toList cs).map fun rest => (o, rest)

/-- The depth of a line: with tabs that reach the next multiple of eight, and with tabs that count
    as one. A form feed starts over. -/
def lineDepth : Nat → Nat → List Char → Nat × Nat × List Char
  | col, alt, ' ' :: cs => lineDepth (col + 1) (alt + 1) cs
  | col, alt, '\t' :: cs => lineDepth ((col / 8 + 1) * 8) (alt + 1) cs
  | col, alt, c :: cs =>
    if c.val.toNat == 12 then lineDepth 0 0 cs else (col, alt, c :: cs)
  | col, alt, [] => (col, alt, [])

/-- Closes blocks down to a depth that one of them has. -/
def dedents (col alt : Nat) : List (Nat × Nat) → Except GrammarError (List Token × List (Nat × Nat))
  | [] => .error .indentation
  | (c, a) :: outer =>
    if c = col then if a = alt then .ok ([], (c, a) :: outer) else .error .tabs
    else if col < c then do
      let (ts, open') ← dedents col alt outer
      return (.dedent :: ts, open')
    else .error .indentation

/-- The tokens that the depth of a line gives, with the depths of the blocks open after it. -/
def layout (col alt : Nat) (blocks : List (Nat × Nat)) :
    Except GrammarError (List Token × List (Nat × Nat)) :=
  match blocks with
  | (c, a) :: _ =>
    if c < col then
      if a < alt then
        if blocks.length < 100 then .ok ([.indent], (col, alt) :: blocks) else .error .indentation
      else .error .tabs
    else dedents col alt blocks
  | [] => .ok ([], [(col, alt)])

/-- Where the lexer stands: the number of open brackets, the depths of the open blocks, whether a
    line starts here, and whether the current line has a token. -/
structure Position where
  brackets : Nat
  blocks : List (Nat × Nat)
  atLineStart : Bool
  lineHasToken : Bool
  deriving DecidableEq, Repr

/-- The greatest number of open brackets. -/
def maxBrackets : Nat := 200

/-- The tokens after the last character: the line ends and every open block closes. -/
def finish (p : Position) : List Token :=
  (if p.lineHasToken then [.newline] else []) ++ List.replicate (p.blocks.length - 1) .dedent

/-- The tokens of a text. The first argument exceeds the number of its characters. -/
def lexFrom : Nat → Position → List Char → Except GrammarError (List Token)
  | 0, p, _ => .ok (finish p)
  | fuel + 1, p, cs =>
    if p.atLineStart then
      let (col, alt, rest) := lineDepth 0 0 cs
      match rest with
      | [] => .ok (finish p)
      | '\n' :: after => lexFrom fuel p after
      | '#' :: after => lexFrom fuel p ((after.dropWhile (· != '\n')).drop 1)
      | _ => do
        let (ts, blocks) ← layout col alt p.blocks
        return ts ++ (← lexFrom fuel ⟨0, blocks, false, false⟩ rest)
    else
      let token := { p with lineHasToken := true }
      match cs with
      | [] => .ok (finish p)
      | ' ' :: rest | '\t' :: rest => lexFrom fuel p rest
      | '#' :: rest => lexFrom fuel p (rest.dropWhile (· != '\n'))
      | '\n' :: rest =>
        if 0 < p.brackets then lexFrom fuel p rest
        else do
          let ts ← lexFrom fuel ⟨0, p.blocks, true, false⟩ rest
          return if p.lineHasToken then .newline :: ts else ts
      | '\\' :: '\n' :: rest => if rest.isEmpty then .error .invalid else lexFrom fuel p rest
      | c :: rest =>
        if c.val.toNat == 12 then lexFrom fuel p rest
        else if c == '"' || c == '\'' then do
          let (t, rest) ← lexString ⟨false, false, false, false⟩ c (c :: rest)
          return t :: (← lexFrom fuel token rest)
        else if Text.isIdentifierStart c then
          let letters := (c :: rest).takeWhile Text.isIdentifierPart
          let after := (c :: rest).dropWhile Text.isIdentifierPart
          let name := String.ofList letters
          match after, stringMark? name with
          | q :: _, some mark =>
            if q == '"' || q == '\'' then do
              let (t, rest) ← lexString mark q after
              return t :: (← lexFrom fuel token rest)
            else do return .name name :: (← lexFrom fuel token after)
          | _, _ => do return .name name :: (← lexFrom fuel token after)
        else if Text.isAsciiDigit c || (c == '.' && (rest.head?.map Text.isAsciiDigit).getD false)
        then do
          let (n, rest) ← lexNumber (c :: rest)
          return .number n :: (← lexFrom fuel token rest)
        else
          match lexOperator (c :: rest) with
          | none => .error .invalid
          | some (o, rest) =>
            if o == "(" || o == "[" || o == "\x7b" then
              if p.brackets < maxBrackets then do
                return .op o :: (← lexFrom fuel { token with brackets := p.brackets + 1 } rest)
              else .error .invalid
            else if o == ")" || o == "]" || o == "\x7d" then do
              return .op o :: (← lexFrom fuel { token with brackets := p.brackets - 1 } rest)
            else do return .op o :: (← lexFrom fuel token rest)

/-- Every line break as a line feed. -/
def normalizeBreaks : List Char → List Char
  | '\r' :: '\n' :: cs => '\n' :: normalizeBreaks cs
  | '\r' :: cs => '\n' :: normalizeBreaks cs
  | c :: cs => c :: normalizeBreaks cs
  | [] => []

/-- The tokens of a piece of code. -/
def lex (code : List Char) : Except GrammarError (List Token) :=
  let cs := normalizeBreaks code
  lexFrom (2 * cs.length + 2) ⟨0, [(0, 0)], true, false⟩ cs

end SessionScript.Code.Token
