import SessionScript.Code.Escape
import SessionScript.Code.Token.Lexer
import SessionScript.Code.Tree
import SessionScript.Text.NormalForm

/-!
# Expressions from tokens

The grammar of expressions. Every function reads one construct from the front of a token list and
gives the tokens after it. Operators are read by precedence climbing; each function is bounded
by a number that the wrappers choose larger than any nesting of the input. A word that is not
reserved as it is written is a name, and names are kept in their normal form.
-/

namespace SessionScript.Code.Expr

/-- The input fits no rule. -/
def fail {α : Type} : Except GrammarError α := .error .invalid

/-- Reads an operator. -/
def expectOp (o : String) : List Token → Except GrammarError (List Token)
  | .op s :: ts => if s == o then .ok ts else .error .invalid
  | _ => .error .invalid

/-- Reads a keyword. -/
def expectWord (w : String) : List Token → Except GrammarError (List Token)
  | .name s :: ts => if s == w then .ok ts else .error .invalid
  | _ => .error .invalid

/-- Whether an operator comes next. -/
def nextIs (o : String) : List Token → Bool
  | .op s :: _ => s == o
  | _ => false

/-- Whether a keyword comes next. -/
def nextIsWord (w : String) : List Token → Bool
  | .name s :: _ => s == w
  | _ => false

/-- Whether a comprehension clause comes next. -/
def nextIsClause : List Token → Bool
  | .name a :: .name b :: _ => a == "for" || (a == "async" && b == "for")
  | .name a :: _ => a == "for"
  | _ => false

/-- A binary operator with its precedence, a higher one binding more tightly. -/
def binaryOp? : String → Option (BinaryOp × Nat)
  | "|" => some (.bitOr, 1)
  | "^" => some (.bitXor, 2)
  | "&" => some (.bitAnd, 3)
  | "<<" => some (.shiftLeft, 4)
  | ">>" => some (.shiftRight, 4)
  | "+" => some (.add, 5)
  | "-" => some (.sub, 5)
  | "*" => some (.mul, 6)
  | "/" => some (.div, 6)
  | "//" => some (.floorDiv, 6)
  | "%" => some (.mod, 6)
  | "@" => some (.matMul, 6)
  | _ => none

/-- A comparison at the front of a token list. -/
def compareOp? : List Token → Option (CompareOp × List Token)
  | .op "==" :: ts => some (.eq, ts)
  | .op "!=" :: ts => some (.notEq, ts)
  | .op "<=" :: ts => some (.le, ts)
  | .op "<" :: ts => some (.lt, ts)
  | .op ">=" :: ts => some (.ge, ts)
  | .op ">" :: ts => some (.gt, ts)
  | .name "not" :: .name "in" :: ts => some (.notIn, ts)
  | .name "in" :: ts => some (.isIn, ts)
  | .name "is" :: .name "not" :: ts => some (.isNot, ts)
  | .name "is" :: ts => some (.is, ts)
  | _ => none

mutual

/-- Whether an expression may be assigned to. -/
def isTarget : Expr → Bool
  | .name _ | .attribute _ _ | .subscript _ _ => true
  | .starred e => isPlainTarget e
  | .tuple es => areTargets es
  | .list es => areTargets es
  | _ => false

/-- Whether an expression other than a starred one may be assigned to. -/
def isPlainTarget : Expr → Bool
  | .name _ | .attribute _ _ | .subscript _ _ => true
  | .tuple es => areTargets es
  | .list es => areTargets es
  | _ => false

/-- Whether every expression may be assigned to. -/
def areTargets : List Expr → Bool
  | [] => true
  | e :: es => isTarget e && areTargets es

end

/-- Joins a text to the parts of a formatted string. -/
def addText (s : String) : List FormatPart → List FormatPart
  | .text t :: ps => .text (s ++ t) :: ps
  | ps => if s.isEmpty then ps else .text s :: ps

/-- Whether a character of a replacement field opens or closes a bracket, as a step of the depth. -/
def bracketStep (c : Char) : Int :=
  if c == '(' || c == '[' || c == '\x7b' then 1
  else if c == ')' || c == ']' || c == '\x7d' then -1
  else 0

/-- The greatest number of formats that a replacement field may lie inside of. -/
def deepestField : Nat := 2

/-- Where a part of a formatted string lies: whether its backslashes stand for themselves, and the
    number of formats around it. -/
structure FormatPlace where
  raw : Bool
  level : Nat := 0

/-- What a formatted string goes on with: its end, characters of its own, a field after its opening
    brace, or a brace that stands for nothing. -/
inductive FormatHead where
  | finished
  | plain (cs rest : List Char)
  | field (rest : List Char)
  | stray

/-- What a formatted string goes on with that lies inside a number of formats. Only outside of all
    of them a brace is written twice. -/
def formatHead (level : Nat) (cs : List Char) : FormatHead :=
  let isBrace := fun (c : Char) => c == '\x7b' || c == '\x7d'
  match cs with
  | [] => .finished
  | c :: rest =>
    if !isBrace c then
      let own := cs.takeWhile fun c => !isBrace c
      .plain own (cs.drop own.length)
    else if level == 0 && rest.head? == some c then .plain [c] (rest.drop 1)
    else if c == '\x7b' && level ≤ deepestField then .field rest
    else .stray

/-- What came before a parameter: a star, a parameter with a default, any parameter, and a slash. -/
structure ParamsSoFar where
  star : Bool := false
  default : Bool := false
  plain : Bool := false
  slash : Bool := false

/-- The source of a replacement field's expression and what follows it: the conversion, the
    format or the closing brace. Brackets and strings inside the expression are passed over. -/
def fieldSource : Nat → Int → Option Char → List Char → Option (List Char × List Char)
  | 0, _, _, _ => none
  | _, _, _, [] => none
  | fuel + 1, depth, some q, c :: cs =>
    (fieldSource fuel depth (if c == q then none else some q) cs).map fun (e, r) => (c :: e, r)
  | fuel + 1, depth, none, c :: cs =>
    let stops := depth == 0 &&
      (c == ':' || c == '\x7d' || (c == '!' && cs.head? != some '=') ||
        (c == '=' && cs.head? != some '='))
    let twoSigns := match c :: cs with
      | '!' :: '=' :: _ | '=' :: '=' :: _ | '<' :: '=' :: _ | '>' :: '=' :: _ => true
      | _ => false
    if twoSigns then
      (fieldSource fuel depth none (cs.drop 1)).map fun (e, r) => (c :: '=' :: e, r)
    else if stops then some ([], c :: cs)
    else
      let quote := if c == '"' || c == '\'' then some c else none
      (fieldSource fuel (depth + bracketStep c) quote cs).map fun (e, r) => (c :: e, r)

/-- Parts in front of parts; texts that meet are joined. -/
def joinParts : List FormatPart → List FormatPart → List FormatPart
  | [], more => more
  | .text s :: ps, more => addText s (joinParts ps more)
  | p :: ps, more => p :: joinParts ps more

/-- The format of a replacement field up to the brace that closes the field. -/
def formatEnd : Nat → List Char → Option (List Char × List Char)
  | _, [] => none
  | depth, c :: cs =>
    if c == '\x7b' then (formatEnd (depth + 1) cs).map fun (a, r) => (c :: a, r)
    else if c == '\x7d' then
      match depth with
      | 0 => some ([], cs)
      | d + 1 => (formatEnd d cs).map fun (a, r) => (c :: a, r)
    else (formatEnd depth cs).map fun (a, r) => (c :: a, r)

mutual

/-- An expression: a conditional, a function or a disjunction. -/
def readExpr : Nat → List Token → Except GrammarError (Expr × List Token)
  | 0, _ => fail
  | n + 1, ts =>
    if nextIsWord "lambda" ts then do
      let (ps, ts) ← readParams n false ":" (ts.drop 1)
      let ts ← expectOp ":" ts
      let (body, ts) ← readExpr n ts
      return (.lambda ps body, ts)
    else do
      let (body, ts) ← readOr n ts
      if nextIsWord "if" ts then
        let (test, ts) ← readOr n (ts.drop 1)
        let ts ← expectWord "else" ts
        let (orElse, ts) ← readExpr n ts
        return (.conditional test body orElse, ts)
      else return (body, ts)

/-- An expression that may name its value. -/
def readNamed : Nat → List Token → Except GrammarError (Expr × List Token)
  | 0, _ => fail
  | n + 1, ts =>
    match ts with
    | .name s :: .op ":=" :: rest =>
      if isKeyword s then fail
      else do
        let (e, rest) ← readExpr n rest
        return (.assigned (Text.normalForm s) e, rest)
    | _ => readExpr n ts

/-- A named expression or a starred one. -/
def readStarNamed : Nat → List Token → Except GrammarError (Expr × List Token)
  | 0, _ => fail
  | n + 1, ts =>
    if nextIs "*" ts then do
      let (e, ts) ← readBinary n 1 (ts.drop 1)
      return (.starred e, ts)
    else readNamed n ts

/-- Operands between `or`. -/
def readOr : Nat → List Token → Except GrammarError (Expr × List Token)
  | 0, _ => fail
  | n + 1, ts => do
    let (first, ts) ← readAnd n ts
    if nextIsWord "or" ts then
      let (more, ts) ← readOrRest n ts
      return (.boolean .or (first :: more), ts)
    else return (first, ts)

/-- The later operands between `or`. -/
def readOrRest : Nat → List Token → Except GrammarError (List Expr × List Token)
  | 0, _ => fail
  | n + 1, ts =>
    if nextIsWord "or" ts then do
      let (e, ts) ← readAnd n (ts.drop 1)
      let (es, ts) ← readOrRest n ts
      return (e :: es, ts)
    else .ok ([], ts)

/-- Operands between `and`. -/
def readAnd : Nat → List Token → Except GrammarError (Expr × List Token)
  | 0, _ => fail
  | n + 1, ts => do
    let (first, ts) ← readNot n ts
    if nextIsWord "and" ts then
      let (more, ts) ← readAndRest n ts
      return (.boolean .and (first :: more), ts)
    else return (first, ts)

/-- The later operands between `and`. -/
def readAndRest : Nat → List Token → Except GrammarError (List Expr × List Token)
  | 0, _ => fail
  | n + 1, ts =>
    if nextIsWord "and" ts then do
      let (e, ts) ← readNot n (ts.drop 1)
      let (es, ts) ← readAndRest n ts
      return (e :: es, ts)
    else .ok ([], ts)

/-- A negation or a comparison. -/
def readNot : Nat → List Token → Except GrammarError (Expr × List Token)
  | 0, _ => fail
  | n + 1, ts =>
    if nextIsWord "not" ts then do
      let (e, ts) ← readNot n (ts.drop 1)
      return (.unary .not e, ts)
    else do
      let (first, ts) ← readBinary n 1 ts
      let (rest, ts) ← readComparisons n ts
      return (if rest.isEmpty then first else .compare first rest, ts)

/-- The comparisons after a first operand. -/
def readComparisons : Nat → List Token → Except GrammarError (List (CompareOp × Expr) × List Token)
  | 0, _ => fail
  | n + 1, ts =>
    match compareOp? ts with
    | some (op, ts) => do
      let (e, ts) ← readBinary n 1 ts
      let (more, ts) ← readComparisons n ts
      return ((op, e) :: more, ts)
    | none => .ok ([], ts)

/-- Operands between binary operators of a precedence or a higher one. -/
def readBinary : Nat → Nat → List Token → Except GrammarError (Expr × List Token)
  | 0, _, _ => fail
  | n + 1, level, ts => do
    let (first, ts) ← readUnary n ts
    readBinaryRest n level first ts

/-- Binary operators after a left operand, each taking the operators that bind more tightly into
    its right operand. -/
def readBinaryRest : Nat → Nat → Expr → List Token → Except GrammarError (Expr × List Token)
  | 0, _, _, _ => fail
  | n + 1, level, left, ts =>
    match ts with
    | .op o :: rest =>
      match binaryOp? o with
      | some (op, own) =>
        if level ≤ own then do
          let (right, rest) ← readBinary n (own + 1) rest
          readBinaryRest n level (.binary op left right) rest
        else .ok (left, ts)
      | none => .ok (left, ts)
    | _ => .ok (left, ts)

/-- Signs in front of a power. -/
def readUnary : Nat → List Token → Except GrammarError (Expr × List Token)
  | 0, _ => fail
  | n + 1, ts =>
    match ts with
    | .op "-" :: rest => do
      let (e, rest) ← readUnary n rest
      return (.unary .neg e, rest)
    | .op "+" :: rest => do
      let (e, rest) ← readUnary n rest
      return (.unary .pos e, rest)
    | .op "~" :: rest => do
      let (e, rest) ← readUnary n rest
      return (.unary .invert e, rest)
    | _ => do
      let (base, ts) ← readAwait n ts
      if nextIs "**" ts then
        let (power, ts) ← readUnary n (ts.drop 1)
        return (.binary .pow base power, ts)
      else return (base, ts)

/-- A primary expression, awaited or not. -/
def readAwait : Nat → List Token → Except GrammarError (Expr × List Token)
  | 0, _ => fail
  | n + 1, ts =>
    if nextIsWord "await" ts then do
      let (e, ts) ← readPrimary n (ts.drop 1)
      return (.await e, ts)
    else readPrimary n ts

/-- An atom with the calls, attributes and subscripts after it. -/
def readPrimary : Nat → List Token → Except GrammarError (Expr × List Token)
  | 0, _ => fail
  | n + 1, ts => do
    let (e, ts) ← readAtom n ts
    readTrailers n e ts

/-- Calls, attributes and subscripts of an expression. -/
def readTrailers : Nat → Expr → List Token → Except GrammarError (Expr × List Token)
  | 0, _, _ => fail
  | n + 1, e, ts =>
    match ts with
    | .op "." :: .name s :: rest =>
      if isKeyword s then fail else readTrailers n (.attribute e (Text.normalForm s)) rest
    | .op "." :: _ => fail
    | .op "(" :: rest => do
      let ((args, keywords), rest) ← readArgs n true false false rest
      readTrailers n (.call e args keywords) rest
    | .op "[" :: rest => do
      let (index, rest) ← readIndex n rest
      let rest ← expectOp "]" rest
      readTrailers n (.subscript e index) rest
    | _ => .ok (e, ts)

/-- The arguments of a call up to its closing bracket. The flags tell whether this is the first
    argument, whether a keyword and whether a mapping to unpack came before. -/
def readArgs : Nat → Bool → Bool → Bool → List Token →
    Except GrammarError ((List Expr × List (Option String × Expr)) × List Token)
  | 0, _, _, _, _ => fail
  | n + 1, first, keyed, unpacked, ts =>
    match ts with
    | .op ")" :: rest => .ok (([], []), rest)
    | .op "**" :: rest => do
      let (e, rest) ← readExpr n rest
      let ((args, keywords), rest) ← readArgsRest n true true rest
      return ((args, (none, e) :: keywords), rest)
    | .op "*" :: rest =>
      if unpacked then fail
      else do
        let (e, rest) ← readExpr n rest
        let ((args, keywords), rest) ← readArgsRest n keyed unpacked rest
        return ((.starred e :: args, keywords), rest)
    | .name s :: .op "=" :: rest =>
      if isKeyword s then fail
      else do
        let (e, rest) ← readExpr n rest
        let ((args, keywords), rest) ← readArgsRest n true unpacked rest
        return ((args, (some (Text.normalForm s), e) :: keywords), rest)
    | _ =>
      if keyed then fail
      else do
        let (e, rest) ← readNamed n ts
        if nextIsClause rest then
          if first then
            let (clauses, rest) ← readClauses n rest
            let rest ← expectOp ")" rest
            return (([.comprehension .generator e clauses], []), rest)
          else fail
        else
          let ((args, keywords), rest) ← readArgsRest n keyed unpacked rest
          return ((e :: args, keywords), rest)

/-- The arguments after one: a comma and more, or the closing bracket. -/
def readArgsRest : Nat → Bool → Bool → List Token →
    Except GrammarError ((List Expr × List (Option String × Expr)) × List Token)
  | 0, _, _, _ => fail
  | n + 1, keyed, unpacked, ts =>
    match ts with
    | .op "," :: rest => readArgs n false keyed unpacked rest
    | .op ")" :: rest => .ok (([], []), rest)
    | _ => fail

/-- What stands inside a subscript: one slice, or several in a tuple. -/
def readIndex : Nat → List Token → Except GrammarError (Expr × List Token)
  | 0, _ => fail
  | n + 1, ts => do
    let (first, ts) ← readSlice n ts
    if nextIs "," ts then
      let (more, ts) ← readIndexRest n ts
      return (.tuple (first :: more), ts)
    else
      match first with
      | .starred _ => return (.tuple [first], ts)
      | _ => return (first, ts)

/-- The later slices of a subscript. -/
def readIndexRest : Nat → List Token → Except GrammarError (List Expr × List Token)
  | 0, _ => fail
  | n + 1, ts =>
    if nextIs "," ts then
      if nextIs "]" (ts.drop 1) then .ok ([], ts.drop 1)
      else do
        let (e, ts) ← readSlice n (ts.drop 1)
        let (es, ts) ← readIndexRest n ts
        return (e :: es, ts)
    else .ok ([], ts)

/-- A slice, a starred expression or an index. -/
def readSlice : Nat → List Token → Except GrammarError (Expr × List Token)
  | 0, _ => fail
  | n + 1, ts =>
    if nextIs ":" ts then readSliceRest n none ts
    else do
      let (e, ts) ← readStarNamed n ts
      match e with
      | .starred _ | .assigned _ _ => return (e, ts)
      | _ => if nextIs ":" ts then readSliceRest n (some e) ts else return (e, ts)

/-- The bounds of a slice from its first colon on. -/
def readSliceRest : Nat → Option Expr → List Token → Except GrammarError (Expr × List Token)
  | 0, _, _ => fail
  | n + 1, low, ts => do
    let ts ← expectOp ":" ts
    let (high, ts) ← readBound n ts
    if nextIs ":" ts then
      let (step, ts) ← readBound n (ts.drop 1)
      return (.slice low high step, ts)
    else return (.slice low high none, ts)

/-- A bound of a slice, which may be missing. -/
def readBound : Nat → List Token → Except GrammarError (Option Expr × List Token)
  | 0, _ => fail
  | n + 1, ts =>
    if nextIs ":" ts || nextIs "]" ts || nextIs "," ts then .ok (none, ts)
    else do
      let (e, ts) ← readExpr n ts
      return (some e, ts)

/-- An atom. -/
def readAtom : Nat → List Token → Except GrammarError (Expr × List Token)
  | 0, _ => fail
  | n + 1, ts =>
    match ts with
    | .name "None" :: rest => .ok (.constant .none, rest)
    | .name "True" :: rest => .ok (.constant (.bool true), rest)
    | .name "False" :: rest => .ok (.constant (.bool false), rest)
    | .name s :: rest => if isKeyword s then fail else .ok (.name (Text.normalForm s), rest)
    | .number (.int k) :: rest => .ok (.constant (.int k), rest)
    | .number (.float x) :: rest => .ok (.constant (.float x), rest)
    | .number (.imaginary x) :: rest => .ok (.constant (.imaginary x), rest)
    | .op "..." :: rest => .ok (.constant .ellipsis, rest)
    | .string mark body :: rest =>
      if mark.bytes then do
        let (b, rest) ← readBytes n (.string mark body :: rest)
        return (.constant (.bytes b), rest)
      else do
        let (isFormatted, parts, rest) ← readStrings n (.string mark body :: rest)
        if isFormatted then return (.formatted parts, rest)
        else
          match parts with
          | [.text s] => return (.constant (.text s mark.unicode), rest)
          | _ => return (.constant (.text "" mark.unicode), rest)
    | .op "(" :: .op ")" :: rest => .ok (.tuple [], rest)
    | .op "(" :: rest =>
      if nextIsWord "yield" rest then do
        let (e, rest) ← readYield n rest
        let rest ← expectOp ")" rest
        return (e, rest)
      else do
        let (first, rest) ← readStarNamed n rest
        let hasStar := match first with
          | .starred _ => true
          | _ => false
        if nextIsClause rest && !hasStar then
          let (clauses, rest) ← readClauses n rest
          let rest ← expectOp ")" rest
          return (.comprehension .generator first clauses, rest)
        else if nextIs "," rest then
          let (more, rest) ← readItemsRest n ")" rest
          return (.tuple (first :: more), rest)
        else if hasStar then fail
        else
          let rest ← expectOp ")" rest
          return (first, rest)
    | .op "[" :: .op "]" :: rest => .ok (.list [], rest)
    | .op "[" :: rest => do
      let (first, rest) ← readStarNamed n rest
      if nextIsClause rest then
        match first with
        | .starred _ => fail
        | _ =>
          let (clauses, rest) ← readClauses n rest
          let rest ← expectOp "]" rest
          return (.comprehension .list first clauses, rest)
      else
        let (more, rest) ← readItemsRest n "]" rest
        return (.list (first :: more), rest)
    | .op "\x7b" :: .op "\x7d" :: rest => .ok (.dict [], rest)
    | .op "\x7b" :: .op "**" :: rest => do
      let (e, rest) ← readBinary n 1 rest
      let (more, rest) ← readEntriesRest n rest
      return (.dict ((none, e) :: more), rest)
    | .op "\x7b" :: rest => do
      let (first, rest) ← readStarNamed n rest
      let keyLike := match first with
        | .starred _ | .assigned _ _ => false
        | _ => true
      if keyLike && nextIs ":" rest then
        let (value, rest) ← readExpr n (rest.drop 1)
        if nextIsClause rest then
          let (clauses, rest) ← readClauses n rest
          let rest ← expectOp "\x7d" rest
          return (.dictComprehension first value clauses, rest)
        else
          let (more, rest) ← readEntriesRest n rest
          return (.dict ((some first, value) :: more), rest)
      else if nextIsClause rest then
        match first with
        | .starred _ => fail
        | _ =>
          let (clauses, rest) ← readClauses n rest
          let rest ← expectOp "\x7d" rest
          return (.comprehension .set first clauses, rest)
      else
        let (more, rest) ← readItemsRest n "\x7d" rest
        return (.set (first :: more), rest)
    | _ => fail

/-- The items after the first up to a closing bracket. -/
def readItemsRest : Nat → String → List Token → Except GrammarError (List Expr × List Token)
  | 0, _, _ => fail
  | n + 1, close, ts =>
    if nextIs close ts then .ok ([], ts.drop 1)
    else if nextIs "," ts then
      if nextIs close (ts.drop 1) then .ok ([], ts.drop 2)
      else do
        let (e, ts) ← readStarNamed n (ts.drop 1)
        let (es, ts) ← readItemsRest n close ts
        return (e :: es, ts)
    else fail

/-- The entries of a mapping after the first up to the closing brace. -/
def readEntriesRest : Nat → List Token →
    Except GrammarError (List (Option Expr × Expr) × List Token)
  | 0, _ => fail
  | n + 1, ts =>
    match ts with
    | .op "\x7d" :: rest => .ok ([], rest)
    | .op "," :: .op "\x7d" :: rest => .ok ([], rest)
    | .op "," :: .op "**" :: rest => do
      let (e, rest) ← readBinary n 1 rest
      let (more, rest) ← readEntriesRest n rest
      return ((none, e) :: more, rest)
    | .op "," :: rest => do
      let (key, rest) ← readExpr n rest
      let rest ← expectOp ":" rest
      let (value, rest) ← readExpr n rest
      let (more, rest) ← readEntriesRest n rest
      return ((some key, value) :: more, rest)
    | _ => fail

/-- The loops of a comprehension, at least one. -/
def readClauses : Nat → List Token → Except GrammarError (List Clause × List Token)
  | 0, _ => fail
  | n + 1, ts => do
    let (isAsync, ts) := if nextIsWord "async" ts then (true, ts.drop 1) else (false, ts)
    let ts ← expectWord "for" ts
    let (target, ts) ← readTargets n ts
    let ts ← expectWord "in" ts
    let (source, ts) ← readOr n ts
    let (conditions, ts) ← readConditions n ts
    if nextIsClause ts then
      let (more, ts) ← readClauses n ts
      return (.mk target source conditions isAsync :: more, ts)
    else return ([.mk target source conditions isAsync], ts)

/-- The conditions of a loop of a comprehension. -/
def readConditions : Nat → List Token → Except GrammarError (List Expr × List Token)
  | 0, _ => fail
  | n + 1, ts =>
    if nextIsWord "if" ts then do
      let (e, ts) ← readOr n (ts.drop 1)
      let (es, ts) ← readConditions n ts
      return (e :: es, ts)
    else .ok ([], ts)

/-- The targets of a loop: one, or several in a tuple. -/
def readTargets : Nat → List Token → Except GrammarError (Expr × List Token)
  | 0, _ => fail
  | n + 1, ts => do
    let (first, ts) ← readTarget n ts
    if nextIs "," ts then
      let (more, ts) ← readTargetsRest n ts
      return (.tuple (first :: more), ts)
    else return (first, ts)

/-- The later targets of a loop. -/
def readTargetsRest : Nat → List Token → Except GrammarError (List Expr × List Token)
  | 0, _ => fail
  | n + 1, ts =>
    if nextIs "," ts then
      if nextIsWord "in" (ts.drop 1) || nextIs "=" (ts.drop 1) then .ok ([], ts.drop 1)
      else do
        let (e, ts) ← readTarget n (ts.drop 1)
        let (es, ts) ← readTargetsRest n ts
        return (e :: es, ts)
    else .ok ([], ts)

/-- One target of a loop. -/
def readTarget : Nat → List Token → Except GrammarError (Expr × List Token)
  | 0, _ => fail
  | n + 1, ts => do
    let hasStar := nextIs "*" ts
    let (e, ts) ← readPrimary n (if hasStar then ts.drop 1 else ts)
    if isPlainTarget e then return (if hasStar then .starred e else e, ts) else fail

/-- A yield expression. -/
def readYield : Nat → List Token → Except GrammarError (Expr × List Token)
  | 0, _ => fail
  | n + 1, ts => do
    let ts ← expectWord "yield" ts
    if nextIsWord "from" ts then
      let (e, ts) ← readExpr n (ts.drop 1)
      return (.yieldFrom e, ts)
    else
      match ts with
      | [] | .newline :: _ | .op ")" :: _ | .op "]" :: _ | .op "\x7d" :: _ | .op ";" :: _ |
          .op "=" :: _ => return (.yield none, ts)
      | _ =>
        let (e, ts) ← readStarExprs n ts
        return (.yield (some e), ts)

/-- Expressions of a statement, starred ones among them: one, or several in a tuple. -/
def readStarExprs : Nat → List Token → Except GrammarError (Expr × List Token)
  | 0, _ => fail
  | n + 1, ts => do
    let (first, ts) ← readStarExpr n ts
    if nextIs "," ts then
      let (more, ts) ← readStarExprsRest n ts
      return (.tuple (first :: more), ts)
    else return (first, ts)

/-- The later expressions of a statement; the comma after the last one may stand alone. -/
def readStarExprsRest : Nat → List Token → Except GrammarError (List Expr × List Token)
  | 0, _ => fail
  | n + 1, ts =>
    if nextIs "," ts then
      match ts.drop 1 with
      | [] | .newline :: _ | .op "=" :: _ | .op ")" :: _ | .op ";" :: _ | .op ":" :: _ |
          .op "\x7d" :: _ | .op "]" :: _ => .ok ([], ts.drop 1)
      | rest => do
        let (e, ts) ← readStarExpr n rest
        let (es, ts) ← readStarExprsRest n ts
        return (e :: es, ts)
    else .ok ([], ts)

/-- An expression of a statement. -/
def readStarExpr : Nat → List Token → Except GrammarError (Expr × List Token)
  | 0, _ => fail
  | n + 1, ts =>
    if nextIs "*" ts then do
      let (e, ts) ← readBinary n 1 (ts.drop 1)
      return (.starred e, ts)
    else readExpr n ts

/-- Parameters up to a closing token, which is left in place. -/
def readParams : Nat → Bool → String → List Token → Except GrammarError (List Param × List Token)
  | 0, _, _, _ => fail
  | n + 1, annotated, close, ts =>
    if nextIs close ts then .ok ([], ts)
    else do
      let (ps, ts) ← readParamList n annotated close {} ts
      return (ps, ts)

/-- Parameters from one on, given what came before. -/
def readParamList : Nat → Bool → String → ParamsSoFar → List Token →
    Except GrammarError (List Param × List Token)
  | 0, _, _, _, _ => fail
  | n + 1, annotated, close, sf, ts =>
    match ts with
    | .op "**" :: .name s :: rest =>
      if isKeyword s then fail
      else do
        let (a, rest) ← readTypeNote n annotated rest
        let rest := if nextIs "," rest then rest.drop 1 else rest
        if nextIs close rest then return ([.mk .keywords (Text.normalForm s) a none], rest)
        else fail
    | .op "*" :: .op "," :: rest =>
      if sf.star || nextIs close rest || nextIs "**" rest then fail
      else do
        let (ps, rest) ← readParamList n annotated close { sf with star := true } rest
        return (.mk .rest "" none none :: ps, rest)
    | .op "*" :: .name s :: rest =>
      if sf.star || isKeyword s then fail
      else do
        let (a, rest) ← readTypeNote n annotated rest
        let (ps, rest) ← readParamRest n annotated close { sf with star := true } rest
        return (.mk .rest (Text.normalForm s) a none :: ps, rest)
    | .name s :: rest =>
      if isKeyword s then fail
      else do
        let kind := if sf.star then ParamKind.keywordOnly else .plain
        let (a, rest) ← readTypeNote n annotated rest
        if nextIs "=" rest then
          let (d, rest) ← readExpr n (rest.drop 1)
          let sf := { sf with plain := true, default := sf.default || !sf.star }
          let (ps, rest) ← readParamRest n annotated close sf rest
          return (.mk kind (Text.normalForm s) a (some d) :: ps, rest)
        else if sf.default && !sf.star then fail
        else
          let (ps, rest) ← readParamRest n annotated close { sf with plain := true } rest
          return (.mk kind (Text.normalForm s) a none :: ps, rest)
    | .op "/" :: rest =>
      if sf.star || sf.slash || !sf.plain then fail
      else do
        let (ps, rest) ← readParamRest n annotated close { sf with slash := true } rest
        return (.mk .positionalOnly "" none none :: ps, rest)
    | _ => fail

/-- What follows a parameter: a comma and more, or the closing token. -/
def readParamRest : Nat → Bool → String → ParamsSoFar → List Token →
    Except GrammarError (List Param × List Token)
  | 0, _, _, _, _ => fail
  | n + 1, annotated, close, sf, ts =>
    if nextIs close ts then .ok ([], ts)
    else if nextIs "," ts then
      if nextIs close (ts.drop 1) then .ok ([], ts.drop 1)
      else readParamList n annotated close sf (ts.drop 1)
    else fail

/-- The declared type of a parameter, where parameters may have one. -/
def readTypeNote : Nat → Bool → List Token → Except GrammarError (Option Expr × List Token)
  | 0, _, _ => fail
  | n + 1, annotated, ts =>
    if annotated && nextIs ":" ts then do
      let (e, ts) ← readExpr n (ts.drop 1)
      return (some e, ts)
    else .ok (none, ts)

/-- Byte strings in a row. -/
def readBytes : Nat → List Token → Except GrammarError (List UInt8 × List Token)
  | 0, _ => fail
  | n + 1, ts =>
    match ts with
    | .string mark body :: rest =>
      if mark.bytes then do
        let b ← Escape.bytes mark.raw body
        let (more, rest) ← readBytes n rest
        return (b ++ more, rest)
      else fail
    | _ => .ok ([], ts)

/-- Strings in a row, joined: whether one is formatted, the parts and the tokens after. -/
def readStrings : Nat → List Token → Except GrammarError (Bool × List FormatPart × List Token)
  | 0, _ => .error .invalid
  | n + 1, ts =>
    match ts with
    | .string mark body :: rest =>
      if mark.bytes then .error .invalid
      else if mark.format then do
        let parts ← readFormat n { raw := mark.raw } body
        let (_, more, rest) ← readStrings n rest
        return (true, joinParts parts more, rest)
      else do
        let s ← Escape.text mark.raw body
        let (isFormatted, more, rest) ← readStrings n rest
        return (isFormatted, addText s more, rest)
    | _ => .ok (false, [], ts)

/-- The parts of a formatted string, or of a format inside some others. -/
def readFormat : Nat → FormatPlace → List Char → Except GrammarError (List FormatPart)
  | 0, _, _ => .error .invalid
  | n + 1, place, cs =>
    match formatHead place.level cs with
    | .finished => .ok []
    | .stray => .error .invalid
    | .plain cs rest => do
      let s ← Escape.text place.raw cs
      return addText s (← readFormat n place rest)
    | .field rest => do
      let (field, rest) ← readField n place rest
      let more ← readFormat n place rest
      return joinParts field more

/-- A replacement field after its opening brace, and what follows its closing brace. -/
def readField : Nat → FormatPlace → List Char →
    Except GrammarError (List FormatPart × List Char)
  | 0, _, _ => .error .invalid
  | n + 1, place, cs =>
    match fieldSource (cs.length + 1) 0 none cs with
    | none => .error .invalid
    | some (source, rest) => do
      let tokens ← Token.lex ('(' :: source ++ [')'])
      let (e, after) ← readAtomOnly n tokens
      if !after.isEmpty then .error .invalid
      else
        let (shown, rest) : Option (List Char) × List Char := match rest with
          | '=' :: r =>
            let blank := r.takeWhile Char.isWhitespace
            (some (source ++ '=' :: blank), r.drop blank.length)
          | _ => (none, rest)
        let (conversion, rest) := match rest with
          | '!' :: c :: r => (some c, r)
          | _ => (none, rest)
        if !(["r", "s", "a"].any fun k => conversion.map String.singleton == some k) &&
            conversion.isSome then .error .invalid
        else
          let lead := (shown.map fun cs => FormatPart.text (String.ofList cs)).toList
          match rest with
          | '\x7d' :: rest =>
            let conversion := if shown.isSome && conversion.isNone then some 'r' else conversion
            return (lead ++ [.field e conversion none], rest)
          | ':' :: rest =>
            match formatEnd 0 rest with
            | some (inner, rest) =>
              let parts ← readFormat n { place with level := place.level + 1 } inner
              return (lead ++ [.field e conversion (some parts)], rest)
            | none => .error .invalid
          | _ => .error .invalid

/-- A bracketed expression up to the end of its line. -/
def readAtomOnly : Nat → List Token → Except GrammarError (Expr × List Token)
  | 0, _ => fail
  | n + 1, ts =>
    match ts with
    | .op "(" :: rest => do
      let (e, rest) ← if nextIsWord "yield" rest then readYield n rest else readStarExprs n rest
      let rest ← expectOp ")" rest
      match rest with
      | [.newline] => return (e, [])
      | _ => fail
    | _ => fail

end

/-- A number larger than the nesting of a piece of code of some length can need. -/
def bound (length : Nat) : Nat := 30 * (length + 10)

/-- Whether an expression is a starred one. -/
def isStarred : Expr → Bool
  | .starred _ => true
  | _ => false

/-- The error at tokens that no rule takes: a line may not start deeper than the one before. -/
def unexpected : List Token → GrammarError
  | .newline :: .indent :: _ | .indent :: _ => .indentation
  | _ => .invalid

/-- The one expression that a piece of code consists of, or a tuple of several. -/
def parse (code : List Char) : Except GrammarError Expr := do
  let n := bound code.length
  let ts ← Token.lex code
  let (first, ts) ← readExpr n ts
  let (e, ts) ←
    if nextIs "," ts then do
      let (more, ts) ← readStarExprsRest n ts
      if more.any isStarred then fail else pure (.tuple (first :: more), ts)
    else pure (first, ts)
  if ts.all (· == .newline) then return e else .error (unexpected ts)

end SessionScript.Code.Expr
