import SessionScript.Code.Expr

/-!
# Statements from tokens

The grammar of statements. A block is the rest of a line after a colon, or the deeper lines below
it. As with expressions, each function is bounded by a number that the wrapper chooses.
-/

namespace SessionScript.Code.Stmt

open SessionScript.Code.Expr (fail expectOp expectWord nextIs nextIsWord unexpected)

/-- The operator of an augmented assignment. -/
def augmentedOp? : String → Option BinaryOp
  | "+=" => some .add
  | "-=" => some .sub
  | "*=" => some .mul
  | "@=" => some .matMul
  | "/=" => some .div
  | "%=" => some .mod
  | "&=" => some .bitAnd
  | "|=" => some .bitOr
  | "^=" => some .bitXor
  | "<<=" => some .shiftLeft
  | ">>=" => some .shiftRight
  | "**=" => some .pow
  | "//=" => some .floorDiv
  | _ => none

/-- Whether an expression is a single place that a value can be put in. -/
def isPlace : Expr → Bool
  | .name _ | .attribute _ _ | .subscript _ _ => true
  | _ => false

mutual

/-- Whether an expression may be deleted. -/
def isDeletable : Expr → Bool
  | .name _ | .attribute _ _ | .subscript _ _ => true
  | .tuple es => areDeletable es
  | .list es => areDeletable es
  | _ => false

/-- Whether every expression may be deleted. -/
def areDeletable : List Expr → Bool
  | [] => true
  | e :: es => isDeletable e && areDeletable es

end

/-- Reads a name that is not reserved. -/
def readName : List Token → Except GrammarError (String × List Token)
  | .name s :: ts => if isKeyword s then fail else .ok (Text.normalForm s, ts)
  | _ => fail

/-- Reads names with commas between them. The first argument exceeds their number. -/
def readNames : Nat → List Token → Except GrammarError (List String × List Token)
  | 0, _ => fail
  | n + 1, ts => do
    let (s, ts) ← readName ts
    if nextIs "," ts then
      let (more, ts) ← readNames n (ts.drop 1)
      return (s :: more, ts)
    else return ([s], ts)

/-- Reads a name with dots in it. -/
def readDotted : Nat → List Token → Except GrammarError (String × List Token)
  | 0, _ => fail
  | n + 1, ts => do
    let (s, ts) ← readName ts
    if nextIs "." ts then
      let (more, ts) ← readDotted n (ts.drop 1)
      return (s ++ "." ++ more, ts)
    else return (s, ts)

/-- Reads the name that an imported name is bound to, if one is given. -/
def readAlias (name : String) (ts : List Token) : Except GrammarError (Alias × List Token) :=
  if nextIsWord "as" ts then do
    let (s, ts) ← readName (ts.drop 1)
    return (⟨name, some s⟩, ts)
  else .ok (⟨name, none⟩, ts)

/-- Reads the modules of an import. -/
def readModules : Nat → List Token → Except GrammarError (List Alias × List Token)
  | 0, _ => fail
  | n + 1, ts => do
    let (name, ts) ← readDotted n ts
    let (a, ts) ← readAlias name ts
    if nextIs "," ts then
      let (more, ts) ← readModules n (ts.drop 1)
      return (a :: more, ts)
    else return ([a], ts)

/-- Reads the names that are imported from a module; in brackets a comma may stand at the end. -/
def readImported : Nat → Bool → List Token → Except GrammarError (List Alias × List Token)
  | 0, _, _ => fail
  | n + 1, bracketed, ts => do
    let (name, ts) ← readName ts
    let (a, ts) ← readAlias name ts
    if nextIs "," ts then
      if bracketed && nextIs ")" (ts.drop 1) then return ([a], ts.drop 1)
      let (more, ts) ← readImported n bracketed (ts.drop 1)
      return (a :: more, ts)
    else return ([a], ts)

/-- Reads the dots in front of a module, and gives their number. -/
def readDots : Nat → List Token → Nat × List Token
  | n + 1, .op "." :: ts => let (k, ts) := readDots n ts; (k + 1, ts)
  | n + 1, .op "..." :: ts => let (k, ts) := readDots n ts; (k + 3, ts)
  | _, ts => (0, ts)

/-- Reads an import from a module, after its first word. -/
def readImportFrom (n : Nat) (ts : List Token) : Except GrammarError (Stmt × List Token) := do
  let (level, ts) := readDots n ts
  let (module, ts) ←
    if nextIsWord "import" ts && 0 < level then pure ("", ts) else readDotted n ts
  let ts ← expectWord "import" ts
  if nextIs "*" ts then return (.importFrom module level [⟨"*", none⟩], ts.drop 1)
  else if nextIs "(" ts then do
    let (names, ts) ← readImported n true (ts.drop 1)
    let ts ← expectOp ")" ts
    return (.importFrom module level names, ts)
  else do
    let (names, ts) ← readImported n false ts
    return (.importFrom module level names, ts)

/-- Reads a value that is assigned: expressions or a yield. -/
def readValue (n : Nat) (ts : List Token) : Except GrammarError (Expr × List Token) :=
  if nextIsWord "yield" ts then Expr.readYield n ts else Expr.readStarExprs n ts

/-- Reads the later targets of an assignment, and its value. -/
def readAssigned : Nat → Expr → List Token → Except GrammarError (List Expr × Expr × List Token)
  | 0, _, _ => fail
  | n + 1, target, ts => do
    if !Expr.isTarget target then fail
    let (value, ts) ← readValue n (ts.drop 1)
    if nextIs "=" ts then
      let (targets, value, ts) ← readAssigned n value ts
      return (target :: targets, value, ts)
    else return ([target], value, ts)

/-- Reads an expression or an assignment. -/
def readAssignment (n : Nat) (ts : List Token) : Except GrammarError (Stmt × List Token) := do
  let bare := match ts with
    | .name _ :: .op ":" :: _ => true
    | _ => false
  let (e, ts) ← readValue n ts
  match ts with
  | .op "=" :: _ =>
    let (targets, value, ts) ← readAssigned n e ts
    return (.assign targets value, ts)
  | .op ":" :: rest =>
    if !isPlace e then fail
    else do
      let (typeNote, rest) ← Expr.readExpr n rest
      if nextIs "=" rest then
        let (value, rest) ← readValue n (rest.drop 1)
        return (.annotated e typeNote (some value) bare, rest)
      else return (.annotated e typeNote none bare, rest)
  | .op o :: rest =>
    match augmentedOp? o with
    | some op =>
      if !isPlace e then fail
      else do
        let (value, rest) ← readValue n rest
        return (.augmented e op value, rest)
    | none => return (.expr e, ts)
  | _ => return (.expr e, ts)

/-- Whether a small statement may end here. -/
def mayEnd : List Token → Bool
  | [] | .newline :: _ | .op ";" :: _ => true
  | _ => false

/-- Reads an expression if there is one before the end of a small statement. -/
def readOptional (n : Nat) (ts : List Token) : Except GrammarError (Option Expr × List Token) :=
  if mayEnd ts then .ok (none, ts)
  else do
    let (e, ts) ← Expr.readStarExprs n ts
    return (some e, ts)

/-- Reads a small statement, which holds no block. -/
def readSmall (n : Nat) (ts : List Token) : Except GrammarError (Stmt × List Token) :=
  match ts with
  | .name "pass" :: rest => .ok (.pass, rest)
  | .name "break" :: rest => .ok (.break, rest)
  | .name "continue" :: rest => .ok (.continue, rest)
  | .name "return" :: rest => do
    let (e, rest) ← readOptional n rest
    return (.return e, rest)
  | .name "raise" :: rest =>
    if mayEnd rest then .ok (.raise none none, rest)
    else do
      let (e, rest) ← Expr.readExpr n rest
      if nextIsWord "from" rest then
        let (cause, rest) ← Expr.readExpr n (rest.drop 1)
        return (.raise (some e) (some cause), rest)
      else return (.raise (some e) none, rest)
  | .name "global" :: rest => do
    let (names, rest) ← readNames n rest
    return (.global names, rest)
  | .name "nonlocal" :: rest => do
    let (names, rest) ← readNames n rest
    return (.nonlocal names, rest)
  | .name "del" :: rest => do
    let (e, rest) ← Expr.readStarExprs n rest
    match e with
    | .tuple es => if areDeletable es then return (.delete es, rest) else fail
    | e => if isDeletable e then return (.delete [e], rest) else fail
  | .name "assert" :: rest => do
    let (test, rest) ← Expr.readExpr n rest
    if nextIs "," rest then
      let (message, rest) ← Expr.readExpr n (rest.drop 1)
      return (.assert test (some message), rest)
    else return (.assert test none, rest)
  | .name "import" :: rest => do
    let (names, rest) ← readModules n rest
    return (.importNames names, rest)
  | .name "from" :: rest => readImportFrom n rest
  | _ => readAssignment n ts

/-- Reads small statements up to the end of their line. -/
def readLine : Nat → List Token → Except GrammarError (List Stmt × List Token)
  | 0, _ => fail
  | n + 1, ts => do
    let (s, ts) ← readSmall n ts
    match ts with
    | [] => return ([s], [])
    | .newline :: rest => return ([s], rest)
    | .op ";" :: .newline :: rest => return ([s], rest)
    | [.op ";"] => return ([s], [])
    | .op ";" :: rest => do
      let (more, rest) ← readLine n rest
      return (s :: more, rest)
    | _ => .error (unexpected ts)

/-- Reads the items of a with statement. -/
def readContexts : Nat → Bool → List Token →
    Except GrammarError (List (Expr × Option Expr) × List Token)
  | 0, _, _ => fail
  | n + 1, bracketed, ts => do
    let (e, ts) ← Expr.readExpr n ts
    let (target, ts) ←
      if nextIsWord "as" ts then do
        let (t, ts) ← Expr.readTarget n (ts.drop 1)
        pure (some t, ts)
      else pure (none, ts)
    if nextIs "," ts then
      if bracketed && nextIs ")" (ts.drop 1) then return ([(e, target)], ts.drop 1)
      let (more, ts) ← readContexts n bracketed (ts.drop 1)
      return ((e, target) :: more, ts)
    else return ([(e, target)], ts)

/-- Reads all items of a with statement: in brackets, or else without. -/
def readAllContexts (n : Nat) (ts : List Token) :
    Except GrammarError (List (Expr × Option Expr) × List Token) :=
  let plain := readContexts n false ts
  if nextIs "(" ts then
    match readContexts n true (ts.drop 1) with
    | .ok (items, .op ")" :: .op ":" :: rest) => .ok (items, .op ":" :: rest)
    | _ => plain
  else plain

mutual

/-- Reads a statement, or the statements of a line. -/
def readStatement : Nat → List Token → Except GrammarError (List Stmt × List Token)
  | 0, _ => fail
  | n + 1, ts =>
    match ts with
    | .indent :: _ => .error .indentation
    | .name "if" :: rest => do
      let (s, rest) ← readIf n rest
      return ([s], rest)
    | .name "while" :: rest => do
      let (test, rest) ← Expr.readNamed n rest
      let (body, rest) ← readBlock n rest
      let (orElse, rest) ← readElse n rest
      return ([.while test body orElse], rest)
    | .name "for" :: rest => do
      let (s, rest) ← readFor n false rest
      return ([s], rest)
    | .name "with" :: rest => do
      let (s, rest) ← readWith n false rest
      return ([s], rest)
    | .name "try" :: rest => do
      let (s, rest) ← readTry n rest
      return ([s], rest)
    | .name "async" :: .name "for" :: rest => do
      let (s, rest) ← readFor n true rest
      return ([s], rest)
    | .name "async" :: .name "with" :: rest => do
      let (s, rest) ← readWith n true rest
      return ([s], rest)
    | .op "@" :: _ | .name "def" :: _ | .name "class" :: _ | .name "async" :: _ => do
      let (s, rest) ← readDefinition n [] ts
      return ([s], rest)
    | _ => readLine n ts

/-- Reads statements up to the end of a block or of the code. -/
def readStatements : Nat → List Token → Except GrammarError (List Stmt × List Token)
  | 0, _ => fail
  | n + 1, ts =>
    match ts with
    | [] => .ok ([], [])
    | .dedent :: _ => .ok ([], ts)
    | _ => do
      let (first, ts) ← readStatement n ts
      let (more, ts) ← readStatements n ts
      return (first ++ more, ts)

/-- Reads a colon and the block after it. -/
def readBlock : Nat → List Token → Except GrammarError (List Stmt × List Token)
  | 0, _ => fail
  | n + 1, ts => do
    let ts ← expectOp ":" ts
    match ts with
    | .newline :: .indent :: rest => do
      let (body, rest) ← readStatements n rest
      match rest with
      | .dedent :: rest => return (body, rest)
      | _ => return (body, rest)
    | .newline :: _ | [] => .error .indentation
    | _ => readLine n ts

/-- Reads the branch after `else`, if there is one. -/
def readElse : Nat → List Token → Except GrammarError (List Stmt × List Token)
  | 0, _ => fail
  | n + 1, ts => if nextIsWord "else" ts then readBlock n (ts.drop 1) else .ok ([], ts)

/-- Reads a choice, after its first word. -/
def readIf : Nat → List Token → Except GrammarError (Stmt × List Token)
  | 0, _ => fail
  | n + 1, ts => do
    let (test, ts) ← Expr.readNamed n ts
    let (body, ts) ← readBlock n ts
    if nextIsWord "elif" ts then
      let (s, ts) ← readIf n (ts.drop 1)
      return (.ifThen test body [s], ts)
    else
      let (orElse, ts) ← readElse n ts
      return (.ifThen test body orElse, ts)

/-- Reads a loop over items, after its first word. -/
def readFor : Nat → Bool → List Token → Except GrammarError (Stmt × List Token)
  | 0, _, _ => fail
  | n + 1, isAsync, ts => do
    let (target, ts) ← Expr.readTargets n ts
    let ts ← expectWord "in" ts
    let (source, ts) ← Expr.readStarExprs n ts
    let (body, ts) ← readBlock n ts
    let (orElse, ts) ← readElse n ts
    return (.for target source body orElse isAsync, ts)

/-- Reads a with statement, after its first word. -/
def readWith : Nat → Bool → List Token → Except GrammarError (Stmt × List Token)
  | 0, _, _ => fail
  | n + 1, isAsync, ts => do
    let (items, ts) ← readAllContexts n ts
    let (body, ts) ← readBlock n ts
    return (.with items body isAsync, ts)

/-- Reads the handlers of a try statement. -/
def readHandlers : Nat → List Token → Except GrammarError (List Handler × List Token)
  | 0, _ => fail
  | n + 1, ts =>
    if nextIsWord "except" ts then do
      let ts := ts.drop 1
      let (kind, name, ts) ←
        if nextIs ":" ts then pure (none, none, ts)
        else do
          let (e, ts) ← Expr.readExpr n ts
          if nextIsWord "as" ts then do
            let (s, ts) ← readName (ts.drop 1)
            pure (some e, some s, ts)
          else pure (some e, none, ts)
      let (body, ts) ← readBlock n ts
      let (more, ts) ← readHandlers n ts
      return (.mk kind name body :: more, ts)
    else .ok ([], ts)

/-- Reads a try statement, after its first word. -/
def readTry : Nat → List Token → Except GrammarError (Stmt × List Token)
  | 0, _ => fail
  | n + 1, ts => do
    let (body, ts) ← readBlock n ts
    let (handlers, ts) ← readHandlers n ts
    let (orElse, ts) ← if handlers.isEmpty then pure ([], ts) else readElse n ts
    let (final, ts) ←
      if nextIsWord "finally" ts then readBlock n (ts.drop 1) else pure ([], ts)
    if handlers.isEmpty && final.isEmpty then fail
    else return (.try body handlers orElse final, ts)

/-- Reads a function or a class with the decorators in front of it. -/
def readDefinition : Nat → List Expr → List Token → Except GrammarError (Stmt × List Token)
  | 0, _, _ => fail
  | n + 1, decorators, ts =>
    match ts with
    | .op "@" :: rest => do
      let (e, rest) ← Expr.readNamed n rest
      match rest with
      | .newline :: rest => readDefinition n (decorators ++ [e]) rest
      | _ => fail
    | .name "async" :: .name "def" :: rest => readFunction n true decorators rest
    | .name "def" :: rest => readFunction n false decorators rest
    | .name "class" :: rest => do
      let (name, rest) ← readName rest
      let ((bases, keywords), rest) ←
        if nextIs "(" rest then Expr.readArgs n false false false (rest.drop 1)
        else pure (([], []), rest)
      let (body, rest) ← readBlock n rest
      return (.class name bases keywords body decorators, rest)
    | _ => fail

/-- Reads a function, after its first words. -/
def readFunction : Nat → Bool → List Expr → List Token → Except GrammarError (Stmt × List Token)
  | 0, _, _, _ => fail
  | n + 1, isAsync, decorators, ts => do
    let (name, ts) ← readName ts
    let ts ← expectOp "(" ts
    let (params, ts) ← Expr.readParams n true ")" ts
    let ts ← expectOp ")" ts
    let ts ←
      if nextIs "->" ts then do
        let (_, ts) ← Expr.readExpr n (ts.drop 1)
        pure ts
      else pure ts
    let (body, ts) ← readBlock n ts
    return (.function name params body decorators isAsync, ts)

end

/-- The statements that a piece of code consists of. -/
def parse (code : List Char) : Except GrammarError (List Stmt) := do
  let ts ← Token.lex code
  let (body, ts) ← readStatements (Expr.bound code.length) ts
  if ts.isEmpty then return body else .error (unexpected ts)

end SessionScript.Code.Stmt
