import SessionScript.Code.Token

/-!
# Trees of code

Expressions and statements of the code language.
-/

namespace SessionScript.Code

/-- A constant. A text remembers whether it was marked as unicode. -/
inductive Constant where
  | none
  | bool (b : Bool)
  | int (n : Nat)
  | float (x : Binary64)
  | imaginary (x : Binary64)
  | text (s : String) (marked : Bool)
  | bytes (b : List UInt8)
  | ellipsis
  deriving DecidableEq, Repr, Inhabited

/-- Operators with one operand. -/
inductive UnaryOp where
  | neg | pos | invert | not
  deriving DecidableEq, Repr

/-- Operators with two operands that both are evaluated. -/
inductive BinaryOp where
  | add | sub | mul | matMul | div | mod | pow | shiftLeft | shiftRight | bitOr | bitXor | bitAnd
  | floorDiv
  deriving DecidableEq, Repr

/-- Operators that may skip their later operands. -/
inductive BoolOp where
  | and | or
  deriving DecidableEq, Repr

/-- Comparisons. -/
inductive CompareOp where
  | eq | notEq | lt | le | gt | ge | is | isNot | isIn | notIn
  deriving DecidableEq, Repr

/-- How arguments bind to a parameter. -/
inductive ParamKind where
  | positionalOnly | plain | rest | keywordOnly | keywords
  deriving DecidableEq, Repr

/-- The bracket of a comprehension. -/
inductive ComprehensionKind where
  | list | set | generator
  deriving DecidableEq, Repr

mutual

/-- An expression. -/
inductive Expr where
  | constant (c : Constant)
  /-- A formatted string. -/
  | formatted (parts : List FormatPart)
  | name (s : String)
  | attribute (e : Expr) (name : String)
  | subscript (e index : Expr)
  | slice (low high step : Option Expr)
  | call (f : Expr) (args : List Expr) (keywords : List (Option String × Expr))
  | unary (op : UnaryOp) (e : Expr)
  | binary (op : BinaryOp) (l r : Expr)
  | boolean (op : BoolOp) (operands : List Expr)
  | compare (first : Expr) (rest : List (CompareOp × Expr))
  | conditional (test body orElse : Expr)
  | lambda (params : List Param) (body : Expr)
  | list (items : List Expr)
  | tuple (items : List Expr)
  | set (items : List Expr)
  /-- A mapping; an entry without a key is another mapping to unpack. -/
  | dict (entries : List (Option Expr × Expr))
  | comprehension (kind : ComprehensionKind) (element : Expr) (clauses : List Clause)
  | dictComprehension (key value : Expr) (clauses : List Clause)
  | starred (e : Expr)
  | assigned (name : String) (e : Expr)
  | await (e : Expr)
  | yield (e : Option Expr)
  | yieldFrom (e : Expr)

/-- A part of a formatted string: text, or a value with a conversion and a format. -/
inductive FormatPart where
  | text (s : String)
  | field (e : Expr) (conversion : Option Char) (format : Option (List FormatPart))

/-- A parameter of a function. The lone star before keyword-only parameters has no name. -/
inductive Param where
  | mk (kind : ParamKind) (name : String) (typeNote default : Option Expr)

/-- A loop of a comprehension with its conditions. -/
inductive Clause where
  | mk (target source : Expr) (conditions : List Expr) (isAsync : Bool)

end

instance : Inhabited Expr := ⟨.constant .none⟩

/-- A name of an import and what it is bound to. -/
structure Alias where
  name : String
  boundAs : Option String
  deriving DecidableEq, Repr

mutual

/-- A statement. -/
inductive Stmt where
  | expr (e : Expr)
  | assign (targets : List Expr) (value : Expr)
  | augmented (target : Expr) (op : BinaryOp) (value : Expr)
  | annotated (target typeNote : Expr) (value : Option Expr) (simple : Bool)
  | delete (targets : List Expr)
  | pass
  | break
  | continue
  | return (e : Option Expr)
  | raise (e cause : Option Expr)
  | global (names : List String)
  | nonlocal (names : List String)
  | importNames (names : List Alias)
  | importFrom (module : String) (level : Nat) (names : List Alias)
  | assert (test : Expr) (message : Option Expr)
  | ifThen (test : Expr) (body orElse : List Stmt)
  | while (test : Expr) (body orElse : List Stmt)
  | for (target source : Expr) (body orElse : List Stmt) (isAsync : Bool)
  | try (body : List Stmt) (handlers : List Handler) (orElse final : List Stmt)
  | with (items : List (Expr × Option Expr)) (body : List Stmt) (isAsync : Bool)
  | function (name : String) (params : List Param) (body : List Stmt) (decorators : List Expr)
    (isAsync : Bool)
  | class (name : String) (bases : List Expr) (keywords : List (Option String × Expr))
    (body : List Stmt) (decorators : List Expr)

/-- A handler of a try statement: the error it takes and the name it binds. -/
inductive Handler where
  | mk (kind : Option Expr) (name : Option String) (body : List Stmt)

end

instance : Inhabited Stmt := ⟨.pass⟩

end SessionScript.Code
