import SessionScript.Code.Expr
import SessionScript.Code.Printer
import SessionScript.Failure
import SessionScript.Text.Blank

/-!
# Calls in templates

A call names a function and gives it literal arguments.
-/

namespace SessionScript.Template

/-- A function call with the values of its arguments. -/
structure Call where
  name : String
  args : List Value
  deriving Repr

namespace Call

/-- The constant that a name stands for. The reserved words among them are names only where they
    are written in another form than the normal one. -/
def word? : String → Option Value
  | "true" | "True" => some (.bool true)
  | "false" | "False" => some (.bool false)
  | "null" | "None" => some .null
  | _ => none

/-- The value of a number with a sign in front; a truth value counts as one or zero. -/
def negated? : Code.Constant → Option Value
  | .int n => some (.int (-n))
  | .bool b => some (.int (if b then -1 else 0))
  | .float x => some (.float x.neg)
  | _ => none

/-- The value of a literal. -/
def literal? : Code.Expr → Option Value
  | .constant .none => some .null
  | .constant (.bool b) => some (.bool b)
  | .constant (.int n) => some (.int n)
  | .constant (.float x) => some (.float x)
  | .constant (.text s _) => some (.text s)
  | .unary .neg (.constant c) => negated? c
  | .unary .pos (.constant (.int n)) => some (.int n)
  | .unary .pos (.constant (.float x)) => some (.float x)
  | .unary .pos (.constant (.bool b)) => some (.bool b)
  | .name w => word? w
  | _ => none

/-- Why a call can not be made. -/
inductive Fault where
  /-- The text is no expression. -/
  | syntaxFault (expression : String) (why : Code.GrammarError)
  | keywordArguments (name : String)
  /-- The first argument that is no literal. -/
  | notLiteral (argument : Code.Expr)

/-- The kind of error that a rejected piece of code causes. -/
def grammarKind : Code.GrammarError → String
  | .invalid => "SyntaxError"
  | .indentation => "IndentationError"
  | .tabs => "TabError"

/-- The failure that a fault is reported as. -/
def Fault.failure : Fault → Failure
  | .syntaxFault e why =>
    .report
      { kind := .templateSyntax
        message := "Invalid function call " ++ Text.quoted e
        cause := some (.host ⟨grammarKind why, []⟩) }
  | .keywordArguments name =>
    .report
      { kind := .template
        message := "Function " ++ Text.quoted name ++ " does not accept keyword arguments" }
  | .notLiteral e =>
    .report
      { kind := .template
        message :=
          "Function argument " ++ Text.quoted (e.render Code.Level.test) ++ " is not a literal" }

/-- The values of literal arguments. -/
def literals : List Code.Expr → Except Fault (List Value)
  | [] => .ok []
  | e :: es =>
    match literal? e with
    | some v => (literals es).map (v :: ·)
    | none => .error (.notLiteral e)

/-- The call that an expression is, if it is a call of a name. -/
def ofExpr? : Code.Expr → Except Fault (Option Call)
  | .call (.name f) args [] => (literals args).map fun vs => some ⟨f, vs⟩
  | .call (.name f) _ _ => .error (.keywordArguments f)
  | _ => .ok none

/-- Reads a call; nothing if the text is an expression of another form. -/
def parse (expression : List Char) : Except Fault (Option Call) :=
  match Code.Expr.parse (Text.trimBoth Text.isBlank expression) with
  | .error why => .error (.syntaxFault (String.ofList expression) why)
  | .ok e => ofExpr? e

end Call

end SessionScript.Template
