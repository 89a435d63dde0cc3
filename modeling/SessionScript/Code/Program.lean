import SessionScript.Code.Rules
import SessionScript.Code.Stmt
import SessionScript.Failure

/-!
# Programs

A piece of code that is ready to run: statements, and the expression at the end whose value is the
result.
-/

namespace SessionScript.Code

/-- Statements and the expression that follows them. -/
structure Program where
  body : List Stmt
  tail : Option Expr

namespace Program

/-- Splits off the expression that statements end with. -/
def ofStatements (ss : List Stmt) : Program :=
  match ss.getLast? with
  | some (.expr e) => ⟨ss.dropLast, some e⟩
  | _ => ⟨ss, none⟩

/-- The kind of errors that a fault of the grammar is. -/
def errorKind : GrammarError → String
  | .invalid => "SyntaxError"
  | .indentation => "IndentationError"
  | .tabs => "TabError"

/-- The failure of code that does not fit the grammar. -/
def rejected (e : GrammarError) : Failure :=
  .report
    { kind := .sandbox
      message := "Invalid syntax in sandboxed code"
      cause := some (.host ⟨errorKind e, []⟩) }

/-- Whether a program keeps the rules beyond the grammar. -/
def isAllowed (p : Program) : Bool :=
  Stmt.areAllowed p.body && optionAllowed {} p.tail

/-- The program of a text. A text that does not fit the grammar is reported; one that breaks the
    rules beyond it is an error of its own. -/
def compile (code : List Char) : Except Failure Program :=
  match Stmt.parse code with
  | .error e => .error (rejected e)
  | .ok ss =>
    let p := ofStatements ss
    if p.isAllowed then .ok p else .error (.host ⟨"SyntaxError", []⟩)

end Program

end SessionScript.Code
