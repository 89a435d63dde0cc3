import SessionScript.Template.Resolve

/-!
# Session contexts

What templates see and what is counted during a session.
-/

namespace SessionScript

/-- A connection: the one that was opened after a number of others, or one of the caller. -/
inductive Connection where
  | opened (number : Nat)
  | supplied (name : String)
  deriving DecidableEq, Repr, Inhabited

/-- The name of a connection. -/
def Connection.name : Connection → String
  | .opened n => "c" ++ Text.ofNat (n + 1)
  | .supplied name => name

/-- A connection as messages show it. -/
def Connection.shown (c : Connection) : String := "<" ++ c.name ++ ">"

/-- The variables and functions of templates, the connection and the counts of a session. -/
structure SessionContext (σ : Type) where
  vars : Entries := []
  funcs : Template.Functions σ := []
  connection : Option Connection := none
  /-- The number of steps that are still expected to cause traffic. -/
  pending : Int := 0
  /-- The number of messages sent. -/
  successes : Int := 0

namespace SessionContext

variable {σ : Type}

/-- A context as logs show it. -/
def shown (c : SessionContext σ) : String :=
  "SessionContext(connected=" ++ (Value.bool c.connection.isSome).shown ++ ", pending_requests=" ++
    Text.ofInt c.pending ++ ", success_count=" ++ Text.ofInt c.successes ++ ")"

end SessionContext

end SessionScript
