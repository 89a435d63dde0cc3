/-!
# Log entries

What the parts of the engine tell about their work.
-/

namespace SessionScript

/-- How much an entry matters. -/
inductive Severity where
  | debug
  | info
  | warning
  | error
  deriving DecidableEq, Repr, Inhabited

namespace Severity

/-- The name of a severity. -/
def name : Severity → String
  | .debug => "DEBUG"
  | .info => "INFO"
  | .warning => "WARNING"
  | .error => "ERROR"

/-- The weight of a severity; what matters more weighs more. -/
def weight : Severity → Nat
  | .debug => 10
  | .info => 20
  | .warning => 30
  | .error => 40

end Severity

/-- The part of the engine that wrote an entry. -/
inductive Area where
  | templates
  | steps
  | runs
  | connections
  | events
  | program
  deriving DecidableEq, Repr, Inhabited

/-- One line of the log. -/
structure LogEntry where
  severity : Severity
  area : Area
  message : String
  deriving DecidableEq, Repr, Inhabited

end SessionScript
