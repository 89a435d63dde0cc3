import SessionScript.Scenario.Basic
import SessionScript.Schema.Reader

/-!
# Settings

What holds for every session of a process. Settings come from variables of the environment whose
names start with a common stem, in letters of either case.
-/

namespace SessionScript

/-- The settings of a process. -/
structure Settings where
  target : String := ""
  defersConnection : Bool := false
  /-- The seconds that opening and closing a connection may take. -/
  openTimeout : Binary64 := Binary64.ofInt 10
  closeTimeout : Binary64 := Binary64.ofInt 5
  allowsCode : Bool := false
  logLevel : String := "WARNING"
  deriving Inhabited, Repr

namespace Settings

open Schema

/-- What the names of all settings start with in the environment, in lower case. -/
def stem : String := "loco_ws_"

/-- The text of a setting in an environment, of which a later variable replaces an earlier one. -/
def text? (environment : List (String × String)) (name : String) : Option String :=
  let isNamed := fun (e : String × String) =>
    String.ofList (e.1.toList.map Char.toLower) == stem ++ name
  (environment.reverse.find? isNamed).map (·.2)

/-- A setting as its reader takes it, or the default with the violation that is at fault. -/
def field {α : Type} (environment : List (String × String)) (name : String) (default : α)
    (read : Value → Reading α) : α × List Violation :=
  match text? environment name with
  | none => (default, [])
  | some s =>
    match under (.name name) (read (.text s)) with
    | .ok a => (a, [])
    | .error v => (default, [v])

/-- The settings of an environment, or everything that is wrong with it. -/
def ofEnvironment (environment : List (String × String)) : Except (List Violation) Settings :=
  let (target, e₁) := field environment "target" "" readText
  let (defers, e₂) := field environment "defer_connection" false readFlag
  let (openTimeout, e₃) := field environment "open_timeout" (Binary64.ofInt 10) readNumber
  let (closeTimeout, e₄) := field environment "close_timeout" (Binary64.ofInt 5) readNumber
  let (allows, e₅) := field environment "allow_code" false readFlag
  let (level, e₆) := field environment "log_level" "WARNING" readText
  match e₁ ++ e₂ ++ e₃ ++ e₄ ++ e₅ ++ e₆ with
  | [] => .ok ⟨target, defers, openTimeout, closeTimeout, allows, level⟩
  | violations => .error violations

/-- The first of two texts, unless it is empty. -/
def firstNonEmpty (a b : String) : String := if a.isEmpty then b else a

/-- The configuration of a scenario with what the caller and the settings add: the caller's target
    comes before that of the scenario, which comes before that of the settings, and each of them
    may defer the connection. -/
def complete (s : Settings) (c : Config) (target : Option String) (defers : Bool) : Config :=
  { c with
    target := firstNonEmpty (target.getD "") (firstNonEmpty c.target s.target)
    defersConnection := defers || c.defersConnection || s.defersConnection }

end Settings

end SessionScript
