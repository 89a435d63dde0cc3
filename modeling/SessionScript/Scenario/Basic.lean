import SessionScript.Value.Basic

/-!
# Scenarios

A scenario tells what a client does in a session: the steps in their order, and the connection and
the bindings that they start with.
-/

namespace SessionScript

/-- A function whose body is code. The arguments of a call are bound to the parameters in order. -/
structure FunctionDefinition where
  params : List String
  code : String
  deriving DecidableEq, Repr, Inhabited

/-- What the steps of a session start with. -/
structure Config where
  /-- The address that is connected to first, and what addresses that start with a slash follow. -/
  target : String := ""
  /-- Whether the connection is left to a step or to the caller. -/
  defersConnection : Bool := false
  vars : List (String × Value) := []
  functions : List (String × FunctionDefinition) := []
  deriving Inhabited, Repr

/-- What a message is made from: a template, bytes sent as they are, or a value whose texts are
    templates and which is sent as JSON. -/
inductive Payload where
  | text (template : String)
  | bytes (b : List UInt8)
  | json (body : Value)
  deriving Inhabited, Repr

/-- A step: a pause of some seconds, opening a connection to an address or sending a message. -/
inductive Step where
  | think (seconds : Binary64)
  | connect (url : String)
  | send (payload : Payload)
  deriving Inhabited, Repr

/-- The kinds of steps. -/
inductive StepKind where
  | think
  | connect
  | send
  deriving DecidableEq, Repr, Inhabited

/-- The key that a kind of steps has in documents. -/
def StepKind.name : StepKind → String
  | .think => "think"
  | .connect => "connect"
  | .send => "send"

/-- The kind of a step. -/
def Step.kind : Step → StepKind
  | .think _ => .think
  | .connect _ => .connect
  | .send _ => .send

/-- A scenario, which has at least one step. -/
structure Scenario where
  title : Option String := none
  description : Option String := none
  config : Config := {}
  steps : List Step
  steps_ne_nil : steps ≠ []
  deriving Repr

/-- The variables of a configuration as entries. -/
def Config.entries (c : Config) : Entries := c.vars.map fun e => (.text e.1, e.2)

end SessionScript
