import SessionScript.Code.Program
import SessionScript.Evaluator.Eval
import SessionScript.Evaluator.Exchange

/-!
# Running code

An evaluator runs programs. What a program can see are the bindings that it is given and the table
of builtins; the names that it binds are written back to the bindings, also if it fails. The table
and whatever code reaches through its bindings outlive a run, everything else starts anew.
-/

namespace SessionScript

/-- The store that programs work on and the place of the table of builtins in it. -/
structure Evaluator where
  store : Evaluator.Store
  table : Nat
  deriving Inhabited

namespace Evaluator

/-- The names that a program is given, with their values. -/
abbrev Bindings := List (String × Datum)

/-- The name under which code finds the table of builtins. -/
def tableName : String := "__builtins__"

/-- How many steps deep a run may go; no run that ends comes near it. -/
def steps : Nat := 1000000000000

/-- How many calls may nest. -/
def mostCalls : Nat := 980

/-- The entries of a table of builtins. -/
def tableOf (names : List String) : Except Failure Pairs :=
  names.foldlM (fun (acc : Pairs) name =>
    match Builtin.ofName? name with
    | some d => .ok (Pairs.put acc (.text name) d)
    | none =>
      .error (.raise "AttributeError"
        ("module 'builtins' has no attribute " ++ Text.quoted name))) []

/-- An evaluator whose programs see some builtins. -/
def withBuiltins (names : List String) : Except Failure Evaluator := do
  let es ← tableOf names
  return ⟨{ cells := #[.dict es], room := mostCalls }, 0⟩

/-- An evaluator whose programs see the standard builtins. -/
def standard : Evaluator :=
  match withBuiltins Builtin.standard with
  | .ok ev => ev
  | .error _ => ⟨{ cells := #[.dict []], room := mostCalls }, 0⟩

/-- The table of builtins that code starts with: the one under its name, or else all builtins. -/
def tableFor (globals : Nat) : Work Datum := do
  match (← Work.bound globals).lookup tableName with
  | some d => return d
  | none =>
    let es := Builtin.everything.filterMap fun name =>
      (Builtin.ofName? name).map fun d => (Datum.text name, d)
    Work.new (.dict es)

/-- Binds what a program binds before its first statement: the text that it starts with, and the
    mapping that type notes go to. -/
def prepare (globals : Nat) (p : Code.Program) : Work Unit := do
  if (Code.blockMentions p.body).contains .notesType then
    if ((← Work.bound globals).lookup "__annotations__").isNone then
      Work.bind globals "__annotations__" (← Work.new (.dict []))
  match p.body.head?.bind Code.Stmt.text? with
  | some s => Work.bind globals "__doc__" (.text s)
  | none => return

/-- Runs a program whose names are kept in a cell. -/
def runIn (globals : Nat) (p : Code.Program) : Work Datum := do
  let scope : Scope := { globals := globals, builtins := ← tableFor globals, frames := [] }
  prepare globals p
  let _ ← execBlock steps scope p.body
  match p.tail with
  | none => return .none
  | some e =>
    eval steps { globals := globals, builtins := ← tableFor globals, frames := [] } e

/-- Runs a program with some bindings, and gives the bindings afterwards. Names that the program
    removes stay bound. -/
def runWith (table : Nat) (bindings : Bindings) (p : Code.Program) :
    Work (Except Raised Datum × Bindings) := do
  let globals ← Work.newCell (.names (Work.bindName tableName (.cell table) bindings))
  let outcome ← Work.attempt (runIn globals p)
  let seen := (← Work.bound globals).filter fun b => b.1 != tableName
  return (outcome, seen.foldl (fun acc b => Work.bindName b.1 b.2 acc) bindings)

/-- The failure of a program that raised an error. -/
def failed (e : HostError) : Failure :=
  if ErrorKind.includes "Exception" e.kind then
    .report
      { kind := .sandbox
        message := "Error during sandboxed code evaluation: " ++ e.shown
        cause := some (.host e) }
  else .host e

/-- Runs a program with some bindings. -/
def run (ev : Evaluator) (bindings : Bindings) (p : Code.Program) :
    Except Failure Datum × Bindings × Evaluator :=
  let store := { ev.store with handling := [], room := mostCalls }
  match (runWith ev.table bindings p).run store with
  | .ok (.ok d, after) s => (.ok d, after, { ev with store := s })
  | .ok (.error e, after) s => (.error (failed (giveError s e)), after, { ev with store := s })
  | .error e s => (.error (failed (giveError s e)), bindings, { ev with store := s })

/-- Runs code with some bindings. -/
def evaluate (ev : Evaluator) (bindings : Bindings) (code : String) :
    Except Failure Datum × Bindings × Evaluator :=
  match Code.Program.compile code.toList with
  | .error f => (.error f, bindings, ev)
  | .ok p => ev.run bindings p

/-- A value of a scenario as a value of running code. -/
def accept (ev : Evaluator) (v : Value) : Datum × Evaluator :=
  match (take v).run ev.store with
  | .ok d s => (d, { ev with store := s })
  | .error _ s => (.none, { ev with store := s })

/-- Values of scenarios as values of running code. -/
def acceptAll (ev : Evaluator) : List Value → List Datum × Evaluator
  | [] => ([], ev)
  | v :: vs =>
    let (d, ev) := ev.accept v
    let (ds, ev) := ev.acceptAll vs
    (d :: ds, ev)

/-- A value of running code as a value of a scenario. -/
def release (ev : Evaluator) (d : Datum) : Value := give ev.store d

end Evaluator

end SessionScript
