import SessionScript.Evaluator.Run
import SessionScript.Functions.Random
import SessionScript.Scenario.Basic

/-!
# Functions written as code

A scenario can declare functions as code. The arguments of a call are bound to the declared names;
all functions of a session share an evaluator.
-/

namespace SessionScript

/-- A place inside a state where an evaluator is kept. -/
structure EvaluatorPlace (σ : Type) where
  get : σ → Evaluator
  set : Evaluator → σ → σ

/-- A function that is declared as code. -/
structure CodeFunction where
  name : String
  params : List String
  program : Code.Program

namespace CodeFunction

/-- The function of a definition; its code has to compile. -/
def compile (name : String) (d : FunctionDefinition) : Except Failure CodeFunction :=
  (Code.Program.compile d.code.toList).map fun p => ⟨name, d.params, p⟩

/-- The function as messages show it. -/
def shown (f : CodeFunction) : String := "CodeFunction(" ++ Text.quoted f.name ++ ")"

/-- The parameters bound to the arguments at their positions, or to nothing where there is no
    argument. -/
def bindParams {α : Type} (missing : α) (params : List String) (args : List α) :
    List (String × α) :=
  params.zipIdx.map fun (name, i) => (name, (args[i]?).getD missing)

/-- What the code of a function sees: its parameters, and all arguments under a name of their own.
    Of two bindings of one name the later one counts. -/
def bindings (params : List String) (args : List Evaluator.Datum) : Evaluator.Bindings :=
  let bound := bindParams Evaluator.Datum.none params args
  (bound ++ [("args", Evaluator.Datum.tuple args)]).foldl
    (fun acc b => Evaluator.Work.bindName b.1 b.2 acc) []

/-- Calls a function. -/
def call (f : CodeFunction) (ev : Evaluator) (args : List Value) :
    Except Failure Value × Evaluator :=
  let (ds, ev) := ev.acceptAll args
  let (outcome, _, ev) := ev.run (bindings f.params ds) f.program
  (outcome.map ev.release, ev)

/-- The function for templates, whose evaluator is kept in the state of the host. -/
def bound {σ : Type} (place : EvaluatorPlace σ) (f : CodeFunction) : Template.Function σ :=
  fun args vars host =>
    let (outcome, ev) := f.call (place.get host) args
    (outcome, vars, place.set ev host)

end CodeFunction

namespace Functions

/-- The failure of a function whose code is rejected. Only reports are causes of it. -/
def invalidCode (name : String) (f : Failure) : Failure :=
  match f with
  | .report r =>
    .report
      { kind := .schema
        message := "Invalid code of function " ++ Text.quoted name
        cause := some (.report r) }
  | f => f

/-- The functions of definitions, compiled in order. -/
def compileAll (definitions : List (String × FunctionDefinition)) :
    Except Failure (List CodeFunction) :=
  definitions.mapM fun (name, d) => (CodeFunction.compile name d).mapError (invalidCode name)

/-- The declared functions of a scenario. Without a place for an evaluator none may be
    declared. -/
def declared {σ : Type} (place : Option (EvaluatorPlace σ))
    (definitions : List (String × FunctionDefinition)) : Except Failure (List CodeFunction) :=
  if definitions.isEmpty then .ok []
  else
    match place with
    | none =>
      .error (.report
        { kind := .schema
          message := "Code functions are declared but code evaluation is not allowed" })
    | some _ => compileAll definitions

/-- The functions of a session: the random ones, and those that the scenario declares. -/
def build {σ : Type} (draw : Draw σ) (place : Option (EvaluatorPlace σ))
    (definitions : List (String × FunctionDefinition)) :
    Except Failure (Template.Functions σ) := do
  let fs ← declared place definitions
  match place with
  | none => return builtin draw
  | some place =>
    return fs.foldl (fun acc f => Template.Functions.bind acc f.name (f.bound place)) (builtin draw)

end Functions

end SessionScript
