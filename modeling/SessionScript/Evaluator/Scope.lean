import SessionScript.Evaluator.Item

/-!
# Names in running code

How a name is looked up, bound and removed. A function sees its own names, then those of the
functions around it, then those of the whole code, then the table of builtins.
-/

namespace SessionScript.Evaluator

namespace Work

/-- The names that are bound in a cell. -/
def bound (address : Nat) : Work (List (String × Datum)) := do
  match ← read address with
  | .names ns => return ns
  | _ => return []

/-- Bindings with a name bound; a name that is bound already keeps its place. -/
def bindName (name : String) (d : Datum) : List (String × Datum) → List (String × Datum)
  | [] => [(name, d)]
  | (n, v) :: ns => if n == name then (n, d) :: ns else (n, v) :: bindName name d ns

/-- Binds a name in a cell. -/
def bind (address : Nat) (name : String) (d : Datum) : Work Unit := do
  write address (.names (bindName name d (← bound address)))

/-- Removes a name from a cell. -/
def unbind (address : Nat) (name : String) : Work Unit := do
  write address (.names ((← bound address).filter fun p => p.1 != name))

/-- The error of a name that is bound nowhere. -/
def notDefined {α : Type} (name : String) : Work α :=
  raise "NameError" ("name '" ++ name ++ "' is not defined")

/-- The error of a name of a function that has no value yet. -/
def notAssigned {α : Type} (name : String) : Work α :=
  raise "UnboundLocalError"
    ("cannot access local variable '" ++ name ++ "' where it is not associated with a value")

/-- The error of a name of a function around that has no value yet. -/
def notAssignedOutside {α : Type} (name : String) : Work α :=
  raise "NameError"
    ("cannot access free variable '" ++ name ++
      "' where it is not associated with a value in enclosing scope")

end Work

namespace Scope

/-- The value of a builtin. The table of builtins is a mapping, unless code has replaced it. -/
def loadBuiltin (sc : Scope) (name : String) : Work Datum := do
  let other : Work Datum := do
    let found ← tryCatch (do return some (← sc.builtins.item (.text name)))
      fun (e : Raised) => if e.kind == "KeyError" then pure none else throw e
    match found with
    | some d => return d
    | none => Work.notDefined name
  match sc.builtins with
  | .cell a =>
    match ← Work.read a with
    | .dict es =>
      match Pairs.get? es (.text name) with
      | some d => return d
      | none => Work.notDefined name
    | _ => other
  | _ => other

/-- The value of a name of the whole code or of a builtin. -/
def loadGlobal (sc : Scope) (name : String) : Work Datum := do
  match (← Work.bound sc.globals).lookup name with
  | some d => return d
  | none => sc.loadBuiltin name

/-- Where a name lives. -/
inductive Home where
  | own (address : Nat)
  | outer (address : Nat)
  | whole

/-- Where a name lives, given the frames that are left to look in and whether they are the own
    ones. -/
def homeIn : Bool → List Frame → String → Home
  | _, [], _ => .whole
  | isOwn, f :: fs, name =>
    if f.names.locals.contains name then (if isOwn then .own f.address else .outer f.address)
    else if f.names.globals.contains name then .whole
    else homeIn false fs name

/-- Where a name lives. -/
def home (sc : Scope) (name : String) : Home := homeIn true sc.frames name

/-- The value of a name. -/
def load (sc : Scope) (name : String) : Work Datum := do
  match sc.home name with
  | .own a =>
    match (← Work.bound a).lookup name with
    | some d => return d
    | none => Work.notAssigned name
  | .outer a =>
    match (← Work.bound a).lookup name with
    | some d => return d
    | none => Work.notAssignedOutside name
  | .whole => sc.loadGlobal name

/-- Binds a name. -/
def assign (sc : Scope) (name : String) (d : Datum) : Work Unit :=
  match sc.home name with
  | .own a | .outer a => Work.bind a name d
  | .whole => Work.bind sc.globals name d

/-- The scope around the comprehensions that code stands in. -/
def withoutComprehensions (sc : Scope) : Scope :=
  { sc with frames := sc.frames.dropWhile (·.isComprehension) }

/-- Removes a name. -/
def delete (sc : Scope) (name : String) : Work Unit := do
  match sc.home name with
  | .own a =>
    if ((← Work.bound a).lookup name).isNone then Work.notAssigned name
    Work.unbind a name
  | .outer a =>
    if ((← Work.bound a).lookup name).isNone then Work.notAssignedOutside name
    Work.unbind a name
  | .whole =>
    if ((← Work.bound sc.globals).lookup name).isNone then Work.notDefined name
    Work.unbind sc.globals name

end Scope

end SessionScript.Evaluator
