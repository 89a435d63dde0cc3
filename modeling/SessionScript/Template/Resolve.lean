import SessionScript.Json
import SessionScript.Log
import SessionScript.Template.Call
import SessionScript.Template.Marker
import SessionScript.Template.Path

/-!
# Resolving templates

A text is resolved by making its first call, putting the result's text in place of the marker and
starting over; when no call is left its variable markers are replaced. A value is resolved text by
text. Functions may read and change the variables and the state of their host.
-/

namespace SessionScript.Template

/-- What resolving a template may change: the variables, the state of the host and the log. -/
structure Memory (σ : Type) where
  vars : Entries
  host : σ
  log : List LogEntry

/-- A computation on a memory that may fail; what it did before a failure stays done. -/
abbrev Resolving (σ : Type) := ExceptT Failure (StateM (Memory σ))

/-- A function that templates may call. -/
abbrev Function (σ : Type) := List Value → Entries → σ → Except Failure Value × Entries × σ

/-- The functions by name. -/
abbrev Functions (σ : Type) := List (String × Function σ)

/-- The function bound to a name. -/
def Functions.get? {σ : Type} (funcs : Functions σ) (name : String) : Option (Function σ) :=
  funcs.lookup name

/-- Binds a name to a function. A name that is bound keeps its place. -/
def Functions.bind {σ : Type} : Functions σ → String → Function σ → Functions σ
  | [], name, f => [(name, f)]
  | (n, g) :: fs, name, f =>
    if n == name then (n, f) :: fs else (n, g) :: Functions.bind fs name f

/-- Unbinds a name. -/
def Functions.unbind {σ : Type} (funcs : Functions σ) (name : String) : Functions σ :=
  funcs.filter (·.1 != name)

/-- The text of a value in a template. -/
def textOf (v : Value) : Except Failure String :=
  match v.stringify with
  | .ok s => .ok s
  | .error e => .error (.raise e.kind e.message)

/-- The text of pieces with every variable replaced. -/
def renderPieces (vars : Entries) : List Piece → Except Failure (List Char)
  | [] => .ok []
  | .char c :: ps => (renderPieces vars ps).map (c :: ·)
  | .variable path :: ps => do
    let s ← textOf (lookup vars path)
    return s.toList ++ (← renderPieces vars ps)

/-- Replaces the variable markers of a text. Unbound variables leave nothing. -/
def interpolate (vars : Entries) (cs : List Char) : Except Failure (List Char) :=
  renderPieces vars (Piece.ofText cs)

/-- Writes a log entry. -/
def note {σ : Type} (severity : Severity) (area : Area) (message : String) : Resolving σ Unit :=
  modify fun m => { m with log := m.log ++ [⟨severity, area, message⟩] }

/-- Calls a function on the memory. -/
def invoke {σ : Type} (f : Function σ) (args : List Value) : Resolving σ Value := do
  let m ← get
  let (result, vars, host) := f args m.vars m.host
  set { m with vars := vars, host := host }
  MonadExcept.ofExcept result

/-- Replaces the variable markers of a text with the variables of the memory. -/
def interpolateNow {σ : Type} (cs : List Char) : Resolving σ (List Char) := do
  MonadExcept.ofExcept (interpolate (← get).vars cs)

/-- The failure of a resolution that does not come to an end. -/
def endless : Failure := .raise "RecursionError" "maximum recursion depth exceeded"

/-- Resolves a text with at most a number of calls that follow each other. A call that can not be
    made because its function is unbound or its arguments are not literal leaves the text as it
    stands. -/
def resolveText {σ : Type} (funcs : Functions σ) : Nat → List Char → Resolving σ (List Char)
  | 0, _ => throw endless
  | limit + 1, cs =>
    match CallMarker.find? cs with
    | none => interpolateNow cs
    | some m =>
      match Call.parse m.call with
      | .error (.syntaxFault e why) => throw (Call.Fault.syntaxFault e why).failure
      | .error fault => do
        let message := match fault.failure with
          | .report r => r.message
          | f => f.shown
        note .warning .templates
          ("Template " ++ Text.quoted (String.ofList cs) ++ " left unresolved: " ++ message)
        return cs
      | .ok none => interpolateNow cs
      | .ok (some call) =>
        match funcs.get? call.name with
        | none => do
          note .debug .templates
            ("Function " ++ Text.quoted call.name ++ " is not bound, template left unresolved")
          return cs
        | some f => do
          let result ← invoke f call.args
          let text ← MonadExcept.ofExcept (textOf result)
          resolveText funcs limit (m.splice text.toList)

/-- Resolves a leaf: texts are templates, everything else stands for itself. -/
def resolveLeaf {σ : Type} (funcs : Functions σ) (limit : Nat) : Value → Resolving σ Value
  | .text s => do
    let cs ← resolveText funcs limit s.toList
    return .text (String.ofList cs)
  | v => return v

/-- Resolves every text of a value in document order. -/
def resolve {σ : Type} (funcs : Functions σ) (limit : Nat) (v : Value) : Resolving σ Value :=
  v.mapLeavesM (resolveLeaf funcs limit)

/-- The number of calls that may follow each other in one text. -/
def callLimit : Nat := 900

end SessionScript.Template
