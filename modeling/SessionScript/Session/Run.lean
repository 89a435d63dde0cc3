import SessionScript.Session.Step

/-!
# Running sessions

A session opens its connection unless that is deferred, runs its steps strictly in order up to the
first that fails, and releases the connection that it holds before it is over.
-/

namespace SessionScript

variable {σ ω : Type}

/-- A scenario that is ready to be run, with the functions that every run starts with. -/
structure Session (σ : Type) where
  steps : List Step
  config : Config
  functions : Template.Functions σ

/-- How a run ended: the failure that stopped it, if there was one, and its context. -/
structure Outcome (σ : Type) where
  failure : Option (Report Failure)
  context : SessionContext σ

/-- What a caller starts a run with. -/
inductive Initial (σ : Type) where
  | nothing
  | mapping (vars : Entries)
  | bindings (vars : Entries) (funcs : Template.Functions σ)
      (connection : Option Connection)

namespace Session

/-- The number of steps that cause traffic. -/
def pending (s : Session σ) : Nat :=
  (s.steps.filter fun step => step.kind != .think).length

/-- The context of a run. What the caller brings replaces what is configured; a connection of the
    caller is used only if connecting is deferred. -/
def createContext (s : Session σ) (initial : Initial σ) : SessionContext σ :=
  let base : SessionContext σ :=
    { vars := s.config.entries, funcs := s.functions, pending := s.pending }
  match initial with
  | .nothing => base
  | .mapping vars => { base with vars := base.vars.putAll vars }
  | .bindings vars funcs connection =>
    { base with
      vars := base.vars.putAll vars
      funcs := funcs.foldl (fun acc f => acc.bind f.1 f.2) base.funcs
      connection := if s.config.defersConnection then connection else none }

/-- Lets go of the connection of the context and closes it. -/
def letGo (announce : Connection → Act σ ω Unit) : Act σ ω Unit := do
  let held := (← get).context.connection
  Act.modifyContext fun x => { x with connection := none }
  match held with
  | none => return
  | some c =>
    announce c
    Act.closeQuietly c

/-- Opens the connection to the target, unless that is deferred, and tells that the session has
    started. -/
def start (audience : Audience ω) (s : Session σ) : Act σ ω Unit := do
  if s.config.defersConnection then
    Act.emit audience .started
  else
    Act.enter .connecting
    letGo fun c => Act.note .debug .runs ("closing connection " ++ c.shown ++ " before connecting")
    let c ← connectTo audience s.config.target
    Act.modifyContext fun x => { x with connection := some c }
    Act.emit audience .started

/-- The place of a step that failed, added to what is known about the place. -/
def stepPlace (step : Step) (number : Nat) (vars : Entries) (base : Option Place) : Place :=
  { base.getD {} with
    step := some number
    element := some step.element
    vars := some (.dict vars) }

/-- A failure of a step as it is reported. A failure that is not one of sessions is the cause of
    one. -/
def stepFailure (step : Step) (number : Nat) (vars : Entries) (f : Failure) : Report Failure :=
  let unexpected : Report Failure :=
    { kind := .stepFailed
      message := f.shown
      place := some (stepPlace step number vars none)
      cause := some f }
  match f with
  | .report r =>
    if r.kind.endsSession then { r with place := some (stepPlace step number vars r.place) }
    else unexpected
  | _ => unexpected

/-- Runs the step with some number. -/
def runStep (audience : Audience ω) (s : Session σ) (step : Step) (number : Nat) :
    Act σ ω Unit := do
  Act.note .debug .runs ("step " ++ Text.ofNat number ++ ": " ++ step.kind.name)
  match ← Act.attempt (step.run audience s.config) with
  | .ok _ => return
  | .error f => throw (.report (stepFailure step number (← get).context.vars f))

/-- Runs steps that are numbered from a number on. -/
def runSteps (audience : Audience ω) (s : Session σ) : Nat → List Step → Act σ ω Unit
  | _, [] => return
  | n, step :: steps => do
    runStep audience s step n
    runSteps audience s (n + 1) steps

/-- Runs all steps. -/
def execute (audience : Audience ω) (s : Session σ) : Act σ ω Unit := do
  Act.enter .executing
  runSteps audience s 0 s.steps

/-- Releases the connection of the context. -/
def release : Act σ ω Unit := do
  letGo fun _ => pure ()
  Act.enter .closed

/-- Does something and then something else, however the first ends. -/
def ensuring (act after : Act σ ω Unit) : Act σ ω Unit := do
  let result ← tryCatch (do act; return none) fun f => return some f
  after
  match result with
  | none => return
  | some f => throw f

/-- Whether a failure is reported as the result of a run, given which reports are. -/
def reported? (isResult : ReportKind → Bool) : Failure → Option (Report Failure)
  | .report r => if isResult r.kind then some r else none
  | _ => none

/-- Runs a part of a session; a report of some kinds is its result. -/
def resultOf (isResult : ReportKind → Bool) (act : Act σ ω Unit) :
    Act σ ω (Option (Report Failure)) :=
  tryCatch (do act; return none) fun f =>
    match reported? isResult f with
    | some r => return some r
    | none => throw f

/-- Runs a session in its context. If the first connection can not be opened, the context of the
    outcome is empty. -/
def run (audience : Audience ω) (s : Session σ) : Act σ ω (Outcome σ) := do
  match ← resultOf (· == .connect) (start audience s) with
  | some r =>
    Act.enter .closed
    return ⟨some r, {}⟩
  | none =>
    let failure ← resultOf ReportKind.endsSession (ensuring (execute audience s) release)
    return ⟨failure, (← get).context⟩

/-- Runs a session and notes in the log how it failed. -/
def call (audience : Audience ω) (s : Session σ) : Act σ ω (Outcome σ) := do
  let outcome ← run audience s
  match outcome.failure with
  | some r => Act.note .debug .runs ("session failed: " ++ r.message)
  | none => pure ()
  return outcome

/-- Runs a session and, once it is over, tells the caller how it ended if that was asked for. -/
def callThen (audience : Audience ω) (s : Session σ) (done : Option (Outcome σ → Act σ ω Unit)) :
    Act σ ω (Outcome σ) := do
  let outcome ← call audience s
  match done with
  | some tell => tell outcome
  | none => pure ()
  return outcome

end Session

end SessionScript
