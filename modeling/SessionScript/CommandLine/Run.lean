import SessionScript.CommandLine.Request
import SessionScript.Decimal.Rounded
import SessionScript.Functions.Code
import SessionScript.Schema.Description
import SessionScript.Session.Run
import SessionScript.Settings

/-!
# Runs from the command line

A scenario file is run once, with the settings of the environment and what the user added. The
events of the session are told to the log.
-/

namespace SessionScript.CommandLine

variable {σ : Type}

/-- Which entries of the log are shown. -/
inductive LogLevel where
  | named (name : String)
  | atLeast (severity : Severity)
  deriving DecidableEq, Repr, Inhabited

/-- Whether an entry is shown at a level. A name that stands for no severity shows all of them. -/
def LogLevel.shows (level : LogLevel) (s : Severity) : Bool :=
  match level with
  | .atLeast least => least.weight ≤ s.weight
  | .named name =>
    match [Severity.debug, .info, .warning, .error].find? fun t => t.name == name with
    | some least => least.weight ≤ s.weight
    | none => true

/-- The log level of a run: more of the log is shown if that was asked for, and all of it if it was
    asked for twice. -/
def RunRequest.logLevel (r : RunRequest) (s : Settings) : LogLevel :=
  match r.verbosity with
  | 0 => .named s.logLevel
  | 1 => .atLeast .info
  | _ => .atLeast .debug

/-- The seconds that opening and closing a connection may take. -/
structure Timeouts where
  opening : Binary64
  closing : Binary64

/-- Nanoseconds as milliseconds with three places. -/
def milliseconds (nanoseconds : Nat) : String :=
  let (whole, part) := Decimal.fixed ⟨nanoseconds, 1000000⟩ 3
  String.ofList whole ++ "." ++ String.ofList part

/-- The log entry of an event. -/
def entryOf : Event → LogEntry
  | .started => ⟨.info, .program, "session started"⟩
  | .request => ⟨.info, .program, "request"⟩
  | .response latency status =>
    ⟨.info, .program,
      "response " ++ Text.ofInt status ++ " in " ++ milliseconds latency ++ " ms"⟩
  | .refused code => ⟨.error, .program, "error " ++ code⟩
  | .failed f => ⟨.error, .program, "error " ++ f.plainText⟩

/-- The audience that writes every event to the log. -/
def logging : Audience Unit := fun e _ => ([entryOf e], none, ())

/-- How a call of the program went: how it ended, the log level that was set, the timeouts of
    connections if there was a scenario to run, and what was done. -/
structure Conclusion where
  finish : Finish
  level : Option LogLevel := none
  timeouts : Option Timeouts := none
  trace : List Action := []

/-- How the program ends with a failure. What the engine reports itself is told to the user. -/
def Finish.ofFailure (f : Failure) : Finish :=
  match f, f.text with
  | .report _, .ok s => .failed s
  | .report _, .error e => .crashed (.raise e.kind "")
  | f, _ => .crashed f

/-- How the program ends after a session. -/
def Finish.ofOutcome : Except Failure (Outcome σ) → Finish
  | .error f => .crashed f
  | .ok o =>
    match o.failure with
    | some r => .ofFailure (.report r)
    | none =>
      .done ("Session completed: " ++ Text.ofInt o.context.successes ++ " message(s) sent\n")

namespace RunRequest

/-- The session that a request asks for. Code is run only if the request or the settings allow
    it. -/
def session (draw : Functions.Draw σ) (place : EvaluatorPlace σ) (settings : Settings)
    (r : RunRequest) (s : Scenario) : Except Failure (Session σ) := do
  let allowed := r.allowsCode || settings.allowsCode
  let functions ← Functions.build draw (if allowed then some place else none) s.config.functions
  return ⟨s.steps, settings.complete s.config r.target r.defers, functions⟩

/-- Runs the scenario of a request in a world. -/
def perform (draw : Functions.Draw σ) (place : EvaluatorPlace σ)
    (environment : List (String × String)) (world : World σ Unit) (r : RunRequest) : Conclusion :=
  match Settings.ofEnvironment environment with
  | .error _ => { finish := .crashed (.raise "ValidationError" "") }
  | .ok settings =>
    let level := some (r.logLevel settings)
    match r.scenario with
    | .error report => { finish := .ofFailure (.report report), level := level }
    | .ok s =>
      let timeouts := some ⟨settings.openTimeout, settings.closeTimeout⟩
      match r.session draw place settings s with
      | .error f => { finish := .ofFailure f, level := level, timeouts := timeouts }
      | .ok session =>
        let context := session.createContext (.bindings r.vars [] none)
        let (result, running) :=
          (Session.call logging session).run.run { context := context, world := world }
        { finish := .ofOutcome result
          level := level
          timeouts := timeouts
          trace := running.world.trace }

end RunRequest

/-- The path of the file that words ask to run. -/
def scenarioPath? (words : List String) : Option String :=
  match Command.ofWords words with
  | .ok (.run w) => w.operands.head?
  | _ => none

/-- Does what words ask for, given what is found at a path. -/
def call (draw : Functions.Draw σ) (place : EvaluatorPlace σ) (find : String → FileState)
    (environment : List (String × String)) (world : World σ Unit) (words : List String) :
    Conclusion :=
  match Command.ofWords words with
  | .error finish => { finish := finish }
  | .ok .schema => { finish := .done (Schema.Description.text ++ "\n") }
  | .ok (.run w) =>
    match RunRequest.ofWords find w with
    | .error finish => { finish := finish }
    | .ok r => r.perform draw place environment world

end SessionScript.CommandLine
