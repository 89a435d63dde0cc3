import SessionScript.Failure.Code
import SessionScript.Log
import SessionScript.Report
import SessionScript.Session.Context

/-!
# The world of a session

What a session does to the world around it, and how the world answers: connections are opened,
written to and closed, time passes, and events are told to an audience. How every one of these
ends is a script, one entry for each time it is done; where a script has ended, all goes well.
-/

namespace SessionScript

/-- A message as it is sent. -/
inductive Message where
  | text (s : String)
  | bytes (b : List UInt8)
  deriving DecidableEq, Repr, Inhabited

/-- The number of characters or bytes of a message. -/
def Message.length : Message → Nat
  | .text s => s.length
  | .bytes b => b.length

/-- What a session tells about its progress. -/
inductive Event where
  | started
  | request
  /-- A message was sent; how long that took in nanoseconds. -/
  | response (latency : Nat) (status : Int)
  /-- A connection could not be opened; the short code of the failure. -/
  | refused (code : String)
  /-- A message could not be sent. -/
  | failed (f : Failure)
  deriving Inhabited

/-- The name of an event. -/
def Event.name : Event → String
  | .started => "started"
  | .request => "request"
  | .response _ _ => "response"
  | .refused _ | .failed _ => "error"

/-- The values that come with an event. -/
def Event.args : Event → List Value
  | .started | .request => []
  | .response latency status => [.int latency, .int status]
  | .refused code => [.text code]
  | .failed f => [.error f.kind f.plainText]

/-- What a session does, each noted before it is known how it ends. -/
inductive Action where
  | log (entry : LogEntry)
  | opens (url : String)
  | sends (c : Connection) (m : Message)
  | closes (c : Connection)
  | sleeps (seconds : Binary64)
  | tells (e : Event)
  deriving Inhabited

/-- How something ends: well, or with a failure. -/
abbrev Ending := Option Failure

/-- The world around a session. -/
structure World (σ ω : Type) where
  /-- What the functions of templates work on. -/
  host : σ
  /-- What the audience has become. -/
  audience : ω
  openings : List Ending := []
  sendings : List Ending := []
  closings : List Ending := []
  sleepings : List Ending := []
  /-- The number of connections that were opened. -/
  opened : Nat := 0
  /-- The nanoseconds between two looks at the clock. -/
  tick : Nat := 1500000
  trace : List Action := []

/-- How the audience takes an event: what it writes to the log, how it fails, if it does, and what
    it becomes. -/
abbrev Audience (ω : Type) := Event → ω → List LogEntry × Option Failure × ω

/-- The phases of a session. -/
inductive Phase where
  | idle
  | connecting
  | executing
  | closed
  deriving DecidableEq, Repr, Inhabited

/-- The name of a phase. -/
def Phase.name : Phase → String
  | .idle => "idle"
  | .connecting => "connecting"
  | .executing => "executing"
  | .closed => "closed"

/-- A session that is running: its context, its phase and the world. -/
structure Running (σ ω : Type) where
  context : SessionContext σ
  phase : Phase := .idle
  world : World σ ω

/-- A part of a session. What it did before a failure stays done. -/
abbrev Act (σ ω : Type) := ExceptT Failure (StateM (Running σ ω))

namespace Act

variable {σ ω : Type}

/-- Changes the world. -/
def modifyWorld (f : World σ ω → World σ ω) : Act σ ω Unit :=
  modify fun r => { r with world := f r.world }

/-- Changes the context. -/
def modifyContext (f : SessionContext σ → SessionContext σ) : Act σ ω Unit :=
  modify fun r => { r with context := f r.context }

/-- Notes what is done. -/
def record (a : Action) : Act σ ω Unit :=
  modifyWorld fun w => { w with trace := w.trace ++ [a] }

/-- Writes a log entry. -/
def note (severity : Severity) (area : Area) (message : String) : Act σ ω Unit :=
  record (.log ⟨severity, area, message⟩)

/-- Ends as a script says. -/
def finish (e : Ending) : Act σ ω Unit :=
  match e with
  | none => return
  | some f => throw f

/-- Opens a connection. -/
def openAt (url : String) : Act σ ω Connection := do
  record (.opens url)
  let w := (← get).world
  modifyWorld fun w => { w with openings := w.openings.drop 1 }
  finish w.openings.head?.join
  modifyWorld fun w => { w with opened := w.opened + 1 }
  return .opened w.opened

/-- Writes a message to a connection. -/
def sendTo (c : Connection) (m : Message) : Act σ ω Unit := do
  record (.sends c m)
  let w := (← get).world
  modifyWorld fun w => { w with sendings := w.sendings.drop 1 }
  finish w.sendings.head?.join

/-- Closes a connection. -/
def close (c : Connection) : Act σ ω Unit := do
  record (.closes c)
  let w := (← get).world
  modifyWorld fun w => { w with closings := w.closings.drop 1 }
  finish w.closings.head?.join

/-- Sleeps. -/
def sleep (seconds : Binary64) : Act σ ω Unit := do
  record (.sleeps seconds)
  let w := (← get).world
  modifyWorld fun w => { w with sleepings := w.sleepings.drop 1 }
  finish w.sleepings.head?.join

/-- Tells an event to the audience. -/
def emit (audience : Audience ω) (e : Event) : Act σ ω Unit := do
  record (.tells e)
  let (entries, failure, next) := audience e (← get).world.audience
  modifyWorld fun w =>
    { w with audience := next, trace := w.trace ++ entries.map Action.log }
  finish failure

/-- Does something and gives its failure as a value, unless the failure interrupts the program. -/
def attempt {α : Type} (act : Act σ ω α) : Act σ ω (Except Failure α) :=
  tryCatch (do return .ok (← act)) fun f => if f.isInterruption then throw f else return .error f

/-- Closes a connection; a failure is noted in the log. -/
def closeQuietly (c : Connection) : Act σ ω Unit := do
  match ← attempt (close c) with
  | .ok _ => return
  | .error _ => note .warning .connections ("Failed to close connection " ++ c.shown)

/-- Moves to a phase. -/
def enter (p : Phase) : Act σ ω Unit := do
  note .debug .runs ("session " ++ (← get).phase.name ++ " -> " ++ p.name)
  modify fun r => { r with phase := p }

/-- Resolves a value with the variables and functions of the context. -/
def resolve (v : Value) : Act σ ω Value := do
  let r ← get
  let memory : Template.Memory σ := ⟨r.context.vars, r.world.host, []⟩
  let (result, memory) := (Template.resolve r.context.funcs Template.callLimit v).run.run memory
  set
    { r with
      context := { r.context with vars := memory.vars }
      world :=
        { r.world with
          host := memory.host
          trace := r.world.trace ++ memory.log.map Action.log } }
  MonadExcept.ofExcept result

end Act

end SessionScript
