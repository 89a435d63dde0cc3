import SessionScript.Proofs.Effect
import SessionScript.Session.Run

/-!
# Turns

What a session does, told without its trace and its audience. A turn says what is asked of
connections and of time, which events are told, how it fails and what it leaves; the turn of a
step depends only on the situation that the steps before it left. The runs of sessions are
compared with turns that follow each other.
-/

namespace SessionScript

variable {σ ω : Type}

/-- Whether an action asks something of a connection or lets time pass. -/
def Action.isDeed : Action → Bool
  | .opens _ | .sends _ _ | .closes _ | .sleeps _ => true
  | .log _ | .tells _ => false

/-- The event that an action tells. -/
def Action.event? : Action → Option Event
  | .tells e => some e
  | _ => none

/-- What was asked of connections and of time, in order. -/
def deedsOf (trace : List Action) : List Action := trace.filter Action.isDeed

/-- What was told, in order. -/
def eventsOf (trace : List Action) : List Event := trace.filterMap Action.event?

/-- What a step finds and leaves: the context, the phase, what functions work on, and how the
    things that are still to be done are going to end. -/
structure Situation (σ : Type) where
  context : SessionContext σ
  phase : Phase
  host : σ
  openings : List Ending
  sendings : List Ending
  closings : List Ending
  sleepings : List Ending
  opened : Nat
  tick : Nat

/-- The situation of a running session. -/
def Running.situation (r : Running σ ω) : Situation σ :=
  { context := r.context
    phase := r.phase
    host := r.world.host
    openings := r.world.openings
    sendings := r.world.sendings
    closings := r.world.closings
    sleepings := r.world.sleepings
    opened := r.world.opened
    tick := r.world.tick }

section Situation

variable (r : Running σ ω)

@[simp] theorem Running.situation_context : r.situation.context = r.context := rfl
@[simp] theorem Running.situation_openings : r.situation.openings = r.world.openings := rfl
@[simp] theorem Running.situation_opened : r.situation.opened = r.world.opened := rfl

end Situation

/-- A part of a session: what it did and told, how it failed if it did, and what it left. -/
structure Turn (σ : Type) where
  deeds : List Action := []
  events : List Event := []
  failure : Option Failure := none
  after : Situation σ

/-- A turn that another one follows unless it fails. -/
def Turn.andThen (t : Turn σ) (next : Situation σ → Turn σ) : Turn σ :=
  match t.failure with
  | some _ => t
  | none =>
    let u := next t.after
    { deeds := t.deeds ++ u.deeds
      events := t.events ++ u.events
      failure := u.failure
      after := u.after }

/-- A turn that another one follows however it ends. -/
def Turn.before (t : Turn σ) (next : Situation σ → Turn σ) : Turn σ :=
  let u := next t.after
  { deeds := t.deeds ++ u.deeds
    events := t.events ++ u.events
    failure := u.failure <|> t.failure
    after := u.after }

/-- A whole session: what it did and told, its result and what it left. -/
structure Course (σ : Type) where
  deeds : List Action
  events : List Event
  result : Except Failure (Outcome σ)
  after : Situation σ

/-- The turn that follows an answer, or that fails without one. -/
def Turn.given {α : Type} (answer : Except Failure α × Situation σ)
    (next : α → Situation σ → Turn σ) : Turn σ :=
  match answer with
  | (.error f, there) => { failure := some f, after := there }
  | (.ok a, there) => next a there

/-- The report of a connection that could not be opened. -/
def refusal (address : String) (f : Failure) : Report Failure :=
  { kind := .connect
    message := "Can not connect to " ++ Text.quoted address ++ ": " ++ f.shortCode
    code := some f.shortCode
    cause := some f }

/-- The report of a message that could not be sent. -/
def unsent (f : Failure) : Report Failure :=
  { kind := .send, message := "Can not send message: " ++ f.shown, cause := some f }

/-- The report of a message for which there is no connection. -/
def unconnected : Report Failure :=
  { kind := .connectionMissing, message := "Send step requires an open connection" }

namespace Situation

/-- What templates see and change. -/
def memory (here : Situation σ) : Template.Memory σ := ⟨here.context.vars, here.host, []⟩

/-- The situation after templates changed what they may change. -/
def remember (here : Situation σ) (m : Template.Memory σ) : Situation σ :=
  { here with context := { here.context with vars := m.vars }, host := m.host }

/-- A value with its templates resolved. -/
def resolve (here : Situation σ) (v : Value) : Except Failure Value × Situation σ :=
  let (result, m) :=
    exec (Template.resolve here.context.funcs Template.callLimit v) here.memory
  (result, here.remember m)

/-- The message of a payload. -/
def encode (here : Situation σ) : Payload → Except Failure Message × Situation σ
  | .text template =>
    let (result, next) := here.resolve (.text template)
    (result.map fun v => .text (resolvedText v), next)
  | .bytes b => (.ok (.bytes b), here)
  | .json body =>
    let (result, next) := here.resolve body
    (result.bind jsonMessage, next)

/-- The situation with a connection held, or none. -/
def hold (here : Situation σ) (held : Option Connection) : Situation σ :=
  { here with context := { here.context with connection := held } }

/-- The situation after an opening, however it ended. -/
def opensOnce (here : Situation σ) : Situation σ :=
  { here with openings := here.openings.drop 1 }

/-- The situation after a sending, however it ended. -/
def sendsOnce (here : Situation σ) : Situation σ :=
  { here with sendings := here.sendings.drop 1 }

/-- The situation after a closing, however it ended. -/
def closesOnce (here : Situation σ) : Situation σ :=
  { here with closings := here.closings.drop 1 }

/-- The situation after a sleep, however it ended. -/
def sleepsOnce (here : Situation σ) : Situation σ :=
  { here with sleepings := here.sleepings.drop 1 }

/-- The situation with one more connection opened. -/
def oneMore (here : Situation σ) : Situation σ := { here with opened := here.opened + 1 }

/-- The situation in another phase. -/
def enter (here : Situation σ) (phase : Phase) : Situation σ := { here with phase := phase }

@[simp] theorem opensOnce_context (here : Situation σ) :
    here.opensOnce.context = here.context := rfl

@[simp] theorem oneMore_context (here : Situation σ) : here.oneMore.context = here.context := rfl

@[simp] theorem enter_context (here : Situation σ) (phase : Phase) :
    (here.enter phase).context = here.context := rfl

@[simp] theorem enter_openings (here : Situation σ) (phase : Phase) :
    (here.enter phase).openings = here.openings := rfl

@[simp] theorem enter_opened (here : Situation σ) (phase : Phase) :
    (here.enter phase).opened = here.opened := rfl

/-- Opening a connection, which is held if that goes well. -/
def connectTo (here : Situation σ) (address : String) : Turn σ :=
  match here.openings.head?.join with
  | none =>
    { deeds := [.opens address]
      after := here.opensOnce.oneMore.hold (some (.opened here.opened)) }
  | some f =>
    if f.isInterruption then
      { deeds := [.opens address], failure := some f, after := here.opensOnce }
    else
      { deeds := [.opens address]
        events := [.refused f.shortCode]
        failure := some (.report (refusal address f))
        after := here.opensOnce }

/-- Closing a connection, if there is one. Only an interruption is a failure of that. -/
def closeAny (here : Situation σ) : Option Connection → Turn σ
  | none => { after := here }
  | some c =>
    { deeds := [.closes c]
      failure := here.closings.head?.join.filter Failure.isInterruption
      after := here.closesOnce }

/-- Letting go of the connection that is held. -/
def letGo (here : Situation σ) : Turn σ := (here.hold none).closeAny here.context.connection

/-- The end of a session that was started. -/
def release (here : Situation σ) : Turn σ :=
  here.letGo.andThen fun x => { after := x.enter .closed }

/-- The situation with one more message sent. -/
def countSent (here : Situation σ) : Situation σ :=
  { here with
    context :=
      { here.context with
        pending := here.context.pending - 1
        successes := here.context.successes + 1 } }

/-- Writing a message to a connection. -/
def write (here : Situation σ) (c : Connection) (m : Message) : Turn σ :=
  match here.sendings.head?.join with
  | none =>
    { deeds := [.sends c m]
      events := [.request, .response here.tick 0]
      after := here.sendsOnce.countSent }
  | some f =>
    if f.isInterruption then
      { deeds := [.sends c m]
        events := [.request]
        failure := some f
        after := here.sendsOnce }
    else
      { deeds := [.sends c m]
        events := [.request, .failed f]
        failure := some (.report (unsent f))
        after := here.sendsOnce }

end Situation

/-- The turn of a step in a situation. -/
def Step.turn (config : Config) (here : Situation σ) : Step → Turn σ
  | .think seconds =>
    { deeds := [.sleeps seconds]
      failure := here.sleepings.head?.join
      after := here.sleepsOnce }
  | .connect url =>
    .given (here.resolve (.text url)) fun v there =>
      (there.connectTo (config.address (resolvedText v))).andThen fun x =>
        x.closeAny there.context.connection
  | .send payload =>
    match here.context.connection with
    | none => { failure := some (.report unconnected), after := here }
    | some c => .given (here.encode payload) fun m there => there.write c m

/-- How the failure of a step is given on: an interruption as it is, everything else as a report
    with the place of the step. -/
def Step.locate (step : Step) (number : Nat) (vars : Entries) (f : Failure) : Failure :=
  if f.isInterruption then f else .report (Session.stepFailure step number vars f)

/-- The turn of the step with some number. -/
def Step.turnAt (config : Config) (number : Nat) (here : Situation σ) (step : Step) : Turn σ :=
  let t := step.turn config here
  { t with failure := t.failure.map (step.locate number t.after.context.vars) }

namespace Session

/-- The turn of steps that follow each other, numbered from a number on. -/
def turnFrom (config : Config) : Nat → List Step → Situation σ → Turn σ
  | _, [], here => { after := here }
  | n, step :: steps, here =>
    (step.turnAt config n here).andThen (turnFrom config (n + 1) steps)

/-- A step that fails is reported as a failure of the session. -/
theorem stepFailure_endsSession (step : Step) (number : Nat) (vars : Entries)
    (f : Failure) : (stepFailure step number vars f).kind.endsSession := by
  unfold stepFailure
  split
  · split
    · assumption
    · rfl
  · rfl

/-- Nothing follows a step that fails. -/
theorem turnFrom_failed {config : Config} {n : Nat} {step : Step} {here : Situation σ} {f : Failure}
    (failed : (step.turn config here).failure = some f) (steps : List Step) :
    turnFrom config n (step :: steps) here = step.turnAt config n here := by
  simp [turnFrom, Turn.andThen, Step.turnAt, failed]

/-- After a step that goes well the others find what it left. -/
theorem turnFrom_well {config : Config} {n : Nat} {step : Step} {here : Situation σ}
    (well : (step.turn config here).failure = none) (steps : List Step) :
    turnFrom config n (step :: steps) here =
      let t := step.turn config here
      let u := turnFrom config (n + 1) steps t.after
      { deeds := t.deeds ++ u.deeds
        events := t.events ++ u.events
        failure := u.failure
        after := u.after } := by
  simp [turnFrom, Turn.andThen, Step.turnAt, well]

/-- The turn that starts a session. -/
def opening (s : Session σ) (here : Situation σ) : Turn σ :=
  if s.config.defersConnection then { events := [.started], after := here }
  else
    (here.enter .connecting).letGo.andThen fun x =>
      (x.connectTo s.config.target).andThen fun y => { events := [.started], after := y }

/-- The turn of a session that was started: its steps, and its end however they end. -/
def body (s : Session σ) (here : Situation σ) : Turn σ :=
  (turnFrom s.config 0 s.steps (here.enter .executing)).before Situation.release

/-- The result of a part of a session, if reports of some kinds are results. -/
def resultIf (isResult : ReportKind → Bool) :
    Option Failure → Except Failure (Option (Report Failure))
  | none => .ok none
  | some f =>
    match reported? isResult f with
    | some r => .ok (some r)
    | none => .error f

@[simp] theorem resultIf_none (isResult : ReportKind → Bool) :
    resultIf isResult none = .ok none := rfl

/-- An interruption is never a result. -/
theorem reported?_interruption {isResult : ReportKind → Bool} {f : Failure}
    (interrupted : f.isInterruption) : reported? isResult f = none := by
  cases f with
  | host e => rfl
  | _ => cases interrupted

theorem resultIf_interruption {isResult : ReportKind → Bool} {f : Failure}
    (interrupted : f.isInterruption) : resultIf isResult (some f) = .error f := by
  rw [resultIf, reported?_interruption interrupted]

/-- What a whole session does, and how it ends. -/
def course (s : Session σ) (here : Situation σ) : Course σ :=
  let start := s.opening here
  match resultIf (· == .connect) start.failure with
  | .error f => { deeds := start.deeds, events := start.events, result := .error f, after := start.after }
  | .ok (some r) =>
    { deeds := start.deeds
      events := start.events
      result := .ok ⟨some r, {}⟩
      after := start.after.enter .closed }
  | .ok none =>
    let rest := s.body start.after
    { deeds := start.deeds ++ rest.deeds
      events := start.events ++ rest.events
      result :=
        (resultIf ReportKind.endsSession rest.failure).map fun r => ⟨r, rest.after.context⟩
      after := rest.after }

end Session

end SessionScript
