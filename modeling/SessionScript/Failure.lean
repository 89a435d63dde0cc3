import SessionScript.Value.Shown

/-!
# Failures

What can go wrong while a scenario is read or run. The engine reports its own failures with a
message, the place they belong to and what caused them; everything else is an error of the host,
raised by a function, a connection or the machine.
-/

namespace SessionScript

/-- An error of the host: its kind and the values it was raised with. -/
structure HostError where
  kind : String
  args : List Value
  deriving Inhabited, Repr

namespace HostError

/-- The kinds of errors that the operating system raises. -/
def systemKinds : List String :=
  ["OSError", "BlockingIOError", "ChildProcessError", "ConnectionError", "BrokenPipeError",
    "ConnectionAbortedError", "ConnectionRefusedError", "ConnectionResetError", "FileExistsError",
    "FileNotFoundError", "InterruptedError", "IsADirectoryError", "NotADirectoryError",
    "PermissionError", "ProcessLookupError", "TimeoutError"]

/-- The kind of a system error with some number. -/
def kindOfNumber : Int → String
  | 1 | 13 => "PermissionError"
  | 2 => "FileNotFoundError"
  | 3 => "ProcessLookupError"
  | 4 => "InterruptedError"
  | 10 => "ChildProcessError"
  | 11 | 114 | 115 => "BlockingIOError"
  | 17 => "FileExistsError"
  | 20 => "NotADirectoryError"
  | 21 => "IsADirectoryError"
  | 32 | 108 => "BrokenPipeError"
  | 103 => "ConnectionAbortedError"
  | 104 => "ConnectionResetError"
  | 110 => "TimeoutError"
  | 111 => "ConnectionRefusedError"
  | _ => "OSError"

/-- Whether an error is a system error with a number and a text. -/
def isNumbered (e : HostError) : Bool :=
  systemKinds.contains e.kind && 2 ≤ e.args.length && e.args.length ≤ 5

/-- An error of a kind. A system error of the general kind takes the kind of its number. -/
def ofKind (kind : String) (args : List Value) : HostError :=
  let general := ["OSError", "IOError", "EnvironmentError"].contains kind
  let own := if general then "OSError" else kind
  match general, args with
  | true, [.int n, text] => ⟨kindOfNumber n, [.int n, text]⟩
  | true, .int n :: text :: file :: more =>
    if more.length ≤ 2 then ⟨kindOfNumber n, .int n :: text :: file :: more⟩
    else ⟨own, .int n :: text :: file :: more⟩
  | _, _ => ⟨own, args⟩

/-- The values that an error shows: a numbered system error keeps its number and text only. -/
def shownArgs (e : HostError) : List Value := if e.isNumbered then e.args.take 2 else e.args

/-- The error as messages show it. -/
def shown (e : HostError) : String :=
  match e.shownArgs with
  | [v] => e.kind ++ "(" ++ v.shown ++ ")"
  | vs => e.kind ++ (Value.tuple vs).shown

/-- The text of an error: nothing, its one value, or all values in brackets. A lookup error shows
    its key in quotes. -/
def text (e : HostError) : String :=
  if e.isNumbered then
    match e.args with
    | number :: message :: more =>
      let lead := "[Errno " ++ number.plainText ++ "] " ++ message.plainText
      match more with
      | file :: _ => if file.isFalsy then lead else lead ++ ": " ++ file.shown
      | [] => lead
    | _ => ""
  else
    match e.args with
    | [] => ""
    | [v] => if e.kind == "KeyError" then v.shown else v.plainText
    | vs => (Value.tuple vs).shown

/-- Whether an error ends the whole program or task instead of being handled as a failure. -/
def isInterruption (e : HostError) : Bool :=
  ["CancelledError", "KeyboardInterrupt", "SystemExit", "GeneratorExit"].contains e.kind

end HostError

/-- The kinds of failures that the engine reports itself. -/
inductive ReportKind where
  | general
  | schema
  | template
  | templateSyntax
  | sandbox
  | session
  | connect
  | send
  | connectionMissing
  | stepFailed
  deriving DecidableEq, Repr, Inhabited

/-- The name of a kind of reports. -/
def ReportKind.name : ReportKind → String
  | .general => "LocoError"
  | .schema => "ScenarioSchemaError"
  | .template => "TemplateError"
  | .templateSyntax => "TemplateSyntaxError"
  | .sandbox => "SandboxError"
  | .session => "SessionError"
  | .connect => "ConnectError"
  | .send => "SendError"
  | .connectionMissing => "ConnectionMissingError"
  | .stepFailed => "SessionRuntimeError"

/-- Whether a kind of reports is about a session that ran. -/
def ReportKind.endsSession : ReportKind → Bool
  | .session | .connect | .send | .connectionMissing | .stepFailed => true
  | _ => false

/-- Where a failure happened. Positions count from zero. -/
structure Place where
  filename : Option String := none
  line : Option Int := none
  column : Option Int := none
  step : Option Int := none
  /-- An excerpt of the document; where there is one, no element is shown. -/
  excerpt : Option String := none
  /-- The variables at the moment of failure. -/
  vars : Option Value := none
  /-- The part of the scenario that failed. -/
  element : Option Value := none
  deriving Inhabited, Repr

/-- A failure that the engine reports, caused by a failure of some type. -/
structure Report (Cause : Type) where
  kind : ReportKind
  message : String
  code : Option String := none
  place : Option Place := none
  cause : Option Cause := none
  deriving Inhabited, Repr

/-- A failure. -/
inductive Failure where
  | report (r : Report Failure)
  | host (e : HostError)
  /-- The server answered the opening handshake with some status and reason. -/
  | rejected (status : Int) (reason : String)
  deriving Inhabited

namespace Failure

/-- A host error of a kind with a message. -/
def raise (kind message : String) : Failure := .host ⟨kind, [.text message]⟩

/-- The kind of a failure. -/
def kind : Failure → String
  | .report r => r.kind.name
  | .host e => e.kind
  | .rejected _ _ => "InvalidStatus"

/-- A failure as messages show it. -/
def shown : Failure → String
  | .report r => r.kind.name ++ "(" ++ Text.quoted r.message ++ ")"
  | .host e => e.shown
  | .rejected status reason =>
    "InvalidStatus(Response(status_code=" ++ Text.ofInt status ++ ", reason_phrase=" ++
      Text.quoted reason ++ ", headers=Headers([]), body=b'', _exception=None))"

/-- Whether a failure ends the whole program or task instead of being handled. -/
def isInterruption : Failure → Bool
  | .host e => e.isInterruption
  | _ => false

end Failure

end SessionScript
