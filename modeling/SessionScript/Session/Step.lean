import SessionScript.Scenario.Basic
import SessionScript.Session.World

/-!
# Running steps

What every kind of step does. Templates are resolved when the step runs, so that a step sees the
variables that the steps before it left.
-/

namespace SessionScript

variable {σ ω : Type}

/-- A step as it is shown where it fails. -/
def Step.element : Step → Value
  | .think seconds => .dict [(.text "think", .float seconds)]
  | .connect url => .dict [(.text "connect", .dict [(.text "url", .text url)])]
  | .send (.text template) => .dict [(.text "send", .text template)]
  | .send (.bytes b) => .dict [(.text "send", .bytes b)]
  | .send (.json body) => .dict [(.text "send", .dict [(.text "body", body)])]

/-- The text of a template that was resolved. -/
def resolvedText : Value → String
  | .text s => s
  | _ => ""

/-- The JSON text of a value as a message. -/
def jsonMessage (v : Value) : Except Failure Message :=
  match Json.write v with
  | .ok s => .ok (.text s)
  | .error e => .error (.raise e.kind e.message)

/-- Makes a message from a payload, given how templates are resolved. -/
def Payload.encode {m : Type → Type} [Monad m] [MonadExcept Failure m] (resolve : Value → m Value) :
    Payload → m Message
  | .text template => do return .text (resolvedText (← resolve (.text template)))
  | .bytes b => return .bytes b
  | .json body => do MonadExcept.ofExcept (jsonMessage (← resolve body))

/-- An address, put after the target if it starts with a slash. -/
def Config.address (c : Config) (url : String) : String :=
  if url.startsWith "/" then c.target ++ url else url

/-- Opens a connection; a failure is told and reported with its short code. -/
def connectTo (audience : Audience ω) (url : String) : Act σ ω Connection := do
  match ← Act.attempt (Act.openAt url) with
  | .ok c => return c
  | .error f =>
    let code := f.shortCode
    Act.emit audience (.refused code)
    throw
      (.report
        { kind := .connect
          message := "Can not connect to " ++ Text.quoted url ++ ": " ++ code
          code := some code
          cause := some f })

/-- Holds a connection to an address and closes the one that it replaces. -/
def holdInstead (c : Connection) (url : String) : Act σ ω Unit := do
  let previous := (← get).context.connection
  Act.modifyContext fun x => { x with connection := some c }
  match previous with
  | none => return
  | some old =>
    Act.note .debug .steps ("replacing the open connection with " ++ url)
    Act.closeQuietly old

/-- Opens the connection of a step. -/
def runConnect (audience : Audience ω) (config : Config) (template : String) : Act σ ω Unit := do
  let v ← Act.resolve (.text template)
  let url := config.address (resolvedText v)
  Act.note .debug .steps ("connect " ++ url)
  let c ← connectTo audience url
  holdInstead c url

/-- Writes a message to a connection, tells how that went and counts it if it went well. -/
def writeTo (audience : Audience ω) (c : Connection) (message : Message) : Act σ ω Unit := do
  Act.emit audience .request
  match ← Act.attempt (Act.sendTo c message) with
  | .ok _ =>
    Act.emit audience (.response (← get).world.tick 0)
    Act.modifyContext fun x => { x with pending := x.pending - 1, successes := x.successes + 1 }
  | .error f =>
    Act.emit audience (.failed f)
    throw
      (.report { kind := .send, message := "Can not send message: " ++ f.shown, cause := some f })

/-- Sends the message of a step. -/
def runSend (audience : Audience ω) (payload : Payload) : Act σ ω Unit := do
  match (← get).context.connection with
  | none =>
    throw
      (.report { kind := .connectionMissing, message := "Send step requires an open connection" })
  | some c =>
    let message ← payload.encode Act.resolve
    Act.note .debug .steps ("send " ++ Text.ofNat message.length ++ " characters")
    writeTo audience c message

/-- Pauses. -/
def runThink (seconds : Binary64) : Act σ ω Unit := do
  Act.note .debug .steps ("think " ++ (Value.float seconds).plainText ++ " s")
  Act.sleep seconds

/-- Runs a step. -/
def Step.run (audience : Audience ω) (config : Config) : Step → Act σ ω Unit
  | .think seconds => runThink seconds
  | .connect url => runConnect audience config url
  | .send payload => runSend audience payload

end SessionScript
