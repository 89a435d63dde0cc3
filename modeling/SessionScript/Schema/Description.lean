import SessionScript.Json

/-!
# Description of the schema

The schema of scenarios as a JSON Schema document, for editors that check scenarios while they are
written. Every record is described once, under its name.
-/

namespace SessionScript.Schema.Description

/-- Members of a description. -/
abbrev Members := List (String × Value)

/-- An object with its members in some order. -/
def inOrder (ms : Members) : Value := .dict (ms.map fun (k, v) => (.text k, v))

/-- An object with its members in the order of their names. -/
def object (ms : Members) : Value := inOrder (ms.mergeSort fun a b => a.1 ≤ b.1)

/-- A list of texts. -/
def texts (ss : List String) : Value := .list (ss.map Value.text)

/-- A member that names a type. -/
def typed (name : String) : Members := [("type", .text name)]

/-- A member that stands for a record or a type with a name. -/
def named (name : String) : Members := [("$ref", .text ("#/$defs/" ++ name))]

/-- A member for values that one of several descriptions fits. -/
def anyOf (options : List Members) : Members := [("anyOf", .list (options.map object))]

/-- The description of bytes. -/
def binary : Members := typed "string" ++ [("format", .text "binary")]

/-- A description with a title and a text. -/
def titled (title about : String) (ms : Members) : Members :=
  ms ++ [("title", .text title), ("description", .text about)]

/-- A description with examples. -/
def exampled (examples : List String) (ms : Members) : Members := ms ++ [("examples", texts examples)]

/-- The description of a record: its fields in order, of which some are required. -/
def record (name about : String) (required : List String) (fields : List (String × Members)) :
    Members :=
  titled name about (typed "object") ++
    [("additionalProperties", .bool false),
      ("properties", inOrder (fields.map fun (n, ms) => (n, object ms)))] ++
    (if required.isEmpty then [] else [("required", texts required)])

/-- The pattern of variable names. -/
def namePattern : String := "^[a-zA-Z][\\w]*$"

/-- What is said about variable names. -/
def nameAbout : Members :=
  exampled ["userId", "api_token", "randomString"]
    [("description", .text
      ("Name of a variable or function available to templates. " ++
        "Identifiers must start with a letter and may contain letters, digits, or underscores. " ++
        "Names are restricted to ASCII characters."))]

/-- The description of variable names. -/
def variableName : Members :=
  typed "string" ++ nameAbout ++
    [("title", .text "Variable identifier"), ("pattern", .text namePattern)]

/-- The description of a mapping from variable names. -/
def byName (values : Members) : Members :=
  typed "object" ++
    [("patternProperties", object [(namePattern, object values)]),
      ("propertyNames", object nameAbout)]

/-- The description of a text that may be missing. -/
def optionalText : Members := anyOf [typed "string", typed "null"] ++ [("default", .null)]

/-- The parameters of a connect step. -/
def connectParams : Members :=
  record "ConnectParams" "Parameters of a connect step." ["url"]
    [("url", exampled ["/chat/\x7b\x7b room \x7d\x7d", "ws://localhost:8080/"]
      (titled "Connection URL"
        ("Template of the WebSocket URL to open. " ++
          "URLs starting with `/` are appended to the configured target.")
        (typed "string")))]

/-- A connect step. -/
def connectStep : Members :=
  record "ConnectStep" "Open the session connection." ["connect"]
    [("connect", titled "Connect parameters" "Parameters of the connection to open."
      (named "ConnectParams"))]

/-- The configuration of a scenario. -/
def config : Members :=
  record "EngineConfig" "Connection and template configuration of a scenario." []
    [("target", exampled ["ws://localhost:8080"]
        (titled "Base target"
          ("Base WebSocket URL. Opened before the first step unless the connection is deferred, " ++
            "and used as prefix for connect URLs starting with `/`.")
          (typed "string" ++ [("default", .text "")]))),
      ("deferConnection", titled "Deferred connection"
        ("Skip the initial connection. The connection is then expected from a connect step or " ++
          "from the caller.")
        (typed "boolean" ++ [("default", .bool false)])),
      ("vars", titled "Template variables" "Initial variables of every session."
        (byName (named "Value"))),
      ("functions", titled "Template functions"
        ("Functions defined as code and callable from templates. Require code evaluation to be " ++
          "allowed.")
        (byName (named "FunctionDefinition")))]

/-- The definition of a function. -/
def function : Members :=
  record "FunctionDefinition"
    ("Template function defined as code.\n\n" ++
      "The code runs in a sandbox with the call arguments bound to the\n" ++
      "declared parameter names. The value of its trailing expression\n" ++
      "becomes the function result.")
    ["code"]
    [("params", titled "Parameters" "Names bound to the positional call arguments, in order."
        (typed "array" ++ [("items", object variableName)])),
      ("code", exampled ["prefix + \"-\" + str(number * 2)"]
        (titled "Function body" "Python code evaluated on every call." (typed "string")))]

/-- The payload of a send step that is sent as JSON. -/
def jsonPayload : Members :=
  record "JsonPayload" "Structured payload serialized as JSON text before sending." ["json"]
    [("json", titled "JSON payload"
      ("Arbitrarily nested structure. Every string inside it is resolved as a template before " ++
        "serialization.")
      (named "Value"))]

/-- Values that hold no others. -/
def scalar : Members :=
  anyOf [typed "string", binary, typed "integer", typed "number", typed "boolean"]

/-- A send step. -/
def sendStep : Members :=
  record "SendStep" "Write one message to the session connection." ["send"]
    [("send", titled "Message payload"
      ("Either a raw text template, raw binary data, or a mapping with a single `json` key " ++
        "holding a structured payload.")
      (anyOf [typed "string", binary, named "JsonPayload"]))]

/-- A think step. -/
def thinkStep : Members :=
  record "ThinkStep" "Pause the session without touching the network." ["think"]
    [("think", titled "Think time" "Delay before the next step, in seconds."
      (typed "number" ++ [("minimum", .int 0)]))]

/-- Values of all kinds. -/
def value : Members :=
  anyOf
    [named "Scalar", typed "array" ++ [("items", object (named "Value"))],
      typed "object" ++ [("additionalProperties", object (named "Value"))], typed "null"]

/-- Everything that is described under a name. -/
def definitions : Members :=
  [("ConnectParams", object connectParams), ("ConnectStep", object connectStep),
    ("EngineConfig", object config), ("FunctionDefinition", object function),
    ("JsonPayload", object jsonPayload), ("Scalar", object scalar), ("SendStep", object sendStep),
    ("ThinkStep", object thinkStep), ("Value", object value)]

/-- The description of a step. -/
def step : Members :=
  [("oneOf", .list (["ThinkStep", "ConnectStep", "SendStep"].map fun n => object (named n)))]

/-- The description of scenarios. -/
def scenario : Members :=
  record "ScenarioDocument"
    ("Top-level scenario document.\n\n" ++
      "Combines the connection configuration with the ordered list of\n" ++
      "steps describing one simulated client session.")
    ["scenario"]
    [("title", titled "Title" "Short human-readable title of the element." optionalText),
      ("description", titled "Description" "Detailed human-readable description of the element."
        optionalText),
      ("config", titled "Configuration" "Connection and template configuration."
        (named "EngineConfig")),
      ("scenario", titled "Scenario steps" "Ordered steps executed by every session."
        (typed "array" ++ [("items", object step), ("minItems", .int 1)]))] ++
    [("$defs", object definitions)]

/-- The description of scenarios as JSON text; it holds nothing that JSON can not hold. -/
def text : String :=
  match Json.layout 0 (object scenario) with
  | .ok s => s
  | .error e => e.message

end SessionScript.Schema.Description
