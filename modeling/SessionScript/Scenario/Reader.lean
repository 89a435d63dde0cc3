import SessionScript.Scenario.Basic
import SessionScript.Schema.Reader

/-!
# Reading scenarios

The schema of scenario documents. Fields are looked at in the order of their declaration, and keys
that are no fields after them.
-/

namespace SessionScript

open Schema

/-- Pairs as a mapping from names, of which a later one replaces an earlier one. -/
def distinctNames {α : Type} (pairs : List (String × α)) : List (String × α) :=
  pairs.foldl
    (fun acc p =>
      if acc.any (·.1 == p.1) then acc.map fun q => if q.1 == p.1 then p else q
      else acc ++ [p]) []

/-- Reads parameters, which are names in a list. -/
def readParams (v : Value) : Reading (List String) :=
  match items? v with
  | some xs => readItemsFrom readName 0 xs
  | none => broken .list

/-- Reads a function whose body is code. -/
def FunctionDefinition.ofValue (v : Value) : Reading FunctionDefinition := do
  let es ← readRecord "FunctionDefinition" v
  let params ← optional es ["params"] [] readParams
  let code ← required es "code" readText
  noExtras ["params", "code"] es
  return ⟨params, code⟩

/-- Reads the configuration of a scenario. Two of its fields have two names each. -/
def Config.ofValue (v : Value) : Reading Config := do
  let es ← readRecord "EngineConfig" v
  let deferNames := ["deferConnection", "defer_connection"]
  let variableNames := ["vars", "variables"]
  let target ← optional es ["target"] "" readText
  let defers ← optional es deferNames false readFlag
  let vars ← optional es variableNames [] (readNames readValue)
  let functions ← optional es ["functions"] [] (readNames FunctionDefinition.ofValue)
  let used := ["target", "functions"] ++ (present? es deferNames).toList ++
    (present? es variableNames).toList
  noExtras used es
  return ⟨target, defers, distinctNames vars, distinctNames functions⟩

/-- The kind of a step document: the one key of it that is the name of a kind. -/
def StepKind.ofValue? : Value → Option StepKind
  | .dict es =>
    match [StepKind.think, .connect, .send].filter fun k => Entries.has es (.text k.name) with
    | [k] => some k
    | _ => none
  | _ => none

/-- Reads the parameters of a step that opens a connection. -/
def readAddress (v : Value) : Reading String := do
  let es ← readRecord "ConnectParams" v
  let url ← required es "url" readText
  noExtras ["url"] es
  return url

/-- Reads a structured payload, a value under the only key `json`. -/
def readBody (v : Value) : Reading Value := do
  let es ← readRecord "JsonPayload" v
  let body ← required es "json" readValue
  noExtras ["json"] es
  return body

/-- Reads a payload. The form that a violation names is the first one, a text. -/
def Payload.ofValue : Value → Reading Payload
  | .text s => .ok (.text s)
  | .bytes b => .ok (.bytes b)
  | v =>
    match readBody v with
    | .ok body => .ok (.json body)
    | .error _ => under (.name "str") (broken .text)

/-- Reads a step whose kind is known. -/
def Step.ofKind (kind : StepKind) (v : Value) : Reading Step := do
  let es ← readRecord "Step" v
  let step ← match kind with
    | .think => (required es kind.name readDuration).map Step.think
    | .connect => (required es kind.name readAddress).map Step.connect
    | .send => (required es kind.name Payload.ofValue).map Step.send
  noExtras [kind.name] es
  return step

/-- Reads a step. -/
def Step.ofValue (v : Value) : Reading Step :=
  match StepKind.ofValue? v with
  | some kind => under (.name kind.name) (Step.ofKind kind v)
  | none => broken .oneKind

/-- Reads the steps of a scenario, of which there is at least one. -/
def readSteps (v : Value) : Reading { steps : List Step // steps ≠ [] } :=
  match items? v with
  | some xs => do
    match ← readItemsFrom Step.ofValue 0 xs with
    | [] => broken .atLeastOne
    | step :: steps => return ⟨step :: steps, List.cons_ne_nil _ _⟩
  | none => broken .tuple

/-- Reads a scenario. -/
def Scenario.ofValue (v : Value) : Reading Scenario := do
  let es ← readRecord "ScenarioDocument" v
  let title ← optional es ["title"] none readOptionalText
  let description ← optional es ["description"] none readOptionalText
  let config ← optional es ["config"] {} Config.ofValue
  let ⟨steps, h⟩ ← required es "scenario" readSteps
  noExtras ["title", "description", "config", "scenario"] es
  return ⟨title, description, config, steps, h⟩

end SessionScript
