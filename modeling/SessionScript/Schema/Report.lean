import SessionScript.Failure
import SessionScript.Schema.Reader

/-!
# Reports of violations

A violation is reported with the innermost part of the document that its location leads to, and
with the number of the step that it lies in.
-/

namespace SessionScript.Schema

/-- How far a location was followed: the value that was reached, the container around it with the
    key of the last move, and the step that was entered. -/
structure Trail where
  container : Value
  reached : Value
  lastKey : Option Key := none
  step : Option Int := none
  deriving Inhabited

/-- A component of a location as a key of mappings. -/
def Key.value : Key → Value
  | .name s => .text s
  | .index i => .int i

/-- Follows a location. Components that lead nowhere in a list or a mapping are passed over; at
    any other value the trail ends. -/
def Trail.follow : Trail → List Key → Trail
  | t, [] => t
  | t, key :: keys =>
    match t.reached with
    | .list xs | .tuple xs =>
      match key with
      | .index i =>
        match (if 0 ≤ i then xs[i.toNat]? else none) with
        | some v =>
          let step := if t.lastKey == some (.name "scenario") then some i else t.step
          Trail.follow ⟨t.reached, v, some key, step⟩ keys
        | none => Trail.follow t keys
      | .name _ => Trail.follow t keys
    | .dict es =>
      match Entries.get? es key.value with
      | some v => Trail.follow ⟨t.reached, v, some key, t.step⟩ keys
      | none => Trail.follow t keys
    | _ => t

/-- The part of the document that a trail leads to, in a container like the one around it. -/
def Trail.element (t : Trail) : Value :=
  match t.container, t.lastKey with
  | .list _, _ | .tuple _, _ => .list [t.reached]
  | .dict _, some key => .dict [(key.value, t.reached)]
  | _, _ => t.reached

/-- The kind of the error that stands behind a report of a violation. -/
def violationKind : String := "ValidationError"

/-- The report of a violation in a document. A document that is empty or no mapping is reported as
    a whole. -/
def Violation.report (v : Violation) (document : Value) (filename : Option String) :
    Report Failure :=
  let place : Place := { filename := filename, element := some document }
  let whole := match document with
    | .dict es => es.isEmpty
    | _ => true
  if whole then
    { kind := .schema
      message := "Type validation error"
      place := some place }
  else
    let t := Trail.follow { container := document, reached := document } v.location
    { kind := .schema
      message := v.rule.message
      place := some { place with element := some t.element, step := t.step } }

/-- A report with the error that caused it, known by its kind. -/
def causedBy (r : Report Failure) (kind : String) : Report Failure :=
  { r with cause := some (.host ⟨kind, []⟩) }

/-- Reads a value; a violation of the schema is reported. -/
def validate {α : Type} (read : Value → Reading α) (v : Value) (filename : Option String) :
    Except (Report Failure) α :=
  match read v with
  | .ok a => .ok a
  | .error e => .error (causedBy (e.report v filename) violationKind)

end SessionScript.Schema
