import SessionScript.Proofs.Schema.Payload
import SessionScript.Proofs.Session.Reports

/-!
# Elements of reports

A failing step is reported with an element that shows it. Read as a document, the element of a
pause, of a step that connects and of one that sends a text or bytes gives the step back. A step
that sends JSON is shown with its body under another key than documents have, so that its element
is not read at all.
-/

namespace SessionScript

namespace Schema

variable {α : Type} {read : Value → Reading α}

/-- What is read is read under every key. -/
theorem under_of_ok (key : Key) (a : α) : under key (.ok a) = .ok a := rfl

/-- A violation lies under every key that leads to it. -/
theorem under_of_error (key : Key) (v : Violation) :
    (under key (.error v) : Reading α) = .error { v with location := key :: v.location } := rfl

/-- The only field of a record is found under its name. -/
theorem required_single {v : Value} {a : α} (name : String) (reads : read v = .ok a) :
    required [(.text name, v)] name read = .ok a := by
  simp [required, Entries.get?, Value.sameKey, reads, under_of_ok]

/-- A field is missing from a record whose only field has another name. -/
theorem required_other {name other : String} (v : Value) (differs : other ≠ name) :
    required [(.text other, v)] name read = .error ⟨[.name name], .required⟩ := by
  simp [required, Entries.get?, Value.sameKey, differs, broken, under_of_error]

theorem noExtras_single (name : String) (v : Value) :
    noExtras [name] [(.text name, v)] = .ok () := by
  simp [noExtras]

end Schema

open Schema

/-- A record with the key of a step and nothing else is read as that step. -/
theorem Step.ofValue_single (step : Step) {w : Value} (field : step.Field w) :
    Step.ofValue (.dict [(.text step.kind.name, w)]) = .ok step := by
  have kind : StepKind.ofValue? (.dict [(.text step.kind.name, w)]) = some step.kind := by
    cases step <;> rfl
  rw [Step.ofValue, kind]
  cases step
  all_goals
    simp [Step.kind, Step.ofKind, readRecord, required_single _ field, noExtras_single,
      under_of_ok, Except.map, bind, Except.bind, pure, Except.pure]

/-- The address of a step that connects is read from a record of its own. -/
theorem readAddress_single (url : String) :
    readAddress (.dict [(.text "url", .text url)]) = .ok url := by
  have text : readText (.text url) = .ok url := rfl
  simp [readAddress, readRecord, required_single "url" text, noExtras_single, bind, Except.bind,
    pure, Except.pure]

/-- A pause that was read is read again from the seconds that it holds. -/
theorem readDuration_float {w : Value} {seconds : Binary64}
    (read : readDuration w = .ok seconds) : readDuration (.float seconds) = .ok seconds := by
  obtain ⟨x, -, kept⟩ := bind_ok read
  split at kept
  · cases kept
  · rename_i positive
    cases kept
    simp [readDuration, readNumber, positive, bind, Except.bind, pure, Except.pure]

/-- Neither a text nor bytes nor a record with a body under the key `json`: no payload. -/
theorem Payload.ofValue_body (body : Value) :
    Payload.ofValue (.dict [(.text "body", body)]) = .error ⟨[.name "str"], .text⟩ := by
  have missing : readBody (.dict [(.text "body", body)]) = .error ⟨[.name "json"], .required⟩ := by
    simp [readBody, readRecord, required_other body, bind, Except.bind]
  rw [Payload.ofValue, missing]
  · rfl
  · simp
  · simp

/-- The element of a step that was read is read as that step, unless the step sends JSON. -/
theorem Step.ofValue_element {doc : Value} {step : Step} (accepted : Step.ofValue doc = .ok step)
    (plain : ∀ body, step ≠ .send (.json body)) : Step.ofValue step.element = .ok step := by
  obtain ⟨-, w, -, -, field⟩ := Step.ofValue_field accepted
  cases step with
  | think seconds => exact Step.ofValue_single (.think seconds) (readDuration_float field)
  | connect url => exact Step.ofValue_single (.connect url) (readAddress_single url)
  | send payload =>
    cases payload with
    | text template => exact Step.ofValue_single (.send (.text template)) rfl
    | bytes b => exact Step.ofValue_single (.send (.bytes b)) rfl
    | json body => exact absurd rfl (plain body)

/-- The element of a step that sends JSON is no step. -/
theorem Step.ofValue_element_json (body : Value) :
    Step.ofValue (Step.element (.send (.json body))) =
      .error ⟨[.name "send", .name "send", .name "str"], .text⟩ := by
  have kind : StepKind.ofValue? (Step.element (.send (.json body))) = some .send := rfl
  rw [Step.ofValue, kind]
  simp [Step.element, Step.ofKind, readRecord, required, Entries.get?, Value.sameKey,
    StepKind.name, Payload.ofValue_body, under_of_error, Except.map, bind, Except.bind]

/-- The report of a step that fails shows the element of the step. -/
theorem Session.runStep_element {σ ω : Type} {audience : Audience ω} {s : Session σ} {step : Step}
    {number : Nat} {r left : Running σ ω} {report : Report Failure}
    (failed : exec (runStep audience s step number) r = (.error (.report report), left)) :
    report.place.bind Place.element = some step.element := by
  rw [exec_runStep] at failed
  split at failed
  · cases failed
  · rename_i f left' _
    simp only [Prod.mk.injEq, Except.error.injEq] at failed
    obtain ⟨located, rfl⟩ := failed
    by_cases interrupted : f.isInterruption
    · rw [Step.locate, if_pos interrupted] at located
      subst located
      cases interrupted
    · rw [Step.locate, if_neg interrupted, Failure.report.injEq] at located
      obtain ⟨place, placed, -, shown, -⟩ := (stepFailure_reports step number _ f).located
      rw [← located, placed]
      exact shown

/-- The element that is reported for a step of a document is a document of that step, unless the
    step sends JSON; the element of such a step is not read at all. -/
theorem Step.reported_element_iff {doc : Value} {step : Step}
    (accepted : Step.ofValue doc = .ok step) :
    ∃ element,
      (∀ (σ ω : Type) (audience : Audience ω) (s : Session σ) (number : Nat)
        (r left : Running σ ω) (report : Report Failure),
          exec (Session.runStep audience s step number) r = (.error (.report report), left) →
            report.place.bind Place.element = some element) ∧
      (Step.ofValue element = .ok step ↔ ∀ body, step ≠ .send (.json body)) ∧
      ∀ body, step = .send (.json body) → ∀ other, Step.ofValue element ≠ .ok other := by
  refine ⟨step.element, fun _ _ _ _ _ _ _ _ => Session.runStep_element, ⟨?_, ?_⟩, ?_⟩
  · rintro read body rfl
    rw [Step.ofValue_element_json] at read
    cases read
  · exact Step.ofValue_element accepted
  · rintro body rfl other read
    rw [Step.ofValue_element_json] at read
    cases read

/-- A pause that fails is reported with an element that is read as that pause. -/
theorem Step.reported_element_of_pause :
    let step : Step := .think (.ofInt 1)
    let s : Session Unit := ⟨[step], { defersConnection := true }, []⟩
    let w : World Unit Unit :=
      { host := (), audience := (), sleepings := [some (.raise "OSError" "")] }
    ∃ report left element,
      exec (Session.runStep Audience.absent s step 0) (s.atCall .nothing w) =
          (.error (.report report), left) ∧
        report.place.bind Place.element = some element ∧ Step.ofValue element = .ok step := by
  intro step s w
  have accepted : Step.ofValue (.dict [(.text "think", .int 1)]) = .ok step := by rfl
  obtain ⟨element, reports, reads, -⟩ := Step.reported_element_iff accepted
  obtain ⟨report, left, failed⟩ : ∃ report left,
      exec (Session.runStep Audience.absent s step 0) (s.atCall .nothing w) =
        (.error (.report report), left) := ⟨_, _, rfl⟩
  exact ⟨report, left, element, failed, reports _ _ _ _ _ _ _ _ failed, reads.mpr (by simp [step])⟩

/-- A step that sends JSON is read from its document. But when it fails, which it does without a
    connection, it is reported with an element that is no step. -/
theorem Step.reported_element_of_json :
    let doc : Value := .dict [(.text "send", .dict [(.text "json", .dict [])])]
    let step : Step := .send (.json (.dict []))
    let s : Session Unit := ⟨[step], { defersConnection := true }, []⟩
    let r : Running Unit Unit := { context := {}, world := { host := (), audience := () } }
    Step.ofValue doc = .ok step ∧
      ∃ report left element,
        exec (Session.runStep Audience.absent s step 0) r = (.error (.report report), left) ∧
        report.place.bind Place.element = some element ∧
        ∀ other, Step.ofValue element ≠ .ok other := by
  refine ⟨rfl, _, _, _, rfl, rfl, fun other read => ?_⟩
  cases read

end SessionScript
