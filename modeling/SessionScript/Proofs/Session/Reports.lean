import SessionScript.Proofs.Session.Cleanup
import SessionScript.Proofs.Session.Events
import SessionScript.Proofs.Session.Sequence

/-!
# Reports of failures

A session that nothing interrupts returns an outcome, whatever fails in it. Steps run up to the
first that fails, and its failure is reported with its place: the number of the step, the step and
the variables that it left. A report of sessions is given on with that place added; everything else
becomes the cause of such a report. A first connection that can not be opened is reported without
any place, and the context of the outcome is empty.
-/

namespace SessionScript

variable {σ ω : Type} {audience : Audience ω}

/-- A failure of a step and how it is reported. -/
structure Step.Reports (step : Step) (number : Nat) (vars : Entries) (f : Failure)
    (r : Report Failure) : Prop where
  located : ∃ place, r.place = some place ∧ place.step = some (number : Int) ∧
    place.element = some step.element ∧ place.vars = some (.dict vars)
  own : ∀ raised, f = .report raised → raised.kind.endsSession →
    ∃ place, r = { raised with place := some place } ∧
      place.filename = (raised.place.getD {}).filename ∧
      place.line = (raised.place.getD {}).line ∧
      place.column = (raised.place.getD {}).column ∧
      place.excerpt = (raised.place.getD {}).excerpt
  foreign : f.IsForeign → r.kind = .stepFailed ∧ r.message = f.shown ∧ r.cause = some f

/-- Every failure is reported in one of the two ways. -/
theorem Session.stepFailure_reports (step : Step) (number : Nat) (vars : Entries) (f : Failure) :
    step.Reports number vars f (stepFailure step number vars f) where
  located := by
    by_cases own : ∃ r, f = .report r ∧ r.kind.endsSession
    · obtain ⟨r, rfl, ends⟩ := own
      rw [stepFailure_report ends]
      exact ⟨_, rfl, rfl, rfl, rfl⟩
    · rw [stepFailure_foreign fun r same ends => own ⟨r, same, ends⟩]
      exact ⟨_, rfl, rfl, rfl, rfl⟩
  own := by
    rintro raised rfl ends
    rw [stepFailure_report ends]
    exact ⟨_, rfl, rfl, rfl, rfl, rfl⟩
  foreign := by
    intro foreign
    rw [stepFailure_foreign foreign]
    exact ⟨rfl, rfl, rfl⟩

/-! ## The step that fails -/

/-- A step and the note that comes before it. -/
def Step.noted (audience : Audience ω) (config : Config) (number : Nat) (step : Step) :
    Act σ ω Unit := do
  Act.note .debug .runs ("step " ++ Text.ofNat number ++ ": " ++ step.kind.name)
  step.run audience config

namespace Session

/-- A step that is run in a session ends as the step itself does, but for the place that is added
    to its failure. -/
theorem exec_runStep (audience : Audience ω) (s : Session σ) (step : Step) (number : Nat)
    (r : Running σ ω) :
    exec (runStep audience s step number) r =
      match exec (step.noted audience s.config number) r with
      | (.ok _, left) => (.ok (), left)
      | (.error f, left) => (.error (step.locate number left.context.vars f), left) := by
  obtain ⟨noted, wrote, -⟩ := Act.note_plays .debug .runs
    ("step " ++ Text.ofNat number ++ ": " ++ step.kind.name) r
  rw [runStep, Step.noted, exec_bind, exec_bind, wrote]
  simp only [Turn.ending]
  rw [exec_bind, Act.exec_attempt]
  rcases exec (step.run audience s.config) noted with ⟨f | _, left⟩
  · by_cases interrupted : f.isInterruption <;> simp [Step.locate, interrupted, exec_bind]
  · rfl

/-- How far steps come: some are completed, and the next one, if there is one, fails. -/
structure Halts (audience : Audience ω) (s : Session σ) (number : Nat) (steps : List Step)
    (r : Running σ ω) (count : Nat) (before : Running σ ω) : Prop where
  count_le : count ≤ steps.length
  completed : exec (runSteps audience s number (steps.take count)) r = (.ok (), before)
  fails : ∀ step, steps[count]? = some step → ∃ f left,
    exec (step.noted audience s.config (number + count)) before = (.error f, left) ∧
    exec (runSteps audience s number steps) r =
      (.error (step.locate (number + count) left.context.vars f), left)

/-- Steps halt somewhere, whatever their audience does. -/
theorem runSteps_halts (audience : Audience ω) (s : Session σ) (steps : List Step) :
    ∀ number (r : Running σ ω), ∃ count before, Halts audience s number steps r count before := by
  induction steps with
  | nil => exact fun number r => ⟨0, r, Nat.le_refl 0, rfl, fun _ found => nomatch found⟩
  | cons step steps ih =>
    intro number r
    have first := exec_runStep audience s step number r
    rcases ran : exec (step.noted audience s.config number) r with ⟨f | _, left⟩
    · rw [ran] at first
      refine ⟨0, r, Nat.zero_le _, rfl, fun next found => ?_⟩
      obtain rfl : step = next := by simpa using found
      exact ⟨f, left, ran, by rw [runSteps, exec_bind, first]; rfl⟩
    · rw [ran] at first
      obtain ⟨count, before, halts⟩ := ih (number + 1) left
      refine ⟨count + 1, before, Nat.succ_le_succ halts.count_le, ?_, fun next found => ?_⟩
      · rw [List.take_succ_cons, runSteps, exec_bind, first]
        exact halts.completed
      · obtain ⟨f, last, failed, all⟩ := halts.fails next (by simpa using found)
        have numbered : number + (count + 1) = number + 1 + count := by omega
        rw [numbered, runSteps, exec_bind, first]
        exact ⟨f, last, failed, all⟩

/-! ## Where nothing interrupts -/

section Calm

variable {r : Running σ ω} (quiet : audience.IsQuiet) (calm : r.situation.Undisturbed)
include quiet calm

/-- Steps that are done leave a session as undisturbed as it was. -/
theorem runSteps_calm (s : Session σ) (steps : List Step) (number : Nat) :
    (exec (runSteps audience s number steps) r).2.situation.Undisturbed := by
  obtain ⟨left, ran, reached⟩ := runSteps_plays quiet s steps number r
  rw [ran, reached.situation]
  exact calm.within (turnFrom_within s.config steps number r.situation)

/-- A step that fails is not interrupted. -/
theorem noted_handled {config : Config} {number : Nat} {step : Step} {f : Failure}
    {left : Running σ ω} (failed : exec (step.noted audience config number) r = (.error f, left)) :
    ¬ f.isInterruption := by
  obtain ⟨left', ran, -⟩ := Act.note_bind_plays .debug .runs
    ("step " ++ Text.ofNat number ++ ": " ++ step.kind.name) (step.run_plays quiet config) r
  have failed' : (step.turn config r.situation).failure = some f := by
    have ending := congrArg Prod.fst (ran.symm.trans failed)
    cases why : (step.turn config r.situation).failure <;> simp_all [Turn.ending]
  exact (step.turn_takes config r.situation).handled calm failed'

end Calm

/-- The end of a session that nothing interrupts closes what is held and keeps everything else. -/
theorem exec_release_calm {r : Running σ ω} (calm : r.situation.Undisturbed) :
    ∃ left, exec release r = (.ok (), left) ∧
      left.context = { r.context with connection := none } := by
  obtain ⟨left, ran, reached⟩ := release_plays r
  have releases := r.situation.release_releases
  refine ⟨left, ?_, ?_⟩
  · rw [ran, Turn.ending, releases.handled calm]
  · rw [← Running.situation_context, reached.situation, releases.context]
    rfl

/-- A session that nothing interrupts starts, or reports that its connection is refused. -/
theorem exec_start_calm (quiet : audience.IsQuiet) (s : Session σ) (initial : Initial σ)
    (w : World σ ω) (calm : (s.atCall initial w).situation.Undisturbed) :
    (∃ f left, ¬ s.config.defersConnection ∧ w.openings.head?.join = some f ∧
      exec (start audience s) (s.atCall initial w) =
        (.error (.report (refusal s.config.target f)), left)) ∨
    ∃ started, exec (start audience s) (s.atCall initial w) = (.ok (), started) ∧
      (started.situation.enter .executing).Undisturbed := by
  obtain ⟨left, ran, reached⟩ := start_plays quiet s (s.atCall initial w)
  have free := s.atCall_free initial w
  have opens := opening_opens free
  generalize s.opening (s.atCall initial w).situation = turn at opens ran reached
  cases opens with
  | begun begins =>
    refine .inr ⟨left, ran, ?_⟩
    rw [reached.situation]
    exact calm.within begins.within
  | refused defers ended _ => exact .inl ⟨_, left, defers, ended, ran⟩
  | interrupted _ ended interrupted =>
    exact absurd interrupted (calm.openings _ (mem_of_head?_join ended))

/-! ## Whole runs -/

/-- A run whose connection is refused has that for a result, and nothing else. -/
theorem exec_run_refused {s : Session σ} {r left : Running σ ω} {f : Failure}
    (refused : exec (start audience s) r =
      (.error (.report (refusal s.config.target f)), left)) :
    ∃ after, exec (run audience s) r = (.ok ⟨some (refusal s.config.target f), {}⟩, after) := by
  obtain ⟨after, entered, -⟩ := Act.enter_plays .closed left
  refine ⟨after, ?_⟩
  rw [run, exec_bind, exec_resultOf, refused]
  change exec (do Act.enter .closed; pure _) left = _
  rw [exec_bind, entered]
  rfl

/-- A run that has started has for a result how its steps ended, and the context that is left when
    its connection is released. -/
theorem exec_run_started {s : Session σ} {r started executed after : Running σ ω}
    {result : Except Failure Unit} {failure : Option (Report Failure)}
    (began : exec (start audience s) r = (.ok (), started))
    (ended : exec (execute audience s) started = (result, executed))
    (reported : resultIf ReportKind.endsSession (failureOf result) = .ok failure)
    (released : exec release executed = (.ok (), after)) :
    exec (run audience s) r = (.ok ⟨failure, after.context⟩, after) := by
  have ensured : exec (ensuring (execute audience s) release) started = (result, after) := by
    rw [ensuring, exec_bind, exec_tryCatch, exec_bind, ended]
    cases result <;> simp [exec_bind, released]
  rw [run, exec_bind, exec_resultOf, began]
  change exec (do
    let failure ← resultOf ReportKind.endsSession (ensuring (execute audience s) release)
    return (⟨failure, (← get).context⟩ : Outcome σ)) started = _
  rw [exec_bind, exec_resultOf, ensured]
  simp only [reported]
  rfl

section Started

variable {s : Session σ} {r started executing left : Running σ ω}
  (began : exec (start audience s) r = (.ok (), started))
  (entered : exec (Act.enter .executing) started = (.ok (), executing))
include began entered

/-- A run whose steps are all completed has no failure. -/
theorem exec_run_completed
    (completed : exec (runSteps audience s 0 s.steps) executing = (.ok (), left))
    (calm : left.situation.Undisturbed) :
    ∃ after, exec (run audience s) r =
      (.ok ⟨none, { left.context with connection := none }⟩, after) := by
  obtain ⟨after, released, context⟩ := exec_release_calm calm
  have executed : exec (execute audience s) started = (.ok (), left) := by
    rw [execute, exec_bind, entered]
    exact completed
  exact ⟨after, context ▸ exec_run_started began executed rfl released⟩

/-- A run with a step that fails has the failure of that step. -/
theorem exec_run_stopped {step : Step} {number : Nat} {f : Failure}
    (stopped : exec (runSteps audience s 0 s.steps) executing =
      (.error (step.locate number left.context.vars f), left))
    (handled : ¬ f.isInterruption) (calm : left.situation.Undisturbed) :
    ∃ after, exec (run audience s) r =
      (.ok ⟨some (stepFailure step number left.context.vars f),
        { left.context with connection := none }⟩, after) := by
  obtain ⟨after, released, context⟩ := exec_release_calm calm
  have executed : exec (execute audience s) started =
      (.error (step.locate number left.context.vars f), left) := by
    rw [execute, exec_bind, entered]
    exact stopped
  have reported : resultIf ReportKind.endsSession
      (some (step.locate number left.context.vars f)) =
        .ok (some (stepFailure step number left.context.vars f)) := by
    simp [resultIf, reported?, Step.locate, handled, stepFailure_endsSession]
  exact ⟨after, context ▸ exec_run_started began executed reported released⟩

end Started

/-- The caller is told after the run how it ended. -/
theorem exec_callThen {s : Session σ} {r after : Running σ ω} {outcome : Outcome σ}
    (called : exec (call audience s) r = (.ok outcome, after)) :
    exec (callThen audience s none) r = (.ok outcome, after) ∧
      ∀ tell told, exec (tell outcome) after = (.ok (), told) →
        exec (callThen audience s (some tell)) r = (.ok outcome, told) := by
  constructor
  · rw [callThen, exec_bind, called]
    rfl
  · intro tell told heard
    rw [callThen, exec_bind, called]
    simp only []
    rw [exec_bind, heard]
    rfl

end Session

end SessionScript
