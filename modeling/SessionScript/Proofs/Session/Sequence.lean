import SessionScript.Proofs.Session.Paths
import SessionScript.Proofs.Session.Simulation

/-!
# Steps in sequence

A session that nothing interrupts opens its connection, takes its steps one after the other in the
situation that the ones before left, and stops at the first that fails. What stands after that step
makes no difference at all; the connection that is still held is closed last.
-/

namespace SessionScript

variable {σ ω : Type} {audience : Audience ω}

/-- Nothing that happens from here on is an interruption. -/
structure Situation.Undisturbed (here : Situation σ) : Prop where
  openings : ∀ f, some f ∈ here.openings → ¬ f.isInterruption
  sendings : ∀ f, some f ∈ here.sendings → ¬ f.isInterruption
  closings : ∀ f, some f ∈ here.closings → ¬ f.isInterruption
  sleepings : ∀ f, some f ∈ here.sleepings → ¬ f.isInterruption
  functions : here.context.funcs.RaiseOnly fun f => ¬ f.isInterruption

namespace Situation.Undisturbed

variable {here there : Situation σ}

theorem within (undisturbed : here.Undisturbed) (later : here.Within there) :
    there.Undisturbed where
  openings f scripted := undisturbed.openings f (later.openings.subset scripted)
  sendings f scripted := undisturbed.sendings f (later.sendings.subset scripted)
  closings f scripted := undisturbed.closings f (later.closings.subset scripted)
  sleepings f scripted := undisturbed.sleepings f (later.sleepings.subset scripted)
  functions := by
    rw [later.funcs]
    exact undisturbed.functions

end Situation.Undisturbed

/-- The failures of templates themselves are no interruptions. -/
theorem Template.OwnFailure.handled {f : Failure} (own : Template.OwnFailure f) :
    ¬ f.isInterruption := by
  cases own with
  | unreadable expression why => exact Bool.false_ne_true
  | endless => exact Bool.false_ne_true
  | noText e => cases e <;> exact Bool.false_ne_true

/-- A step is not interrupted where nothing is. -/
theorem Step.Takes.handled {config : Config} {here : Situation σ} {step : Step} {t : Turn σ}
    (takes : step.Takes config here t) (undisturbed : here.Undisturbed) {f : Failure}
    (failed : t.failure = some f) : ¬ f.isInterruption := by
  have own : ∀ f, Template.OwnFailure f → ¬ f.isInterruption := fun _ own => own.handled
  cases takes with
  | slept _ | connected _ _ _ | sent _ _ _ => cases failed
  | disturbed ended =>
    cases failed
    exact undisturbed.sleepings f (mem_of_head?_join ended)
  | unresolved resolved =>
    cases failed
    exact Situation.resolve_error own undisturbed.functions resolved
  | unencoded _ encoded =>
    cases failed
    exact Situation.encode_error own undisturbed.functions encoded
  | refused _ _ _ | missing _ | unsent _ _ _ _ =>
    cases failed
    simp [Failure.isInterruption]
  | openingInterrupted resolved ended _ =>
    cases failed
    have there := undisturbed.within (.of_sameBut (Situation.resolve_sameBut resolved))
    exact there.openings f (mem_of_head?_join ended)
  | sendingInterrupted _ encoded ended _ =>
    cases failed
    have there := undisturbed.within (.of_sameBut (Situation.encode_sameBut encoded))
    exact there.sendings f (mem_of_head?_join ended)
  | replaced resolved _ _ =>
    have there := undisturbed.within (.of_sameBut (Situation.resolve_sameBut resolved))
    obtain ⟨ended, interrupted⟩ := Option.filter_eq_some_iff.mp failed
    exact there.closings f (mem_of_head?_join ended)

/-- The end of a session is not interrupted where nothing is. -/
theorem Situation.Releases.handled {here : Situation σ} {t : Turn σ} (releases : here.Releases t)
    (undisturbed : here.Undisturbed) : t.failure = none := by
  cases releases with
  | nothing _ | closed _ _ => rfl
  | interrupted _ ended interrupted =>
    exact absurd interrupted (undisturbed.closings _ (mem_of_head?_join ended))

/-! ## Steps one after the other -/

/-- Steps that all go well, one after the other: what they do, and the situation that they leave. -/
inductive Completes (config : Config) :
    Situation σ → List Step → List Action → Situation σ → Prop where
  | nil (here : Situation σ) : Completes config here [] [] here
  | cons {here there : Situation σ} {step : Step} {steps : List Step} {t : Turn σ}
    {deeds : List Action} (takes : step.Takes config here t) (well : t.failure = none)
    (rest : Completes config t.after steps deeds there) :
    Completes config here (step :: steps) (t.deeds ++ deeds) there

/-- A step that fails: what it does before that, and the situation that it leaves. -/
def Step.Stops (config : Config) (here : Situation σ) (step : Step) (deeds : List Action)
    (there : Situation σ) : Prop :=
  ∃ t, step.Takes config here t ∧ t.failure ≠ none ∧ t.deeds = deeds ∧ t.after = there

/-- How far steps come: some are completed, and then all are done or the next one fails. -/
structure Progress (config : Config) (number : Nat) (steps : List Step) (here : Situation σ)
    (count : Nat) (done : List Action) (there : Situation σ) (rest : List Action)
    (last : Situation σ) : Prop where
  count_le : count ≤ steps.length
  completes : Completes config here (steps.take count) done there
  deeds : (Session.turnFrom config number steps here).deeds = done ++ rest
  after : (Session.turnFrom config number steps here).after = last
  all : count = steps.length →
    rest = [] ∧ last = there ∧ (Session.turnFrom config number steps here).failure = none
  fails : ∀ step, steps[count]? = some step →
    step.Stops config there rest last ∧
      (∃ r, (Session.turnFrom config number steps here).failure = some (.report r) ∧
        r.kind.endsSession) ∧
      (Session.turnFrom config number (steps.take (count + 1)) here).failure ≠ none

/-- The result of steps is a failure if one of them fails. -/
theorem Progress.result {config : Config} {number count : Nat} {steps : List Step}
    {here there last : Situation σ} {done rest : List Action}
    (progress : Progress config number steps here count done there rest last) :
    ∃ failure,
      Session.resultIf ReportKind.endsSession
        (Session.turnFrom config number steps here).failure = .ok failure ∧
      (failure = none ↔ count = steps.length) := by
  rcases Nat.eq_or_lt_of_le progress.count_le with all | before
  · refine ⟨none, ?_, by simp [all]⟩
    rw [(progress.all all).2.2, Session.resultIf_none]
  · obtain ⟨-, ⟨r, failed, ends⟩, -⟩ := progress.fails _ (List.getElem?_eq_getElem before)
    refine ⟨some r, ?_, by simpa using Nat.ne_of_lt before⟩
    rw [failed]
    simp [Session.resultIf, Session.reported?, ends]

/-- Steps that nothing interrupts make some progress. -/
theorem Session.turnFrom_progress (config : Config) (steps : List Step) :
    ∀ number {here : Situation σ}, here.Undisturbed →
      ∃ count done there rest last,
        Progress config number steps here count done there rest last := by
  induction steps with
  | nil =>
    intro number here _
    exact ⟨0, [], here, [], here, Nat.le_refl 0, .nil here, rfl, rfl, fun _ => ⟨rfl, rfl, rfl⟩,
      fun _ found => by cases found⟩
  | cons step steps ih =>
    intro number here undisturbed
    have takes := step.turn_takes config here
    cases failed : (step.turn config here).failure with
    | some f =>
      have handled : ¬ f.isInterruption := takes.handled undisturbed failed
      have located (steps : List Step) : (turnFrom config number (step :: steps) here).failure =
          some (.report
            (stepFailure step number (step.turn config here).after.context.vars f)) := by
        rw [turnFrom_failed failed]
        simp [Step.turnAt, Step.locate, failed, handled]
      refine ⟨0, [], here, (step.turn config here).deeds, (step.turn config here).after, ?_⟩
      refine ⟨Nat.zero_le _, .nil here, ?_, ?_, ?_, ?_⟩
      · rw [turnFrom_failed failed]
        rfl
      · rw [turnFrom_failed failed]
        rfl
      · intro none
        cases none
      · intro first found
        obtain rfl : step = first := by simpa using found
        refine ⟨⟨_, takes, by simp [failed], rfl, rfl⟩,
          ⟨_, located steps, stepFailure_endsSession ..⟩, ?_⟩
        rw [List.take_succ_cons, located]
        exact Option.some_ne_none _
    | none =>
      obtain ⟨count, done, there, rest, last, progress⟩ :=
        ih (number + 1) (undisturbed.within takes.within)
      refine ⟨count + 1, (step.turn config here).deeds ++ done, there, rest, last, ?_⟩
      refine ⟨Nat.succ_le_succ progress.count_le, ?_, ?_, ?_, ?_, ?_⟩
      · exact .cons takes failed progress.completes
      · rw [turnFrom_well failed, List.append_assoc, ← progress.deeds]
      · rw [turnFrom_well failed, ← progress.after]
      · intro all
        rw [turnFrom_well failed]
        exact progress.all (Nat.succ.inj all)
      · intro next found
        rw [List.take_succ_cons, turnFrom_well failed, turnFrom_well failed]
        exact progress.fails next (by simpa using found)

namespace Session

/-- What stands after a step that fails makes no difference. -/
theorem runSteps_append_of_failure (quiet : audience.IsQuiet) (s : Session σ) (later : List Step) :
    ∀ (steps : List Step) (n : Nat) (r : Running σ ω),
      (turnFrom s.config n steps r.situation).failure ≠ none →
        exec (runSteps audience s n (steps ++ later)) r = exec (runSteps audience s n steps) r := by
  intro steps
  induction steps with
  | nil => exact fun n r failed => absurd rfl failed
  | cons step steps ih =>
    intro n r failed
    obtain ⟨r', ran, reached⟩ := runStep_plays quiet s step n r
    rw [List.cons_append, runSteps, runSteps, exec_bind, exec_bind, ran]
    cases stepFailed : (step.turn s.config r.situation).failure with
    | some f => simp [Turn.ending, Step.turnAt, stepFailed]
    | none =>
      rw [turnFrom_well stepFailed] at failed
      have situated : r'.situation = (step.turn s.config r.situation).after := reached.situation
      have rest := ih (n + 1) r' (by rwa [situated])
      simpa [Turn.ending, Step.turnAt, stepFailed] using rest

/-- How given steps are run does not depend on the steps of their session. -/
theorem runSteps_other (s : Session σ) (others : List Step) (steps : List Step) :
    ∀ n, (runSteps audience { s with steps := others } n steps : Act σ ω Unit) =
      runSteps audience s n steps := by
  induction steps with
  | nil => exact fun _ => rfl
  | cons step steps ih =>
    intro n
    rw [runSteps, runSteps, ih]
    rfl

theorem ensuring_congr {act act' after : Act σ ω Unit} {r : Running σ ω}
    (same : exec act r = exec act' r) :
    exec (ensuring act after) r = exec (ensuring act' after) r := by
  simp only [ensuring, exec_bind, exec_tryCatch, same]

theorem resultOf_congr {isResult : ReportKind → Bool} {act act' : Act σ ω Unit} {r : Running σ ω}
    (same : exec act r = exec act' r) :
    exec (resultOf isResult act) r = exec (resultOf isResult act') r := by
  simp only [resultOf, exec_bind, exec_tryCatch, same]

/-- Other steps make no difference to a session if their run makes none where its steps start. -/
theorem call_congr (quiet : audience.IsQuiet) (s : Session σ) (steps : List Step)
    {r : Running σ ω} (free : ¬ s.config.defersConnection → r.context.connection = none)
    (same : ∀ first start (r₁ : Running σ ω), s.Begins r.situation first start →
      r₁.situation = start.enter .executing →
        exec (runSteps audience s 0 steps) r₁ = exec (runSteps audience s 0 s.steps) r₁) :
    exec (call audience { s with steps := steps }) r = exec (call audience s) r := by
  have runs : exec (run audience { s with steps := steps }) r = exec (run audience s) r := by
    obtain ⟨r', ran, reached⟩ := resultOf_plays (· == .connect) (start_plays quiet s) r
    have ran' : exec (resultOf (· == .connect) (start audience { s with steps := steps })) r = _ :=
      ran
    rw [run, run, exec_bind, exec_bind, ran, ran']
    cases started : resultIf (· == .connect) (s.opening r.situation).failure with
    | error f => rfl
    | ok refused? =>
      cases refused? with
      | some refused => rfl
      | none =>
        obtain ⟨r₁, entered, reached₁⟩ := Act.enter_plays .executing r'
        rw [reached.situation] at reached₁
        have executes : exec (execute audience { s with steps := steps }) r' =
            exec (execute audience s) r' := by
          rw [execute, execute, exec_bind, exec_bind, entered]
          simp only [runSteps_other]
          exact same _ _ r₁ (opening_begins free started) reached₁.situation
        simp only [exec_bind, resultOf_congr (ensuring_congr executes)]
  rw [call, call, exec_bind, exec_bind, runs]

/-- A message that finds no connection is not even made. -/
theorem run_send_free (config : Config) (payload : Payload) {r : Running σ ω}
    (free : r.context.connection = none) :
    exec ((Step.send payload).run audience config) r = (.error (.report unconnected), r) := by
  rw [Step.run, runSend, exec_bind, exec_get]
  simp only [free]
  rfl

/-- A session that nothing interrupts takes its steps in order up to the first that fails, and its
    result is a failure only if one does. Steps after that one make no difference to the run. -/
theorem call_in_sequence (quiet : audience.IsQuiet) (s : Session σ) (initial : Initial σ)
    (w : World σ ω) (undisturbed : (s.atCall initial w).situation.Undisturbed) :
    ∃ outcome after deeds,
      exec (call audience s) (s.atCall initial w) = (.ok outcome, after) ∧
      after.deeds = deedsOf w.trace ++ deeds ∧
      ((¬ s.config.defersConnection ∧ w.openings.head?.join ≠ none ∧
          deeds = [.opens s.config.target] ∧ outcome.failure ≠ none ∧
          ∀ steps, exec (call audience { s with steps := steps }) (s.atCall initial w) =
            (.ok outcome, after)) ∨
        ∃ first start count done there rest last,
          s.Begins (s.atCall initial w).situation first start ∧
          count ≤ s.steps.length ∧
          Completes s.config (start.enter .executing) (s.steps.take count) done there ∧
          deeds = first ++ done ++ rest ++ last.context.connection.toList.map .closes ∧
          outcome.context = { last.context with connection := none } ∧
          (count = s.steps.length → rest = [] ∧ last = there ∧ outcome.failure = none) ∧
          ∀ step, s.steps[count]? = some step →
            step.Stops s.config there rest last ∧ outcome.failure ≠ none ∧
            ∀ later,
              exec (call audience { s with steps := s.steps.take (count + 1) ++ later })
                (s.atCall initial w) = (.ok outcome, after)) ∧
      ∀ payload (r : Running σ ω), r.context.connection = none →
        exec ((Step.send payload).run audience s.config) r = (.error (.report unconnected), r) := by
  obtain ⟨after, ran, reached⟩ := call_follows quiet s (s.atCall initial w)
  have free := s.atCall_free initial w
  have takes := course_takes free
  generalize s.course (s.atCall initial w).situation = course at ran reached takes
  cases takes with
  | interrupted defers ended interrupted =>
    exact absurd interrupted (undisturbed.openings _ (mem_of_head?_join ended))
  | refused defers ended handled =>
    refine ⟨_, after, _, ran, reached.deeds, .inl ⟨defers, ?_, rfl, ?_, ?_⟩,
      fun payload r => run_send_free s.config payload⟩
    · exact ended ▸ Option.some_ne_none _
    · exact Option.some_ne_none _
    · intro steps
      rw [call_congr quiet s steps free, ran]
      intro first start r₁ begins
      cases begins with
      | deferred defers' => exact absurd defers' defers
      | opened _ ended' => rw [ended] at ended'; cases ended'
  | @ran first start begins t u stepped releases =>
    subst stepped
    have calm := undisturbed.within begins.within
    obtain ⟨count, done, there, rest, last, progress⟩ := turnFrom_progress s.config s.steps 0 calm
    have closes : u.failure = none :=
      releases.handled (calm.within (turnFrom_within s.config s.steps 0 _))
    obtain ⟨failure, result, ends⟩ := progress.result
    have whole : exec (call audience s) (s.atCall initial w) =
        (.ok ⟨failure, u.after.context⟩, after) := by
      simp only [ran, closes, Option.orElse_eq_orElse, Option.orElse_none, result]
      rfl
    refine ⟨⟨failure, u.after.context⟩, after, _, whole, reached.deeds, .inr ?_,
      fun payload r => run_send_free s.config payload⟩
    refine ⟨first, start, count, done, there, rest, last, begins, progress.count_le,
      progress.completes, ?_, ?_, ?_, ?_⟩
    · rw [progress.deeds, releases.deeds, progress.after]
      simp
    · rw [releases.context, progress.after]
    · intro all
      obtain ⟨nothing, same, -⟩ := progress.all all
      exact ⟨nothing, same, ends.mpr all⟩
    · intro step found
      obtain ⟨stops, -, failed⟩ := progress.fails step found
      have before : count < s.steps.length := (List.getElem?_eq_some_iff.mp found).1
      refine ⟨stops, fun none => Nat.ne_of_lt before (ends.mp none), fun later => ?_⟩
      rw [call_congr quiet s _ free, whole]
      intro first' start' r₁ begins' situated
      rw [← begins.unique begins'] at situated
      rw [← situated] at failed
      rw [runSteps_append_of_failure quiet s later _ 0 r₁ failed,
        ← runSteps_append_of_failure quiet s (s.steps.drop (count + 1)) _ 0 r₁ failed,
        List.take_append_drop]

/-- A session of two pauses, whose second one fails, comes to an end with its result. -/
theorem call_in_sequence_of_pauses :
    let s : Session Unit :=
      ⟨[.think (.ofInt 1), .think (.ofInt 2)], { defersConnection := true }, []⟩
    let w : World Unit Unit :=
      { host := (), audience := (), sleepings := [none, some (.raise "OSError" "")] }
    ∃ outcome after deeds,
      exec (call Audience.absent s) (s.atCall .nothing w) = (.ok outcome, after) ∧
        after.deeds = deeds := by
  intro s w
  have undisturbed : (s.atCall .nothing w).situation.Undisturbed := by
    refine ⟨?_, ?_, ?_, ?_, ?_⟩
    · exact fun f scripted => absurd scripted List.not_mem_nil
    · exact fun f scripted => absurd scripted List.not_mem_nil
    · exact fun f scripted => absurd scripted List.not_mem_nil
    · intro f scripted
      obtain rfl : f = .raise "OSError" "" := by
        simpa [w, atCall, Running.situation] using scripted
      decide
    · exact fun name fn bound => absurd bound List.not_mem_nil
  obtain ⟨outcome, after, deeds, ran, done, -⟩ :=
    call_in_sequence Audience.absent_isQuiet s .nothing w undisturbed
  exact ⟨outcome, after, deeds, ran, done⟩

end Session

end SessionScript
