import SessionScript.Proofs.Session.Acts

/-!
# Sessions do what turns say

The steps of a session, its start and its end do what their turns say, and so does a whole run: it
starts, takes its steps until one fails, and lets go of the connection that it holds.
-/

namespace SessionScript

variable {σ ω : Type} {audience : Audience ω}

theorem runThink_plays (seconds : Binary64) :
    (runThink seconds : Act σ ω Unit).Plays fun here =>
      { deeds := [.sleeps seconds]
        failure := here.sleepings.head?.join
        after := here.sleepsOnce } :=
  Act.note_bind_plays _ _ _ (Act.sleep_plays seconds)

/-- A connection that was held is closed, and announced before that without a deed. -/
theorem closeAny_plays {announce : Connection → Act σ ω Unit}
    (silent : ∀ c, (announce c).Plays fun here => { after := here }) (held : Option Connection) :
    (match held with
      | none => pure ()
      | some c => do
        announce c
        Act.closeQuietly c : Act σ ω Unit).Plays fun here => here.closeAny held := by
  cases held with
  | none => exact Act.pure_plays
  | some c => exact Act.bind_plays (silent c) (Act.closeQuietly_plays c)

/-- The connection that is replaced is closed when the new one is held already. -/
theorem holdInstead_plays (c : Connection) (url : String) :
    (holdInstead c url : Act σ ω Unit).Plays fun here =>
      (here.hold (some c)).closeAny here.context.connection := by
  intro r
  apply Act.get_bind_playsIn
  apply Act.modifyContext_bind_playsIn
  exact closeAny_plays (fun _ => Act.note_plays _ _ _) r.context.connection _

theorem runConnect_plays (quiet : audience.IsQuiet) (config : Config) (url : String) :
    (runConnect audience config url : Act σ ω Unit).Plays fun here =>
      (Step.connect url).turn config here :=
  Act.answer_plays (Act.resolve_answers (.text url)) fun _ =>
    Act.note_bind_plays _ _ _ <|
      Act.connectTo_plays quiet _ (fun held x => x.closeAny held) fun c => holdInstead_plays c _

/-- A message that was written is told with a latency of one tick and counted. -/
theorem countSent_plays (quiet : audience.IsQuiet) :
    (do
      Act.emit audience (.response (← get).world.tick 0)
      Act.modifyContext fun x =>
        { x with pending := x.pending - 1, successes := x.successes + 1 } :
      Act σ ω Unit).Plays fun here =>
        { events := [.response here.tick 0], after := here.countSent } := by
  intro r
  apply Act.get_bind_playsIn
  exact Act.bind_plays (Act.emit_plays quiet _) (Act.modifyContext_plays _) r

/-- A message is announced, written, and then told to be sent or not. -/
theorem writeTo_plays (quiet : audience.IsQuiet) (c : Connection) (m : Message) :
    (writeTo audience c m : Act σ ω Unit).Plays fun here => here.write c m := by
  have same (here : Situation σ) : here.write c m =
      Turn.andThen { events := [.request], after := here } fun x =>
        Turn.andThen
          { deeds := [.sends c m]
            failure := x.sendings.head?.join.filter Failure.isInterruption
            after := x.sendsOnce }
          (x.sendings.head?.join.elim
            (fun y => { events := [.response y.tick 0], after := y.countSent })
            fun f y =>
              Turn.andThen { events := [.failed f], after := y } fun z =>
                { failure := some (.report (unsent f)), after := z }) := by
    cases ended : here.sendings.head?.join with
    | none => simp [Situation.write, Situation.sendsOnce, Turn.andThen, ended]
    | some f =>
      by_cases interrupted : f.isInterruption <;>
        simp [Situation.write, Turn.andThen, ended, interrupted, Option.filter]
  simp only [same]
  refine Act.bind_plays (Act.emit_plays quiet _) ?_
  exact Act.attempt_bind_plays (fun here => here.sendings.head?.join) Situation.sendsOnce
    (Act.exec_sendTo c m) (countSent_plays quiet) fun f =>
      Act.bind_plays (Act.emit_plays quiet _) (Act.throw_plays _)

theorem runSend_plays (quiet : audience.IsQuiet) (config : Config) (payload : Payload) :
    (runSend audience payload : Act σ ω Unit).Plays fun here =>
      (Step.send payload).turn config here := by
  intro r
  apply Act.get_bind_playsIn
  cases held : r.context.connection with
  | none =>
    have missing : (throw (.report unconnected) : Act σ ω Unit).PlaysIn r _ :=
      Act.throw_plays (.report unconnected) r
    simpa [held, Step.turn, unconnected] using missing
  | some c =>
    have sends : (do
        let m ← payload.encode Act.resolve
        Act.note .debug .steps ("send " ++ Text.ofNat m.length ++ " characters")
        writeTo audience c m : Act σ ω Unit).Plays fun here =>
          .given (here.encode payload) fun m there => there.write c m :=
      Act.answer_plays (Act.encode_answers payload) fun m =>
        Act.note_bind_plays _ _ _ (writeTo_plays quiet c m)
    simpa [held, Step.turn] using sends r

/-- A step does what its turn says. -/
theorem Step.run_plays (quiet : audience.IsQuiet) (config : Config) (step : Step) :
    (step.run audience config : Act σ ω Unit).Plays fun here => step.turn config here := by
  cases step with
  | think seconds => exact runThink_plays seconds
  | connect url => exact runConnect_plays quiet config url
  | send payload => exact runSend_plays quiet config payload

namespace Session

/-- A step that fails is located in the variables that it left. -/
theorem runStep_plays (quiet : audience.IsQuiet) (s : Session σ) (step : Step) (number : Nat) :
    (runStep audience s step number : Act σ ω Unit).Plays fun here =>
      step.turnAt s.config number here := by
  refine Act.note_bind_plays _ _ _ fun r => ?_
  obtain ⟨r', ran, reached⟩ := step.run_plays quiet s.config r
  rw [Act.PlaysIn, exec_bind, Act.exec_attempt, ran]
  cases failed : (step.turn s.config r.situation).failure with
  | none =>
    refine ⟨r', ?_, ?_⟩
    · simp [Turn.ending, Step.turnAt, failed]
    · exact reached
  | some f =>
    have vars : r'.context.vars = (step.turn s.config r.situation).after.context.vars := by
      rw [← reached.situation, Running.situation_context]
    refine ⟨r', ?_, reached⟩
    by_cases interrupted : f.isInterruption <;>
      simp [Turn.ending, Step.turnAt, Step.locate, failed, interrupted, exec_bind, vars]

theorem runSteps_plays (quiet : audience.IsQuiet) (s : Session σ) (steps : List Step) :
    ∀ n, (runSteps audience s n steps : Act σ ω Unit).Plays fun here =>
      turnFrom s.config n steps here := by
  induction steps with
  | nil => exact fun n => Act.pure_plays
  | cons step steps ih =>
    exact fun n => Act.bind_plays (runStep_plays quiet s step n) (ih (n + 1))

theorem execute_plays (quiet : audience.IsQuiet) (s : Session σ) :
    (execute audience s : Act σ ω Unit).Plays fun here =>
      turnFrom s.config 0 s.steps (here.enter .executing) :=
  Act.bind_plays (Act.enter_plays .executing) (runSteps_plays quiet s s.steps 0)

/-- What is let go of is closed, and announced before that without a deed. -/
theorem letGo_plays {announce : Connection → Act σ ω Unit}
    (silent : ∀ c, (announce c).Plays fun here => { after := here }) :
    (letGo announce : Act σ ω Unit).Plays Situation.letGo := by
  intro r
  apply Act.get_bind_playsIn
  apply Act.modifyContext_bind_playsIn
  exact closeAny_plays silent r.context.connection _

/-- The end of a session closes the connection that it holds. -/
theorem release_plays : (release : Act σ ω Unit).Plays Situation.release :=
  Act.bind_plays (letGo_plays fun _ => Act.pure_plays) (Act.enter_plays .closed)

/-- The start of a session opens its connection unless that is deferred. -/
theorem start_plays (quiet : audience.IsQuiet) (s : Session σ) :
    (start audience s : Act σ ω Unit).Plays s.opening := by
  have started : (Act.emit audience .started : Act σ ω Unit).Plays fun here =>
      { events := [.started], after := here } := Act.emit_plays quiet .started
  intro r
  unfold start opening
  split
  · exact started r
  · refine Act.bind_plays (Act.enter_plays .connecting)
      (Act.bind_plays (letGo_plays fun c => Act.note_plays _ _ _) ?_) r
    exact Act.connectTo_plays quiet _ (fun _ here => { events := [.started], after := here })
      fun c => Act.bind_plays (Act.modifyContext_plays _) started

/-- What is ensured happens however the act before it ends, and fails for both if it fails. -/
theorem ensuring_plays {act after : Act σ ω Unit} {turn next : Situation σ → Turn σ}
    (hact : act.Plays turn) (hafter : after.Plays next) :
    (ensuring act after).Plays fun here => (turn here).before next := by
  intro r
  obtain ⟨r', ran, reached⟩ := hact r
  obtain ⟨r'', ran', reached'⟩ := hafter r'
  rw [reached.situation] at ran' reached'
  refine ⟨r'', ?_, reached.trans reached'⟩
  rw [ensuring, exec_bind, exec_tryCatch, exec_bind, ran]
  cases failed : (turn r.situation).failure <;>
    cases failed' : (next (turn r.situation).after).failure <;>
      simp [Turn.ending, Turn.before, exec_bind, ran', failed, failed']

/-- A part of a session whose reports of some kinds are its result. -/
theorem resultOf_plays (isResult : ReportKind → Bool) {act : Act σ ω Unit}
    {turn : Situation σ → Turn σ} (hact : act.Plays turn) (r : Running σ ω) :
    ∃ r', exec (resultOf isResult act) r =
        (resultIf isResult (turn r.situation).failure, r') ∧
      r.Reaches (turn r.situation).deeds (turn r.situation).events (turn r.situation).after r' := by
  obtain ⟨r', ran, reached⟩ := hact r
  refine ⟨r', ?_, reached⟩
  rw [resultOf, exec_tryCatch, exec_bind, ran]
  cases failed : (turn r.situation).failure with
  | none => simp [Turn.ending, resultIf, failed]
  | some f => cases result : reported? isResult f <;> simp [Turn.ending, resultIf, failed, result]

/-- A running session does what a course says. -/
def Follows (act : Act σ ω (Outcome σ)) (course : Situation σ → Course σ) : Prop :=
  ∀ r, ∃ r', exec act r = ((course r.situation).result, r') ∧
    r.Reaches (course r.situation).deeds (course r.situation).events (course r.situation).after r'

/-- A run takes the course of its session. -/
theorem run_follows (quiet : audience.IsQuiet) (s : Session σ) :
    Follows (run audience s : Act σ ω (Outcome σ)) s.course := by
  intro r
  obtain ⟨r', ran, reached⟩ := resultOf_plays (· == .connect) (start_plays quiet s) r
  rw [run, exec_bind, ran]
  cases started : resultIf (· == .connect) (s.opening r.situation).failure with
  | error f =>
    refine ⟨r', by simp [course, started], ?_⟩
    simpa [course, started] using reached
  | ok refused? =>
    cases refused? with
    | some refused =>
      obtain ⟨r'', entered, reached'⟩ := Act.enter_plays .closed r'
      rw [reached.situation] at reached'
      refine ⟨r'', ?_, ?_⟩
      · simp only [course, started]
        rw [exec_bind, entered]
        rfl
      · simpa [course, started] using reached.trans reached'
    | none =>
      have plays : (ensuring (execute audience s) release : Act σ ω Unit).Plays s.body :=
        ensuring_plays (execute_plays quiet s) release_plays
      obtain ⟨r'', ran', reached'⟩ := resultOf_plays ReportKind.endsSession plays r'
      rw [reached.situation] at ran' reached'
      refine ⟨r'', ?_, ?_⟩
      · simp only [course, started]
        rw [exec_bind, ran']
        cases resultIf ReportKind.endsSession (s.body (s.opening r.situation).after).failure with
        | error f => rfl
        | ok failure =>
          rw [← reached'.situation]
          rfl
      · simpa [course, started] using reached.trans reached'

/-- Calling a session takes its course. -/
theorem call_follows (quiet : audience.IsQuiet) (s : Session σ) :
    Follows (call audience s : Act σ ω (Outcome σ)) s.course := by
  intro r
  obtain ⟨r', ran, reached⟩ := run_follows quiet s r
  rw [call, exec_bind, ran]
  cases returned : (s.course r.situation).result with
  | error f => exact ⟨r', rfl, reached⟩
  | ok outcome =>
    cases failed : outcome.failure with
    | none => exact ⟨r', by simp [failed], reached⟩
    | some failure =>
      obtain ⟨r'', noted, reached'⟩ :=
        Act.note_plays .debug .runs ("session failed: " ++ failure.message) r'
      rw [reached.situation] at reached'
      refine ⟨r'', ?_, ?_⟩
      · simp only [failed]
        rw [exec_bind, noted]
        rfl
      · simpa using reached.trans reached'

end Session

end SessionScript
