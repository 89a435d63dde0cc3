import SessionScript.Proofs.Session.Moments

/-!
# Balance

At every boundary between steps, throughout a step that fails and in what a session returns, the
messages that were counted are those that connections accepted, and together with what is pending
they are as many as the steps that are no pauses. A message is counted in the last act of the step
that sends it, so that no act of a step that fails changes a count.
-/

namespace SessionScript

variable {σ ω : Type} {audience : Audience ω}

open Situation (Counts)

namespace Session

/-! ## States of a run -/

/-- A state of a run that was called in a world: messages were counted, so many of them, and these
    are the ones that connections accepted. -/
def Counted (s : Session σ) (initial : Initial σ) (w : World σ ω) (n : Nat) (r : Running σ ω) :
    Prop :=
  ∃ deeds, r.deeds = deedsOf w.trace ++ deeds ∧
    (s.atCall initial w).situation.Counts deeds r.situation n

/-- The counts of a run: what is pending and what was sent are as many as the steps that are no
    pauses, what was sent is what connections accepted, and steps that connect stay pending. -/
structure Balanced (s : Session σ) (w : World σ ω) (r : Running σ ω) : Prop where
  total : r.context.pending + r.context.successes = s.steps.countP (·.kind ≠ .think)
  sent : ∃ deeds, r.deeds = deedsOf w.trace ++ deeds ∧
    r.context.successes = accepted w.sendings deeds
  connects : s.steps.countP (·.kind = .connect) ≤ r.context.pending
  pending_nonneg : 0 ≤ r.context.pending

section Counted

variable {s : Session σ} {initial : Initial σ} {w : World σ ω} {n : Nat} {r r' : Running σ ω}

theorem counted_atCall (s : Session σ) (initial : Initial σ) (w : World σ ω) :
    s.Counted initial w 0 (s.atCall initial w) :=
  ⟨[], by simp [Running.deeds, atCall], .refl _⟩

/-- What is counted later is counted besides. -/
theorem Counted.reaches {deeds : List Action} {events : List Event} {there : Situation σ} {k : Nat}
    (counted : s.Counted initial w n r) (reached : r.Reaches deeds events there r')
    (counts : r.situation.Counts deeds there k) : s.Counted initial w (n + k) r' := by
  obtain ⟨before, done, counts'⟩ := counted
  refine ⟨before ++ deeds, ?_, ?_⟩
  · rw [reached.deeds, done, List.append_assoc]
  · rw [reached.situation]
    exact counts'.trans counts

theorem counted_lasts : Lasts (s.Counted initial w n) :=
  fun _ _ _ _ _ counted reached counts => counted.reaches reached counts

/-- As long as no message is counted the counts are the same. -/
theorem Counted.same (counted : s.Counted initial w n r) (counted' : s.Counted initial w n r') :
    r.context.pending = r'.context.pending ∧ r.context.successes = r'.context.successes := by
  obtain ⟨_, -, counts⟩ := counted
  obtain ⟨_, -, counts'⟩ := counted'
  exact ⟨counts.pending.trans counts'.pending.symm, counts.successes.trans counts'.successes.symm⟩

/-- Steps that are no pauses connect or send. -/
theorem countP_traffic (steps : List Step) :
    steps.countP (·.kind ≠ .think) =
      steps.countP (·.kind = .connect) + steps.countP (·.kind = .send) := by
  induction steps with
  | nil => rfl
  | cons step steps ih =>
    rw [List.countP_cons, List.countP_cons, List.countP_cons, ih]
    cases step <;> simp [Step.kind] <;> omega

theorem pending_eq_countP (s : Session σ) : s.pending = s.steps.countP (·.kind ≠ .think) := by
  rw [pending, ← List.countP_eq_length_filter]
  exact List.countP_congr fun step _ => by simp

theorem Counted.balanced (counted : s.Counted initial w n r)
    (atMost : n ≤ s.steps.countP (·.kind = .send)) : s.Balanced w r := by
  obtain ⟨deeds, done, counts⟩ := counted
  have pending : r.context.pending = s.steps.countP (·.kind ≠ .think) - n := by
    have same : (s.createContext initial).pending = s.steps.countP (·.kind ≠ .think) := by
      cases initial <;> exact congrArg Nat.cast s.pending_eq_countP
    rw [← same]
    exact counts.pending
  have successes : r.context.successes = n := by
    have same : (s.createContext initial).successes = 0 := by cases initial <;> rfl
    have counted : r.context.successes = (s.createContext initial).successes + n :=
      counts.successes
    rwa [same, Int.zero_add] at counted
  have accepted : accepted w.sendings deeds = n := by
    have all := counts.accepted []
    rwa [List.append_nil] at all
  have traffic := countP_traffic s.steps
  refine ⟨by omega, ⟨deeds, done, by rw [successes, accepted]⟩, by omega, by omega⟩

end Counted

/-- A session up to the boundary after some of its steps. -/
def upTo (audience : Audience ω) (s : Session σ) (count : Nat) : Act σ ω Unit := do
  start audience s
  Act.enter .executing
  runSteps audience s 0 (s.steps.take count)

/-- What was counted up to a boundary. -/
theorem upTo_plays (quiet : audience.IsQuiet) (s : Session σ) (count : Nat) :
    (s.upTo audience count : Act σ ω Unit).Plays fun here =>
      (s.opening here).andThen fun x =>
        turnFrom s.config 0 (s.steps.take count) (x.enter .executing) :=
  Act.bind_plays (start_plays quiet s)
    (Act.bind_plays (Act.enter_plays .executing) (runSteps_plays quiet s _ 0))

section Balance

variable {s : Session σ} {initial : Initial σ} {w : World σ ω} {act : Act σ ω Unit} {t : Turn σ}

/-- An act of a run ends with the counts of its turn. -/
theorem counted_of_plays (plays : act.PlaysIn (s.atCall initial w) t) {k : Nat}
    (counts : ∃ n ≤ k, (s.atCall initial w).situation.Counts t.deeds t.after n) :
    ∃ n ≤ k, s.Counted initial w n (exec act (s.atCall initial w)).2 := by
  obtain ⟨r', ran, reached⟩ := plays
  obtain ⟨n, atMost, counts⟩ := counts
  refine ⟨n, atMost, ?_⟩
  rw [ran, ← Nat.zero_add n]
  exact (counted_atCall s initial w).reaches reached counts

/-- The state at a boundary, also if it is not reached because the run stops before. -/
theorem upTo_counted (quiet : audience.IsQuiet) (s : Session σ) (initial : Initial σ)
    (w : World σ ω) (count : Nat) : ∃ n ≤ s.steps.countP (·.kind = .send),
      s.Counted initial w n (exec (s.upTo audience count) (s.atCall initial w)).2 := by
  refine counted_of_plays (upTo_plays quiet s count _) ?_
  have fewer : (s.steps.take count).countP (·.kind = .send) ≤ s.steps.countP (·.kind = .send) :=
    (List.take_sublist count s.steps).countP_le
  rw [← Nat.zero_add (s.steps.countP _)]
  refine Counts.andThen ⟨0, Nat.le_refl 0, opening_counts (s.atCall_free initial w)⟩ fun x => ?_
  obtain ⟨n, atMost, counts⟩ :=
    turnFrom_counts s.config (s.steps.take count) 0 (x.enter .executing)
  have entered : x.Counts [] (x.enter .executing) 0 := .unsent rfl rfl rfl fun _ _ => rfl
  exact ⟨0 + n, by omega, entered.trans counts⟩

end Balance

/-- A run keeps its counts balanced: when it is called and has started, at every boundary between
    its steps, throughout a step that fails, which moreover changes no count, and when it is over.
    If the run has started, what it returns is the context with these counts. -/
theorem call_balances (quiet : audience.IsQuiet) (s : Session σ) (initial : Initial σ)
    (w : World σ ω) :
    s.Balanced w (s.atCall initial w) ∧
    s.Balanced w (exec (start audience s) (s.atCall initial w)).2 ∧
    (∀ count, s.Balanced w (exec (s.upTo audience count) (s.atCall initial w)).2) ∧
    (∀ count step before f left, s.steps[count]? = some step →
      exec (s.upTo audience count) (s.atCall initial w) = (.ok (), before) →
      exec (runStep audience s step count) before = (.error f, left) →
        (runStep audience s step count).Throughout audience
          (fun r => s.Balanced w r ∧ r.context.pending = before.context.pending ∧
            r.context.successes = before.context.successes) before) ∧
    s.Balanced w (exec (call audience s) (s.atCall initial w)).2 ∧
    ∀ outcome after, exec (call audience s) (s.atCall initial w) = (.ok outcome, after) →
      (exec (start audience s) (s.atCall initial w)).1 = .ok () →
        outcome.context = after.context := by
  have free := s.atCall_free initial w
  obtain ⟨after', ran, reached⟩ := call_follows quiet s (s.atCall initial w)
  have takes := course_takes free
  refine ⟨(counted_atCall s initial w).balanced (Nat.zero_le _), ?_, ?_, ?_, ?_, ?_⟩
  · obtain ⟨n, atMost, counted⟩ := counted_of_plays (start_plays quiet s _)
      ⟨0, Nat.le_refl 0, opening_counts free⟩
    exact counted.balanced (by omega)
  · intro count
    obtain ⟨n, atMost, counted⟩ := upTo_counted quiet s initial w count
    exact counted.balanced atMost
  · intro count step before f left _ begun failed
    obtain ⟨n, atMost, counted⟩ := upTo_counted quiet s initial w count
    rw [begun] at counted
    refine (runStep_throughout counted_lasts counted quiet failed).mono fun r later => ?_
    exact ⟨later.balanced atMost, later.same counted⟩
  · obtain ⟨n, atMost, counts⟩ := takes.counts
    rw [ran]
    exact ((counted_atCall s initial w).reaches reached counts).balanced (by omega)
  · intro outcome after returned began
    rw [ran, Prod.mk.injEq] at returned
    obtain ⟨result, rfl⟩ := returned
    obtain ⟨_, started, -⟩ := start_plays quiet s (s.atCall initial w)
    rw [started] at began
    rw [← Running.situation_context, reached.situation]
    generalize s.course (s.atCall initial w).situation = course at result takes
    cases takes with
    | interrupted _ _ _ => cases result
    | refused defers ended handled =>
      rw [opening_refused defers (free defers) ended handled] at began
      cases began
    | @ran _ _ _ t u _ _ =>
      cases returned : resultIf ReportKind.endsSession (u.failure <|> t.failure) with
      | error f =>
        rw [returned] at result
        cases result
      | ok report =>
        rw [returned] at result
        cases result
        rfl

/-- A session whose second message is not accepted returns with one message sent and one step that
    is still pending. -/
theorem call_balances_of_messages :
    let s : Session Unit := ⟨[.send (.text "one"), .think (.ofInt 1), .send (.text "two")],
      { target := "ws://a" }, []⟩
    let w : World Unit Unit :=
      { host := (), audience := (), sendings := [none, some (.raise "OSError" "")] }
    ∃ outcome after, exec (call Audience.absent s) (s.atCall .nothing w) = (.ok outcome, after) ∧
      s.Balanced w after ∧ outcome.context = after.context ∧
        outcome.context.successes = 1 ∧ outcome.context.pending = 1 := by
  intro s w
  obtain ⟨-, -, -, -, balanced, returned⟩ :=
    call_balances Audience.absent_isQuiet s .nothing w
  have returns : (exec (call Audience.absent s) (s.atCall .nothing w)).1.toBool = true := by
    decide +kernel
  have counts : (exec (call Audience.absent s) (s.atCall .nothing w)).2.context.successes = 1 ∧
      (exec (call Audience.absent s) (s.atCall .nothing w)).2.context.pending = 1 := by
    decide +kernel
  generalize ran : exec (call Audience.absent s) (s.atCall .nothing w) = ended at *
  obtain ⟨f | outcome, after⟩ := ended
  · cases returns
  · have same := returned outcome after rfl rfl
    exact ⟨outcome, after, rfl, balanced, same, same ▸ counts⟩

end Session

end SessionScript
