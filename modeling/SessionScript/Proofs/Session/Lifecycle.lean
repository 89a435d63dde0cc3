import SessionScript.Proofs.Session.Moves

/-!
# The life of a session

A session moves from phase to phase as its start asks for, and does its work while it executes its
steps. It comes to the last phase unless it is interrupted at one of two moments, while it opens
its first connection or while it closes its last one, or its audience fails as it starts.
-/

namespace SessionScript

variable {σ ω : Type} {audience : Audience ω}

/-! ## Closings -/

/-- Deeds lead from one situation to another; every closing uses up an entry of its script, and
    whoever held a connection, or closed one, holds one after that. -/
structure Situation.Spends (here : Situation σ) (deeds : List Action) (there : Situation σ) :
    Prop where
  closings : there.closings = here.closings.drop (closedIn deeds).length
  holds : here.context.connection ≠ none ∨ closedIn deeds ≠ [] →
    there.context.connection ≠ none

namespace Situation.Spends

variable {here there next : Situation σ} {deeds deeds' : List Action}

theorem trans (first : here.Spends deeds there) (second : there.Spends deeds' next) :
    here.Spends (deeds ++ deeds') next where
  closings := by
    rw [second.closings, first.closings, List.drop_drop, closedIn_append, List.length_append]
  holds := by
    rw [closedIn_append]
    rintro (held | closed)
    · exact second.holds (.inl (first.holds (.inl held)))
    · by_cases early : closedIn deeds = []
      · exact second.holds (.inr fun late => closed (by rw [early, late]; rfl))
      · exact second.holds (.inl (first.holds (.inr early)))

/-- A connection is closed only when it is replaced. -/
instance : Tracks (Situation.Spends (σ := σ)) where
  still unclosed connection _ closings :=
    { closings := by rw [closings, unclosed]; rfl
      holds := fun held => connection ▸ held.resolve_right (absurd unclosed) }
  trans := .trans
  replaces _ held _ := by cases held <;> exact ⟨rfl, fun _ => nofun⟩

end Situation.Spends

namespace Session

/-- Whether the last connection that was closed was interrupted while it was. -/
def ClosingInterrupted (closings : List Ending) (deeds : List Action) : Prop :=
  ∃ k f, (closedIn deeds).length = k + 1 ∧ closings[k]?.join = some f ∧ f.isInterruption

theorem ClosingInterrupted.congr {closings : List Ending} {deeds deeds' : List Action}
    (same : closedIn deeds = closedIn deeds') :
    ClosingInterrupted closings deeds ↔ ClosingInterrupted closings deeds' := by
  rw [ClosingInterrupted, same]
  rfl

/-- No closing is interrupted where nothing is closed. -/
theorem not_closingInterrupted {closings : List Ending} {deeds : List Action}
    (unclosed : closedIn deeds = []) : ¬ ClosingInterrupted closings deeds := by
  rintro ⟨k, f, count, -⟩
  rw [unclosed] at count
  cases count

/-- The end of a session enters the last phase unless it is interrupted, which is then the last
    closing of all. -/
theorem release_closed_iff {r there : Running σ ω} {deeds : List Action}
    (spent : r.situation.Spends deeds there.situation) (executing : there.phase = .executing) :
    ∃ more, (exec release there).2.deeds = there.deeds ++ more ∧
      ((exec release there).2.phase = .closed ↔
        ¬ ClosingInterrupted r.world.closings (deeds ++ more)) := by
  obtain ⟨left, ran, reached⟩ := release_plays there
  have phase : left.phase = there.situation.release.after.phase :=
    congrArg Situation.phase reached.situation
  rw [ran]
  refine ⟨_, reached.deeds, ?_⟩
  rw [phase]
  have last : r.world.closings[(closedIn deeds).length]?.join =
      there.situation.closings.head?.join := by
    rw [spent.closings, List.head?_drop]
    rfl
  have releases := there.situation.release_releases
  generalize there.situation.release = t at releases
  cases releases with
  | nothing free =>
    have none : closedIn deeds = [] :=
      Classical.byContradiction fun closed => spent.holds (.inr closed) free
    refine iff_of_true rfl (not_closingInterrupted ?_)
    rw [closedIn_append, none]
    rfl
  | closed held handled =>
    refine iff_of_true rfl ?_
    rintro ⟨k, f, count, ended, interrupted⟩
    rw [closedIn_append] at count
    obtain rfl : (closedIn deeds).length = k := by simpa [closedIn, Action.closed?] using count
    exact handled f (last.symm.trans ended) interrupted
  | interrupted held ended interrupted =>
    refine iff_of_false (fun closed => ?_) fun calm => ?_
    · cases executing.symm.trans closed
    · refine calm ⟨(closedIn deeds).length, _, ?_, last.trans ended, interrupted⟩
      rw [closedIn_append, List.length_append]
      rfl

end Session

/-! ## Starts -/

/-- An audience that may fail, but not as a connection does that is refused. -/
def Audience.NeverRefuses (audience : Audience ω) : Prop :=
  ∀ e listening f, (audience e listening).2.1 = some f →
    Session.reported? (· == .connect) f = none

theorem Audience.absent_neverRefuses : Audience.absent.NeverRefuses := fun _ _ _ => nofun

namespace Session

/-- Whether the first connection of a session is interrupted while it is opened. -/
def OpeningInterrupted (s : Session σ) (w : World σ ω) : Prop :=
  ∃ f, s.openingFailure w = some f ∧ f.isInterruption

/-- The first event that a session has to tell: that it has started, or that it could not. -/
def firstEvent (s : Session σ) (w : World σ ω) : Event :=
  match s.openingFailure w with
  | none => .started
  | some f => .refused f.shortCode

/-- The ways in which the start of a session ends. Only a refusal is a result of the session. -/
inductive StartEnds (audience : Audience ω) (s : Session σ) (w : World σ ω) :
    Option Failure → Prop where
  | started (opened : s.openingFailure w = none)
    (heard : (audience (s.firstEvent w) w.audience).2.1 = none) : StartEnds audience s w none
  | refused {f : Failure} (failed : s.openingFailure w = some f) (handled : ¬ f.isInterruption)
    (heard : (audience (s.firstEvent w) w.audience).2.1 = none) :
    StartEnds audience s w (some (.report (refusal s.config.target f)))
  | aborted {g : Failure} (unreported : reported? (· == .connect) g = none)
    (why : s.OpeningInterrupted w ∨ (audience (s.firstEvent w) w.audience).2.1 ≠ none) :
    StartEnds audience s w (some g)

/-- The start of a session ends in one of these ways. -/
theorem startFailure_ends (fair : audience.NeverRefuses) (s : Session σ) (w : World σ ω) :
    s.StartEnds audience w (s.startFailure audience w) := by
  cases failed : s.openingFailure w with
  | none =>
    have event : s.firstEvent w = .started := by rw [firstEvent, failed]
    rw [startFailure, failed]
    cases heard : (audience .started w.audience).2.1 with
    | none => exact .started failed (event ▸ heard)
    | some g =>
      refine .aborted (fair _ _ g heard) (.inr ?_)
      rw [event, heard]
      exact Option.some_ne_none g
  | some f =>
    have event : s.firstEvent w = .refused f.shortCode := by rw [firstEvent, failed]
    rw [startFailure, failed]
    by_cases interrupted : f.isInterruption
    · simp only [Audience.unconnected, if_pos interrupted]
      exact .aborted (reported?_interruption interrupted) (.inl ⟨f, failed, interrupted⟩)
    · simp only [Audience.unconnected, if_neg interrupted]
      cases heard : (audience (.refused f.shortCode) w.audience).2.1 with
      | none => exact .refused failed interrupted (event ▸ heard)
      | some g =>
        refine .aborted (fair _ _ g heard) (.inr ?_)
        rw [event, heard]
        exact Option.some_ne_none g

/-! ## Whole runs -/

/-- What was closed is seen in the deeds of a trace. -/
theorem closedIn_deedsOf (trace : List Action) : closedIn (deedsOf trace) = closedIn trace := by
  induction trace with
  | nil => rfl
  | cons a as ih =>
    cases a with
    | closes c => exact congrArg (c :: ·) ih
    | _ => exact ih

/-- The phases that a session is due to go through. -/
def life (s : Session σ) (w : World σ ω) : List Phase :=
  if s.config.defersConnection then [.idle, .executing, .closed]
  else if w.openings.head?.join = none then [.idle, .connecting, .executing, .closed]
  else [.idle, .connecting, .closed]

/-- The phases of a session up to the end of its start. -/
def beginning (s : Session σ) : List Phase :=
  if s.config.defersConnection then [.idle] else [.idle, .connecting]

theorem life_of_opened {s : Session σ} {w : World σ ω} (opened : s.openingFailure w = none) :
    s.life w = s.beginning ++ [.executing, .closed] := by
  by_cases defers : s.config.defersConnection
  · simp [life, beginning, defers]
  · rw [openingFailure, if_neg defers] at opened
    simp [life, beginning, defers, opened]

theorem life_of_failed {s : Session σ} {w : World σ ω} {f : Failure}
    (failed : s.openingFailure w = some f) : s.life w = s.beginning ++ [.closed] := by
  by_cases defers : s.config.defersConnection
  · rw [openingFailure, if_pos defers] at failed
    cases failed
  · rw [openingFailure, if_neg defers] at failed
    simp [life, beginning, defers, failed]

theorem beginning_prefix_life (s : Session σ) (w : World σ ω) : s.beginning <+: s.life w := by
  cases failed : s.openingFailure w with
  | none => exact ⟨_, (life_of_opened failed).symm⟩
  | some f => exact ⟨_, (life_of_failed failed).symm⟩

end Session

/-- A state follows another one through some phases, the last of which is its own, and work was
    done only as phases admit it. -/
def Running.Visits (target : String) (r : Running σ ω) (visited : List Phase)
    (r' : Running σ ω) : Prop :=
  visited.getLast? = some r'.phase ∧ r.Moves target (visited.zip visited.tail) r'

namespace Running.Visits

variable {target : String} {r r' r'' : Running σ ω} {visited : List Phase}

/-- The moves through some phases and one more. -/
theorem zip_tail_concat (ps : List Phase) (p q : Phase) :
    (ps ++ [p, q]).zip (ps ++ [p, q]).tail = (ps ++ [p]).zip (ps ++ [p]).tail ++ [(p, q)] := by
  induction ps with
  | nil => rfl
  | cons x xs ih =>
    cases xs with
    | nil => rfl
    | cons y ys => simpa using ih

theorem move {q : Phase} (visits : r.Visits target visited r')
    (moves : r'.Moves target [(r'.phase, q)] r'') : r.Visits target (visited ++ [q]) r'' := by
  obtain ⟨last, before⟩ := visits
  obtain ⟨ps, rfl⟩ := List.getLast?_eq_some_iff.mp last
  refine ⟨?_, ?_⟩
  · rw [List.getLast?_concat, moves.1]
    rfl
  · have step := before.trans moves
    rw [← zip_tail_concat] at step
    rw [List.append_assoc]
    exact step

theorem stay (visits : r.Visits target visited r') (moves : r'.Moves target [] r'') :
    r.Visits target visited r'' := by
  refine ⟨visits.1.trans (congrArg some moves.1.symm), ?_⟩
  have step := visits.2.trans moves
  rwa [List.append_nil] at step

end Running.Visits

namespace Session

/-- A session that is called starts through its first phases. -/
theorem start_visits (discreet : audience.IsDiscreet) (s : Session σ) (initial : Initial σ)
    (w : World σ ω) :
    (s.atCall initial w).Visits s.config.target s.beginning
      (exec (start audience s) (s.atCall initial w)).2 := by
  by_cases defers : s.config.defersConnection
  · have moves : (s.atCall initial w).Moves s.config.target [] _ :=
      start_moves_of_deferred discreet defers (s.atCall initial w)
    rw [beginning, if_pos defers]
    exact ⟨congrArg some moves.1.symm, moves⟩
  · have moves := start_moves discreet defers (s.atCall_free initial w defers)
    rw [beginning, if_neg defers]
    exact ⟨congrArg some moves.1.symm, moves⟩

/-- A start does not end in the last phase. -/
theorem start_unclosed {target : String} {s : Session σ} {r r' : Running σ ω}
    (visits : r.Visits target s.beginning r') : r'.phase ≠ .closed := by
  have last := visits.1
  rw [beginning] at last
  intro closed
  rw [closed] at last
  split at last <;> cases last

/-- A session that has started goes on to its steps, and to the last phase after that unless its
    last closing is interrupted. -/
theorem run_lives_of_started {target : String} (discreet : audience.IsDiscreet) {s : Session σ}
    {r r' started : Running σ ω} {visited : List Phase}
    (began : exec (start audience s) r = (.ok (), started))
    (visits : r'.Visits target visited started) :
    ∃ rest deeds,
      rest <+: [.executing, .closed] ∧
      r'.Visits target (visited ++ rest) (exec (run audience s) r).2 ∧
      (exec (run audience s) r).2.deeds = started.deeds ++ deeds ∧
      ((exec (run audience s) r).2.phase = .closed ↔
        ¬ ClosingInterrupted started.world.closings deeds) := by
  rw [exec_run_of_started began]
  have executes : started.Moves target [(started.phase, .executing)]
      (exec (execute audience s) started).2 := execute_moves discreet s started
  have executing : (exec (execute audience s) started).2.phase = .executing := executes.1
  obtain ⟨deeds, done, spent⟩ : started.Along Situation.Spends _ := execute_along audience s started
  obtain ⟨more, released, closed⟩ := release_closed_iff spent executing
  have all : (exec release (exec (execute audience s) started).2).2.deeds =
      started.deeds ++ (deeds ++ more) := by
    rw [released, done, List.append_assoc]
  have steps := visits.move executes
  have releases : (exec (execute audience s) started).2.Moves target _ _ := release_moves executing
  cases ended : (exec release (exec (execute audience s) started).2).1 with
  | ok _ =>
    rw [ended, ← executing] at releases
    have closes := steps.move releases
    rw [List.append_assoc] at closes
    exact ⟨_, _, List.prefix_rfl, closes, all, closed⟩
  | error f =>
    rw [ended] at releases
    exact ⟨_, _, ⟨[.closed], rfl⟩, steps.stay releases, all, closed⟩

/-- A run goes through a part of the life that it is due, and comes to the end of it unless it is
    interrupted or its audience fails as it starts. -/
theorem run_lives (discreet : audience.IsDiscreet) (fair : audience.NeverRefuses) (s : Session σ)
    (initial : Initial σ) (w : World σ ω) :
    ∃ visited deeds,
      visited <+: s.life w ∧
      (s.atCall initial w).Visits s.config.target visited
        (exec (run audience s) (s.atCall initial w)).2 ∧
      (exec (run audience s) (s.atCall initial w)).2.deeds = deedsOf w.trace ++ deeds ∧
      ((exec (run audience s) (s.atCall initial w)).2.phase = .closed ↔
        ¬ s.OpeningInterrupted w ∧ (audience (s.firstEvent w) w.audience).2.1 = none ∧
          ¬ ClosingInterrupted w.closings deeds) := by
  obtain ⟨started, first, began, starts⟩ := exec_start_atCall audience s initial w
  have visits := start_visits discreet s initial w
  have ends := startFailure_ends fair s w
  rw [began, Act.exec_finish] at visits
  have unclosed := start_unclosed visits
  generalize s.startFailure audience w = failure at began ends
  cases ends with
  | started opened heard =>
    have calm : ¬ s.OpeningInterrupted w := by
      rintro ⟨f, failed, -⟩
      cases opened.symm.trans failed
    obtain ⟨rest, deeds, part, visits, done, closed⟩ := run_lives_of_started discreet began visits
    have closings : started.world.closings = w.closings := starts.closings
    have counted : closedIn (first ++ deeds) = closedIn deeds := by
      rw [closedIn_append, starts.unclosed, List.nil_append]
    refine ⟨_, first ++ deeds, ?_, visits, ?_, ?_⟩
    · rw [life_of_opened opened]
      exact (List.prefix_append_right_inj s.beginning).mpr part
    · rw [done, starts.deeds, List.append_assoc]
    · rw [closed, closings, ClosingInterrupted.congr counted]
      exact ⟨fun closed => ⟨calm, heard, closed⟩, fun all => all.2.2⟩
  | refused failed handled heard =>
    have left : (exec (run audience s) (s.atCall initial w)).2 =
        (exec (Act.enter .closed) started).2 := exec_run_of_failed began
    rw [left]
    refine ⟨_, first, ?_, visits.move (enter_moves .closed started), ?_, iff_of_true rfl ?_⟩
    · exact life_of_failed failed ▸ List.prefix_rfl
    · rw [(enter_reaches .closed started).deeds, List.append_nil, starts.deeds]
    · refine ⟨?_, heard, not_closingInterrupted starts.unclosed⟩
      rintro ⟨f, failed', interrupted⟩
      exact handled (Option.some.inj (failed.symm.trans failed') ▸ interrupted)
  | aborted unreported why =>
    have left : (exec (run audience s) (s.atCall initial w)).2 = started := by
      rw [exec_run_of_failed began, unreported]
    rw [left]
    refine ⟨_, first, s.beginning_prefix_life w, visits, starts.deeds, iff_of_false unclosed ?_⟩
    rintro ⟨calm, heard, -⟩
    exact why.elim calm fun fails => fails heard

/-- A session moves only as its life asks for, and works only as its phases admit. When the call
    ends it has come to its last phase, unless it was interrupted while it opened its first
    connection or closed its last one, or its audience failed at the first event. -/
theorem call_lives (discreet : audience.IsDiscreet) (fair : audience.NeverRefuses) (s : Session σ)
    (initial : Initial σ) (w : World σ ω) :
    ∃ result after new visited,
      exec (call audience s) (s.atCall initial w) = (result, after) ∧
      after.world.trace = w.trace ++ new ∧
      visited <+: s.life w ∧ visited.getLast? = some after.phase ∧
      movesIn new = visited.zip visited.tail ∧
      (∀ p a, (p, a) ∈ phased .idle new → a.isWork → p.Admits s.config.target a) ∧
      (after.phase = .closed ↔
        ¬ s.OpeningInterrupted w ∧ (audience (s.firstEvent w) w.audience).2.1 = none ∧
          ¬ ClosingInterrupted w.closings new) := by
  obtain ⟨visited, deeds, part, visits, done, closed⟩ := run_lives discreet fair s initial w
  obtain ⟨after, called, left⟩ := exec_call audience s (s.atCall initial w)
  have noted : (exec (run audience s) (s.atCall initial w)).2.Adds Action.IsAside after := by
    rcases left with rfl | ⟨why, rfl⟩
    · exact refl_of (Running.Adds Action.IsAside) _
    · refine Act.record_adds ⟨move?_failed why, ?_⟩ _
      simp [Action.isWork, String.toList_append]
      rfl
  have still : after.deeds = (exec (run audience s) (s.atCall initial w)).2.deeds := by
    rcases left with rfl | ⟨why, rfl⟩
    · rfl
    · exact (deedsOf_append ..).trans (List.append_nil _)
  obtain ⟨last, -, new, added, moved, admitted⟩ := visits.stay (aside_moves noted)
  refine ⟨_, after, new, visited, called, added, part, last, moved, admitted, ?_⟩
  have same : closedIn new = closedIn deeds := by
    rw [done, Running.deeds, added, deedsOf_append] at still
    rw [← closedIn_deedsOf, List.append_cancel_left still]
  rw [noted.1, closed, ClosingInterrupted.congr same]

/-- A session that sends a message without any trouble comes to its last phase. -/
theorem call_lives_to_the_end :
    let s : Session Unit := ⟨[.send (.text "hello")], { target := "ws://h" }, []⟩
    let w : World Unit Unit := { host := (), audience := () }
    ∃ result after, exec (call Audience.absent s) (s.atCall .nothing w) = (result, after) ∧
      after.phase = .closed := by
  intro s w
  obtain ⟨result, after, new, visited, called, -, -, -, -, -, closed⟩ :=
    call_lives Audience.absent_isDiscreet Audience.absent_neverRefuses s .nothing w
  refine ⟨result, after, called, closed.mpr ⟨?_, rfl, ?_⟩⟩
  · rintro ⟨f, failed, -⟩
    cases failed
  · rintro ⟨k, f, -, ended, -⟩
    cases ended

/-- A session that is interrupted while it opens its connection, or while it closes it, does not
    come to its last phase. -/
theorem call_interrupted_early :
    let s : Session Unit := ⟨[.send (.text "a"), .send (.text "b")], { target := "ws://h:1" }, []⟩
    let w : World Unit Unit := { host := (), audience := () }
    let cancelled : List Ending := [some (.raise "CancelledError" "")]
    (exec (call Audience.absent s) (s.atCall .nothing { w with openings := cancelled })).2.phase =
        .connecting ∧
      (exec (call Audience.absent s) (s.atCall .nothing { w with closings := cancelled })).2.phase =
        .executing :=
  ⟨rfl, rfl⟩

end Session

end SessionScript
