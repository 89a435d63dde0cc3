import SessionScript.Proofs.Session.Tracks

/-!
# Cleaning up

Whatever its audience does, a session minds its connections from the first step on: what it held or
opened is closed, or is what it holds now, and at the end that is closed too. The only gap is before
the first step. A connection that the session holds when it tells that it has started is closed
exactly if the audience takes that event.
-/

namespace SessionScript

variable {σ ω α : Type} {audience : Audience ω}

/-- A connection that was held in a situation, or that was opened from there on. -/
def Situation.Owns (here there : Situation σ) (c : Connection) : Prop :=
  here.context.connection = some c ∨ ∃ n, here.opened ≤ n ∧ n < there.opened ∧ c = .opened n

/-- Deeds lead from one situation to another, and every connection that was held or opened is
    closed by them or held in the end. -/
structure Situation.Minds (here : Situation σ) (deeds : List Action) (there : Situation σ) :
    Prop where
  opened : here.opened ≤ there.opened
  owned : ∀ c, here.Owns there c → c ∈ closedIn deeds ∨ there.context.connection = some c

namespace Situation.Minds

variable {here there next : Situation σ}

/-- Where connections stay as they are, any deeds will do. -/
theorem still (deeds : List Action)
    (connection : there.context.connection = here.context.connection)
    (opened : there.opened = here.opened) : here.Minds deeds there where
  opened := Nat.le_of_eq opened.symm
  owned := by
    rintro c (held | ⟨n, since, before, -⟩)
    · exact .inr (connection.trans held)
    · exact absurd (opened ▸ before) (Nat.not_lt.mpr since)

theorem trans {deeds deeds' : List Action} (first : here.Minds deeds there)
    (second : there.Minds deeds' next) : here.Minds (deeds ++ deeds') next where
  opened := Nat.le_trans first.opened second.opened
  owned := by
    intro c owns
    rw [closedIn_append, List.mem_append]
    have later (owned : there.Owns next c) :
        (c ∈ closedIn deeds ∨ c ∈ closedIn deeds') ∨ next.context.connection = some c :=
      (second.owned c owned).imp_left .inr
    rcases owns with held | ⟨n, since, before, rfl⟩
    · exact (first.owned c (.inl held)).elim (.inl ∘ .inl) fun held => later (.inl held)
    · by_cases early : n < there.opened
      · exact (first.owned _ (.inr ⟨n, since, early, rfl⟩)).elim (.inl ∘ .inl)
          fun held => later (.inl held)
      · exact later (.inr ⟨n, Nat.le_of_not_lt early, before, rfl⟩)

/-- The connection that is opened is held, and the one that it replaces is closed. -/
theorem replaces (address : String) (held : Option Connection)
    (old : here.context.connection = held) :
    here.Minds
      (.opens address :: ((here.opensOnce.oneMore.hold (some (.opened here.opened))).closeAny
        held).deeds)
      ((here.opensOnce.oneMore.hold (some (.opened here.opened))).closeAny held).after where
  opened := by cases held <;> exact Nat.le_succ here.opened
  owned := by
    have newest : ((here.opensOnce.oneMore.hold (some (.opened here.opened))).closeAny
        held).after.context.connection = some (.opened here.opened) := by
      cases held <;> rfl
    have opened : ((here.opensOnce.oneMore.hold (some (.opened here.opened))).closeAny
        held).after.opened = here.opened + 1 := by
      cases held <;> rfl
    rintro c (owned | ⟨n, since, before, rfl⟩)
    · obtain rfl : held = some c := old.symm.trans owned
      exact .inl (by simp [Situation.closeAny, closedIn, Action.closed?])
    · obtain rfl : n = here.opened := by omega
      exact .inr newest

/-- A session that lets go of its connection has closed everything. -/
theorem closes (deeds : List Action) (all : deeds = here.context.connection.toList.map .closes)
    (opened : there.opened = here.opened) : here.Minds deeds there where
  opened := Nat.le_of_eq opened.symm
  owned := by
    rintro c (held | ⟨n, since, before, -⟩)
    · exact .inl (by simp [all, held, closedIn, Action.closed?])
    · exact absurd (opened ▸ before) (Nat.not_lt.mpr since)

end Situation.Minds

instance : Tracks (Situation.Minds (σ := σ)) where
  still _ connection opened _ := .still _ connection opened
  trans := .trans
  replaces := .replaces

/-! ## The end of a session -/

theorem Situation.Releases.opened {here : Situation σ} {t : Turn σ} (releases : here.Releases t) :
    t.after.opened = here.opened := by
  cases releases <;> rfl

namespace Session

/-- After the end of a session nothing is held. -/
theorem release_frees (r : Running σ ω) : (exec release r).2.context.connection = none := by
  obtain ⟨r', ran, reached⟩ := release_plays r
  rw [ran, ← Running.situation_context, reached.situation,
    (Situation.release_releases r.situation).context]

theorem release_minds : Leads (Running.Along Situation.Minds) (release : Act σ ω Unit) :=
  release_plays.along fun here =>
    .closes _ here.release_releases.deeds here.release_releases.opened

/-- What is ensured comes last, however the act before it ends. -/
theorem exec_ensuring (act after : Act σ ω Unit) (r : Running σ ω) :
    (exec (ensuring act after) r).2 = (exec after (exec act r).2).2 := by
  rw [ensuring, exec_bind, exec_tryCatch, exec_bind]
  rcases exec act r with ⟨f | _, there⟩ <;>
    simp only [exec_pure, exec_bind] <;>
    rcases exec after there with ⟨g | _, there'⟩ <;> rfl

/-- The failure with which something ends, if it does. -/
def failureOf : Except Failure Unit → Option Failure
  | .ok _ => none
  | .error f => some f

/-- Reporting a failure as a result changes nothing but that. -/
theorem exec_resultOf (isResult : ReportKind → Bool) (act : Act σ ω Unit) (r : Running σ ω) :
    exec (resultOf isResult act) r =
      (resultIf isResult (failureOf (exec act r).1), (exec act r).2) := by
  rw [resultOf, exec_tryCatch, exec_bind]
  rcases exec act r with ⟨f | _, there⟩
  · simp only [failureOf, resultIf]
    cases reported? isResult f <;> rfl
  · rfl

/-! ## The start of a session -/

/-- Letting go of nothing changes nothing. -/
theorem exec_letGo_of_free {announce : Connection → Act σ ω Unit} {r : Running σ ω}
    (free : r.context.connection = none) : exec (letGo announce) r = (.ok (), r) := by
  have same : { r with context := { r.context with connection := none } } = r := by
    rw [← free]
  rw [letGo, exec_bind, exec_get]
  simp only [free]
  exact congrArg (Prod.mk (Except.ok ())) same

/-- A session that holds nothing and does not defer connecting opens its connection next. -/
theorem exec_start_connects (audience : Audience ω) {s : Session σ}
    (defers : ¬ s.config.defersConnection) {r : Running σ ω} (free : r.context.connection = none) :
    exec (start audience s) r =
      exec (do
        let c ← connectTo audience s.config.target
        Act.modifyContext fun x => { x with connection := some c }
        Act.emit audience .started) (exec (Act.enter .connecting) r).2 := by
  have free' : (exec (Act.enter .connecting) r).2.context.connection = none := free
  rw [start, if_neg defers, exec_bind]
  change exec _ (exec (Act.enter .connecting) r).2 = _
  rw [exec_bind, exec_letGo_of_free free']

/-- Entering a phase is neither a deed nor an event. -/
theorem enter_reaches (phase : Phase) (r : Running σ ω) :
    r.Reaches [] [] (r.situation.enter phase) (exec (Act.enter phase) r).2 :=
  ⟨deedsOf_append .., eventsOf_append .., rfl⟩

/-- Once its connection is open a session tells that it has started while it holds it. -/
theorem exec_start_opened (audience : Audience ω) {s : Session σ}
    (defers : ¬ s.config.defersConnection) {r : Running σ ω} (free : r.context.connection = none)
    (opened : r.world.openings.head?.join = none) :
    ∃ r', exec (start audience s) r =
        exec (Act.finish (audience .started r.world.audience).2.1) r' ∧
      r.Reaches [.opens s.config.target] [.started]
        ((r.situation.enter .connecting).opensOnce.oneMore.hold (some (.opened r.world.opened)))
        r' := by
  have opened' : (exec (Act.enter .connecting) r).2.world.openings.head?.join = none := opened
  obtain ⟨connected, ran, listening, reached⟩ :=
    Act.exec_connectTo_opened audience s.config.target opened'
  let held : Running σ ω :=
    { connected with
      context := { connected.context with connection := some (.opened r.world.opened) } }
  have holds : connected.Reaches [] []
      (connected.situation.hold (some (.opened r.world.opened))) held :=
    ⟨(List.append_nil _).symm, (List.append_nil _).symm, rfl⟩
  obtain ⟨r', told, reached'⟩ := Act.exec_emit audience .started held
  refine ⟨r', ?_, ?_⟩
  · have same : held.world.audience = r.world.audience := listening
    rw [exec_start_connects audience defers free, exec_bind, ran, ← same]
    exact told
  · rw [holds.situation, reached.situation] at reached'
    exact ((enter_reaches .connecting r).trans reached).trans (holds.trans reached')

/-- A session whose connection can not be opened fails before it holds anything. -/
theorem exec_start_failed (audience : Audience ω) {s : Session σ}
    (defers : ¬ s.config.defersConnection) {r : Running σ ω} (free : r.context.connection = none)
    {f : Failure} (refused : r.world.openings.head?.join = some f) :
    ∃ r' events, exec (start audience s) r =
        (.error (audience.unconnected r.world.audience s.config.target f), r') ∧
      r.Reaches [.opens s.config.target] events (r.situation.enter .connecting).opensOnce r' := by
  have refused' : (exec (Act.enter .connecting) r).2.world.openings.head?.join = some f := refused
  obtain ⟨r', events, ran, reached⟩ :=
    Act.exec_connectTo_failed audience s.config.target refused'
  refine ⟨r', events, ?_, (enter_reaches .connecting r).trans reached⟩
  rw [exec_start_connects audience defers free, exec_bind, ran]
  rfl

/-- The failure of the first connection of a session, if it opens one and that fails. -/
def openingFailure (s : Session σ) (w : World σ ω) : Option Failure :=
  if s.config.defersConnection then none else w.openings.head?.join

/-- The failure with which the start of a session ends, if it does. Where nothing else fails it is
    the audience that may. -/
def startFailure (audience : Audience ω) (s : Session σ) (w : World σ ω) : Option Failure :=
  match s.openingFailure w with
  | none => (audience .started w.audience).2.1
  | some f => some (audience.unconnected w.audience s.config.target f)

/-- The connection that a session holds when it tells that it has started. -/
def heldAtStart (s : Session σ) (initial : Initial σ) (w : World σ ω) : Option Connection :=
  if s.config.defersConnection then initial.connection?
  else if w.openings.head?.join = none then some (.opened w.opened)
  else none

/-- What a session that is called has done when it has started, well or not: nothing is closed, and
    what it then holds is the only connection that it owns. -/
structure Starts (s : Session σ) (initial : Initial σ) (w : World σ ω) (first : List Action)
    (r' : Running σ ω) : Prop where
  deeds : r'.deeds = deedsOf w.trace ++ first
  unclosed : closedIn first = []
  closings : r'.situation.closings = w.closings
  holds : r'.context.connection = s.heldAtStart initial w
  minds : (s.atCall initial w).situation.Minds first r'.situation
  owns : ∀ c, s.heldAtStart initial w = some c →
    (s.atCall initial w).situation.Owns r'.situation c

/-- How a session that is called starts. -/
theorem exec_start_atCall (audience : Audience ω) (s : Session σ) (initial : Initial σ)
    (w : World σ ω) :
    ∃ r' first, exec (start audience s) (s.atCall initial w) =
        exec (Act.finish (s.startFailure audience w)) r' ∧
      s.Starts initial w first r' := by
  have held := s.createContext_connection initial
  by_cases defers : s.config.defersConnection
  · rw [if_pos defers] at held
    have holds : s.heldAtStart initial w = initial.connection? := if_pos defers
    obtain ⟨r', told, reached⟩ := Act.exec_emit audience .started (s.atCall initial w)
    have same : r'.context.connection = initial.connection? :=
      (congrArg (fun x => x.context.connection) reached.situation).trans held
    refine ⟨r', [], ?_, reached.deeds, rfl, congrArg Situation.closings reached.situation,
      same.trans holds.symm, ?_, fun c known => .inl (held.trans (holds.symm.trans known))⟩
    · rw [start, startFailure, openingFailure, if_pos defers, if_pos defers]
      exact told
    · exact .still [] (same.trans held.symm) (congrArg Situation.opened reached.situation)
  · rw [if_neg defers] at held
    have opening : s.openingFailure w = w.openings.head?.join := if_neg defers
    cases ended : w.openings.head?.join with
    | none =>
      have holds : s.heldAtStart initial w = some (.opened w.opened) :=
        (if_neg defers).trans (if_pos ended)
      obtain ⟨r', ran, reached⟩ :=
        exec_start_opened audience (r := s.atCall initial w) defers held ended
      refine ⟨r', [.opens s.config.target], ?_, reached.deeds, rfl,
        congrArg Situation.closings reached.situation, ?_, ?_, ?_⟩
      · rw [startFailure, opening, ended]
        exact ran
      · rw [holds, ← Running.situation_context, reached.situation]
        rfl
      · have entered : (s.atCall initial w).situation.Minds []
            ((s.atCall initial w).situation.enter .connecting) := .still [] rfl rfl
        rw [reached.situation]
        exact entered.trans (.replaces s.config.target none held)
      · intro c known
        obtain rfl : Connection.opened w.opened = c := Option.some.inj (holds.symm.trans known)
        refine .inr ⟨w.opened, Nat.le_refl _, ?_, rfl⟩
        rw [reached.situation]
        exact Nat.lt_succ_self w.opened
    | some f =>
      have holds : s.heldAtStart initial w = none := by
        have refused : ¬ w.openings.head?.join = none := fun well => nomatch ended.symm.trans well
        exact (if_neg defers).trans (if_neg refused)
      obtain ⟨r', events, ran, reached⟩ :=
        exec_start_failed audience (r := s.atCall initial w) defers held ended
      have same : r'.context.connection = none :=
        (congrArg (fun x => x.context.connection) reached.situation).trans held
      have count : r'.situation.opened = (s.atCall initial w).situation.opened :=
        (congrArg Situation.opened reached.situation).trans rfl
      refine ⟨r', [.opens s.config.target], ?_, reached.deeds, rfl,
        congrArg Situation.closings reached.situation, same.trans holds.symm,
        .still _ (same.trans held.symm) count, ?_⟩
      · rw [startFailure, opening, ended]
        exact ran
      · exact fun c known => nomatch holds.symm.trans known

/-- If a session holds a connection when it tells that it has started, only its audience can make
    its start fail. -/
theorem startFailure_of_held (audience : Audience ω) {s : Session σ} {initial : Initial σ}
    {w : World σ ω} {c : Connection} (held : s.heldAtStart initial w = some c) :
    s.startFailure audience w = (audience .started w.audience).2.1 := by
  have well : s.openingFailure w = none := by
    rw [openingFailure]
    rw [heldAtStart] at held
    split at held
    · exact if_pos ‹_›
    · split at held
      · exact (if_neg ‹_›).trans ‹_›
      · cases held
  rw [startFailure, well]

/-! ## Whole runs -/

/-- The note of how a session failed is all that a call adds to a run. -/
theorem exec_call (audience : Audience ω) (s : Session σ) (r : Running σ ω) :
    ∃ r', exec (call audience s) r = ((exec (run audience s) r).1, r') ∧
      (r' = (exec (run audience s) r).2 ∨ ∃ why, r' = (exec
        (Act.note .debug .runs ("session failed: " ++ why)) (exec (run audience s) r).2).2) := by
  rcases ran : exec (run audience s) r with ⟨f | outcome, left⟩
  · exact ⟨left, by rw [call, exec_bind, ran], .inl rfl⟩
  · cases failed : outcome.failure with
    | none => exact ⟨left, by rw [call, exec_bind, ran]; simp [failed], .inl rfl⟩
    | some report =>
      refine ⟨_, ?_, .inr ⟨report.message, rfl⟩⟩
      rw [call, exec_bind, ran]
      simp only [failed]
      rfl

/-- What a run leaves is what its end leaves after its steps. -/
theorem exec_run_of_started {s : Session σ} {r r' : Running σ ω}
    (started : exec (start audience s) r = (.ok (), r')) :
    (exec (run audience s) r).2 =
      (exec (release : Act σ ω Unit) (exec (execute audience s) r').2).2 := by
  rw [← exec_ensuring, run, exec_bind, exec_resultOf, started]
  simp only [failureOf, resultIf_none, exec_bind, exec_resultOf]
  rcases exec (ensuring (execute audience s) release) r' with ⟨f | _, there⟩
  · simp only [resultIf]
    cases reported? ReportKind.endsSession f <;> rfl
  · rfl

/-- After a start that fails nothing is left to do but to enter the last phase, and that only if
    the failure is the result of the run. -/
theorem exec_run_of_failed {s : Session σ} {r r' : Running σ ω} {g : Failure}
    (failed : exec (start audience s) r = (.error g, r')) :
    (exec (run audience s) r).2 =
      match reported? (· == .connect) g with
      | some _ => (exec (Act.enter .closed) r').2
      | none => r' := by
  rw [run, exec_bind, exec_resultOf, failed]
  simp only [failureOf, resultIf]
  cases reported? (· == .connect) g <;> rfl

/-- Nothing is done after a start that fails: not even what is held is closed. -/
theorem run_of_start_failed {s : Session σ} {r r' : Running σ ω} {g : Failure}
    (failed : exec (start audience s) r = (.error g, r')) :
    r'.Reaches [] [] (exec (run audience s) r).2.situation (exec (run audience s) r).2 ∧
      (exec (run audience s) r).2.world.opened = r'.world.opened := by
  rw [exec_run_of_failed failed]
  cases reported? (· == .connect) g with
  | none => exact ⟨.refl r', rfl⟩
  | some report => exact ⟨enter_reaches .closed r', rfl⟩

/-- A session that has started minds its connections and holds none in the end. -/
theorem run_of_started {s : Session σ} {r r' : Running σ ω}
    (started : exec (start audience s) r = (.ok (), r')) :
    r'.Along Situation.Minds (exec (run audience s) r).2 ∧
      (exec (run audience s) r).2.context.connection = none := by
  rw [exec_run_of_started started]
  refine ⟨trans_of (Running.Along Situation.Minds) ?_ (release_minds _), release_frees _⟩
  exact execute_along audience s r'

/-- Whatever its audience does, a session closes every connection that it holds or opens, unless
    the audience fails when the session tells that it has started and holds a connection. Then
    that connection stays open. -/
theorem call_closes_iff (audience : Audience ω) (s : Session σ) (initial : Initial σ)
    (w : World σ ω) :
    ∃ result after deeds,
      exec (call audience s) (s.atCall initial w) = (result, after) ∧
      after.deeds = deedsOf w.trace ++ deeds ∧
      ((∀ c, (s.atCall initial w).situation.Owns after.situation c → c ∈ closedIn deeds) ↔
        (s.heldAtStart initial w = none ∨ (audience .started w.audience).2.1 = none)) := by
  obtain ⟨r', first, began, starts⟩ := exec_start_atCall audience s initial w
  obtain ⟨after, called, left⟩ := exec_call audience s (s.atCall initial w)
  have noted : (exec (run audience s) (s.atCall initial w)).2.Reaches [] []
      (exec (run audience s) (s.atCall initial w)).2.situation after := by
    rcases left with rfl | ⟨why, rfl⟩
    · exact .refl _
    · exact ⟨deedsOf_append .., eventsOf_append .., rfl⟩
  cases ending : s.startFailure audience w with
  | none =>
    rw [ending] at began
    obtain ⟨⟨deeds, done, minds⟩, free⟩ := run_of_started began
    refine ⟨_, after, first ++ deeds, called, ?_, iff_of_true ?_ ?_⟩
    · rw [noted.deeds, done, starts.deeds, List.append_nil, List.append_assoc]
    · intro c owns
      rw [noted.situation] at owns
      refine ((starts.minds.trans minds).owned c owns).resolve_right ?_
      rw [Running.situation_context, free]
      exact nofun
    · cases held : s.heldAtStart initial w with
      | none => exact .inl rfl
      | some c => exact .inr ((startFailure_of_held audience held).symm.trans ending)
  | some g =>
    rw [ending] at began
    obtain ⟨stopped, opened⟩ := run_of_start_failed began
    have owner : (s.atCall initial w).situation.Owns after.situation =
        (s.atCall initial w).situation.Owns r'.situation := by
      funext c
      simp only [Situation.Owns, noted.situation, Running.situation_opened, opened]
    refine ⟨_, after, first, called, ?_, ?_⟩
    · rw [noted.deeds, stopped.deeds, starts.deeds, List.append_nil, List.append_nil]
    · rw [owner]
      cases held : s.heldAtStart initial w with
      | none =>
        refine iff_of_true (fun c owns => ?_) (.inl rfl)
        exact (starts.minds.owned c owns).resolve_right (by simp [starts.holds, held])
      | some c =>
        have fails := (startFailure_of_held audience held).symm.trans ending
        refine iff_of_false (fun all => ?_) ?_
        · exact absurd (all c (starts.owns c held)) (starts.unclosed ▸ List.not_mem_nil)
        · rintro (free | heard)
          · cases free
          · exact nomatch fails.symm.trans heard

end Session

/-- An audience that leaves as soon as a session has started. -/
def Audience.leaving : Audience Unit
  | .started, _ => ([], some (.raise "CancelledError" ""), ())
  | _, _ => ([], none, ())

/-- A connection that was opened stays open if the audience leaves at once. -/
theorem Session.call_leaves_open :
    let s : Session Unit := ⟨[], { target := "ws://h" }, []⟩
    let w : World Unit Unit := { host := (), audience := () }
    let (result, after) := exec (call Audience.leaving s) (s.atCall .nothing w)
    (∃ f, result = .error f ∧ f.isInterruption) ∧
      (s.atCall .nothing w).situation.Owns after.situation (.opened 0) ∧
      .opened 0 ∉ closedIn after.deeds :=
  ⟨⟨_, rfl, rfl⟩, .inr ⟨0, Nat.le_refl 0, Nat.zero_lt_one, rfl⟩, by decide⟩

end SessionScript
