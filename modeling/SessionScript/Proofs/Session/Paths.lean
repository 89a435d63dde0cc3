import SessionScript.Proofs.Session.Turn
import SessionScript.Proofs.Template.Failing

/-!
# The paths of a step

Everything that a step can do, path by path: how it goes well, and where each kind of step can
fail or be interrupted. What is proved about sessions goes through these cases.
-/

namespace SessionScript

variable {σ : Type}

/-- The turns that a step can take in a situation. -/
inductive Step.Takes (config : Config) (here : Situation σ) : Step → Turn σ → Prop where
  | slept {seconds : Binary64} (ended : here.sleepings.head?.join = none) :
    Takes config here (.think seconds)
      { deeds := [.sleeps seconds], after := here.sleepsOnce }
  | disturbed {seconds : Binary64} {f : Failure} (ended : here.sleepings.head?.join = some f) :
    Takes config here (.think seconds)
      { deeds := [.sleeps seconds], failure := some f, after := here.sleepsOnce }
  | unresolved {url : String} {f : Failure} {there : Situation σ}
    (resolved : here.resolve (.text url) = (.error f, there)) :
    Takes config here (.connect url) { failure := some f, after := there }
  | refused {url : String} {v : Value} {f : Failure} {there : Situation σ}
    (resolved : here.resolve (.text url) = (.ok v, there))
    (ended : there.openings.head?.join = some f) (handled : ¬ f.isInterruption) :
    Takes config here (.connect url)
      { deeds := [.opens (config.address (resolvedText v))]
        events := [.refused f.shortCode]
        failure := some (.report (refusal (config.address (resolvedText v)) f))
        after := there.opensOnce }
  | openingInterrupted {url : String} {v : Value} {f : Failure} {there : Situation σ}
    (resolved : here.resolve (.text url) = (.ok v, there))
    (ended : there.openings.head?.join = some f) (interrupted : f.isInterruption) :
    Takes config here (.connect url)
      { deeds := [.opens (config.address (resolvedText v))]
        failure := some f
        after := there.opensOnce }
  | connected {url : String} {v : Value} {there : Situation σ}
    (resolved : here.resolve (.text url) = (.ok v, there))
    (ended : there.openings.head?.join = none) (free : here.context.connection = none) :
    Takes config here (.connect url)
      { deeds := [.opens (config.address (resolvedText v))]
        after := there.opensOnce.oneMore.hold (some (.opened there.opened)) }
  | replaced {url : String} {v : Value} {there : Situation σ} {old : Connection}
    (resolved : here.resolve (.text url) = (.ok v, there))
    (ended : there.openings.head?.join = none) (held : here.context.connection = some old) :
    Takes config here (.connect url)
      { deeds := [.opens (config.address (resolvedText v)), .closes old]
        failure := there.closings.head?.join.filter Failure.isInterruption
        after := (there.opensOnce.oneMore.hold (some (.opened there.opened))).closesOnce }
  | missing {payload : Payload} (free : here.context.connection = none) :
    Takes config here (.send payload) { failure := some (.report unconnected), after := here }
  | unencoded {payload : Payload} {c : Connection} {f : Failure} {there : Situation σ}
    (held : here.context.connection = some c) (encoded : here.encode payload = (.error f, there)) :
    Takes config here (.send payload) { failure := some f, after := there }
  | sent {payload : Payload} {c : Connection} {m : Message} {there : Situation σ}
    (held : here.context.connection = some c) (encoded : here.encode payload = (.ok m, there))
    (ended : there.sendings.head?.join = none) :
    Takes config here (.send payload)
      { deeds := [.sends c m]
        events := [.request, .response there.tick 0]
        after := there.sendsOnce.countSent }
  | unsent {payload : Payload} {c : Connection} {m : Message} {f : Failure} {there : Situation σ}
    (held : here.context.connection = some c) (encoded : here.encode payload = (.ok m, there))
    (ended : there.sendings.head?.join = some f) (handled : ¬ f.isInterruption) :
    Takes config here (.send payload)
      { deeds := [.sends c m]
        events := [.request, .failed f]
        failure := some (.report (SessionScript.unsent f))
        after := there.sendsOnce }
  | sendingInterrupted {payload : Payload} {c : Connection} {m : Message} {f : Failure}
    {there : Situation σ} (held : here.context.connection = some c)
    (encoded : here.encode payload = (.ok m, there))
    (ended : there.sendings.head?.join = some f) (interrupted : f.isInterruption) :
    Takes config here (.send payload)
      { deeds := [.sends c m]
        events := [.request]
        failure := some f
        after := there.sendsOnce }

namespace Situation

variable {here there : Situation σ}

/-- Templates change the variables and what functions work on, and nothing else. -/
structure SameBut (here there : Situation σ) : Prop where
  connection : there.context.connection = here.context.connection
  funcs : there.context.funcs = here.context.funcs
  pending : there.context.pending = here.context.pending
  successes : there.context.successes = here.context.successes
  openings : there.openings = here.openings
  sendings : there.sendings = here.sendings
  closings : there.closings = here.closings
  sleepings : there.sleepings = here.sleepings
  opened : there.opened = here.opened

theorem resolve_sameBut {v : Value} {answer : Except Failure Value}
    (resolved : here.resolve v = (answer, there)) : here.SameBut there := by
  have left : (here.resolve v).2 = there := congrArg Prod.snd resolved
  subst left
  exact ⟨rfl, rfl, rfl, rfl, rfl, rfl, rfl, rfl, rfl⟩

theorem encode_sameBut {payload : Payload} {answer : Except Failure Message}
    (encoded : here.encode payload = (answer, there)) : here.SameBut there := by
  have left : (here.encode payload).2 = there := congrArg Prod.snd encoded
  subst left
  cases payload <;> exact ⟨rfl, rfl, rfl, rfl, rfl, rfl, rfl, rfl, rfl⟩

end Situation

/-- The ending that comes next is one of the script. -/
theorem mem_of_head?_join {script : List Ending} {f : Failure}
    (ended : script.head?.join = some f) : some f ∈ script := by
  cases script with
  | nil => cases ended
  | cons e es =>
    obtain rfl : e = some f := by simpa using ended
    exact List.mem_cons_self

/-- Functions stay as they are, and of every script some first entries are used up. -/
structure Situation.Within (here there : Situation σ) : Prop where
  funcs : there.context.funcs = here.context.funcs
  openings : there.openings <:+ here.openings
  sendings : there.sendings <:+ here.sendings
  closings : there.closings <:+ here.closings
  sleepings : there.sleepings <:+ here.sleepings

namespace Situation.Within

variable {here there next : Situation σ}

theorem refl (here : Situation σ) : here.Within here :=
  ⟨rfl, List.suffix_rfl, List.suffix_rfl, List.suffix_rfl, List.suffix_rfl⟩

theorem trans (first : here.Within there) (second : there.Within next) : here.Within next where
  funcs := second.funcs.trans first.funcs
  openings := second.openings.trans first.openings
  sendings := second.sendings.trans first.sendings
  closings := second.closings.trans first.closings
  sleepings := second.sleepings.trans first.sleepings

theorem of_sameBut (same : here.SameBut there) : here.Within there where
  funcs := same.funcs
  openings := same.openings ▸ List.suffix_rfl
  sendings := same.sendings ▸ List.suffix_rfl
  closings := same.closings ▸ List.suffix_rfl
  sleepings := same.sleepings ▸ List.suffix_rfl

end Situation.Within

/-- A step uses up entries of scripts and changes no function. -/
theorem Step.Takes.within {config : Config} {here : Situation σ} {step : Step} {t : Turn σ}
    (takes : step.Takes config here t) : here.Within t.after := by
  have drop (xs : List Ending) : xs.drop 1 <:+ xs := List.drop_suffix 1 xs
  have rest {xs : List Ending} : xs <:+ xs := List.suffix_rfl
  cases takes with
  | slept _ | disturbed _ => exact ⟨rfl, rest, rest, rest, drop _⟩
  | missing _ => exact .refl here
  | unresolved resolved => exact .of_sameBut (Situation.resolve_sameBut resolved)
  | unencoded _ encoded => exact .of_sameBut (Situation.encode_sameBut encoded)
  | refused resolved _ _ | openingInterrupted resolved _ _ | connected resolved _ _ =>
    exact (Situation.Within.of_sameBut (Situation.resolve_sameBut resolved)).trans
      ⟨rfl, drop _, rest, rest, rest⟩
  | replaced resolved _ _ =>
    exact (Situation.Within.of_sameBut (Situation.resolve_sameBut resolved)).trans
      ⟨rfl, drop _, rest, drop _, rest⟩
  | sent _ encoded _ | unsent _ encoded _ _ | sendingInterrupted _ encoded _ _ =>
    exact (Situation.Within.of_sameBut (Situation.encode_sameBut encoded)).trans
      ⟨rfl, rest, drop _, rest, rest⟩

/-! ## What templates raise in a session -/

section Raise

open Template

variable {P : Failure → Prop} {here : Situation σ} (own : ∀ f, OwnFailure f → P f)
  (raise : here.context.funcs.RaiseOnly P)
include own raise

theorem Situation.resolve_error {v : Value} {f : Failure} {there : Situation σ}
    (failed : here.resolve v = (.error f, there)) : P f := by
  rcases ran : exec (Template.resolve here.context.funcs callLimit v) here.memory with ⟨answer, m⟩
  have same : answer = .error f := by simpa [resolve, ran] using congrArg Prod.fst failed
  subst same
  exact resolve_failsOnly own raise callLimit v here.memory f m ran

theorem Situation.encode_error {payload : Payload} {f : Failure} {there : Situation σ}
    (failed : here.encode payload = (.error f, there)) : P f := by
  cases payload with
  | bytes b => cases failed
  | text template =>
    rcases resolved : here.resolve (.text template) with ⟨f' | v, next⟩
    · simp only [encode, resolved, Except.map, Prod.mk.injEq, Except.error.injEq] at failed
      exact failed.1 ▸ resolve_error own raise resolved
    · simp [encode, resolved, Except.map] at failed
  | json body =>
    rcases resolved : here.resolve body with ⟨f' | v, next⟩
    · simp only [encode, resolved, Except.bind, Prod.mk.injEq, Except.error.injEq] at failed
      exact failed.1 ▸ resolve_error own raise resolved
    · simp only [encode, resolved, Except.bind, jsonMessage, Prod.mk.injEq] at failed
      split at failed
      · cases failed.1
      · cases failed.1
        exact own _ (.noText _)

end Raise

/-! ## The paths exhaust the turns -/

/-- The turn of a step is one that it can take. -/
theorem Step.turn_takes (config : Config) (here : Situation σ) (step : Step) :
    step.Takes config here (step.turn config here) := by
  cases step with
  | think seconds =>
    cases ended : here.sleepings.head?.join with
    | none => simpa [Step.turn, ended] using Takes.slept ended
    | some f => simpa [Step.turn, ended] using Takes.disturbed ended
  | connect url =>
    rcases resolved : here.resolve (.text url) with ⟨f | v, there⟩
    · simpa [Step.turn, Turn.given, resolved] using Takes.unresolved resolved
    · have same := Situation.resolve_sameBut resolved
      cases ended : there.openings.head?.join with
      | some f =>
        by_cases interrupted : f.isInterruption
        · simpa [Step.turn, Turn.given, Turn.andThen, Situation.connectTo, resolved, ended,
            interrupted] using Takes.openingInterrupted resolved ended interrupted
        · simpa [Step.turn, Turn.given, Turn.andThen, Situation.connectTo, resolved, ended,
            interrupted] using Takes.refused resolved ended interrupted
      | none =>
        cases held : here.context.connection with
        | none =>
          have free : there.context.connection = none := same.connection.trans held
          simpa [Step.turn, Turn.given, Turn.andThen, Situation.connectTo, Situation.closeAny,
            resolved, ended, free] using Takes.connected resolved ended held
        | some old =>
          have held' : there.context.connection = some old := same.connection.trans held
          simp only [Step.turn, Turn.given, Turn.andThen, Situation.connectTo,
            Situation.closeAny, resolved, ended, held']
          exact Takes.replaced resolved ended held
  | send payload =>
    cases held : here.context.connection with
    | none => simpa [Step.turn, held] using Takes.missing held
    | some c =>
      rcases encoded : here.encode payload with ⟨f | m, there⟩
      · simpa [Step.turn, Turn.given, held, encoded] using Takes.unencoded held encoded
      · cases ended : there.sendings.head?.join with
        | none =>
          simpa [Step.turn, Turn.given, Situation.write, held, encoded, ended] using
            Takes.sent held encoded ended
        | some f =>
          by_cases interrupted : f.isInterruption
          · simpa [Step.turn, Turn.given, Situation.write, held, encoded, ended, interrupted]
              using Takes.sendingInterrupted held encoded ended interrupted
          · simpa [Step.turn, Turn.given, Situation.write, held, encoded, ended, interrupted]
              using Takes.unsent held encoded ended interrupted

namespace Situation

/-- The turns that the end of a session can take. -/
inductive Releases (here : Situation σ) : Turn σ → Prop where
  | nothing (free : here.context.connection = none) :
    Releases here { after := here.enter .closed }
  | closed {c : Connection} (held : here.context.connection = some c)
    (handled : ∀ f, here.closings.head?.join = some f → ¬ f.isInterruption) :
    Releases here { deeds := [.closes c], after := (here.hold none).closesOnce.enter .closed }
  | interrupted {c : Connection} {f : Failure} (held : here.context.connection = some c)
    (ended : here.closings.head?.join = some f) (interrupted : f.isInterruption) :
    Releases here
      { deeds := [.closes c], failure := some f, after := (here.hold none).closesOnce }

/-- Letting go of nothing changes nothing. -/
theorem letGo_of_free {here : Situation σ} (free : here.context.connection = none) :
    here.letGo = { after := here } := by
  rw [letGo, free, closeAny, hold, ← free]

/-- The end of a session is one that it can take. -/
theorem release_releases (here : Situation σ) : here.Releases here.release := by
  cases held : here.context.connection with
  | none => simpa [release, letGo_of_free held, Turn.andThen] using Releases.nothing held
  | some c =>
    cases ended : here.closings.head?.join with
    | none =>
      have ended' : (here.hold none).closings.head?.join = none := ended
      simpa [release, letGo, closeAny, Turn.andThen, held, ended'] using
        Releases.closed held (by simp [ended])
    | some f =>
      have ended' : (here.hold none).closings.head?.join = some f := ended
      by_cases interrupted : f.isInterruption
      · simpa [release, letGo, closeAny, Turn.andThen, Option.filter, held, ended', interrupted]
          using Releases.interrupted held ended interrupted
      · simpa [release, letGo, closeAny, Turn.andThen, Option.filter, held, ended', interrupted]
          using Releases.closed held (by simpa [ended] using interrupted)

/-- The end of a session closes what is held and holds nothing. -/
theorem Releases.deeds {here : Situation σ} {t : Turn σ} (releases : here.Releases t) :
    t.deeds = here.context.connection.toList.map .closes := by
  cases releases with
  | nothing free => rw [free]; rfl
  | closed held _ | interrupted held _ _ => rw [held]; rfl

theorem Releases.context {here : Situation σ} {t : Turn σ} (releases : here.Releases t) :
    t.after.context = { here.context with connection := none } := by
  cases releases with
  | nothing free => rw [Situation.enter_context, ← free]
  | closed _ _ | interrupted _ _ _ => rfl

/-- Nothing is told at the end of a session. -/
theorem Releases.events {here : Situation σ} {t : Turn σ} (releases : here.Releases t) :
    t.events = [] := by
  cases releases <;> rfl

end Situation

/-- The connection that a caller brings. -/
def Initial.connection? : Initial σ → Option Connection
  | .bindings _ _ c => c
  | _ => none

namespace Session

variable {ω : Type} {s : Session σ} {here : Situation σ}

/-- The state in which a session is called. -/
def atCall (s : Session σ) (initial : Initial σ) (w : World σ ω) : Running σ ω :=
  { context := s.createContext initial, world := w }

/-- The context of a run holds the connection of the caller if connecting is deferred, and none
    otherwise. -/
theorem createContext_connection (s : Session σ) (initial : Initial σ) :
    (s.createContext initial).connection =
      if s.config.defersConnection then initial.connection? else none := by
  cases initial <;> simp [createContext, Initial.connection?]

/-- Without deferral a session is called with no connection. -/
theorem atCall_free (s : Session σ) (initial : Initial σ) (w : World σ ω)
    (defers : ¬ s.config.defersConnection) :
    (s.atCall initial w).situation.context.connection = none := by
  rw [Running.situation_context, atCall, createContext_connection, if_neg defers]

/-- How a session that holds nothing begins well: its deeds, and the situation of its steps. -/
inductive Begins (s : Session σ) (here : Situation σ) : List Action → Situation σ → Prop where
  | deferred (defers : s.config.defersConnection) : Begins s here [] here
  | opened (defers : ¬ s.config.defersConnection) (ended : here.openings.head?.join = none) :
    Begins s here [.opens s.config.target]
      (((here.enter .connecting).opensOnce.oneMore).hold (some (.opened here.opened)))

/-- The courses that a session can take that holds nothing unless connecting is deferred. -/
inductive Takes (s : Session σ) (here : Situation σ) : Course σ → Prop where
  | refused {f : Failure} (defers : ¬ s.config.defersConnection)
    (ended : here.openings.head?.join = some f) (handled : ¬ f.isInterruption) :
    Takes s here
      { deeds := [.opens s.config.target]
        events := [.refused f.shortCode]
        result := .ok ⟨some (refusal s.config.target f), {}⟩
        after := (here.enter .connecting).opensOnce.enter .closed }
  | interrupted {f : Failure} (defers : ¬ s.config.defersConnection)
    (ended : here.openings.head?.join = some f) (interrupted : f.isInterruption) :
    Takes s here
      { deeds := [.opens s.config.target]
        events := []
        result := .error f
        after := (here.enter .connecting).opensOnce }
  | ran {first : List Action} {start : Situation σ} (begins : s.Begins here first start)
    {t u : Turn σ} (stepped : turnFrom s.config 0 s.steps (start.enter .executing) = t)
    (releases : t.after.Releases u) :
    Takes s here
      { deeds := first ++ (t.deeds ++ u.deeds)
        events := .started :: t.events
        result :=
          (resultIf ReportKind.endsSession (u.failure <|> t.failure)).map
            fun r => ⟨r, u.after.context⟩
        after := u.after }

/-! The ways in which a session starts. -/

theorem opening_deferred (defers : s.config.defersConnection) :
    s.opening here = { events := [.started], after := here } := by
  simp [opening, defers]

section Opening

variable (defers : ¬ s.config.defersConnection) (free : here.context.connection = none)
include defers free

/-- A session that holds nothing lets go of nothing before it connects. -/
theorem opening_connects :
    s.opening here = ((here.enter .connecting).connectTo s.config.target).andThen fun x =>
      { events := [.started], after := x } := by
  have idle : (here.enter .connecting).letGo = { after := here.enter .connecting } :=
    Situation.letGo_of_free free
  simp [opening, defers, idle, Turn.andThen]

theorem opening_opened (ended : here.openings.head?.join = none) :
    s.opening here =
      { deeds := [.opens s.config.target]
        events := [.started]
        after := (here.enter .connecting).opensOnce.oneMore.hold (some (.opened here.opened)) } := by
  simp [opening_connects defers free, Turn.andThen, Situation.connectTo, ended]

theorem opening_refused {f : Failure} (ended : here.openings.head?.join = some f)
    (handled : ¬ f.isInterruption) :
    s.opening here =
      { deeds := [.opens s.config.target]
        events := [.refused f.shortCode]
        failure := some (.report (refusal s.config.target f))
        after := (here.enter .connecting).opensOnce } := by
  simp [opening_connects defers free, Turn.andThen, Situation.connectTo, ended, handled]

theorem opening_interrupted {f : Failure} (ended : here.openings.head?.join = some f)
    (interrupted : f.isInterruption) :
    s.opening here =
      { deeds := [.opens s.config.target]
        failure := some f
        after := (here.enter .connecting).opensOnce } := by
  simp [opening_connects defers free, Turn.andThen, Situation.connectTo, ended, interrupted]

end Opening

/-- The turns in which a session can open that holds nothing unless connecting is deferred. -/
inductive Opens (s : Session σ) (here : Situation σ) : Turn σ → Prop where
  | begun {first : List Action} {start : Situation σ} (begins : s.Begins here first start) :
    Opens s here { deeds := first, events := [.started], after := start }
  | refused {f : Failure} (defers : ¬ s.config.defersConnection)
    (ended : here.openings.head?.join = some f) (handled : ¬ f.isInterruption) :
    Opens s here
      { deeds := [.opens s.config.target]
        events := [.refused f.shortCode]
        failure := some (.report (refusal s.config.target f))
        after := (here.enter .connecting).opensOnce }
  | interrupted {f : Failure} (defers : ¬ s.config.defersConnection)
    (ended : here.openings.head?.join = some f) (interrupted : f.isInterruption) :
    Opens s here
      { deeds := [.opens s.config.target]
        failure := some f
        after := (here.enter .connecting).opensOnce }

theorem opening_opens (free : ¬ s.config.defersConnection → here.context.connection = none) :
    s.Opens here (s.opening here) := by
  by_cases defers : s.config.defersConnection
  · rw [opening_deferred defers]
    exact .begun (.deferred defers)
  · cases ended : here.openings.head?.join with
    | none =>
      rw [opening_opened defers (free defers) ended]
      exact .begun (.opened defers ended)
    | some f =>
      by_cases interrupted : f.isInterruption
      · rw [opening_interrupted defers (free defers) ended interrupted]
        exact .interrupted defers ended interrupted
      · rw [opening_refused defers (free defers) ended interrupted]
        exact .refused defers ended interrupted

/-- The course of a session is one that it can take. -/
theorem course_takes (free : ¬ s.config.defersConnection → here.context.connection = none) :
    s.Takes here (s.course here) := by
  have opens := opening_opens free
  rw [course]
  generalize s.opening here = turn at opens
  cases opens with
  | @begun first start begins =>
    have releases := Situation.release_releases
      (turnFrom s.config 0 s.steps (start.enter .executing)).after
    simp only [body, Turn.before, releases.events, List.append_nil]
    exact Takes.ran begins rfl releases
  | refused defers ended handled => exact Takes.refused defers ended handled
  | interrupted defers ended interrupted =>
    simp only [resultIf_interruption interrupted]
    exact Takes.interrupted defers ended interrupted

/-- A session whose start is no result begins well. -/
theorem opening_begins (free : ¬ s.config.defersConnection → here.context.connection = none)
    (well : resultIf (· == .connect) (s.opening here).failure = .ok none) :
    s.Begins here (s.opening here).deeds (s.opening here).after := by
  have opens := opening_opens free
  generalize s.opening here = turn at opens well
  cases opens with
  | begun begins => exact begins
  | refused _ _ _ => cases well
  | interrupted _ _ interrupted =>
    rw [resultIf_interruption interrupted] at well
    cases well

theorem Begins.within {first : List Action} {start : Situation σ}
    (begins : s.Begins here first start) : here.Within (start.enter .executing) := by
  cases begins with
  | deferred _ =>
    exact ⟨rfl, List.suffix_rfl, List.suffix_rfl, List.suffix_rfl, List.suffix_rfl⟩
  | opened _ _ =>
    exact ⟨rfl, List.drop_suffix 1 _, List.suffix_rfl, List.suffix_rfl, List.suffix_rfl⟩

theorem turnFrom_within (config : Config) (steps : List Step) :
    ∀ n (here : Situation σ), here.Within (turnFrom config n steps here).after := by
  induction steps with
  | nil => exact fun n here => .refl here
  | cons step steps ih =>
    intro n here
    have within := (step.turn_takes config here).within
    cases failed : (step.turn config here).failure with
    | some f =>
      rw [turnFrom_failed failed]
      exact within
    | none =>
      rw [turnFrom_well failed]
      exact within.trans (ih (n + 1) _)

/-- A session begins in one way. -/
theorem Begins.unique {first first' : List Action} {start start' : Situation σ}
    (begins : s.Begins here first start) (begins' : s.Begins here first' start') :
    start = start' := by
  cases begins with
  | deferred defers =>
    cases begins' with
    | deferred _ => rfl
    | opened defers' _ => exact absurd defers defers'
  | opened defers _ =>
    cases begins' with
    | deferred defers' => exact absurd defers' defers
    | opened _ _ => rfl

end Session

end SessionScript
