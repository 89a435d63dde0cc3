import SessionScript.Proofs.Session.Paths
import SessionScript.Proofs.Session.Simulation

/-!
# The grammar of events

What a session tells is either that its first connection was refused, or that it started, one pair
of request and response for each message that a connection accepted, and an ending that tells how
the session failed. The events, the count of messages and the result always agree.
-/

namespace SessionScript

variable {σ ω : Type} {audience : Audience ω}

/-- A failure that is no report of a session. -/
def Failure.IsForeign (f : Failure) : Prop := ∀ r, f = .report r → ¬ r.kind.endsSession

/-- The failures of templates themselves are no reports of sessions. -/
theorem Template.OwnFailure.foreign {f : Failure} (own : Template.OwnFailure f) : f.IsForeign := by
  cases own with
  | unreadable expression why =>
    intro r same
    cases same
    exact Bool.false_ne_true
  | endless | noText e => exact fun r same => by cases same

/-- What is told of a message that was sent. -/
def answered (latency : Nat) : List Event := [.request, .response latency 0]

/-- The number of messages that connections accept, given how sendings are going to end. -/
def accepted : List Ending → List Action → Nat
  | _, [] => 0
  | script, .sends _ _ :: deeds =>
    (if script.head?.join.isNone then 1 else 0) + accepted (script.drop 1) deeds
  | script, _ :: deeds => accepted script deeds

/-- How a step fails that nothing interrupts, and the events that end the session with it. -/
inductive Step.FailsWith : Step → Failure → List Event → Prop where
  | raised {step : Step} {f : Failure} (foreign : f.IsForeign) : FailsWith step f []
  | missing {payload : Payload} : FailsWith (.send payload) (.report unconnected) []
  | refused {url address : String} {f : Failure} :
    FailsWith (.connect url) (.report (refusal address f)) [.refused f.shortCode]
  | unsent {payload : Payload} {f : Failure} :
    FailsWith (.send payload) (.report (SessionScript.unsent f)) [.request, .failed f]

/-- A turn tells of some messages that were sent and then an ending, and counts these messages. -/
structure Turn.Tells (here : Situation σ) (t : Turn σ) (latencies : List Nat)
    (ending : List Event) : Prop where
  events : t.events = latencies.flatMap answered ++ ending
  successes : t.after.context.successes = here.context.successes + latencies.length
  accepted : ∀ more, accepted here.sendings (t.deeds ++ more) =
    latencies.length + accepted t.after.sendings more

/-- A turn that sends nothing tells its ending only. -/
theorem Turn.Tells.silent {here : Situation σ} {t : Turn σ} {ending : List Event}
    (events : t.events = ending) (successes : t.after.context.successes = here.context.successes)
    (sendings : t.after.sendings = here.sendings)
    (deeds : ∀ script more, SessionScript.accepted script (t.deeds ++ more) =
      SessionScript.accepted script more) : t.Tells here [] ending where
  events := events
  successes := by simp [successes]
  accepted more := by simp [deeds, sendings]

/-- A turn whose message is not accepted tells its ending only. -/
theorem Turn.Tells.rejected {here : Situation σ} {t : Turn σ} {ending : List Event}
    {c : Connection} {m : Message} {f : Failure} (ended : here.sendings.head?.join = some f)
    (deeds : t.deeds = [.sends c m]) (events : t.events = ending)
    (successes : t.after.context.successes = here.context.successes)
    (sendings : t.after.sendings = here.sendings.drop 1) : t.Tells here [] ending where
  events := events
  successes := by simp [successes]
  accepted more := by simp [deeds, sendings, SessionScript.accepted, ended]

/-- Functions raise no reports of sessions, and neither do pauses, which know nothing of them. -/
structure Situation.Foreign (here : Situation σ) : Prop where
  functions : here.context.funcs.RaiseOnly Failure.IsForeign
  sleepings : ∀ f, some f ∈ here.sleepings → f.IsForeign

theorem Situation.Foreign.within {here there : Situation σ} (foreign : here.Foreign)
    (later : here.Within there) : there.Foreign where
  functions := by
    rw [later.funcs]
    exact foreign.functions
  sleepings f scripted := foreign.sleepings f (later.sleepings.subset scripted)

/-- A step tells of a message that was sent or of nothing if it goes well, and otherwise of its
    failure. -/
theorem Step.Takes.tells {config : Config} {here : Situation σ} {step : Step} {t : Turn σ}
    (takes : step.Takes config here t) (foreign : here.Foreign) :
    ∃ latencies ending, t.Tells here latencies ending ∧
      (t.failure = none → ending = []) ∧
      ∀ f, t.failure = some f → ¬ f.isInterruption → step.FailsWith f ending := by
  have own : ∀ f, Template.OwnFailure f → f.IsForeign := fun _ own => own.foreign
  cases takes with
  | slept _ =>
    exact ⟨[], [], .silent rfl rfl rfl fun _ _ => rfl, fun _ => rfl, fun f failed => by cases failed⟩
  | disturbed ended =>
    refine ⟨[], [], .silent rfl rfl rfl fun _ _ => rfl, fun _ => rfl, fun f failed _ => ?_⟩
    cases failed
    exact .raised (foreign.sleepings _ (mem_of_head?_join ended))
  | unresolved resolved =>
    have same := Situation.resolve_sameBut resolved
    refine ⟨[], [], .silent rfl same.successes same.sendings fun _ _ => rfl, fun _ => rfl,
      fun f failed _ => ?_⟩
    cases failed
    exact .raised (Situation.resolve_error own foreign.functions resolved)
  | refused resolved _ _ =>
    have same := Situation.resolve_sameBut resolved
    refine ⟨[], _, .silent rfl same.successes same.sendings fun _ _ => rfl,
      fun well => (by cases well), fun f failed _ => ?_⟩
    cases failed
    exact .refused
  | openingInterrupted resolved _ interrupted =>
    have same := Situation.resolve_sameBut resolved
    refine ⟨[], [], .silent rfl same.successes same.sendings fun _ _ => rfl, fun _ => rfl,
      fun f failed handled => ?_⟩
    cases failed
    exact absurd interrupted handled
  | connected resolved _ _ =>
    have same := Situation.resolve_sameBut resolved
    exact ⟨[], [], .silent rfl same.successes same.sendings fun _ _ => rfl, fun _ => rfl,
      fun f failed => by cases failed⟩
  | replaced resolved _ _ =>
    have same := Situation.resolve_sameBut resolved
    refine ⟨[], [], .silent rfl same.successes same.sendings fun _ _ => rfl, fun _ => rfl,
      fun f failed handled => ?_⟩
    exact absurd (Option.filter_eq_some_iff.mp failed).2 handled
  | missing _ =>
    refine ⟨[], [], .silent rfl rfl rfl fun _ _ => rfl, fun _ => rfl, fun f failed _ => ?_⟩
    cases failed
    exact .missing
  | unencoded _ encoded =>
    have same := Situation.encode_sameBut encoded
    refine ⟨[], [], .silent rfl same.successes same.sendings fun _ _ => rfl, fun _ => rfl,
      fun f failed _ => ?_⟩
    cases failed
    exact .raised (Situation.encode_error own foreign.functions encoded)
  | @sent _ _ _ there _ encoded ended =>
    have same := Situation.encode_sameBut encoded
    rw [same.sendings] at ended
    refine ⟨[there.tick], [], ⟨rfl, ?_, fun more => ?_⟩, fun _ => rfl, ?_⟩
    · simp [Situation.countSent, Situation.sendsOnce, same.successes]
    · simp [accepted, Situation.countSent, Situation.sendsOnce, same.sendings, ended]
    · exact fun f failed => by cases failed
  | unsent _ encoded ended _ =>
    have same := Situation.encode_sameBut encoded
    rw [same.sendings] at ended
    refine ⟨[], _, .rejected ended rfl rfl same.successes (congrArg (List.drop 1) same.sendings),
      fun well => (by cases well), fun f failed _ => ?_⟩
    cases failed
    exact .unsent
  | sendingInterrupted _ encoded ended interrupted =>
    have same := Situation.encode_sameBut encoded
    rw [same.sendings] at ended
    refine ⟨[], _, .rejected ended rfl rfl same.successes (congrArg (List.drop 1) same.sendings),
      fun well => (by cases well), fun f failed handled => ?_⟩
    cases failed
    exact absurd interrupted handled

/-! ## Steps and sessions -/

/-- What follows a turn without an ending tells on from there. -/
theorem Turn.Tells.append {here : Situation σ} {t u v : Turn σ} {first second : List Nat}
    {ending : List Event} (tells : t.Tells here first []) (more : u.Tells t.after second ending)
    (deeds : v.deeds = t.deeds ++ u.deeds) (events : v.events = t.events ++ u.events)
    (after : v.after = u.after) : v.Tells here (first ++ second) ending where
  events := by simp [events, tells.events, more.events]
  successes := by
    rw [after, more.successes, tells.successes, List.length_append]
    omega
  accepted rest := by
    rw [deeds, after, List.append_assoc, tells.accepted, more.accepted, List.length_append]
    omega

/-- Steps tell of the messages that were sent, and at the end of the one that failed. -/
theorem Session.turnFrom_tells (config : Config) (steps : List Step) :
    ∀ n {here : Situation σ}, here.Foreign →
      ∃ latencies ending, (turnFrom config n steps here).Tells here latencies ending ∧
        ((turnFrom config n steps here).failure = none → ending = []) ∧
        ∀ f, (turnFrom config n steps here).failure = some f → ¬ f.isInterruption →
          ∃ i step vars cause, steps[i]? = some step ∧ step.FailsWith cause ending ∧
            f = .report (stepFailure step (n + i) vars cause) := by
  induction steps with
  | nil =>
    intro n here _
    exact ⟨[], [], .silent rfl rfl rfl fun _ _ => rfl, fun _ => rfl, fun f failed => by cases failed⟩
  | cons step steps ih =>
    intro n here foreign
    have takes := step.turn_takes config here
    obtain ⟨latencies, ending, tells, well, fails⟩ := takes.tells foreign
    cases failed : (step.turn config here).failure with
    | some cause =>
      rw [turnFrom_failed failed]
      have located : (step.turnAt config n here).failure = some (step.locate n
          (step.turn config here).after.context.vars cause) := by
        simp [Step.turnAt, failed]
      refine ⟨latencies, ending, ⟨tells.events, tells.successes, tells.accepted⟩, ?_, ?_⟩
      · intro none
        rw [located] at none
        cases none
      · intro f same handled
        obtain rfl := Option.some.inj (located.symm.trans same)
        by_cases interrupted : cause.isInterruption
        · rw [Step.locate, if_pos interrupted] at handled
          exact absurd interrupted handled
        · exact ⟨0, step, _, cause, rfl, fails cause failed interrupted, if_neg interrupted⟩
    | none =>
      obtain rfl := well failed
      obtain ⟨latencies', ending, tells', well', fails'⟩ := ih (n + 1) (foreign.within takes.within)
      rw [turnFrom_well failed]
      refine ⟨_, ending, tells.append tells' rfl rfl rfl, well', fun f failed' handled => ?_⟩
      obtain ⟨i, next, vars, cause, found, failsWith, same⟩ := fails' f failed' handled
      refine ⟨i + 1, next, vars, cause, found, failsWith, ?_⟩
      rw [same, Nat.add_assoc, Nat.add_comm 1 i]

namespace Session

/-- How the events of a session end, compared with its result. -/
structure Ends (s : Session σ) (failure : Option (Report Failure)) (ending : List Event) :
    Prop where
  form : ending = [] ∨ (∃ e, ending = [.request, .failed e]) ∨ ∃ code, ending = [.refused code]
  failed : ∀ e, ending = [.request, .failed e] ↔
    ∃ r, failure = some r ∧ r.kind = .send ∧ r.cause = some e
  refused : ∀ code, ending = [.refused code] ↔
    ∃ r i url, failure = some r ∧ r.kind = .connect ∧ r.code = some code ∧
      r.place.bind Place.step = some (Int.ofNat i) ∧ s.steps[i]? = some (.connect url)
  silent : ending = [] ↔
    failure = none ∨ ∃ r, failure = some r ∧ (r.kind = .connectionMissing ∨ r.kind = .stepFailed)

/-- A foreign failure is reported as an unexpected one. -/
theorem stepFailure_foreign {step : Step} {number : Nat} {vars : Entries} {f : Failure}
    (foreign : f.IsForeign) :
    stepFailure step number vars f =
      { kind := .stepFailed
        message := f.shown
        place := some (stepPlace step number vars none)
        cause := some f } := by
  cases f with
  | report r => simp [stepFailure, foreign r rfl]
  | host e => rfl
  | rejected status reason => rfl

/-- A report of a session is reported as it is, with the place of its step. -/
theorem stepFailure_report {step : Step} {number : Nat} {vars : Entries} {r : Report Failure}
    (ends : r.kind.endsSession) :
    stepFailure step number vars (.report r) =
      { r with place := some (stepPlace step number vars r.place) } := by
  simp [stepFailure, ends]

/-- The report of a step tells which kind of failure it was. -/
theorem ends_of_failsWith {s : Session σ} {step : Step} {i : Nat} (vars : Entries)
    {cause : Failure} {ending : List Event} (found : s.steps[i]? = some step)
    (fails : step.FailsWith cause ending) :
    s.Ends (some (stepFailure step i vars cause)) ending := by
  cases fails with
  | raised foreign =>
    rw [stepFailure_foreign foreign]
    exact ⟨.inl rfl, by simp, by simp, by simp⟩
  | missing =>
    rw [stepFailure_report rfl]
    exact ⟨.inl rfl, by simp [unconnected], by simp [unconnected], by simp [unconnected]⟩
  | @refused url address f =>
    rw [stepFailure_report rfl]
    refine ⟨.inr (.inr ⟨_, rfl⟩), by simp [refusal], fun code => ?_, by simp [refusal]⟩
    constructor
    · intro same
      obtain rfl : f.shortCode = code := by simpa using same
      exact ⟨_, i, url, rfl, rfl, rfl, rfl, found⟩
    · rintro ⟨r, -, -, same, -, coded, -⟩
      obtain rfl := Option.some.inj same
      obtain rfl : f.shortCode = code := by simpa [refusal] using coded
      rfl
  | unsent =>
    rw [stepFailure_report rfl]
    refine ⟨.inr (.inl ⟨_, rfl⟩), by simp [SessionScript.unsent, eq_comm], ?_, ?_⟩
    · simp [SessionScript.unsent]
    · simp [SessionScript.unsent]

/-- A session without a failure ends in silence. -/
theorem ends_of_success (s : Session σ) : s.Ends none [] :=
  ⟨.inl rfl, by simp, by simp, by simp⟩

/-- A session begins without a message. -/
theorem Begins.accepted {s : Session σ} {here start : Situation σ} {first more : List Action}
    (begins : s.Begins here first start) :
    SessionScript.accepted here.sendings (first ++ more) =
      SessionScript.accepted (start.enter .executing).sendings more := by
  cases begins <;> rfl

theorem Begins.successes {s : Session σ} {here start : Situation σ} {first : List Action}
    (begins : s.Begins here first start) : start.context.successes = here.context.successes := by
  cases begins <;> rfl

/-- The end of a session sends no message. -/
theorem releases_accepted {here : Situation σ} {t : Turn σ} (releases : here.Releases t)
    (script : List Ending) : SessionScript.accepted script t.deeds = 0 := by
  cases releases <;> rfl

/-- A session that returns a result is not interrupted at its end, and returns what came of its
    steps. -/
theorem releases_returned {here : Situation σ} {u : Turn σ} (releases : here.Releases u)
    {failure : Option Failure} {outcome : Outcome σ}
    (returned : (resultIf ReportKind.endsSession (u.failure <|> failure)).map
      (fun r => (⟨r, u.after.context⟩ : Outcome σ)) = .ok outcome) :
    ∃ report, resultIf ReportKind.endsSession failure = .ok report ∧
      outcome = ⟨report, u.after.context⟩ := by
  have closes : u.failure = none := by
    cases releases with
    | nothing _ | closed _ _ => rfl
    | interrupted _ _ interrupted =>
      rw [Option.orElse_eq_orElse, Option.orElse_some, resultIf_interruption interrupted]
        at returned
      cases returned
  rw [closes, Option.orElse_eq_orElse, Option.orElse_none] at returned
  cases reported : resultIf ReportKind.endsSession failure with
  | error f =>
    rw [reported] at returned
    cases returned
  | ok report =>
    rw [reported] at returned
    exact ⟨report, rfl, (Except.ok.inj returned).symm⟩

/-- The ending that steps tell agrees with the result that comes of them. -/
theorem turnFrom_ends {s : Session σ} {here : Situation σ} {ending : List Event}
    (well : (turnFrom s.config 0 s.steps here).failure = none → ending = [])
    (fails : ∀ f, (turnFrom s.config 0 s.steps here).failure = some f → ¬ f.isInterruption →
      ∃ i step vars cause, s.steps[i]? = some step ∧ step.FailsWith cause ending ∧
        f = .report (stepFailure step (0 + i) vars cause))
    {report : Option (Report Failure)}
    (reported : resultIf ReportKind.endsSession (turnFrom s.config 0 s.steps here).failure =
      .ok report) :
    s.Ends report ending := by
  cases failed : (turnFrom s.config 0 s.steps here).failure with
  | none =>
    rw [failed] at reported
    cases reported
    obtain rfl := well failed
    exact ends_of_success s
  | some f =>
    rw [failed] at reported
    have handled : ¬ f.isInterruption := by
      intro interrupted
      rw [resultIf_interruption interrupted] at reported
      cases reported
    obtain ⟨i, step, vars, cause, found, failsWith, rfl⟩ := fails f failed handled
    have ended : report = some (stepFailure step (0 + i) vars cause) := by
      simpa [resultIf, reported?, stepFailure_endsSession] using reported.symm
    rw [ended, Nat.zero_add]
    exact ends_of_failsWith vars found failsWith

end Session

end SessionScript
