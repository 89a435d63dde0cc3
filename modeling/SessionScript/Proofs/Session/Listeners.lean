import SessionScript.Proofs.Emitter
import SessionScript.Proofs.Session.Paths
import SessionScript.Proofs.Session.Respects

/-!
# Listeners of a session

A session tells its events to an emitter. Listeners that change nothing but subscriptions and fail
only in ways that can be handled make no difference to it: it ends in the same way and asks the
same of connections and of time, whoever listens. A listener that stays subscribed to one event
hears all of these events in order, and nothing else.
-/

namespace SessionScript

variable {σ ω : Type}

/-! ## What an audience becomes -/

/-- What an audience has become after some events. -/
def Audience.after (audience : Audience ω) (told : List Event) (listening : ω) : ω :=
  told.foldl (fun listening e => (audience e listening).2.2) listening

/-- A state follows another one, and its audience heard what was told in between, and only that. -/
def Running.Hears (audience : Audience ω) (r r' : Running σ ω) : Prop :=
  ∃ told, r'.events = r.events ++ told ∧
    r'.world.audience = audience.after told r.world.audience

section Hearing

variable {audience : Audience ω}

instance : IsPreorder (Running σ ω) (Running.Hears audience) where
  refl r := ⟨[], by simp, rfl⟩
  trans := by
    rintro r r' r'' ⟨told, events, heard⟩ ⟨told', events', heard'⟩
    refine ⟨told ++ told', by rw [events', events, List.append_assoc], ?_⟩
    rw [heard', heard, Audience.after, Audience.after, Audience.after, List.foldl_append]

namespace Act

/-- Nothing is heard of what leaves the audience as it is and tells nothing. -/
theorem unheard {r r' : Running σ ω} (events : r'.events = r.events)
    (same : r'.world.audience = r.world.audience) : r.Hears audience r' :=
  ⟨[], by simp [events], same⟩

theorem record_hears {a : Action} (silent : a.event? = none) :
    Leads (Running.Hears audience) (record a : Act σ ω Unit) := by
  refine fun r => unheard ?_ rfl
  change eventsOf (r.world.trace ++ [a]) = eventsOf r.world.trace
  simp [eventsOf, silent]

theorem modifyContext_hears (f : SessionContext σ → SessionContext σ) :
    Leads (Running.Hears audience) (modifyContext f : Act σ ω Unit) :=
  fun _ => unheard rfl rfl

theorem scripts_heard : ScriptsRespect (Running.Hears (σ := σ) audience) := by
  intro f same r
  obtain ⟨trace, listening⟩ := same r.world
  exact unheard (congrArg eventsOf trace) listening

theorem note_hears (severity : Severity) (area : Area) (message : String) :
    Leads (Running.Hears audience) (note severity area message : Act σ ω Unit) :=
  record_hears rfl

theorem enter_hears (p : Phase) : Leads (Running.Hears audience) (enter p : Act σ ω Unit) :=
  Leads.get.bind fun _ => (note_hears _ _ _).bind fun _ _ => unheard rfl rfl

/-- The audience hears what it is told. -/
theorem emit_hears (e : Event) :
    Leads (Running.Hears audience) (emit audience e : Act σ ω Unit) := by
  intro r
  have heard : r.Hears audience
      { r with
        world :=
          { r.world with
            audience := (audience e r.world.audience).2.2
            trace := r.world.trace ++ [.tells e] ++
              (audience e r.world.audience).1.map Action.log } } :=
    ⟨[e], by simp [Running.events, eventsOf, Action.event?], rfl⟩
  exact trans_of _ heard (finish_leads _ _)

/-- Templates tell nothing. -/
theorem resolve_hears (v : Value) :
    Leads (Running.Hears audience) (resolve v : Act σ ω Value) := by
  intro r
  change Running.Hears audience r (exec (MonadExcept.ofExcept _) _).2
  rw [exec_ofExcept]
  exact unheard (by simp [Running.events]) rfl

theorem closeQuietly_hears (c : Connection) :
    Leads (Running.Hears audience) (closeQuietly c : Act σ ω Unit) :=
  closeQuietly_leads (scripts_heard.close (record_hears rfl)) fun _ => note_hears _ _ _

end Act

open Act

theorem connectTo_hears (address : String) :
    Leads (Running.Hears audience) (connectTo audience address : Act σ ω Connection) :=
  connectTo_leads (scripts_heard.openAt (record_hears rfl)) emit_hears

/-- The audience hears everything that a step tells. -/
theorem hears_respected (audience : Audience ω) :
    StepsRespect audience (Running.Hears (σ := σ) audience) where
  numbers _ _ := note_hears _ _ _
  describes _ := note_hears _ _ _
  tells := emit_hears
  resolves := resolve_hears
  sleeps _ := scripts_heard.sleep (record_hears rfl)
  sends _ _ := scripts_heard.sendTo (record_hears rfl)
  counts f _ := modifyContext_hears f
  connects address _ := (connectTo_hears address).bind fun _ =>
    Leads.get.bind fun r => (modifyContext_hears _).bind fun _ =>
      closeAny_leads (fun _ => note_hears _ _ _) closeQuietly_hears r.context.connection

namespace Session

theorem letGo_hears {announce : Connection → Act σ ω Unit}
    (silent : ∀ c, Leads (Running.Hears audience) (announce c)) :
    Leads (Running.Hears audience) (letGo announce : Act σ ω Unit) :=
  Leads.get.bind fun r => (modifyContext_hears _).bind fun _ =>
    closeAny_leads silent closeQuietly_hears r.context.connection

theorem release_hears : Leads (Running.Hears audience) (release : Act σ ω Unit) :=
  (letGo_hears fun _ => .pure ()).bind fun _ => enter_hears .closed

theorem start_hears (s : Session σ) :
    Leads (Running.Hears audience) (start audience s : Act σ ω Unit) := by
  unfold start
  split
  · exact emit_hears .started
  · exact (enter_hears .connecting).bind fun _ => (letGo_hears fun _ => note_hears _ _ _).bind
      fun _ => (connectTo_hears _).bind fun _ => (modifyContext_hears _).bind fun _ =>
        emit_hears .started

theorem execute_hears (s : Session σ) :
    Leads (Running.Hears audience) (execute audience s : Act σ ω Unit) :=
  (enter_hears .executing).bind fun _ => (hears_respected audience).runSteps s s.steps 0

theorem ensuring_leads {R : Running σ ω → Running σ ω → Prop} [IsPreorder _ R]
    {act after : Act σ ω Unit} (hact : Leads R act) (hafter : Leads R after) :
    Leads R (ensuring act after) := by
  have first : Leads R (tryCatch (do act; return none) fun f => return some f :
      Act σ ω (Option Failure)) :=
    (hact.bind fun _ => .pure _).tryCatch fun _ => .pure _
  refine first.bind fun result => hafter.bind fun _ => ?_
  cases result with
  | none => exact .pure ()
  | some f => exact .throw f

theorem resultOf_leads {R : Running σ ω → Running σ ω → Prop} [IsPreorder _ R]
    (isResult : ReportKind → Bool) {act : Act σ ω Unit} (hact : Leads R act) :
    Leads R (resultOf isResult act) := by
  refine (hact.bind fun _ => .pure _).tryCatch fun f => ?_
  split
  · exact .pure _
  · exact .throw f

theorem run_hears (s : Session σ) :
    Leads (Running.Hears audience) (run audience s : Act σ ω (Outcome σ)) := by
  refine (resultOf_leads _ (start_hears s)).bind fun refused? => ?_
  cases refused? with
  | some r => exact (enter_hears .closed).bind fun _ => .pure _
  | none =>
    exact (resultOf_leads _ (ensuring_leads (execute_hears s) release_hears)).bind fun _ =>
      Leads.get.bind fun _ => .pure _

/-- The audience hears everything that a session tells. -/
theorem call_hears (s : Session σ) :
    Leads (Running.Hears audience) (call audience s : Act σ ω (Outcome σ)) := by
  refine (run_hears s).bind fun outcome => ?_
  cases outcome.failure with
  | none => exact (Leads.pure ()).bind fun _ => .pure _
  | some r => exact (note_hears _ _ _).bind fun _ => .pure _

end Session

end Hearing

/-! ## Emitters as audiences -/

namespace Emitter

variable {ℓ τ : Type} [DecidableEq ℓ]

/-- The entry that an occurrence writes to the log. -/
def Occurrence.entry? : Occurrence ℓ → Option LogEntry
  | .log entry => some entry
  | .call _ _ => none

/-- An emitter as the audience of sessions. Listeners may emit events themselves as deep as a number
    says. -/
def audience (b : Behaviour ℓ τ) (depth : Nat) : Audience (State ℓ τ) := fun e s =>
  let (failure, s') := emit b (depth + 1) e.name e.args s
  ((s'.trace.drop s.trace.length).filterMap Occurrence.entry?, failure, s')

/-- Whenever one of some events is told, a listener is subscribed to it, once, if the event has some
    name, and is not subscribed to it otherwise. -/
def StaysOn (b : Behaviour ℓ τ) (depth : Nat) (l : ℓ) (name : String) :
    List Event → State ℓ τ → Prop
  | [], _ => True
  | e :: told, s =>
    (s.emitter.listeners e.name).count l = (if e.name = name then 1 else 0) ∧
      StaysOn b depth l name told (audience b depth e s).2.2

instance decidableStaysOn (b : Behaviour ℓ τ) (depth : Nat) (l : ℓ) (name : String) :
    ∀ told s, Decidable (StaysOn b depth l name told s)
  | [], _ => inferInstanceAs (Decidable True)
  | _ :: told, _ =>
    have := decidableStaysOn b depth l name told
    inferInstanceAs (Decidable (_ ∧ _))

section Harmless

variable {b : Behaviour ℓ τ} (harmless : b.IsHarmless) (depth : Nat)
include harmless

theorem audience_isQuiet : (audience b depth).IsQuiet := by
  intro e s
  obtain ⟨s', emitted, -⟩ := emit_harmless harmless depth e.name e.args s
  rw [audience, emitted]

/-- A listener that stays on the events of a name receives all of them, and nothing else. -/
theorem received_after {l : ℓ} {name : String} :
    ∀ {told : List Event} {s : State ℓ τ}, StaysOn b depth l name told s →
      received l ((audience b depth).after told s).trace =
        received l s.trace ++ (told.filter (·.name = name)).map Event.args
  | [], s, _ => by simp [Audience.after]
  | e :: told, s, stays => by
    obtain ⟨subscribed, stays⟩ := stays
    obtain ⟨s', emitted, receives⟩ := emit_harmless harmless depth e.name e.args s
    have next : (audience b depth e s).2.2 = s' := by rw [audience, emitted]
    have rest := received_after stays
    rw [next, receives l, subscribed] at rest
    change received l ((audience b depth).after told (audience b depth e s).2.2).trace = _
    rw [next, rest]
    by_cases same : e.name = name <;> simp [same]

end Harmless

end Emitter

/-! ## Sessions and listeners -/

/-- A world with another audience. -/
def World.toldTo {ω' : Type} (w : World σ ω) (listening : ω') : World σ ω' :=
  { w with audience := listening }

namespace Session

open Emitter (received StaysOn)

/-- Harmless listeners make no difference to a session. With any two sets of them it ends in the
    same way, in the same situation, and asks the same of connections and of time. It tells the same
    events too, and a listener that stays on the events of a name receives all of them in order, and
    nothing else. -/
theorem call_with_listeners {ℓ τ ℓ' τ' : Type} [DecidableEq ℓ] [DecidableEq ℓ'] (s : Session σ)
    (initial : Initial σ) (w : World σ Unit) {b : Emitter.Behaviour ℓ τ}
    {b' : Emitter.Behaviour ℓ' τ'} (harmless : b.IsHarmless) (harmless' : b'.IsHarmless)
    (depth depth' : Nat) (listening : Emitter.State ℓ τ) (listening' : Emitter.State ℓ' τ') :
    ∃ result after after' deeds told,
      exec (call (Emitter.audience b depth) s) (s.atCall initial (w.toldTo listening)) =
        (result, after) ∧
      exec (call (Emitter.audience b' depth') s) (s.atCall initial (w.toldTo listening')) =
        (result, after') ∧
      after.situation = after'.situation ∧
      after.deeds = deedsOf w.trace ++ deeds ∧ after'.deeds = deedsOf w.trace ++ deeds ∧
      after.events = eventsOf w.trace ++ told ∧ after'.events = eventsOf w.trace ++ told ∧
      ∀ l name, StaysOn b depth l name told listening →
        received l after.world.audience.trace =
          received l listening.trace ++ (told.filter (·.name = name)).map Event.args := by
  obtain ⟨after, ran, reached⟩ := call_follows (Emitter.audience_isQuiet harmless depth) s
    (s.atCall initial (w.toldTo listening))
  obtain ⟨after', ran', reached'⟩ := call_follows (Emitter.audience_isQuiet harmless' depth') s
    (s.atCall initial (w.toldTo listening'))
  have hears : Leads (Running.Hears (Emitter.audience b depth))
      (call (Emitter.audience b depth) s : Act σ _ (Outcome σ)) := call_hears s
  obtain ⟨told, events, heard⟩ := hears (s.atCall initial (w.toldTo listening))
  rw [ran] at events heard
  have same := List.append_cancel_left (events.symm.trans reached.events)
  refine ⟨_, after, after', _, _, ran, ran', ?_, reached.deeds, reached'.deeds, reached.events,
    reached'.events, fun l name stays => ?_⟩
  · exact reached.situation.trans reached'.situation.symm
  · rw [heard, same]
    exact Emitter.received_after harmless depth stays

/-- A listener that fails on every event and subscribes to others, beside one that stays on the
    responses, compared with no listeners at all. -/
theorem call_with_failing_listener :
    let s : Session Unit := ⟨[.send (.text "hi")], { target := "ws://h" }, []⟩
    let w : World Unit Unit := { host := (), audience := () }
    let b : Emitter.Behaviour Bool Unit :=
      { shown := fun _ => "listener"
        react := fun l _ _ =>
          if l then ({}, ())
          else ({ deeds := [.unsubscribe "started" false, .subscribe "response" false],
                  failure := some (.raise "ValueError" "no") }, ()) }
    let listening : Emitter.State Bool Unit :=
      { emitter := ⟨[("started", [false]), ("response", [true])]⟩, memory := () }
    let alone : Emitter.State Bool Unit := { memory := () }
    ∃ result after after',
      exec (call (Emitter.audience b 0) s) (s.atCall .nothing (w.toldTo listening)) =
        (result, after) ∧
      exec (call (Emitter.audience b 0) s) (s.atCall .nothing (w.toldTo alone)) =
        (result, after') ∧
      after.deeds = after'.deeds ∧ (received false after.world.audience.trace).length = 2 ∧
      received true after.world.audience.trace =
        (after.events.filter (·.name = "response")).map Event.args := by
  intro s w b listening alone
  have harmless : b.IsHarmless := by
    constructor
    · rintro (_ | _) _ _ d among
      · revert d
        simp [b, Emitter.Deed.isRegistration]
      · cases among
    · rintro (_ | _) _ _ f failed <;> cases failed
      rfl
  obtain ⟨result, after, after', deeds, told, ran, ran', -, did, did', events, -, hears⟩ :=
    call_with_listeners s .nothing w harmless harmless 0 0 listening alone
  have told_eq : told =
      (exec (call (Emitter.audience b 0) s) (s.atCall .nothing (w.toldTo listening))).2.events := by
    rw [ran, events]
    rfl
  have stays : StaysOn b 0 true "response" told listening := by
    rw [told_eq]
    decide +kernel
  refine ⟨result, after, after', ran, ran', did.trans did'.symm, ?_, ?_⟩
  · have twice : (received false (exec (call (Emitter.audience b 0) s)
        (s.atCall .nothing (w.toldTo listening))).2.world.audience.trace).length = 2 := by
      decide +kernel
    rwa [ran] at twice
  · rw [hears true "response" stays, events]
    rfl

end Session

end SessionScript
