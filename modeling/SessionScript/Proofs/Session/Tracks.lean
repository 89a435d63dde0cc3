import SessionScript.Proofs.Session.Connections
import SessionScript.Proofs.Session.Respects

/-!
# Tracks

Telling an event may fail, in whatever way an audience chooses, and the turns of a session say
nothing about that. What can be said for every audience is how the situations before and after are
related along the deeds that were done in between. The steps of a session keep to every such
relation that follows what becomes of connections.
-/

namespace SessionScript

variable {σ ω α : Type} {audience : Audience ω}

/-- A relation between situations and the deeds that lead from one to another that follows
    connections: it does not break where connections stay as they are, or where one is opened in
    place of another, and it goes on over further deeds. -/
class Tracks (S : Situation σ → List Action → Situation σ → Prop) : Prop where
  still : ∀ {here there : Situation σ} {deeds : List Action}, closedIn deeds = [] →
    there.context.connection = here.context.connection → there.opened = here.opened →
    there.closings = here.closings → S here deeds there
  trans : ∀ {here there next : Situation σ} {deeds deeds' : List Action},
    S here deeds there → S there deeds' next → S here (deeds ++ deeds') next
  replaces : ∀ {here : Situation σ} (address : String) (held : Option Connection),
    here.context.connection = held →
    S here
      (.opens address :: ((here.opensOnce.oneMore.hold (some (.opened here.opened))).closeAny
        held).deeds)
      ((here.opensOnce.oneMore.hold (some (.opened here.opened))).closeAny held).after

/-- A relation between situations holds between two states, along what was done in between. -/
def Running.Along (S : Situation σ → List Action → Situation σ → Prop) (r r' : Running σ ω) :
    Prop :=
  ∃ deeds, r'.deeds = r.deeds ++ deeds ∧ S r.situation deeds r'.situation

variable {S : Situation σ → List Action → Situation σ → Prop}

theorem Running.Reaches.along {r r' : Running σ ω} {deeds : List Action} {events : List Event}
    {there : Situation σ} (reached : r.Reaches deeds events there r')
    (tracks : S r.situation deeds there) : r.Along S r' :=
  ⟨deeds, reached.deeds, reached.situation ▸ tracks⟩

/-- An act whose turns keep to a relation does so itself. -/
theorem Act.Plays.along {act : Act σ ω Unit} {turn : Situation σ → Turn σ} (plays : act.Plays turn)
    (tracks : ∀ here : Situation σ, S here (turn here).deeds (turn here).after) :
    Leads (Running.Along S) act := by
  intro r
  obtain ⟨r', ran, reached⟩ := plays r
  rw [ran]
  exact reached.along (tracks r.situation)

/-! ## Audiences that fail -/

/-- What an audience makes of a connection that can not be opened: an interruption is not told, and
    an audience that fails itself keeps the refusal from being reported. -/
def Audience.unconnected (audience : Audience ω) (listening : ω) (address : String) (f : Failure) :
    Failure :=
  if f.isInterruption then f
  else ((audience (.refused f.shortCode) listening).2.1).getD (.report (refusal address f))

namespace Act

/-- An event is told to any audience, which may fail. -/
theorem exec_emit (audience : Audience ω) (e : Event) (r : Running σ ω) :
    ∃ r', exec (emit audience e) r =
        exec (finish (audience e r.world.audience).2.1) r' ∧
      r.Reaches [] [e] r.situation r' := by
  refine ⟨_, rfl, ?_, ?_, rfl⟩
  · simp [Running.deeds, deedsOf, Action.isDeed]
  · simp [Running.events, eventsOf, Action.event?]

/-- Opening a connection is nothing that an audience hears of. -/
theorem openAt_audience (address : String) (r : Running σ ω) :
    (exec (openAt address) r).2.world.audience = r.world.audience := by
  have unheard (e : Ending) (after : Act σ ω Connection) (r' : Running σ ω)
      (silent : ∀ r, (exec after r).2.world.audience = r.world.audience) :
      (exec (finish e >>= fun _ => after) r').2.world.audience = r'.world.audience := by
    cases e with
    | none => exact silent r'
    | some f => rfl
  exact unheard r.world.openings.head?.join
    (modifyWorld (fun w => { w with opened := w.opened + 1 }) >>= fun _ =>
      pure (.opened r.world.opened)) _ fun _ => rfl

/-- A connection is opened if its script has no failure for it, and nobody is told. -/
theorem exec_connectTo_opened (audience : Audience ω) (address : String) {r : Running σ ω}
    (opened : r.world.openings.head?.join = none) :
    ∃ r', exec (connectTo audience address) r = (.ok (.opened r.world.opened), r') ∧
      r'.world.audience = r.world.audience ∧
      r.Reaches [.opens address] [] r.situation.opensOnce.oneMore r' := by
  obtain ⟨r', ran, reached⟩ := exec_openAt_opened address opened
  refine ⟨r', ?_, ?_, reached⟩
  · rw [connectTo, exec_bind, exec_attempt, ran]
    rfl
  · rw [← openAt_audience address r, ran]

/-- Whatever becomes of a connection that is not opened, nothing but the attempt is left. -/
theorem exec_connectTo_failed (audience : Audience ω) (address : String) {r : Running σ ω}
    {f : Failure} (refused : r.world.openings.head?.join = some f) :
    ∃ r' events, exec (connectTo audience address) r =
        (.error (audience.unconnected r.world.audience address f), r') ∧
      r.Reaches [.opens address] events r.situation.opensOnce r' := by
  obtain ⟨r', ran, reached⟩ := exec_openAt_refused address refused
  have listening : r'.world.audience = r.world.audience := by
    rw [← openAt_audience address r, ran]
  rw [connectTo, exec_bind, exec_attempt, ran, Audience.unconnected]
  by_cases interrupted : f.isInterruption
  · exact ⟨r', [], by simp [interrupted], reached⟩
  · obtain ⟨r'', told, reached'⟩ := exec_emit audience (.refused f.shortCode) r'
    rw [reached.situation] at reached'
    refine ⟨r'', _, ?_, reached.trans reached'⟩
    rw [listening] at told
    cases heard : (audience (.refused f.shortCode) r.world.audience).2.1 with
    | none => simp [interrupted, exec_bind, told, exec_finish, heard, refusal]
    | some g => simp [interrupted, exec_bind, told, exec_finish, heard]

/-! ## Acts keep to tracks -/

variable [Tracks S]

theorem emit_along (audience : Audience ω) (e : Event) :
    Leads (Running.Along S) (emit audience e : Act σ ω Unit) := by
  intro r
  obtain ⟨r', ran, reached⟩ := exec_emit audience e r
  rw [ran, exec_finish]
  exact reached.along (Tracks.still rfl rfl rfl rfl)

/-- Templates leave connections alone. -/
theorem resolve_along (v : Value) : Leads (Running.Along S) (resolve v : Act σ ω Value) := by
  intro r
  obtain ⟨r', ran, reached⟩ := resolve_answers v r
  have same : r.situation.SameBut (r.situation.resolve v).2 := Situation.resolve_sameBut rfl
  rw [ran]
  exact reached.along (Tracks.still rfl same.connection same.opened same.closings)

theorem sendTo_along (c : Connection) (m : Message) :
    Leads (Running.Along S) (sendTo c m : Act σ ω Unit) := by
  intro r
  obtain ⟨r', ran, reached⟩ := exec_sendTo c m r
  rw [ran, exec_finish]
  exact reached.along (Tracks.still rfl rfl rfl rfl)

end Act

/-- A connection is opened in place of another one, or stays as it is. -/
theorem connectTo_holdInstead_along [Tracks S] (audience : Audience ω) (address url : String) :
    Leads (Running.Along S)
      (connectTo audience address >>= fun c => holdInstead c url : Act σ ω Unit) := by
  intro r
  cases ended : r.world.openings.head?.join with
  | some f =>
    obtain ⟨r', events, ran, reached⟩ := Act.exec_connectTo_failed audience address ended
    rw [exec_bind, ran]
    exact reached.along (Tracks.still rfl rfl rfl rfl)
  | none =>
    obtain ⟨r', ran, -, reached⟩ := Act.exec_connectTo_opened audience address ended
    obtain ⟨r'', ran', reached'⟩ := holdInstead_plays (.opened r.world.opened) url r'
    rw [reached.situation] at reached'
    rw [exec_bind, ran]
    simp only [ran']
    exact (reached.trans reached').along
      (Tracks.replaces address r.situation.context.connection rfl)

instance [Tracks S] : IsPreorder (Running σ ω) (Running.Along S) where
  refl r := ⟨[], by simp, Tracks.still rfl rfl rfl rfl⟩
  trans := by
    rintro r r' r'' ⟨deeds, done, tracks⟩ ⟨deeds', done', tracks'⟩
    exact ⟨deeds ++ deeds', by rw [done', done, List.append_assoc], Tracks.trans tracks tracks'⟩

/-- Everything that a step does keeps to tracks, whatever its audience does. -/
theorem tracks_respected [Tracks S] (audience : Audience ω) :
    StepsRespect audience (Running.Along S) where
  numbers _ _ := (Act.note_plays _ _ _).along fun _ => Tracks.still rfl rfl rfl rfl
  describes _ := (Act.note_plays _ _ _).along fun _ => Tracks.still rfl rfl rfl rfl
  tells := Act.emit_along audience
  resolves := Act.resolve_along
  sleeps seconds := (Act.sleep_plays seconds).along fun _ => Tracks.still rfl rfl rfl rfl
  sends := Act.sendTo_along
  counts f same := (Act.modifyContext_plays f).along fun here =>
    Tracks.still rfl (same here.context) rfl rfl
  connects := connectTo_holdInstead_along audience

theorem Session.execute_along [Tracks S] (audience : Audience ω) (s : Session σ) :
    Leads (Running.Along S) (execute audience s : Act σ ω Unit) := by
  have enters : Leads (Running.Along S) (Act.enter .executing : Act σ ω Unit) :=
    (Act.enter_plays .executing).along fun _ => Tracks.still rfl rfl rfl rfl
  exact enters.bind fun _ => (tracks_respected audience).runSteps s s.steps 0

end SessionScript
