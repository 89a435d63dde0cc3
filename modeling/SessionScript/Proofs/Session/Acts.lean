import SessionScript.Proofs.Effect
import SessionScript.Proofs.Session.Turn

/-!
# Acts play turns

Every act of a session, run in any state and told to an audience that never fails, ends as its
turn says, and adds to the trace what the turn did and told. This is where the effects of sessions
are taken apart; what is said about steps and whole runs is derived from turns.
-/

namespace SessionScript

variable {σ ω α β : Type}

/-- An audience that never fails. -/
def Audience.IsQuiet (audience : Audience ω) : Prop :=
  ∀ e listening, (audience e listening).2.1 = none

/-- An audience that takes no notice of anything. -/
def Audience.absent : Audience Unit := fun _ _ => ([], none, ())

theorem Audience.absent_isQuiet : Audience.absent.IsQuiet := fun _ _ => rfl

namespace Act

/-- An attempt turns failures into values, but not interruptions. -/
theorem exec_attempt (act : Act σ ω α) (r : Running σ ω) :
    exec (attempt act) r =
      match exec act r with
      | (.ok a, r') => (.ok (.ok a), r')
      | (.error f, r') => (if f.isInterruption then .error f else .ok (.error f), r') := by
  rw [attempt, exec_tryCatch, exec_bind]
  rcases exec act r with ⟨result, r'⟩
  cases result with
  | ok a => rfl
  | error f => by_cases interrupted : f.isInterruption <;> simp [interrupted]

end Act

/-! ## What is seen of a state -/

/-- What a session asked of connections and of time so far. -/
def Running.deeds (r : Running σ ω) : List Action := deedsOf r.world.trace

/-- What a session told so far. -/
def Running.events (r : Running σ ω) : List Event := eventsOf r.world.trace

@[simp] theorem deedsOf_append (xs ys : List Action) :
    deedsOf (xs ++ ys) = deedsOf xs ++ deedsOf ys := List.filter_append ..

@[simp] theorem eventsOf_append (xs ys : List Action) :
    eventsOf (xs ++ ys) = eventsOf xs ++ eventsOf ys := List.filterMap_append ..

@[simp] theorem deedsOf_log (entries : List LogEntry) : deedsOf (entries.map Action.log) = [] := by
  induction entries with
  | nil => rfl
  | cons e es ih => simp [deedsOf, Action.isDeed]

@[simp] theorem eventsOf_log (entries : List LogEntry) : eventsOf (entries.map Action.log) = [] := by
  induction entries with
  | nil => rfl
  | cons e es ih => simp [eventsOf, Action.event?]

/-- A state follows another one: some deeds were done, some events were told, and a situation was
    reached. -/
structure Running.Reaches (r : Running σ ω) (deeds : List Action) (events : List Event)
    (there : Situation σ) (r' : Running σ ω) : Prop where
  deeds : r'.deeds = r.deeds ++ deeds
  events : r'.events = r.events ++ events
  situation : r'.situation = there

namespace Running.Reaches

theorem refl (r : Running σ ω) : r.Reaches [] [] r.situation r :=
  ⟨by simp, by simp, rfl⟩

theorem trans {r r' r'' : Running σ ω} {deeds deeds' : List Action} {events events' : List Event}
    {there there' : Situation σ} (first : r.Reaches deeds events there r')
    (second : r'.Reaches deeds' events' there' r'') :
    r.Reaches (deeds ++ deeds') (events ++ events') there' r'' where
  deeds := by rw [second.deeds, first.deeds, List.append_assoc]
  events := by rw [second.events, first.events, List.append_assoc]
  situation := second.situation

/-- What is added to the trace tells which deeds were done and which events were told. -/
theorem of_trace {r r' : Running σ ω} {deeds : List Action} {events : List Event}
    {there : Situation σ} (new : List Action) (added : r'.world.trace = r.world.trace ++ new)
    (done : deedsOf new = deeds) (told : eventsOf new = events) (reached : r'.situation = there) :
    r.Reaches deeds events there r' where
  deeds := by rw [Running.deeds, added, deedsOf_append, done, ← Running.deeds]
  events := by rw [Running.events, added, eventsOf_append, told, ← Running.events]
  situation := reached

end Running.Reaches

/-! ## Acts and turns -/

/-- How an act ends whose turn this is. -/
def Turn.ending (t : Turn σ) : Except Failure Unit :=
  match t.failure with
  | none => .ok ()
  | some f => .error f

/-- An act that is run in a state does what a turn says. -/
def Act.PlaysIn (r : Running σ ω) (act : Act σ ω Unit) (t : Turn σ) : Prop :=
  ∃ r', exec act r = (t.ending, r') ∧ r.Reaches t.deeds t.events t.after r'

/-- An act does what a turn says, in whatever state it is run. -/
def Act.Plays (act : Act σ ω Unit) (turn : Situation σ → Turn σ) : Prop :=
  ∀ r, act.PlaysIn r (turn r.situation)

/-- An act finds an answer without doing or telling anything, in whatever state it is run. -/
def Act.Answers (act : Act σ ω α) (answer : Situation σ → Except Failure α × Situation σ) : Prop :=
  ∀ r, ∃ r', exec act r = ((answer r.situation).1, r') ∧
    r.Reaches [] [] (answer r.situation).2 r'

namespace Act

theorem note_plays (severity : Severity) (area : Area) (message : String) :
    (note severity area message : Act σ ω Unit).Plays fun here => { after := here } :=
  fun _ => ⟨_, rfl, .of_trace [.log ⟨severity, area, message⟩] rfl rfl rfl rfl⟩

theorem enter_plays (phase : Phase) :
    (enter phase : Act σ ω Unit).Plays fun here => { after := here.enter phase } :=
  fun r => ⟨_, rfl,
    .of_trace [.log ⟨.debug, .runs, "session " ++ r.phase.name ++ " -> " ++ phase.name⟩]
      rfl rfl rfl rfl⟩

theorem pure_plays : (pure () : Act σ ω Unit).Plays fun here => { after := here } :=
  fun r => ⟨r, rfl, .refl r⟩

theorem throw_plays (f : Failure) :
    (throw f : Act σ ω Unit).Plays fun here => { failure := some f, after := here } :=
  fun r => ⟨r, rfl, .refl r⟩

theorem bind_plays {first second : Act σ ω Unit} {turn next : Situation σ → Turn σ}
    (hfirst : first.Plays turn) (hsecond : second.Plays next) :
    (first >>= fun _ => second).Plays fun here => (turn here).andThen next := by
  intro r
  obtain ⟨r', ran, reached⟩ := hfirst r
  rw [PlaysIn, exec_bind, ran]
  cases failed : (turn r.situation).failure with
  | some f =>
    refine ⟨r', ?_, ?_⟩
    · simp [Turn.ending, Turn.andThen, failed]
    · simpa [Turn.andThen, failed] using reached
  | none =>
    obtain ⟨r'', ran', reached'⟩ := hsecond r'
    rw [reached.situation] at ran' reached'
    refine ⟨r'', ?_, ?_⟩
    · simpa [Turn.ending, Turn.andThen, failed] using ran'
    · simpa [Turn.andThen, failed] using reached.trans reached'

theorem get_bind_playsIn {r : Running σ ω} {next : Running σ ω → Act σ ω Unit} {t : Turn σ}
    (hnext : (next r).PlaysIn r t) : (get >>= next).PlaysIn r t := hnext

theorem modifyContext_plays (f : SessionContext σ → SessionContext σ) :
    (modifyContext f : Act σ ω Unit).Plays fun here =>
      { after := { here with context := f here.context } } :=
  fun _ => ⟨_, rfl, by simp [Running.deeds], by simp [Running.events], rfl⟩

/-- A context that is changed is what the next act finds. -/
theorem modifyContext_bind_playsIn {r : Running σ ω} {f : SessionContext σ → SessionContext σ}
    {next : Act σ ω Unit} {t : Turn σ}
    (hnext : next.PlaysIn { r with context := f r.context } t) :
    (modifyContext f >>= fun _ => next).PlaysIn r t := by
  obtain ⟨r', ran, reached⟩ := hnext
  exact ⟨r', ran, reached.deeds, reached.events, reached.situation⟩

/-- Log entries make no difference. -/
theorem note_bind_plays (severity : Severity) (area : Area) (message : String)
    {act : Act σ ω Unit} {turn : Situation σ → Turn σ} (hact : act.Plays turn) :
    (note severity area message >>= fun _ => act).Plays turn :=
  bind_plays (note_plays severity area message) hact

/-- An ending that was scripted. -/
theorem exec_finish (e : Ending) (r : Running σ ω) :
    exec (finish e : Act σ ω Unit) r =
      (match e with | none => .ok () | some f => .error f, r) := by
  cases e <;> rfl

/-- What follows an answer goes on where finding it left the session. -/
theorem answer_plays {act : Act σ ω α} {answer : Situation σ → Except Failure α × Situation σ}
    (hact : act.Answers answer) {next : α → Act σ ω Unit}
    {after : α → Situation σ → Turn σ} (hnext : ∀ a, (next a).Plays (after a)) :
    (act >>= next).Plays fun here => .given (answer here) after := by
  intro r
  obtain ⟨r', ran, reached⟩ := hact r
  rw [PlaysIn, exec_bind, ran]
  rcases answered : answer r.situation with ⟨f | a, there⟩
  · refine ⟨r', by simp [answered, Turn.given, Turn.ending], ?_⟩
    simpa [answered, Turn.given] using reached
  · obtain ⟨r'', ran', reached'⟩ := hnext a r'
    rw [reached.situation, answered] at ran' reached'
    refine ⟨r'', by simpa [answered, Turn.given] using ran', ?_⟩
    simpa [answered, Turn.given] using reached.trans reached'

theorem sleep_plays (seconds : Binary64) :
    (sleep seconds : Act σ ω Unit).Plays fun here =>
      { deeds := [.sleeps seconds]
        failure := here.sleepings.head?.join
        after := here.sleepsOnce } :=
  fun _ => ⟨_, exec_finish _ _, .of_trace [.sleeps seconds] rfl rfl rfl rfl⟩

theorem emit_plays {audience : Audience ω} (quiet : audience.IsQuiet) (e : Event) :
    (emit audience e : Act σ ω Unit).Plays fun here => { events := [e], after := here } := by
  intro r
  have silent : (audience e r.world.audience).2.1 = none := quiet e r.world.audience
  let told : Running σ ω :=
    { r with
      world :=
        { r.world with
          audience := (audience e r.world.audience).2.2
          trace := r.world.trace ++ [.tells e] ++
            (audience e r.world.audience).1.map Action.log } }
  have ran : exec (emit audience e) r = exec (finish (audience e r.world.audience).2.1) told := rfl
  let new : List Action := .tells e :: (audience e r.world.audience).1.map Action.log
  refine ⟨told, ?_, .of_trace new ?_ ?_ ?_ rfl⟩
  · rw [ran, silent]
    rfl
  · exact List.append_assoc ..
  · exact deedsOf_log _
  · exact congrArg (e :: ·) (eventsOf_log _)

/-- Resolving templates changes the variables and the host, and writes to the log only. -/
theorem resolve_answers (v : Value) :
    (resolve v : Act σ ω Value).Answers fun here => here.resolve v := by
  intro r
  let answer := (Template.resolve r.context.funcs Template.callLimit v).run.run r.situation.memory
  let left : Running σ ω :=
    { r with
      context := { r.context with vars := answer.2.vars }
      world :=
        { r.world with
          host := answer.2.host
          trace := r.world.trace ++ answer.2.log.map Action.log } }
  have ran : exec (resolve v) r = exec (MonadExcept.ofExcept answer.1) left := rfl
  refine ⟨left, ?_,
    .of_trace (answer.2.log.map Action.log) rfl (deedsOf_log _) (eventsOf_log _) rfl⟩
  rw [ran, exec_ofExcept]
  rfl

/-- Making a message resolves the templates of its payload. -/
theorem encode_answers (payload : Payload) :
    (payload.encode resolve : Act σ ω Message).Answers fun here => here.encode payload := by
  intro r
  cases payload with
  | bytes b => exact ⟨r, rfl, .refl r⟩
  | text template =>
    obtain ⟨r', ran, reached⟩ := resolve_answers (.text template) r
    refine ⟨r', ?_, reached⟩
    rw [Payload.encode, exec_bind, ran]
    cases resolved : (r.situation.resolve (.text template)).1 <;>
      simp [Situation.encode, resolved, Except.map]
  | json body =>
    obtain ⟨r', ran, reached⟩ := resolve_answers body r
    refine ⟨r', ?_, reached⟩
    rw [Payload.encode, exec_bind, ran]
    cases resolved : (r.situation.resolve body).1 <;>
      simp [Situation.encode, resolved, Except.bind]

/-- An opening is attempted, and counts if its script has no failure for it. -/
theorem exec_openAt (address : String) (r : Running σ ω) :
    ∃ r', r.Reaches [.opens address] [] r.situation.opensOnce r' ∧
      exec (openAt address) r =
        exec (finish r.world.openings.head?.join >>= fun _ =>
          modifyWorld (fun w => { w with opened := w.opened + 1 }) >>= fun _ =>
            pure (.opened r.world.opened)) r' :=
  ⟨_, .of_trace [.opens address] rfl rfl rfl rfl, rfl⟩

/-- A connection that is opened is the next one. -/
theorem exec_openAt_opened (address : String) {r : Running σ ω}
    (opened : r.world.openings.head?.join = none) :
    ∃ r', exec (openAt address) r = (.ok (.opened r.world.opened), r') ∧
      r.Reaches [.opens address] [] r.situation.opensOnce.oneMore r' := by
  obtain ⟨r', reached, ran⟩ := exec_openAt address r
  rw [opened] at ran
  exact ⟨{ r' with world := { r'.world with opened := r'.world.opened + 1 } }, ran,
    reached.deeds, reached.events, congrArg Situation.oneMore reached.situation⟩

/-- A connection that is not opened leaves nothing but the attempt. -/
theorem exec_openAt_refused (address : String) {r : Running σ ω} {f : Failure}
    (refused : r.world.openings.head?.join = some f) :
    ∃ r', exec (openAt address) r = (.error f, r') ∧
      r.Reaches [.opens address] [] r.situation.opensOnce r' := by
  obtain ⟨r', reached, ran⟩ := exec_openAt address r
  rw [refused] at ran
  exact ⟨r', ran, reached⟩

theorem exec_close (c : Connection) (r : Running σ ω) :
    ∃ r', exec (close c) r = exec (finish r.situation.closings.head?.join) r' ∧
      r.Reaches [.closes c] [] r.situation.closesOnce r' :=
  ⟨_, rfl, .of_trace [.closes c] rfl rfl rfl rfl⟩

theorem exec_sendTo (c : Connection) (m : Message) (r : Running σ ω) :
    ∃ r', exec (sendTo c m) r = exec (finish r.situation.sendings.head?.join) r' ∧
      r.Reaches [.sends c m] [] r.situation.sendsOnce r' :=
  ⟨_, rfl, .of_trace [.sends c m] rfl rfl rfl rfl⟩

/-- What is attempted ends as its script says. An interruption ends everything; after another
    failure, and if all went well, the next act goes on. -/
theorem attempt_bind_plays {act : Act σ ω Unit} {deed : Action} (ending : Situation σ → Ending)
    (there : Situation σ → Situation σ)
    (hact : ∀ r, ∃ r', exec act r = exec (finish (ending r.situation)) r' ∧
      r.Reaches [deed] [] (there r.situation) r')
    {next : Except Failure Unit → Act σ ω Unit} {good : Situation σ → Turn σ}
    {bad : Failure → Situation σ → Turn σ} (hgood : (next (.ok ())).Plays good)
    (hbad : ∀ f, (next (.error f)).Plays (bad f)) :
    (attempt act >>= next).Plays fun here =>
      Turn.andThen
        { deeds := [deed]
          failure := (ending here).filter Failure.isInterruption
          after := there here }
        ((ending here).elim good bad) := by
  intro r
  obtain ⟨r', ran, reached⟩ := hact r
  rw [PlaysIn, exec_bind, exec_attempt, ran, exec_finish]
  cases ended : ending r.situation with
  | none =>
    obtain ⟨r'', ran', reached'⟩ := hgood r'
    rw [reached.situation] at ran' reached'
    refine ⟨r'', ?_, ?_⟩
    · simpa [Turn.andThen, Turn.ending, ended] using ran'
    · simpa [Turn.andThen, ended] using reached.trans reached'
  | some f =>
    by_cases interrupted : f.isInterruption
    · refine ⟨r', ?_, ?_⟩
      · simp [Turn.ending, Turn.andThen, ended, interrupted, Option.filter]
      · simpa [Turn.andThen, ended, interrupted, Option.filter] using reached
    · obtain ⟨r'', ran', reached'⟩ := hbad f r'
      rw [reached.situation] at ran' reached'
      refine ⟨r'', ?_, ?_⟩
      · simpa [Turn.andThen, Turn.ending, ended, interrupted, Option.filter] using ran'
      · simpa [Turn.andThen, ended, interrupted, Option.filter] using reached.trans reached'

/-- A connection that is closed quietly is closed whatever comes of it, and only an interruption
    gets through. -/
theorem closeQuietly_plays (c : Connection) :
    (closeQuietly c : Act σ ω Unit).Plays fun here => here.closeAny (some c) := by
  have same (here : Situation σ) : here.closeAny (some c) =
      Turn.andThen
        { deeds := [.closes c]
          failure := here.closings.head?.join.filter Failure.isInterruption
          after := here.closesOnce }
        (here.closings.head?.join.elim (fun x => { after := x }) fun _ x => { after := x }) := by
    cases ended : here.closings.head?.join with
    | none => simp [Situation.closeAny, Turn.andThen, ended]
    | some f =>
      by_cases interrupted : f.isInterruption <;>
        simp [Situation.closeAny, Turn.andThen, ended, interrupted, Option.filter]
  simp only [same]
  exact attempt_bind_plays (fun here => here.closings.head?.join) Situation.closesOnce
    (exec_close c) pure_plays fun _ => note_plays _ _ _

/-- What follows an opening goes on with the new connection; a refusal is told and reported. -/
theorem connectTo_plays {audience : Audience ω} (quiet : audience.IsQuiet) (address : String)
    {next : Connection → Act σ ω Unit} (after : Option Connection → Situation σ → Turn σ)
    (hnext : ∀ c, (next c).Plays fun here => after here.context.connection (here.hold (some c))) :
    (connectTo audience address >>= next).Plays fun here =>
      (here.connectTo address).andThen (after here.context.connection) := by
  intro r
  cases ended : r.world.openings.head?.join with
  | none =>
    obtain ⟨r', ran, reached⟩ := exec_openAt_opened address ended
    obtain ⟨r'', ran', reached'⟩ := hnext (.opened r.world.opened) r'
    rw [reached.situation] at ran' reached'
    refine ⟨r'', ?_, ?_⟩
    · rw [exec_bind, connectTo, exec_bind, exec_attempt, ran]
      simpa [Turn.ending, Turn.andThen, Situation.connectTo, ended] using ran'
    · simpa [Turn.andThen, Situation.connectTo, ended] using reached.trans reached'
  | some f =>
    obtain ⟨r', ran, reached⟩ := exec_openAt_refused address ended
    by_cases interrupted : f.isInterruption
    · refine ⟨r', ?_, ?_⟩
      · rw [exec_bind, connectTo, exec_bind, exec_attempt, ran]
        simp [Turn.ending, Turn.andThen, Situation.connectTo, ended, interrupted]
      · simpa [Turn.andThen, Situation.connectTo, ended, interrupted] using reached
    · obtain ⟨r'', told, reached'⟩ := emit_plays quiet (.refused f.shortCode) r'
      rw [reached.situation] at reached'
      refine ⟨r'', ?_, ?_⟩
      · rw [exec_bind, connectTo, exec_bind, exec_attempt, ran]
        simp [exec_bind, told, Turn.ending, Turn.andThen, Situation.connectTo, ended,
          interrupted, refusal]
      · simpa [Turn.andThen, Situation.connectTo, ended, interrupted] using
          reached.trans reached'

end Act

end SessionScript
