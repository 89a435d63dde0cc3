import SessionScript.Proofs.Session.Counts

/-!
# Moments

What is true throughout a step, and not only before and after it. A step is made up of single acts,
and what lasts as long as no message is accepted is true before and after every single act of a
step that fails.
-/

namespace SessionScript

variable {σ ω : Type} {audience : Audience ω}

open Situation (Counts)

/-! ## The moments of an act -/

namespace Act

variable {α β : Type} {P : Running σ ω → Prop}

/-- The acts that the steps of sessions are made up of. -/
inductive IsSingle (audience : Audience ω) : {α : Type} → Act σ ω α → Prop where
  | pure {α : Type} (a : α) : IsSingle audience (pure a)
  | throw {α : Type} (f : Failure) : IsSingle audience (throw f : Act σ ω α)
  | get : IsSingle audience get
  | modifyContext (f : SessionContext σ → SessionContext σ) :
    IsSingle audience (modifyContext f)
  | note (severity : Severity) (area : Area) (message : String) :
    IsSingle audience (note severity area message)
  | emit (e : Event) : IsSingle audience (emit audience e)
  | resolve (v : Value) : IsSingle audience (resolve v)
  | openAt (url : String) : IsSingle audience (openAt url)
  | sendTo (c : Connection) (m : Message) : IsSingle audience (sendTo c m)
  | close (c : Connection) : IsSingle audience (close c)
  | sleep (seconds : Binary64) : IsSingle audience (sleep seconds)

/-- Something is true throughout an act: before and after each of the acts that it is made up of. -/
inductive Throughout (audience : Audience ω) (P : Running σ ω → Prop) :
    {α : Type} → Act σ ω α → Running σ ω → Prop where
  | single {α : Type} {act : Act σ ω α} {r : Running σ ω} (single : IsSingle audience act)
    (before : P r) (after : P (exec act r).2) : Throughout audience P act r
  | bind {α β : Type} {act : Act σ ω α} {next : α → Act σ ω β} {r : Running σ ω}
    (first : Throughout audience P act r)
    (rest : ∀ a r', exec act r = (.ok a, r') → Throughout audience P (next a) r') :
    Throughout audience P (act >>= next) r
  | attempt {α : Type} {act : Act σ ω α} {r : Running σ ω} (all : Throughout audience P act r) :
    Throughout audience P (attempt act) r

namespace Throughout

theorem after {act : Act σ ω α} {r : Running σ ω} (all : Throughout audience P act r) :
    P (exec act r).2 := by
  induction all with
  | single _ _ after => exact after
  | @bind _ _ act _ r _ _ ihFirst ihRest =>
    rw [exec_bind]
    rcases ran : exec act r with ⟨f | a, r'⟩
    · rw [ran] at ihFirst
      exact ihFirst
    · exact ihRest a r' ran
  | @attempt _ act r _ ih =>
    rw [exec_attempt]
    rcases ran : exec act r with ⟨f | a, r'⟩ <;> rwa [ran] at ih

theorem mono {Q : Running σ ω → Prop} (weaker : ∀ r, P r → Q r) {act : Act σ ω α}
    {r : Running σ ω} (all : Throughout audience P act r) : Throughout audience Q act r := by
  induction all with
  | single single before after => exact .single single (weaker _ before) (weaker _ after)
  | bind _ _ ihFirst ihRest => exact .bind ihFirst ihRest
  | attempt _ ih => exact .attempt ih

/-- What follows an act starts where that act ends. -/
theorem andThen {act : Act σ ω α} {next : α → Act σ ω β} {r : Running σ ω}
    (first : Throughout audience P act r)
    (rest : ∀ a r', exec act r = (.ok a, r') → P r' → Throughout audience P (next a) r') :
    Throughout audience P (act >>= next) r := by
  refine .bind first fun a r' ran => rest a r' ran ?_
  have holds := first.after
  rwa [ran] at holds

end Throughout

end Act

/-! ## Acts that have no message accepted -/

/-- Something that stays true as long as no message is accepted. -/
def Lasts (P : Running σ ω → Prop) : Prop :=
  ∀ r r' deeds events there, P r → r.Reaches deeds events there r' →
    r.situation.Counts deeds there 0 → P r'

section Lasts

open Act

variable {α : Type} {P : Running σ ω → Prop} (lasts : Lasts P) {r : Running σ ω} (holds : P r)
include lasts holds

/-- A single act in which no message is accepted. -/
theorem Lasts.single {act : Act σ ω α} {result : Except Failure α} {r' : Running σ ω}
    {deeds : List Action} {events : List Event} {there : Situation σ}
    (single : IsSingle audience act) (ran : exec act r = (result, r'))
    (reached : r.Reaches deeds events there r') (counts : r.situation.Counts deeds there 0) :
    act.Throughout audience P r := by
  refine .single single holds ?_
  rw [ran]
  exact lasts _ _ _ _ _ holds reached counts

theorem Lasts.plays {act : Act σ ω Unit} {turn : Situation σ → Turn σ}
    (single : IsSingle audience act) (plays : act.Plays turn)
    (counts : ∀ here : Situation σ, here.Counts (turn here).deeds (turn here).after 0) :
    act.Throughout audience P r := by
  obtain ⟨r', ran, reached⟩ := plays r
  exact lasts.single holds single ran reached (counts r.situation)

theorem Lasts.note (severity : Severity) (area : Area) (message : String) :
    (note severity area message : Act σ ω Unit).Throughout audience P r :=
  lasts.plays holds (.note ..) (note_plays _ _ _) Counts.refl

theorem Lasts.emit (quiet : audience.IsQuiet) (e : Event) :
    (emit audience e : Act σ ω Unit).Throughout audience P r :=
  lasts.plays holds (.emit e) (emit_plays quiet e) Counts.refl

theorem Lasts.sleep (seconds : Binary64) :
    (sleep seconds : Act σ ω Unit).Throughout audience P r :=
  lasts.plays holds (.sleep seconds) (sleep_plays seconds) fun _ =>
    .unsent rfl rfl rfl fun _ _ => rfl

theorem Lasts.hold (c : Connection) :
    (modifyContext fun x => { x with connection := some c } : Act σ ω Unit).Throughout audience P
      r :=
  lasts.plays holds (.modifyContext _) (modifyContext_plays _) fun _ =>
    .unsent rfl rfl rfl fun _ _ => rfl

theorem Lasts.resolve (v : Value) : (resolve v : Act σ ω Value).Throughout audience P r := by
  obtain ⟨r', ran, reached⟩ := resolve_answers v r
  exact lasts.single holds (.resolve v) ran reached (.of_sameBut (Situation.resolve_sameBut rfl))

theorem Lasts.openAt (url : String) :
    (openAt url : Act σ ω Connection).Throughout audience P r := by
  cases ended : r.world.openings.head?.join with
  | none =>
    obtain ⟨r', ran, reached⟩ := exec_openAt_opened url ended
    exact lasts.single holds (.openAt url) ran reached (.unsent rfl rfl rfl fun _ _ => rfl)
  | some f =>
    obtain ⟨r', ran, reached⟩ := exec_openAt_refused url ended
    exact lasts.single holds (.openAt url) ran reached (.unsent rfl rfl rfl fun _ _ => rfl)

theorem Lasts.close (c : Connection) : (close c : Act σ ω Unit).Throughout audience P r := by
  obtain ⟨r', ran, reached⟩ := exec_close c r
  rw [exec_finish] at ran
  exact lasts.single holds (.close c) ran reached (.unsent rfl rfl rfl fun _ _ => rfl)

/-- A message that is not accepted. -/
theorem Lasts.sendTo {f : Failure} (ended : r.world.sendings.head?.join = some f) (c : Connection)
    (m : Message) : (sendTo c m : Act σ ω Unit).Throughout audience P r := by
  obtain ⟨r', ran, reached⟩ := exec_sendTo c m r
  rw [exec_finish] at ran
  exact lasts.single holds (.sendTo c m) ran reached (.rejected ended c m)

theorem Lasts.closeQuietly (c : Connection) :
    (closeQuietly c : Act σ ω Unit).Throughout audience P r := by
  refine (Throughout.attempt (lasts.close holds c)).andThen fun closed r' _ holds => ?_
  cases closed with
  | ok _ => exact .single (.pure _) holds holds
  | error f => exact lasts.note holds ..

theorem Lasts.connectTo (quiet : audience.IsQuiet) (url : String) :
    (connectTo audience url : Act σ ω Connection).Throughout audience P r := by
  refine (Throughout.attempt (lasts.openAt holds url)).andThen fun opened r' _ holds => ?_
  cases opened with
  | ok c => exact .single (.pure c) holds holds
  | error f =>
    exact (lasts.emit holds quiet _).andThen fun _ _ _ holds => .single (.throw _) holds holds

theorem Lasts.holdInstead (c : Connection) (url : String) :
    (holdInstead c url : Act σ ω Unit).Throughout audience P r := by
  refine (Throughout.single .get holds holds).andThen fun found r' _ holds =>
    (lasts.hold holds c).andThen fun _ _ _ holds => ?_
  cases found.context.connection with
  | none => exact .single (.pure _) holds holds
  | some old =>
    exact (lasts.note holds ..).andThen fun _ _ _ holds => lasts.closeQuietly holds old

theorem Lasts.encode (payload : Payload) :
    (payload.encode Act.resolve : Act σ ω Message).Throughout audience P r := by
  cases payload with
  | bytes b => exact .single (.pure _) holds holds
  | text template =>
    exact (lasts.resolve holds _).andThen fun _ _ _ holds => .single (.pure _) holds holds
  | json body =>
    refine (lasts.resolve holds _).andThen fun v _ _ holds => ?_
    cases jsonMessage v with
    | ok m => exact .single (.pure m) holds holds
    | error f => exact .single (.throw f) holds holds

/-- A message is written that is not accepted. -/
theorem Lasts.writeTo (quiet : audience.IsQuiet) {f : Failure}
    (ended : r.world.sendings.head?.join = some f) (c : Connection) (m : Message) :
    (writeTo audience c m : Act σ ω Unit).Throughout audience P r := by
  refine (lasts.emit holds quiet _).andThen fun _ told ran holds => ?_
  obtain ⟨r', ran', reached⟩ := emit_plays quiet .request r
  obtain rfl : told = r' := congrArg Prod.snd (ran.symm.trans ran')
  have ended' : told.world.sendings.head?.join = some f := by
    rw [← ended]
    exact congrArg (fun x => x.sendings.head?.join) reached.situation
  refine (Throughout.attempt (lasts.sendTo holds ended' c m)).andThen
    fun written r'' sent holds => ?_
  obtain ⟨_, sent', -⟩ := exec_sendTo c m told
  cases written with
  | ok _ =>
    -- a message that is not accepted is not written
    have refused : told.situation.sendings.head?.join = some f := ended'
    rw [exec_attempt, sent', exec_finish, refused] at sent
    by_cases interrupted : f.isInterruption <;> simp [interrupted] at sent
  | error f' =>
    exact (lasts.emit holds quiet _).andThen fun _ _ _ holds => .single (.throw _) holds holds

end Lasts

/-! ## Steps that fail -/

/-- A step that fails has no message accepted in any of its acts. -/
theorem Lasts.run {P : Running σ ω → Prop} (lasts : Lasts P) {r : Running σ ω} (holds : P r)
    (quiet : audience.IsQuiet) {config : Config} {step : Step} {f : Failure}
    (failed : (step.turn config r.situation).failure = some f) :
    (step.run audience config : Act σ ω Unit).Throughout audience P r := by
  cases step with
  | think seconds =>
    exact (lasts.note holds ..).andThen fun _ _ _ holds => lasts.sleep holds seconds
  | connect url =>
    exact (lasts.resolve holds _).andThen fun _ _ _ holds =>
      (lasts.note holds ..).andThen fun _ _ _ holds =>
        (lasts.connectTo holds quiet _).andThen fun _ _ _ holds => lasts.holdInstead holds _ _
  | send payload =>
    refine (Act.Throughout.single .get holds holds).andThen fun found _ ran holds => ?_
    cases ran
    cases held : r.context.connection with
    | none => exact .single (.throw _) holds holds
    | some c =>
      refine (lasts.encode holds payload).andThen fun m there ran holds =>
        (lasts.note holds ..).andThen fun _ noted wrote holds => ?_
      obtain ⟨_, ran', reached⟩ := Act.encode_answers payload r
      obtain ⟨answered, rfl⟩ := Prod.mk.inj (ran.symm.trans ran')
      obtain ⟨_, wrote', reached'⟩ := Act.note_plays .debug .steps
        ("send " ++ Text.ofNat m.length ++ " characters") there
      obtain rfl : noted = _ := congrArg Prod.snd (wrote.symm.trans wrote')
      have encoded : r.situation.encode payload = (.ok m, noted.situation) := by
        rw [reached'.situation, reached.situation, answered]
      cases ended : noted.world.sendings.head?.join with
      | some f' => exact lasts.writeTo holds quiet ended c m
      | none =>
        -- the message would be accepted, and the step would not fail
        have ended' : noted.situation.sendings.head?.join = none := ended
        simp [Step.turn, held, encoded, Turn.given, Situation.write, ended'] at failed

namespace Session

/-- Every moment of a step that fails. -/
theorem runStep_throughout {P : Running σ ω → Prop} (lasts : Lasts P) {r left : Running σ ω}
    (holds : P r) (quiet : audience.IsQuiet) {s : Session σ} {step : Step} {number : Nat}
    {f : Failure} (failed : exec (runStep audience s step number) r = (.error f, left)) :
    (runStep audience s step number).Throughout audience P r := by
  refine (lasts.note holds ..).andThen fun _ noted wrote holds => ?_
  obtain ⟨_, wrote', reached⟩ := Act.note_plays .debug .runs
    ("step " ++ Text.ofNat number ++ ": " ++ step.kind.name) r
  obtain rfl : noted = _ := congrArg Prod.snd (wrote.symm.trans wrote')
  obtain ⟨f', fails⟩ : ∃ f', (step.turn s.config noted.situation).failure = some f' := by
    obtain ⟨_, ran, -⟩ := runStep_plays quiet s step number r
    have ending := congrArg Prod.fst (ran.symm.trans failed)
    rw [reached.situation]
    cases why : (step.turn s.config r.situation).failure with
    | none => simp [Turn.ending, Step.turnAt, why] at ending
    | some f' => exact ⟨f', rfl⟩
  refine (Act.Throughout.attempt (lasts.run holds quiet fails)).andThen fun ended _ _ holds => ?_
  cases ended with
  | ok _ => exact .single (.pure _) holds holds
  | error f =>
    exact (Act.Throughout.single .get holds holds).andThen fun _ _ _ holds =>
      .single (.throw _) holds holds

end Session

end SessionScript
