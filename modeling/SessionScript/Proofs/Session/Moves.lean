import SessionScript.Proofs.Session.Cleanup
import SessionScript.Proofs.Template.Logging

/-!
# Moves between phases

A session notes in the log every move from one phase to another. The notes are read off the trace
again, and so is the phase in which each action is done. Every part of a run is shown to make the
moves that it should and to work only in phases that admit it.
-/

namespace SessionScript

variable {σ ω : Type} {audience : Audience ω}

/-! ## What a trace shows -/

/-- All pairs of phases. -/
def Phase.pairs : List (Phase × Phase) :=
  let all := [.idle, .connecting, .executing, .closed]
  all.flatMap fun p => all.map (p, ·)

/-- The log entry of a move between phases. -/
def moveEntry (p q : Phase) : LogEntry :=
  ⟨.debug, .runs, "session " ++ p.name ++ " -> " ++ q.name⟩

/-- The move between phases that an action notes. -/
def Action.move? : Action → Option (Phase × Phase)
  | .log e => Phase.pairs.find? fun m => e = moveEntry m.1 m.2
  | _ => none

/-- The moves that a trace shows. -/
def movesIn (trace : List Action) : List (Phase × Phase) := trace.filterMap Action.move?

/-- The phase after some moves. -/
def phaseAfter (p : Phase) (moves : List (Phase × Phase)) : Phase := moves.foldl (fun _ m => m.2) p

/-- The actions of a trace, each with the phase in which it is done. -/
def phased : Phase → List Action → List (Phase × Action)
  | _, [] => []
  | p, a :: as => (p, a) :: phased (phaseAfter p a.move?.toList) as

/-- Whether an action is work: everything that is asked of connections and of time, and the notes
    about steps. -/
def Action.isWork : Action → Bool
  | .log e => e.area == .steps || e.area == .runs && "step ".toList.isPrefixOf e.message.toList
  | .tells _ => false
  | .opens _ | .sends _ _ | .closes _ | .sleeps _ => true

/-- Work may be done while steps are executed, and before that the target may be connected to. -/
def Phase.Admits (target : String) (p : Phase) (a : Action) : Prop :=
  p = .executing ∨ (p = .connecting ∧ a = .opens target)

theorem move?_moveEntry (p q : Phase) : (Action.log (moveEntry p q)).move? = some (p, q) := by
  cases p <;> cases q <;> decide

/-- An entry that is written for no move shows none. -/
theorem move?_log {e : LogEntry} (other : ∀ p q, e ≠ moveEntry p q) :
    (Action.log e).move? = none := by
  simp only [Action.move?, List.find?_eq_none]
  exact fun m _ => by simpa using other m.1 m.2

/-- Only the runs of sessions write about moves. -/
theorem move?_of_area {e : LogEntry} (area : e.area ≠ .runs) : (Action.log e).move? = none :=
  move?_log fun _ _ same => area (congrArg LogEntry.area same)

theorem move?_step (message : String) :
    (Action.log ⟨.debug, .runs, "step " ++ message⟩).move? = none := by
  refine move?_log fun p q same => ?_
  have text := congrArg String.toList (congrArg LogEntry.message same)
  simp [moveEntry, String.toList_append] at text

theorem move?_failed (message : String) :
    (Action.log ⟨.debug, .runs, "session failed: " ++ message⟩).move? = none := by
  refine move?_log fun p q same => ?_
  have text := congrArg String.toList (congrArg LogEntry.message same)
  cases p <;> simp [moveEntry, String.toList_append, Phase.name] at text

@[simp] theorem movesIn_append (xs ys : List Action) :
    movesIn (xs ++ ys) = movesIn xs ++ movesIn ys := List.filterMap_append ..

theorem phaseAfter_append (p : Phase) (xs ys : List (Phase × Phase)) :
    phaseAfter p (xs ++ ys) = phaseAfter (phaseAfter p xs) ys := List.foldl_append ..

theorem movesIn_cons (a : Action) (as : List Action) :
    movesIn (a :: as) = a.move?.toList ++ movesIn as := by
  cases moves : a.move? <;> simp [movesIn, moves]

theorem phased_append (p : Phase) (xs ys : List Action) :
    phased p (xs ++ ys) = phased p xs ++ phased (phaseAfter p (movesIn xs)) ys := by
  induction xs generalizing p with
  | nil => rfl
  | cons a as ih => rw [List.cons_append, phased, phased, ih, movesIn_cons, phaseAfter_append]; rfl

/-- Where nothing moves all is done in one phase. -/
theorem phased_of_still (p : Phase) {trace : List Action} (still : ∀ a ∈ trace, a.move? = none) :
    phased p trace = trace.map (p, ·) := by
  induction trace with
  | nil => rfl
  | cons a as ih =>
    have here : a.move? = none := still a List.mem_cons_self
    rw [phased, here, List.map_cons]
    exact congrArg _ (ih fun b known => still b (List.mem_cons_of_mem a known))

/-! ## What is added to a trace -/

/-- A state follows another one in the same phase, and all that was done in between is of some
    kind. -/
def Running.Adds (P : Action → Prop) (r r' : Running σ ω) : Prop :=
  r'.phase = r.phase ∧ ∃ new, r'.world.trace = r.world.trace ++ new ∧ ∀ a ∈ new, P a

instance (P : Action → Prop) : IsPreorder (Running σ ω) (Running.Adds P) where
  refl r := ⟨rfl, [], (List.append_nil _).symm, nofun⟩
  trans := by
    rintro r r' r'' ⟨same, new, added, kind⟩ ⟨same', new', added', kind'⟩
    refine ⟨same'.trans same, new ++ new', by rw [added', added, List.append_assoc], ?_⟩
    exact fun a known => (List.mem_append.mp known).elim (kind a) (kind' a)

namespace Act

variable {P : Action → Prop}

theorem record_adds {a : Action} (kind : P a) :
    Leads (Running.Adds P) (record a : Act σ ω Unit) :=
  fun _ => ⟨rfl, [a], rfl, by simpa using kind⟩

/-- What changes the world but not its trace adds nothing. -/
theorem scripts_add : ScriptsRespect (Running.Adds (σ := σ) (ω := ω) P) :=
  fun _ same r => ⟨rfl, [], (same r.world).1.trans (List.append_nil _).symm, nofun⟩

theorem modifyContext_adds (f : SessionContext σ → SessionContext σ) :
    Leads (Running.Adds P) (modifyContext f : Act σ ω Unit) :=
  fun _ => ⟨rfl, [], (List.append_nil _).symm, nofun⟩

/-- An event is told, and its audience may write to the log. -/
theorem emit_adds {e : Event} (kind : P (.tells e))
    (writes : ∀ listening, ∀ x ∈ (audience e listening).1, P (.log x)) :
    Leads (Running.Adds P) (emit audience e : Act σ ω Unit) := by
  intro r
  change Running.Adds P r (exec (finish (audience e r.world.audience).2.1) _).2
  rw [exec_finish]
  refine ⟨rfl, .tells e :: (audience e r.world.audience).1.map Action.log, ?_, ?_⟩
  · exact List.append_assoc ..
  · simpa using ⟨kind, writes r.world.audience⟩

/-- Templates write to the log for themselves. -/
theorem resolve_adds (writes : ∀ x : LogEntry, x.area = .templates → P (.log x)) (v : Value) :
    Leads (Running.Adds P) (resolve v : Act σ ω Value) := by
  intro r
  obtain ⟨entries, logged, own⟩ := Template.resolve_writes r.context.funcs Template.callLimit v
    r.situation.memory
  change Running.Adds P r (exec (MonadExcept.ofExcept _) _).2
  rw [exec_ofExcept]
  refine ⟨rfl, entries.map .log, ?_, ?_⟩
  · exact congrArg (fun log => r.world.trace ++ log.map Action.log) logged
  · simpa using fun x known => writes x (own x known)

theorem closeQuietly_adds (c : Connection) :
    Leads (Running.Adds fun a => a.move? = none) (closeQuietly c : Act σ ω Unit) :=
  closeQuietly_leads (scripts_add.close (record_adds rfl)) fun _ =>
    record_adds (move?_of_area nofun)

end Act

/-- An audience that keeps out of the log of runs and steps. -/
def Audience.IsDiscreet (audience : Audience ω) : Prop :=
  ∀ e listening, ∀ x ∈ (audience e listening).1, x.area ≠ .runs ∧ x.area ≠ .steps

theorem Audience.absent_isDiscreet : Audience.absent.IsDiscreet := fun _ _ => nofun

/-- An action that is neither a move nor work. -/
def Action.IsAside (a : Action) : Prop := a.move? = none ∧ a.isWork = false

theorem aside_of_area {e : LogEntry} (runs : e.area ≠ .runs) (steps : e.area ≠ .steps) :
    (Action.log e).IsAside :=
  ⟨move?_of_area runs, by simp [Action.isWork, runs, steps]⟩

section Discreet

variable (discreet : audience.IsDiscreet)
include discreet

/-- Telling an event is nothing but an aside. -/
theorem emit_aside {P : Action → Prop} (aside : ∀ a, a.IsAside → P a) (e : Event) :
    Leads (Running.Adds P) (Act.emit audience e : Act σ ω Unit) :=
  Act.emit_adds (aside _ ⟨rfl, rfl⟩) fun listening x known =>
    aside _ (aside_of_area (discreet e listening x known).1 (discreet e listening x known).2)

/-- Connecting is work, and the rest of it asides. -/
theorem connectTo_adds {P : Action → Prop} (aside : ∀ a, a.IsAside → P a) {address : String}
    (opens : P (.opens address)) :
    Leads (Running.Adds P) (connectTo audience address : Act σ ω Connection) :=
  connectTo_leads (Act.scripts_add.openAt (Act.record_adds opens)) (emit_aside discreet aside)

/-- Nothing that a step does is a move. -/
theorem still_respected :
    StepsRespect audience (Running.Adds (σ := σ) fun a => a.move? = none) where
  numbers step number := Act.record_adds <| by
    rw [String.append_assoc, String.append_assoc]
    exact move?_step _
  describes _ := Act.record_adds (move?_of_area nofun)
  tells := emit_aside discreet fun _ aside => aside.1
  resolves := Act.resolve_adds fun _ own => move?_of_area (by simp [own])
  sleeps _ := Act.scripts_add.sleep (Act.record_adds rfl)
  sends _ _ := Act.scripts_add.sendTo (Act.record_adds rfl)
  counts f _ := Act.modifyContext_adds f
  connects address _ := by
    refine (connectTo_adds discreet (fun _ aside => aside.1) rfl).bind fun _ =>
      Leads.get.bind fun r => (Act.modifyContext_adds _).bind fun _ =>
        closeAny_leads (fun _ => ?_) Act.closeQuietly_adds r.context.connection
    exact Act.record_adds (move?_of_area nofun)

end Discreet

/-! ## Moves -/

/-- A state follows another one after some moves, and work was done only as phases admit it. -/
def Running.Moves (target : String) (r : Running σ ω) (moves : List (Phase × Phase))
    (r' : Running σ ω) : Prop :=
  r'.phase = phaseAfter r.phase moves ∧
    ∃ new, r'.world.trace = r.world.trace ++ new ∧ movesIn new = moves ∧
      ∀ p a, (p, a) ∈ phased r.phase new → a.isWork → p.Admits target a

namespace Running

variable {target : String} {r r' r'' : Running σ ω}

theorem Moves.trans {moves moves' : List (Phase × Phase)} (first : r.Moves target moves r')
    (second : r'.Moves target moves' r'') : r.Moves target (moves ++ moves') r'' := by
  obtain ⟨phase, new, added, moved, admitted⟩ := first
  obtain ⟨phase', new', added', moved', admitted'⟩ := second
  refine ⟨by rw [phase', phase, phaseAfter_append], new ++ new', ?_, ?_, fun p a known work => ?_⟩
  · rw [added', added, List.append_assoc]
  · rw [movesIn_append, moved, moved']
  · rw [phased_append, moved, ← phase] at known
    exact (List.mem_append.mp known).elim (admitted p a · work) (admitted' p a · work)

/-- Where nothing moves, work is done that the phase admits. -/
theorem Adds.moves {P : Action → Prop} (adds : r.Adds P r')
    (still : ∀ a, P a → a.move? = none ∧ (a.isWork → r.phase.Admits target a)) :
    r.Moves target [] r' := by
  obtain ⟨phase, new, added, kind⟩ := adds
  refine ⟨phase, new, added, ?_, fun p a known work => ?_⟩
  · simpa [movesIn] using fun a known => (still a (kind a known)).1
  · rw [phased_of_still r.phase fun a known => (still a (kind a known)).1] at known
    obtain ⟨b, known, same⟩ := List.mem_map.mp known
    cases same
    exact (still a (kind a known)).2 work

end Running

namespace Session

variable {target : String}

theorem enter_moves (q : Phase) (r : Running σ ω) :
    r.Moves target [(r.phase, q)] (exec (Act.enter q) r).2 := by
  have entry : (Action.log (moveEntry r.phase q)).move? = some (r.phase, q) := move?_moveEntry ..
  refine ⟨rfl, [.log (moveEntry r.phase q)], rfl, by simp [movesIn, entry], ?_⟩
  intro p a known work
  obtain ⟨rfl, rfl⟩ : p = r.phase ∧ a = .log (moveEntry r.phase q) := by simpa [phased] using known
  simp [Action.isWork, moveEntry, String.toList_append] at work

/-- Asides are admitted in every phase. -/
theorem aside_moves {r r' : Running σ ω} (adds : r.Adds Action.IsAside r') :
    r.Moves target [] r' :=
  adds.moves fun _ aside => ⟨aside.1, fun work => nomatch aside.2.symm.trans work⟩

section Discreet

variable (discreet : audience.IsDiscreet)
include discreet

/-- A session that defers connecting starts without a move. -/
theorem start_moves_of_deferred {s : Session σ} (defers : s.config.defersConnection)
    (r : Running σ ω) : r.Moves target [] (exec (start audience s) r).2 := by
  rw [start, if_pos defers]
  exact aside_moves (emit_aside discreet (fun _ aside => aside) .started r)

/-- A session that connects does only that in its first phase. -/
theorem start_moves {s : Session σ} (defers : ¬ s.config.defersConnection) {r : Running σ ω}
    (free : r.context.connection = none) :
    r.Moves s.config.target [(r.phase, .connecting)] (exec (start audience s) r).2 := by
  let kind (a : Action) : Prop := a.IsAside ∨ a = .opens s.config.target
  have connects : Leads (Running.Adds kind) (do
      let c ← connectTo audience s.config.target
      Act.modifyContext fun x => { x with connection := some c }
      Act.emit audience .started : Act σ ω Unit) :=
    (connectTo_adds discreet (fun _ => .inl) (.inr rfl)).bind fun _ =>
      (Act.modifyContext_adds _).bind fun _ => emit_aside discreet (fun _ => .inl) .started
  rw [exec_start_connects audience defers free]
  refine (enter_moves .connecting r).trans ((connects _).moves ?_)
  rintro a (aside | rfl)
  · exact ⟨aside.1, fun work => nomatch aside.2.symm.trans work⟩
  · exact ⟨rfl, fun _ => .inr ⟨rfl, rfl⟩⟩

/-- Steps are executed in the phase for them. -/
theorem execute_moves (s : Session σ) (r : Running σ ω) :
    r.Moves target [(r.phase, .executing)] (exec (execute audience s) r).2 := by
  have steps := (still_respected discreet).runSteps s s.steps 0 (exec (Act.enter .executing) r).2
  rw [execute, exec_bind]
  exact (enter_moves .executing r).trans (steps.moves fun _ still => ⟨still, fun _ => .inl rfl⟩)

end Discreet

/-- The end of a session is the move to the last phase, unless closing is interrupted. -/
theorem release_moves {r : Running σ ω} (executing : r.phase = .executing) :
    r.Moves target (match (exec release r).1 with
      | .ok _ => [(.executing, .closed)]
      | .error _ => []) (exec release r).2 := by
  have lets : Leads (Running.Adds fun a => a.move? = none)
      (letGo fun _ => pure () : Act σ ω Unit) :=
    Leads.get.bind fun r => (Act.modifyContext_adds _).bind fun _ =>
      closeAny_leads (fun _ => .pure ()) Act.closeQuietly_adds r.context.connection
  have closes : r.Moves target [] (exec (letGo fun _ => pure ()) r).2 :=
    (lets r).moves fun _ still => ⟨still, fun _ => .inl executing⟩
  rw [release, exec_bind]
  rcases ran : exec (letGo fun _ => pure ()) r with ⟨f | _, left⟩
  · rw [ran] at closes
    exact closes
  · rw [ran] at closes
    have still : left.phase = .executing := closes.1.trans executing
    rw [← still]
    exact closes.trans (enter_moves .closed left)

end Session

end SessionScript
