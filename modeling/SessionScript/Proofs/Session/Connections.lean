import SessionScript.Proofs.Session.Paths
import SessionScript.Proofs.Session.Simulation

/-!
# Connection safety

A ledger is kept along a trace: which connections a session obtained, in order, and which ones it
closed. However openings, messages, pauses and closings end, what is open is always what the context
holds, so that a message goes to the connection that was obtained last, and at the end of a session
every connection that it obtained was closed exactly once.
-/

namespace SessionScript

variable {σ ω : Type} {audience : Audience ω}

/-- What is known of connections: how the openings to come are going to end, how many connections
    were opened at all, and which ones a session obtained and closed, in order. -/
structure Ledger where
  openings : List Ending
  opened : Nat
  obtained : List Connection
  closed : List Connection

namespace Ledger

/-- The ledger after an action. An opening that goes well gives the next connection. -/
def record (l : Ledger) : Action → Ledger
  | .opens _ =>
    match l.openings.head?.join with
    | none =>
      { l with
        openings := l.openings.drop 1
        opened := l.opened + 1
        obtained := l.obtained ++ [.opened l.opened] }
    | some _ => { l with openings := l.openings.drop 1 }
  | .closes c => { l with closed := l.closed ++ [c] }
  | _ => l

/-- The ledger after actions. -/
def recordAll (l : Ledger) (deeds : List Action) : Ledger := deeds.foldl record l

/-- A message may be written only to the connection that was obtained last, and only while it is
    not closed. -/
def Permits (l : Ledger) : Action → Prop
  | .sends c _ => l.obtained.getLast? = some c ∧ c ∉ l.closed
  | _ => True

/-- Every action is permitted by the ledger of those before it. -/
def Allows : Ledger → List Action → Prop
  | _, [] => True
  | l, a :: as => l.Permits a ∧ (l.record a).Allows as

theorem recordAll_append (l : Ledger) (xs ys : List Action) :
    l.recordAll (xs ++ ys) = (l.recordAll xs).recordAll ys := List.foldl_append ..

theorem allows_append {l : Ledger} {xs ys : List Action} (hxs : l.Allows xs)
    (hys : (l.recordAll xs).Allows ys) : l.Allows (xs ++ ys) := by
  induction xs generalizing l with
  | nil => exact hys
  | cons x xs ih => exact ⟨hxs.1, ih hxs.2 hys⟩

/-- Wherever a trace is cut, the action there is permitted. -/
theorem Allows.permits {l : Ledger} {xs ys : List Action} {a : Action}
    (allowed : l.Allows (xs ++ a :: ys)) : (l.recordAll xs).Permits a := by
  induction xs generalizing l with
  | nil => exact allowed.1
  | cons x xs ih => exact ih allowed.2

/-- A ledger fits a situation in which some connections are open, oldest first. -/
structure Fits (first : Nat) (l : Ledger) (here : Situation σ) (out : List Connection) : Prop where
  openings : l.openings = here.openings
  opened : l.opened = here.opened
  settled : l.closed ++ out = l.obtained
  nodup : l.obtained.Nodup
  below : ∀ n, .opened n ∈ l.obtained → n < l.opened
  all : ∀ n, first ≤ n → n < l.opened → .opened n ∈ l.obtained
  since : first ≤ l.opened

section Fits

variable {first : Nat} {l : Ledger} {here there : Situation σ} {out : List Connection}

/-- A ledger looks at what is scripted for openings and at their number only. -/
theorem Fits.congr (fits : l.Fits first here out) (openings : there.openings = here.openings)
    (opened : there.opened = here.opened) : l.Fits first there out :=
  { fits with
    openings := fits.openings.trans openings.symm
    opened := fits.opened.trans opened.symm }

/-- Templates leave connections alone. -/
theorem Fits.still (fits : l.Fits first here here.context.connection.toList)
    (same : here.SameBut there) : l.Fits first there there.context.connection.toList := by
  rw [same.connection]
  exact fits.congr same.openings same.opened

theorem Fits.opens (fits : l.Fits first here out) (url : String)
    (ended : here.openings.head?.join = none) (held : Option Connection) :
    (l.record (.opens url)).Fits first (here.opensOnce.oneMore.hold held)
      (out ++ [.opened here.opened]) := by
  have ended' : l.openings.head?.join = none := by rw [fits.openings, ended]
  have new : .opened l.opened ∉ l.obtained := fun known => Nat.lt_irrefl _ (fits.below _ known)
  rw [record, ended']
  refine ⟨?_, ?_, ?_, ?_, ?_, ?_, ?_⟩
  · exact congrArg (List.drop 1) fits.openings
  · exact congrArg (· + 1) fits.opened
  · simp only [← fits.settled, fits.opened, List.append_assoc]
  · refine List.nodup_append.mpr ⟨fits.nodup, by simp, ?_⟩
    rintro c known c' latest rfl
    obtain rfl : c = .opened l.opened := by simpa using latest
    exact new known
  · intro n known
    rcases List.mem_append.mp known with old | latest
    · exact Nat.lt_succ_of_lt (fits.below n old)
    · obtain rfl : n = l.opened := by simpa using latest
      exact Nat.lt_succ_self _
  · intro n since before
    rcases Nat.lt_succ_iff_lt_or_eq.mp before with before | rfl
    · exact List.mem_append_left _ (fits.all n since before)
    · simp
  · exact Nat.le_succ_of_le fits.since

theorem Fits.fails (fits : l.Fits first here out) (url : String) {f : Failure}
    (ended : here.openings.head?.join = some f) :
    (l.record (.opens url)).Fits first here.opensOnce out := by
  have ended' : l.openings.head?.join = some f := by rw [fits.openings, ended]
  rw [record, ended']
  exact { fits with openings := congrArg (List.drop 1) fits.openings }

/-- The connection that is closed first is the oldest one that is open. -/
theorem Fits.closes {c : Connection} (fits : l.Fits first here (c :: out)) :
    (l.record (.closes c)).Fits first here.closesOnce out :=
  { fits with settled := by simp [record, ← fits.settled] }

/-- The only connection that is open is the last one that was obtained. -/
theorem Fits.permits {c : Connection} (fits : l.Fits first here [c]) (m : Message) :
    l.Permits (.sends c m) := by
  constructor
  · simp [← fits.settled]
  · intro closed
    have once := fits.nodup
    rw [← fits.settled] at once
    exact (List.nodup_append.mp once).2.2 c closed c (by simp) rfl

end Fits

end Ledger

/-! ## Steps and sessions keep the ledger -/

/-- A turn keeps a ledger if it does what is allowed and leaves open what it holds. -/
def Turn.Keeps (first : Nat) (l : Ledger) (t : Turn σ) : Prop :=
  l.Allows t.deeds ∧
    (l.recordAll t.deeds).Fits first t.after t.after.context.connection.toList

section Keeps

variable {first : Nat} {l : Ledger} {here : Situation σ}

/-- A step keeps the ledger on each of its paths. -/
theorem Step.Takes.keeps {config : Config} {step : Step} {t : Turn σ}
    (takes : step.Takes config here t)
    (fits : l.Fits first here here.context.connection.toList) : t.Keeps first l := by
  cases takes with
  | slept ended => exact ⟨⟨trivial, trivial⟩, fits.congr rfl rfl⟩
  | disturbed ended => exact ⟨⟨trivial, trivial⟩, fits.congr rfl rfl⟩
  | unresolved resolved => exact ⟨trivial, fits.still (Situation.resolve_sameBut resolved)⟩
  | @refused _ v _ _ resolved ended _ =>
    have still := fits.still (Situation.resolve_sameBut resolved)
    exact ⟨⟨trivial, trivial⟩, still.fails (config.address (resolvedText v)) ended⟩
  | @openingInterrupted _ v _ _ resolved ended _ =>
    have still := fits.still (Situation.resolve_sameBut resolved)
    exact ⟨⟨trivial, trivial⟩, still.fails (config.address (resolvedText v)) ended⟩
  | @connected _ v there resolved ended free =>
    have same := Situation.resolve_sameBut resolved
    have opened := (fits.still same).opens (config.address (resolvedText v)) ended
      (some (.opened there.opened))
    rw [same.connection, free] at opened
    exact ⟨⟨trivial, trivial⟩, opened⟩
  | @replaced _ v there old resolved ended held =>
    have same := Situation.resolve_sameBut resolved
    have opened := (fits.still same).opens (config.address (resolvedText v)) ended
      (some (.opened there.opened))
    rw [same.connection, held] at opened
    exact ⟨⟨trivial, trivial, trivial⟩, opened.closes⟩
  | missing free => exact ⟨trivial, fits⟩
  | unencoded held encoded => exact ⟨trivial, fits.still (Situation.encode_sameBut encoded)⟩
  | @sent _ c m _ held encoded _ =>
    have still := fits.still (Situation.encode_sameBut encoded)
    rw [held] at fits
    exact ⟨⟨fits.permits m, trivial⟩, still.congr rfl rfl⟩
  | @unsent _ c m _ _ held encoded _ _ =>
    have still := fits.still (Situation.encode_sameBut encoded)
    rw [held] at fits
    exact ⟨⟨fits.permits m, trivial⟩, still.congr rfl rfl⟩
  | @sendingInterrupted _ c m _ _ held encoded _ _ =>
    have still := fits.still (Situation.encode_sameBut encoded)
    rw [held] at fits
    exact ⟨⟨fits.permits m, trivial⟩, still.congr rfl rfl⟩

/-- What follows a turn keeps the ledger as the turn left it. -/
theorem Turn.Keeps.andThen {t : Turn σ} {next : Situation σ → Turn σ} (kept : t.Keeps first l)
    (hnext : (next t.after).Keeps first (l.recordAll t.deeds)) : (t.andThen next).Keeps first l := by
  unfold Turn.andThen
  split
  · exact kept
  · refine ⟨Ledger.allows_append kept.1 hnext.1, ?_⟩
    rw [Ledger.recordAll_append]
    exact hnext.2

/-- Steps keep the ledger, wherever they stop. -/
theorem Session.turnFrom_keeps (config : Config) (steps : List Step) :
    ∀ n {l : Ledger} {here : Situation σ},
      l.Fits first here here.context.connection.toList →
        (turnFrom config n steps here).Keeps first l := by
  induction steps with
  | nil => exact fun n _ _ fits => ⟨trivial, fits⟩
  | cons step steps ih =>
    intro n l here fits
    have kept : (step.turnAt config n here).Keeps first l := (step.turn_takes config here).keeps fits
    exact kept.andThen (ih (n + 1) kept.2)

/-- At the end of a session nothing is open. -/
theorem Situation.Releases.keeps {t : Turn σ} (releases : here.Releases t)
    (fits : l.Fits first here here.context.connection.toList) :
    l.Allows t.deeds ∧ (l.recordAll t.deeds).Fits first t.after [] := by
  cases releases with
  | nothing free =>
    rw [free] at fits
    exact ⟨trivial, fits.congr rfl rfl⟩
  | closed held handled =>
    rw [held] at fits
    exact ⟨⟨trivial, trivial⟩, fits.closes.congr rfl rfl⟩
  | interrupted held ended interrupted =>
    rw [held] at fits
    exact ⟨⟨trivial, trivial⟩, fits.closes.congr rfl rfl⟩

/-- A whole session does what its ledger allows and leaves nothing open. -/
theorem Session.Takes.keeps {s : Session σ} {course : Course σ} (takes : s.Takes here course)
    (free : ¬ s.config.defersConnection → here.context.connection = none)
    (fits : l.Fits first here here.context.connection.toList) :
    l.Allows course.deeds ∧ (l.recordAll course.deeds).Fits first course.after [] := by
  cases takes with
  | refused defers ended handled =>
    rw [free defers] at fits
    exact ⟨⟨trivial, trivial⟩, (fits.fails s.config.target ended).congr rfl rfl⟩
  | interrupted defers ended interrupted =>
    rw [free defers] at fits
    exact ⟨⟨trivial, trivial⟩, (fits.fails s.config.target ended).congr rfl rfl⟩
  | @ran deeds start begins t u stepped releases =>
    have begun : l.Allows deeds ∧
        (l.recordAll deeds).Fits first start start.context.connection.toList := by
      cases begins with
      | deferred defers => exact ⟨trivial, fits⟩
      | opened defers ended =>
        rw [free defers] at fits
        exact ⟨⟨trivial, trivial⟩, (fits.opens s.config.target ended none).congr rfl rfl⟩
    have kept : (turnFrom s.config 0 s.steps (start.enter .executing)).Keeps first
        (l.recordAll deeds) :=
      turnFrom_keeps s.config s.steps 0 (begun.2.congr rfl rfl)
    rw [stepped] at kept
    have closed := releases.keeps kept.2
    refine ⟨Ledger.allows_append begun.1 (Ledger.allows_append kept.1 closed.1), ?_⟩
    rw [Ledger.recordAll_append, Ledger.recordAll_append]
    exact closed.2

end Keeps

/-! ## Whole runs -/

/-- The connection that an action closes. -/
def Action.closed? : Action → Option Connection
  | .closes c => some c
  | _ => none

/-- The connections that were closed, in order. -/
def closedIn (deeds : List Action) : List Connection := deeds.filterMap Action.closed?

theorem closedIn_append (xs ys : List Action) : closedIn (xs ++ ys) = closedIn xs ++ closedIn ys :=
  List.filterMap_append ..

/-- The ledger of a session that starts in a world with some connection, or none. -/
def Ledger.start (w : World σ ω) (held : Option Connection) : Ledger :=
  { openings := w.openings, opened := w.opened, obtained := held.toList, closed := [] }

theorem Ledger.recordAll_closed (l : Ledger) (deeds : List Action) :
    (l.recordAll deeds).closed = l.closed ++ closedIn deeds := by
  induction deeds generalizing l with
  | nil => simp [recordAll, closedIn]
  | cons a as ih =>
    have step : (l.record a).closed = l.closed ++ (Action.closed? a).toList := by
      cases a with
      | opens url => rw [record]; split <;> simp [Action.closed?]
      | _ => simp [record, Action.closed?]
    have rest : ((l.record a).recordAll as).closed = (l.record a).closed ++ closedIn as := ih _
    rw [step] at rest
    cases closes : Action.closed? a <;>
      simpa [closedIn, closes, recordAll] using rest

/-- What is obtained is new, or was there at the start. -/
theorem Ledger.mem_obtained {l : Ledger} {deeds : List Action} {c : Connection}
    (known : c ∈ (l.recordAll deeds).obtained) :
    c ∈ l.obtained ∨ ∃ n, l.opened ≤ n ∧ c = .opened n := by
  induction deeds generalizing l with
  | nil => exact .inl known
  | cons a as ih =>
    have step : (c ∈ (l.record a).obtained → c ∈ l.obtained ∨ c = .opened l.opened) ∧
        l.opened ≤ (l.record a).opened := by
      cases a with
      | opens url => rw [record]; split <;> simp +contextual
      | _ => simp +contextual [record]
    rcases ih known with early | ⟨n, late, rfl⟩
    · rcases step.1 early with old | rfl
      · exact .inl old
      · exact .inr ⟨_, Nat.le_refl _, rfl⟩
    · exact .inr ⟨n, Nat.le_trans step.2 late, rfl⟩

/-- What was obtained stays known. -/
theorem Ledger.obtained_mono {l : Ledger} {c : Connection} (known : c ∈ l.obtained)
    (deeds : List Action) : c ∈ (l.recordAll deeds).obtained := by
  induction deeds generalizing l with
  | nil => exact known
  | cons a as ih =>
    refine ih ?_
    cases a with
    | opens url => rw [record]; split <;> simp [known]
    | _ => exact known

theorem Ledger.fits_start {w : World σ ω} {held : Option Connection} {here : Situation σ}
    (openings : here.openings = w.openings) (opened : here.opened = w.opened)
    (fresh : ∀ n, held = some (.opened n) → n < w.opened) :
    (Ledger.start w held).Fits w.opened here held.toList where
  openings := openings.symm
  opened := opened.symm
  settled := rfl
  nodup := by cases held <;> simp [Ledger.start]
  below n known := fresh n (by simpa [Ledger.start] using known)
  all n since before := absurd before (Nat.not_lt.mpr since)
  since := Nat.le_refl _

/-- When nothing is open any more, what was obtained is what was closed. -/
theorem Ledger.Fits.closedIn {w : World σ ω} {held : Option Connection} {deeds : List Action}
    {first : Nat} {there : Situation σ}
    (fits : ((Ledger.start w held).recordAll deeds).Fits first there []) :
    closedIn deeds = ((Ledger.start w held).recordAll deeds).obtained := by
  rw [← fits.settled, Ledger.recordAll_closed]
  simp [Ledger.start]

/-- When nothing is open any more, what was obtained was closed exactly once. -/
theorem Ledger.Fits.closed_once {w : World σ ω} {held : Option Connection} {deeds : List Action}
    {first : Nat} {there : Situation σ}
    (fits : ((Ledger.start w held).recordAll deeds).Fits first there []) {c : Connection}
    (known : c ∈ ((Ledger.start w held).recordAll deeds).obtained) :
    (SessionScript.closedIn deeds).count c = 1 := by
  rw [fits.closedIn, fits.nodup.count, if_pos known]

/-- A connection that is none of those to come is never obtained by a session that holds none. -/
theorem Ledger.foreign {w : World σ ω} {c : Connection}
    (fresh : ∀ n, c = .opened n → n < w.opened) (deeds : List Action) :
    c ∉ ((Ledger.start w none).recordAll deeds).obtained := by
  intro known
  rcases Ledger.mem_obtained known with early | ⟨n, since, rfl⟩
  · simp [Ledger.start] at early
  · exact Nat.not_lt.mpr since (fresh n rfl)

namespace Session

/-- Whatever fails or interrupts a session, it closes every connection that it obtained exactly
    once, and writes only to the one that it obtained last, while that is open. A connection of the
    caller is obtained if connecting is deferred, and otherwise neither written to nor closed. The
    caller is told the outcome after that. -/
theorem call_closes_connections (quiet : audience.IsQuiet) (s : Session σ) (initial : Initial σ)
    (w : World σ ω) (fresh : ∀ n, initial.connection? = some (.opened n) → n < w.opened) :
    ∃ result after deeds,
      exec (call audience s) (s.atCall initial w) = (result, after) ∧
      after.deeds = deedsOf w.trace ++ deeds ∧
      (∀ n, w.opened ≤ n → n < after.world.opened →
        (closedIn deeds).count (.opened n) = 1) ∧
      (s.config.defersConnection → ∀ c, initial.connection? = some c →
        (closedIn deeds).count c = 1) ∧
      (¬ s.config.defersConnection → ∀ c, initial.connection? = some c →
        c ∉ closedIn deeds ∧ ∀ m, .sends c m ∉ deeds) ∧
      (∀ before c m later, deeds = before ++ .sends c m :: later →
        ((Ledger.start w (s.createContext initial).connection).recordAll before).obtained.getLast? =
          some c ∧ c ∉ closedIn before) ∧
      ∀ tell, exec (callThen audience s (some tell)) (s.atCall initial w) =
        match result with
        | .ok outcome => exec (do tell outcome; return outcome) after
        | .error f => (.error f, after) := by
  obtain ⟨after, ran, reached⟩ := call_follows quiet s (s.atCall initial w)
  let held := (s.createContext initial).connection
  let deeds := (s.course (s.atCall initial w).situation).deeds
  have holds : held = if s.config.defersConnection then initial.connection? else none :=
    s.createContext_connection initial
  have free : ¬ s.config.defersConnection → held = none := fun defers => by simp [holds, defers]
  have fresh' : ∀ n, held = some (.opened n) → n < w.opened := by
    intro n supplied
    rw [holds] at supplied
    split at supplied
    · exact fresh n supplied
    · cases supplied
  have kept : (Ledger.start w held).Allows deeds ∧
      ((Ledger.start w held).recordAll deeds).Fits w.opened
        (s.course (s.atCall initial w).situation).after [] :=
    (course_takes free).keeps free (Ledger.fits_start rfl rfl fresh')
  obtain ⟨allowed, fits⟩ := kept
  have written : ∀ before c m later, deeds = before ++ .sends c m :: later →
      ((Ledger.start w held).recordAll before).obtained.getLast? = some c ∧
        c ∉ closedIn before := by
    intro before c m later cut
    have permitted : ((Ledger.start w held).recordAll before).Permits (.sends c m) :=
      Ledger.Allows.permits (cut ▸ allowed)
    simpa [Ledger.Permits, Ledger.recordAll_closed, Ledger.start] using permitted
  refine ⟨_, after, deeds, ran, reached.deeds, ?_, ?_, ?_, written, ?_⟩
  · intro n since before
    have opened : after.world.opened = _ := congrArg Situation.opened reached.situation
    rw [opened, ← fits.opened] at before
    exact fits.closed_once (fits.all n since before)
  · intro defers c supplied
    have known : c ∈ (Ledger.start w held).obtained := by
      simp [Ledger.start, holds, defers, supplied]
    exact fits.closed_once (Ledger.obtained_mono known deeds)
  · intro defers c supplied
    have foreign : ∀ trace, c ∉ ((Ledger.start w held).recordAll trace).obtained := by
      rw [free defers]
      exact Ledger.foreign fun n same => fresh n (same ▸ supplied)
    refine ⟨fits.closedIn ▸ foreign deeds, fun m sent => ?_⟩
    obtain ⟨before, later, cut⟩ := List.append_of_mem sent
    exact foreign before (List.mem_of_getLast? (written before c m later cut).1)
  · intro tell
    rw [callThen, exec_bind, ran]
    cases (s.course (s.atCall initial w).situation).result <;> rfl

/-- A connection of the caller is closed once, also if sending is interrupted. -/
theorem call_closes_supplied_connection :
    let s : Session Unit := ⟨[.send (.text "hello")], { defersConnection := true }, []⟩
    let initial : Initial Unit := .bindings [] [] (some (.supplied "mine"))
    let w : World Unit Unit :=
      { host := (), audience := (), sendings := [some (.raise "CancelledError" "")] }
    ∃ result after deeds,
      exec (call Audience.absent s) (s.atCall initial w) = (result, after) ∧
        after.deeds = deeds ∧ (closedIn deeds).count (.supplied "mine") = 1 := by
  intro s initial w
  obtain ⟨result, after, deeds, ran, done, -, once, -⟩ :=
    call_closes_connections Audience.absent_isQuiet s initial w (fun n same => by cases same)
  exact ⟨result, after, deeds, ran, done, once rfl _ rfl⟩

end Session

end SessionScript
