import SessionScript.Proofs.Emitter

/-!
# Deliveries

Listeners may subscribe others, unsubscribe them and emit events while they are called, so that
emissions nest. The history of an emitter tells what was done to it: every emission in it stands
with its calls, and every call with the history of what its listener did. However listeners behave,
each emission of a history calls the listeners that were subscribed when it began.
-/

namespace SessionScript.Emitter

variable {ℓ τ : Type}

/-! ## Subscriptions -/

section Subscriptions

theorem lookup_filter_ne {event other : String} (differ : event ≠ other)
    (subscriptions : List (String × List ℓ)) :
    (subscriptions.filter (·.1 != event)).lookup other = subscriptions.lookup other := by
  induction subscriptions with
  | nil => rfl
  | cons s subscriptions ih =>
    by_cases here : s.1 = event
    · have elsewhere : (other == s.1) = false := by simpa [here] using differ.symm
      rw [List.filter_cons_of_neg (by simpa using here), List.lookup_cons, elsewhere, ih]
    · rw [List.filter_cons_of_pos (by simpa using here), List.lookup_cons, List.lookup_cons, ih]

theorem listeners_setListeners (e : Emitter ℓ) (event other : String) (ls : List ℓ) :
    (e.setListeners event ls).listeners other =
      if event = other then ls else e.listeners other := by
  rw [setListeners, listeners, List.lookup_cons]
  by_cases same : event = other
  · simp [same]
  · have elsewhere : (other == event) = false := by simpa using Ne.symm same
    simp [elsewhere, lookup_filter_ne same, same, listeners]

variable [BEq ℓ]

/-- What a deed makes of the listeners of an event. -/
def Deed.update (event : String) (ls : List ℓ) : Deed ℓ → List ℓ
  | .subscribe e l => if e = event then ls ++ [l] else ls
  | .unsubscribe e l => if e = event then ls.erase l else ls
  | .emit _ _ => ls

/-- The listeners of every event after some deeds, given those before them. -/
def subscribed (before : String → List ℓ) (deeds : List (Deed ℓ)) : String → List ℓ :=
  fun event => deeds.foldl (Deed.update event) (before event)

@[simp] theorem subscribed_nil (before : String → List ℓ) : subscribed before [] = before := rfl

theorem subscribed_append (before : String → List ℓ) (ds es : List (Deed ℓ)) :
    subscribed before (ds ++ es) = subscribed (subscribed before ds) es := by
  funext event
  exact List.foldl_append

theorem listeners_subscribe (e : Emitter ℓ) (event : String) (l : ℓ) :
    (e.subscribe event l).listeners = subscribed e.listeners [.subscribe event l] := by
  funext other
  rw [subscribe, listeners_setListeners]
  by_cases same : event = other <;> simp [subscribed, Deed.update, same]

theorem listeners_unsubscribe (e : Emitter ℓ) (event : String) (l : ℓ) :
    (e.unsubscribe event l).listeners = subscribed e.listeners [.unsubscribe event l] := by
  funext other
  rw [unsubscribe, listeners_setListeners]
  by_cases same : event = other <;> simp [subscribed, Deed.update, same]

end Subscriptions

/-! ## Histories -/

mutual

/-- What was done to an emitter, one thing after the other. -/
inductive History (ℓ : Type) where
  | done
  | subscribe (event : String) (l : ℓ) (later : History ℓ)
  | unsubscribe (event : String) (l : ℓ) (later : History ℓ)
  | emit (event : String) (args : List Value) (calls : Calls ℓ) (later : History ℓ)
  /-- An emission that nests too deep. It fails, and nothing is done after it. -/
  | refused (event : String) (args : List Value)

/-- The calls of an emission one after the other, each with what the listener did meanwhile and how
    it failed, if it did. -/
inductive Calls (ℓ : Type) where
  | done
  | call (l : ℓ) (meanwhile : History ℓ) (failure : Option Failure) (later : Calls ℓ)

end

/-- The listeners that were called. -/
def Calls.listeners : Calls ℓ → List ℓ
  | .done => []
  | .call l _ _ later => l :: later.listeners

/-- How a history ends: well, unless an emission was refused. -/
def History.failure : History ℓ → Option Failure
  | .done => none
  | .subscribe _ _ later | .unsubscribe _ _ later | .emit _ _ _ later => later.failure
  | .refused _ _ => some tooDeep

mutual

/-- The changes of subscriptions in a history, those by its listeners included, in the order of
    time. -/
def History.registrations : History ℓ → List (Deed ℓ)
  | .done | .refused _ _ => []
  | .subscribe event l later => .subscribe event l :: later.registrations
  | .unsubscribe event l later => .unsubscribe event l :: later.registrations
  | .emit _ _ calls later => calls.registrations ++ later.registrations

/-- The changes of subscriptions by the listeners that were called. -/
def Calls.registrations : Calls ℓ → List (Deed ℓ)
  | .done => []
  | .call _ meanwhile _ later => meanwhile.registrations ++ later.registrations

end

mutual

/-- What a history leaves in the trace: the calls in the order of time, and an entry of the log
    behind each that failed. -/
def History.trace (b : Behaviour ℓ τ) : History ℓ → List (Occurrence ℓ)
  | .done | .refused _ _ => []
  | .subscribe _ _ later | .unsubscribe _ _ later => later.trace b
  | .emit event args calls later => calls.trace b event args ++ later.trace b

/-- What the calls of an emission leave in the trace. -/
def Calls.trace (b : Behaviour ℓ τ) (event : String) (args : List Value) :
    Calls ℓ → List (Occurrence ℓ)
  | .done => []
  | .call l meanwhile failure later =>
    .call l args :: meanwhile.trace b ++
      (failure.map fun _ => .log (failureEntry b l event)).toList ++ later.trace b event args

end

mutual

/-- Some deeds have a history, which leads from one memory of the listeners to another: what they do
    is done in order up to a failure, and listeners that are called behave as they do. -/
def History.Follows (b : Behaviour ℓ τ) : History ℓ → List (Deed ℓ) → τ → τ → Prop
  | .done, deeds, memory, memory' => deeds = [] ∧ memory' = memory
  | .subscribe event l later, deeds, memory, memory' =>
    ∃ rest, deeds = .subscribe event l :: rest ∧ later.Follows b rest memory memory'
  | .unsubscribe event l later, deeds, memory, memory' =>
    ∃ rest, deeds = .unsubscribe event l :: rest ∧ later.Follows b rest memory memory'
  | .emit event args calls later, deeds, memory, memory' =>
    ∃ rest between, deeds = .emit event args :: rest ∧ calls.Follow b args memory between ∧
      later.Follows b rest between memory'
  | .refused event args, deeds, memory, memory' =>
    ∃ rest, deeds = .emit event args :: rest ∧ memory' = memory

/-- Calls with some arguments, in which every listener reacts to them with what it remembers, and
    fails as its reaction does or the emission that it made. -/
def Calls.Follow (b : Behaviour ℓ τ) (args : List Value) : Calls ℓ → τ → τ → Prop
  | .done, memory, memory' => memory' = memory
  | .call l meanwhile failure later, memory, memory' =>
    let (reaction, reacted) := b.react l args memory
    ∃ between, meanwhile.Follows b reaction.deeds reacted between ∧
      failure = meanwhile.failure.or reaction.failure ∧ later.Follow b args between memory'

end

section Delivery

variable [BEq ℓ]

mutual

/-- Every emission of a history, nested ones included, calls once for each subscription and in the
    order of subscriptions the listeners that are subscribed to the event when it begins, given the
    listeners of every event at the start. Only an emission within so many others is refused. -/
def History.Delivers : History ℓ → (limit : Nat) → (String → List ℓ) → Prop
  | .done, _, _ => True
  | .subscribe event l later, limit, before =>
    later.Delivers limit (subscribed before [.subscribe event l])
  | .unsubscribe event l later, limit, before =>
    later.Delivers limit (subscribed before [.unsubscribe event l])
  | .emit event _ calls later, limit, before =>
    calls.listeners = before event ∧ 0 < limit ∧ calls.Deliver (limit - 1) before ∧
      later.Delivers limit (subscribed before calls.registrations)
  | .refused _ _, limit, _ => limit = 0

/-- The emissions by the listeners that are called deliver in the same way. -/
def Calls.Deliver : Calls ℓ → (limit : Nat) → (String → List ℓ) → Prop
  | .done, _, _ => True
  | .call _ meanwhile _ later, limit, before =>
    meanwhile.Delivers limit before ∧
      later.Deliver limit (subscribed before meanwhile.registrations)

end

/-- Where emissions may nest, the emissions that do not are not refused. -/
theorem History.Delivers.failure_eq_none {limit : Nat} (allowed : 0 < limit) :
    ∀ {h : History ℓ} {before : String → List ℓ}, h.Delivers limit before → h.failure = none
  | .done, _, _ => rfl
  | .subscribe _ _ later, _, delivers | .unsubscribe _ _ later, _, delivers =>
    failure_eq_none (h := later) allowed delivers
  | .emit _ _ _ later, _, delivers => failure_eq_none (h := later) allowed delivers.2.2.2
  | .refused _ _, _, delivers => absurd delivers (Nat.ne_of_gt allowed)

/-- A history tells how some deeds lead from one state of an emitter to another. -/
structure History.Tells (b : Behaviour ℓ τ) (limit : Nat) (deeds : List (Deed ℓ))
    (s s' : State ℓ τ) (h : History ℓ) : Prop where
  follows : h.Follows b deeds s.memory s'.memory
  delivers : h.Delivers limit s.emitter.listeners
  listeners : s'.emitter.listeners = subscribed s.emitter.listeners h.registrations
  trace : s'.trace = s.trace ++ h.trace b

/-- The same of the calls of an emission. -/
structure Calls.Tell (b : Behaviour ℓ τ) (limit : Nat) (event : String) (args : List Value)
    (called : List ℓ) (s s' : State ℓ τ) (cs : Calls ℓ) : Prop where
  complete : cs.listeners = called
  follow : cs.Follow b args s.memory s'.memory
  deliver : cs.Deliver limit s.emitter.listeners
  listeners : s'.emitter.listeners = subscribed s.emitter.listeners cs.registrations
  trace : s'.trace = s.trace ++ cs.trace b event args

end Delivery

/-! ## Runs -/

section Runs

variable {b : Behaviour ℓ τ}

/-- Whether the listeners of an emitter fail in no other ways than such that can be handled. -/
def Behaviour.IsHandled (b : Behaviour ℓ τ) : Prop :=
  ∀ l args memory f, (b.react l args memory).1.failure = some f → f.isInterruption = false

/-- A history does not end with an interruption. -/
theorem History.failure_handled {h : History ℓ} {f : Failure} (failed : h.failure = some f) :
    f.isInterruption = false := by
  induction h using History.failure.induct with
  | case1 => cases failed
  | case2 event l later ih => exact ih failed
  | case3 event l later ih => exact ih failed
  | case4 event args calls later ih => exact ih failed
  | case5 event args =>
    cases failed
    rfl

variable [BEq ℓ]

/-- How some deeds go where so many emissions may nest: they have a history. -/
def HaveHistory (b : Behaviour ℓ τ) (limit : Nat) : Prop :=
  ∀ (deeds : List (Deed ℓ)) (s : State ℓ τ), ∃ (h : History ℓ) (s' : State ℓ τ),
    runAll (perform b limit) deeds s = (h.failure, s') ∧ h.Tells b limit deeds s s'

/-- How the call of a listener ends, by what it does and how it fails. -/
theorem deliver_eq {limit : Nat} {event : String} {args : List Value} {l : ℓ} {s : State ℓ τ}
    {reaction : Reaction ℓ} {memory : τ} {failed : Option Failure} {reached : State ℓ τ}
    (reacts : b.react l args s.memory = (reaction, memory))
    (ran : runAll (perform b limit) reaction.deeds { s.add (.call l args) with memory := memory } =
      (failed, reached)) :
    deliver b limit event args l s =
      match failed.or reaction.failure with
      | none => (none, reached)
      | some f =>
        if f.isInterruption then (some f, reached)
        else (none, reached.add (.log (failureEntry b l event))) := by
  have reacts : b.react l args (s.add (.call l args)).memory = (reaction, memory) := reacts
  cases ended : failed.or reaction.failure with
  | none => simp [deliver, reacts, ran, ended]
  | some f => simp [deliver, reacts, ran, ended]

/-- A listener is called, does what it does, and disturbs nobody if it fails. -/
theorem deliver_tells (handled : b.IsHandled) {limit : Nat} (histories : HaveHistory b limit)
    (event : String) (args : List Value) (l : ℓ) (s : State ℓ τ) :
    ∃ (meanwhile : History ℓ) (failure : Option Failure) (s' : State ℓ τ),
      deliver b limit event args l s = (none, s') ∧
        (Calls.call l meanwhile failure .done).Tell b limit event args [l] s s' := by
  rcases reacts : b.react l args s.memory with ⟨reaction, memory⟩
  obtain ⟨meanwhile, reached, ran, tells⟩ :=
    histories reaction.deeds { s.add (.call l args) with memory := memory }
  have follows : (Calls.call l meanwhile (meanwhile.failure.or reaction.failure) .done).Follow b
      args s.memory reached.memory := by
    rw [Calls.Follow, reacts]
    exact ⟨reached.memory, tells.follows, rfl, rfl⟩
  have deliver : (Calls.call l meanwhile (meanwhile.failure.or reaction.failure) .done).Deliver
      limit s.emitter.listeners := ⟨tells.delivers, trivial⟩
  have listeners : reached.emitter.listeners =
      subscribed s.emitter.listeners (meanwhile.registrations ++ []) := by
    rw [List.append_nil]
    exact tells.listeners
  have called : reached.trace = s.trace ++ .call l args :: meanwhile.trace b := by
    rw [tells.trace]
    exact List.append_assoc _ _ _
  cases failed : meanwhile.failure.or reaction.failure with
  | none =>
    rw [failed] at follows deliver
    refine ⟨meanwhile, none, reached, ?_, rfl, follows, deliver, listeners, ?_⟩
    · rw [deliver_eq reacts ran, failed]
    · simp [called, Calls.trace]
  | some f =>
    have isHandled : f.isInterruption = false := by
      rcases Option.or_eq_some_iff.mp failed with own | ⟨-, own⟩
      · exact History.failure_handled own
      · exact handled l args s.memory f (by rw [reacts]; exact own)
    rw [failed] at follows deliver
    refine ⟨meanwhile, some f, reached.add (.log (failureEntry b l event)), ?_, rfl, follows,
      deliver, listeners, ?_⟩
    · rw [deliver_eq reacts ran, failed]
      exact if_neg (by simp [isHandled])
    · simp [State.add, called, Calls.trace]

/-- The first call of an emission, and then the others. -/
theorem Calls.Tell.cons {limit : Nat} {event : String} {args : List Value} {l : ℓ} {ls : List ℓ}
    {s between s' : State ℓ τ} {meanwhile : History ℓ} {failure : Option Failure} {later : Calls ℓ}
    (first : (Calls.call l meanwhile failure .done).Tell b limit event args [l] s between)
    (others : later.Tell b limit event args ls between s') :
    (Calls.call l meanwhile failure later).Tell b limit event args (l :: ls) s s' where
  complete := congrArg (l :: ·) others.complete
  follow := by
    obtain ⟨there, follows, failed, rfl⟩ := first.follow
    exact ⟨_, follows, failed, others.follow⟩
  deliver := by
    have moved := first.listeners
    rw [Calls.registrations, Calls.registrations, List.append_nil] at moved
    exact ⟨first.deliver.1, moved ▸ others.deliver⟩
  listeners := by
    rw [others.listeners, first.listeners, ← subscribed_append]
    simp [Calls.registrations]
  trace := by
    rw [others.trace, first.trace]
    simp [Calls.trace]

/-- The listeners of an emission are called one after the other, all of them. -/
theorem runAll_deliver_tells (handled : b.IsHandled) {limit : Nat} (histories : HaveHistory b limit)
    (event : String) (args : List Value) (ls : List ℓ) :
    ∀ s : State ℓ τ, ∃ (calls : Calls ℓ) (s' : State ℓ τ),
      runAll (deliver b limit event args) ls s = (none, s') ∧
        calls.Tell b limit event args ls s s' := by
  induction ls with
  | nil => exact fun s => ⟨.done, s, rfl, rfl, rfl, trivial, rfl, (List.append_nil _).symm⟩
  | cons l ls ih =>
    intro s
    obtain ⟨meanwhile, failure, between, called, first⟩ :=
      deliver_tells handled histories event args l s
    obtain ⟨later, s', others, rest⟩ := ih between
    refine ⟨.call l meanwhile failure later, s', ?_, first.cons rest⟩
    rw [runAll, called]
    exact others

/-- What is done after an emission continues its history. -/
theorem Calls.Tell.andThen {limit : Nat} {event : String} {args : List Value}
    {deeds : List (Deed ℓ)} {s between s' : State ℓ τ} {calls : Calls ℓ} {later : History ℓ}
    (emission : calls.Tell b limit event args (s.emitter.listeners event) s between)
    (rest : later.Tells b (limit + 1) deeds between s') :
    (History.emit event args calls later).Tells b (limit + 1) (.emit event args :: deeds) s s' where
  follows := ⟨deeds, between.memory, rfl, emission.follow, rest.follows⟩
  delivers := ⟨emission.complete, Nat.succ_pos limit, emission.deliver,
    emission.listeners ▸ rest.delivers⟩
  listeners := by
    rw [rest.listeners, emission.listeners, ← subscribed_append, History.registrations]
  trace := by
    rw [rest.trace, emission.trace, History.trace, List.append_assoc]

/-- What is done after a change of subscriptions continues its history. -/
theorem History.Tells.subscribe {limit : Nat} {event : String} {l : ℓ} {deeds : List (Deed ℓ)}
    {s s' : State ℓ τ} {later : History ℓ}
    (rest : later.Tells b limit deeds { s with emitter := s.emitter.subscribe event l } s') :
    (History.subscribe event l later).Tells b limit (.subscribe event l :: deeds) s s' where
  follows := ⟨deeds, rfl, rest.follows⟩
  delivers := by
    rw [History.Delivers, ← listeners_subscribe]
    exact rest.delivers
  listeners := by
    rw [rest.listeners, listeners_subscribe, ← subscribed_append]
    rfl
  trace := rest.trace

theorem History.Tells.unsubscribe {limit : Nat} {event : String} {l : ℓ} {deeds : List (Deed ℓ)}
    {s s' : State ℓ τ} {later : History ℓ}
    (rest : later.Tells b limit deeds { s with emitter := s.emitter.unsubscribe event l } s') :
    (History.unsubscribe event l later).Tells b limit (.unsubscribe event l :: deeds) s s' where
  follows := ⟨deeds, rfl, rest.follows⟩
  delivers := by
    rw [History.Delivers, ← listeners_unsubscribe]
    exact rest.delivers
  listeners := by
    rw [rest.listeners, listeners_unsubscribe, ← subscribed_append]
    rfl
  trace := rest.trace

/-- Deeds have a history if, where emissions may nest, what listeners do within them has one. -/
theorem haveHistory_of_inner (handled : b.IsHandled) {limit : Nat}
    (inner : ∀ n, limit = n + 1 → HaveHistory b n) : HaveHistory b limit := by
  intro deeds
  induction deeds with
  | nil =>
    exact fun s => ⟨.done, s, rfl, ⟨rfl, rfl⟩, trivial, rfl, (List.append_nil _).symm⟩
  | cons d deeds ih =>
    intro s
    cases d with
    | subscribe event l =>
      obtain ⟨later, s', ran, rest⟩ := ih { s with emitter := s.emitter.subscribe event l }
      exact ⟨.subscribe event l later, s', ran, rest.subscribe⟩
    | unsubscribe event l =>
      obtain ⟨later, s', ran, rest⟩ := ih { s with emitter := s.emitter.unsubscribe event l }
      exact ⟨.unsubscribe event l later, s', ran, rest.unsubscribe⟩
    | emit event args =>
      cases limit with
      | zero =>
        exact ⟨.refused event args, s, rfl, ⟨deeds, rfl, rfl⟩, rfl, rfl, (List.append_nil _).symm⟩
      | succ n =>
        obtain ⟨calls, between, called, emission⟩ :=
          runAll_deliver_tells handled (inner n rfl) event args (s.emitter.listeners event) s
        obtain ⟨later, s', ran, rest⟩ := ih between
        refine ⟨.emit event args calls later, s', ?_, emission.andThen rest⟩
        rw [runAll, perform, emit_succ, called]
        exact ran

/-- Whatever is done has a history. The induction is on the number of emissions that may nest. -/
theorem haveHistory (handled : b.IsHandled) : ∀ limit, HaveHistory b limit
  | 0 => haveHistory_of_inner handled fun _ none => by cases none
  | limit + 1 => haveHistory_of_inner handled fun n same => by
    cases same
    exact haveHistory handled limit

/-- Whatever is done to an emitter, and however its listeners react in ways that can be handled: no
    emission fails, and there is a history of all that was done, to any depth. Each of its emissions
    calls, once for each subscription and in their order, the listeners that were subscribed when it
    began, and the listeners of an event are always those that the changes for this event made of
    the first ones. Emissions may nest as deep as there is room for. -/
theorem deliveries_by_snapshot (handled : b.IsHandled) (limit : Nat) (deeds : List (Deed ℓ))
    (s : State ℓ τ) :
    ∃ (h : History ℓ) (s' : State ℓ τ),
      runAll (perform b (limit + 1)) deeds s = (none, s') ∧
        h.Follows b deeds s.memory s'.memory ∧
        h.Delivers (limit + 1) s.emitter.listeners ∧
        s'.emitter.listeners = subscribed s.emitter.listeners h.registrations ∧
        s'.trace = s.trace ++ h.trace b := by
  obtain ⟨h, s', ran, tells⟩ := haveHistory handled (limit + 1) deeds s
  have succeeds : h.failure = none := tells.delivers.failure_eq_none (Nat.succ_pos limit)
  rw [succeeds] at ran
  exact ⟨h, s', ran, tells.follows, tells.delivers, tells.listeners, tells.trace⟩

end Runs

/-- Listeners of which the first takes back the second and tells of another event, and the second
    fails. -/
def intrusive : Behaviour String Unit where
  shown l := l
  react l _ memory :=
    if l = "first" then ({ deeds := [.unsubscribe "started" "second", .emit "request" []] }, memory)
    else ({ failure := some (.raise "RuntimeError" l) }, memory)

theorem deliveries_by_snapshot_of_intrusive :
    intrusive.IsHandled ∧
      ∃ (h : History String) (s' : State String Unit),
        runAll (perform intrusive (1 + 1))
            [.subscribe "started" "first", .subscribe "started" "second",
              .subscribe "request" "second", .emit "started" [.int 1]]
            { memory := () } = (none, s') ∧
          h.Follows intrusive
            [.subscribe "started" "first", .subscribe "started" "second",
              .subscribe "request" "second", .emit "started" [.int 1]] () s'.memory ∧
          h.Delivers (1 + 1) (fun _ => []) ∧
          s'.emitter.listeners = subscribed (fun _ => []) h.registrations ∧
          s'.trace = [] ++ h.trace intrusive := by
  have handled : intrusive.IsHandled := by
    intro l args memory f failed
    by_cases first : l = "first"
    · simp [intrusive, first] at failed
    · simp only [intrusive, first, if_false, Option.some.injEq] at failed
      subst failed
      rfl
  exact ⟨handled, deliveries_by_snapshot handled 1 _ { memory := () }⟩

/-- The second listener is called although the first one took it back meanwhile, and after it was
    called for the other event. -/
example :
    (runAll (perform intrusive 2)
        [.subscribe "started" "first", .subscribe "started" "second",
          .subscribe "request" "second", .emit "started" [.int 1]]
        { memory := () }).2.trace =
      [.call "first" [.int 1], .call "second" [], .log (failureEntry intrusive "second" "request"),
        .call "second" [.int 1], .log (failureEntry intrusive "second" "started")] := by
  rfl

end SessionScript.Emitter
