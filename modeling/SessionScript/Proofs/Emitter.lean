import SessionScript.Emitter

/-!
# Emissions to harmless listeners

Listeners that only fail in ways that can be handled, and change nothing but subscriptions, are all
called by an emission, in order and whatever the others do. The emission does not fail itself.
-/

namespace SessionScript.Emitter

variable {ℓ τ : Type}

/-- Whether a listener does nothing but subscribe or unsubscribe a listener. -/
def Deed.isRegistration : Deed ℓ → Bool
  | .subscribe _ _ | .unsubscribe _ _ => true
  | .emit _ _ => false

/-- Listeners that change nothing but subscriptions and never interrupt the program. -/
structure Behaviour.IsHarmless (b : Behaviour ℓ τ) : Prop where
  registers : ∀ l args memory, ∀ d ∈ (b.react l args memory).1.deeds, d.isRegistration
  fails : ∀ l args memory f,
    (b.react l args memory).1.failure = some f → f.isInterruption = false

/-- The arguments that a listener receives, if it is called. -/
def Occurrence.heard? [DecidableEq ℓ] (l : ℓ) : Occurrence ℓ → Option (List Value)
  | .call l' args => if l' = l then some args else none
  | .log _ => none

/-- What a listener received, in order. -/
def received [DecidableEq ℓ] (l : ℓ) (trace : List (Occurrence ℓ)) : List (List Value) :=
  trace.filterMap (Occurrence.heard? l)

section Deliveries

variable [BEq ℓ] (b : Behaviour ℓ τ) (depth : Nat)

/-- Does what a listener does to the emitter. -/
def perform (d : Deed ℓ) (s : State ℓ τ) : Option Failure × State ℓ τ :=
  match d with
  | .subscribe event l => (none, { s with emitter := s.emitter.subscribe event l })
  | .unsubscribe event l => (none, { s with emitter := s.emitter.unsubscribe event l })
  | .emit event args => emit b depth event args s

/-- Calls one listener of an event. A failure is given only if it interrupts the program. -/
def deliver (event : String) (args : List Value) (l : ℓ) (s : State ℓ τ) :
    Option Failure × State ℓ τ :=
  let s := s.add (.call l args)
  let (reaction, memory) := b.react l args s.memory
  let (interrupted, s) := runAll (perform b depth) reaction.deeds { s with memory := memory }
  match interrupted.or reaction.failure with
  | none => (none, s)
  | some f => if f.isInterruption then (some f, s) else (none, s.add (.log (failureEntry b l event)))

/-- An emission calls the listeners that are subscribed when it begins. -/
theorem emit_succ (event : String) (args : List Value) (s : State ℓ τ) :
    emit b (depth + 1) event args s =
      runAll (deliver b depth event args) (s.emitter.listeners event) s := rfl

end Deliveries

section Harmless

variable [DecidableEq ℓ] {b : Behaviour ℓ τ}

/-- Registrations change the subscriptions and nothing else. -/
theorem runAll_perform (depth : Nat) :
    ∀ {deeds : List (Deed ℓ)}, (∀ d ∈ deeds, d.isRegistration) → ∀ s : State ℓ τ,
      ∃ emitter, runAll (perform b depth) deeds s = (none, { s with emitter := emitter })
  | [], _, s => ⟨s.emitter, rfl⟩
  | d :: deeds, registers, s => by
    obtain ⟨first, others⟩ := List.forall_mem_cons.mp registers
    cases d with
    | emit _ _ => cases first
    | subscribe event l => exact runAll_perform depth others _
    | unsubscribe event l => exact runAll_perform depth others _

/-- A listener is called, whatever comes of that, and nothing else is noted but log entries. -/
theorem deliver_harmless (harmless : b.IsHarmless) (depth : Nat) (event : String)
    (args : List Value) (l : ℓ) (s : State ℓ τ) :
    ∃ (s' : State ℓ τ) (entries : List LogEntry), deliver b depth event args l s = (none, s') ∧
      s'.trace = s.trace ++ .call l args :: entries.map .log := by
  have fails := harmless.fails l args s.memory
  have registers := harmless.registers l args s.memory
  rcases reacted : b.react l args (s.add (.call l args)).memory with ⟨reaction, memory⟩
  rw [show b.react l args s.memory = (reaction, memory) from reacted] at fails registers
  obtain ⟨emitter, done⟩ := runAll_perform (b := b) depth registers
    { s.add (.call l args) with memory := memory }
  rw [deliver]
  simp only [reacted, done, Option.none_or]
  cases failed : reaction.failure with
  | none => exact ⟨_, [], rfl, rfl⟩
  | some f =>
    have handled := fails f failed
    refine ⟨_, [failureEntry b l event], if_neg (by simp [handled]), ?_⟩
    simp [State.add]

/-- Every listener receives the arguments of an event as often as it is subscribed. -/
theorem emit_harmless (harmless : b.IsHarmless) (depth : Nat) (event : String) (args : List Value)
    (s : State ℓ τ) :
    ∃ s', emit b (depth + 1) event args s = (none, s') ∧ ∀ l,
      received l s'.trace =
        received l s.trace ++ List.replicate ((s.emitter.listeners event).count l) args := by
  have each (ls : List ℓ) : ∀ s : State ℓ τ, ∃ s', runAll (deliver b depth event args) ls s =
      (none, s') ∧ ∀ l, received l s'.trace =
        received l s.trace ++ List.replicate (ls.count l) args := by
    induction ls with
    | nil => exact fun s => ⟨s, rfl, fun l => by simp⟩
    | cons first ls ih =>
      intro s
      obtain ⟨called, entries, delivered, trace⟩ :=
        deliver_harmless harmless depth event args first s
      obtain ⟨s', rest, receives⟩ := ih called
      refine ⟨s', ?_, fun l => ?_⟩
      · rw [runAll, delivered]
        exact rest
      · rw [receives l, trace]
        have unheard : (entries.map Occurrence.log).filterMap (Occurrence.heard? l) = [] := by
          simp [Occurrence.heard?]
        by_cases same : first = l <;>
          simp [received, Occurrence.heard?, unheard, same, List.replicate_succ]
  exact each (s.emitter.listeners event) s

end Harmless

end SessionScript.Emitter
