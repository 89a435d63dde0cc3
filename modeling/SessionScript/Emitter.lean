import SessionScript.Failure
import SessionScript.Log

/-!
# Emitters

Listeners subscribe to events by name. An event is delivered to the listeners that are subscribed
when its emission begins, in the order of their subscriptions. A listener may change subscriptions
and emit events itself; one that fails is noted in the log and disturbs nobody else.
-/

namespace SessionScript

/-- The subscriptions to events. -/
structure Emitter (ℓ : Type) where
  subscriptions : List (String × List ℓ) := []

namespace Emitter

variable {ℓ τ : Type}

/-- The listeners subscribed to an event. -/
def listeners (e : Emitter ℓ) (event : String) : List ℓ :=
  (e.subscriptions.lookup event).getD []

/-- Replaces the listeners of an event. -/
def setListeners (e : Emitter ℓ) (event : String) (ls : List ℓ) : Emitter ℓ :=
  { subscriptions := (event, ls) :: e.subscriptions.filter (·.1 != event) }

/-- Subscribes a listener after those that are subscribed. -/
def subscribe (e : Emitter ℓ) (event : String) (l : ℓ) : Emitter ℓ :=
  e.setListeners event (e.listeners event ++ [l])

/-- Takes back the first subscription of a listener. -/
def unsubscribe [BEq ℓ] (e : Emitter ℓ) (event : String) (l : ℓ) : Emitter ℓ :=
  e.setListeners event ((e.listeners event).erase l)

/-- What a listener does to the emitter that calls it. -/
inductive Deed (ℓ : Type) where
  | subscribe (event : String) (l : ℓ)
  | unsubscribe (event : String) (l : ℓ)
  | emit (event : String) (args : List Value)

/-- What a listener does when it is called, and how it fails in the end, if it does. -/
structure Reaction (ℓ : Type) where
  deeds : List (Deed ℓ) := []
  failure : Option Failure := none

/-- What happens during an emission. -/
inductive Occurrence (ℓ : Type) where
  | call (l : ℓ) (args : List Value)
  | log (entry : LogEntry)

/-- How listeners behave: what they are called, and what they do with arguments, given what they
    remember. -/
structure Behaviour (ℓ τ : Type) where
  shown : ℓ → String
  react : ℓ → List Value → τ → Reaction ℓ × τ

/-- An emitter in use: its subscriptions, the memory of its listeners and what happened. -/
structure State (ℓ τ : Type) where
  emitter : Emitter ℓ := {}
  memory : τ
  trace : List (Occurrence ℓ) := []

/-- Adds to what happened. -/
def State.add (s : State ℓ τ) (o : Occurrence ℓ) : State ℓ τ := { s with trace := s.trace ++ [o] }

/-- The entry for a listener that failed. -/
def failureEntry (b : Behaviour ℓ τ) (l : ℓ) (event : String) : LogEntry :=
  ⟨.error, .events, "Listener " ++ b.shown l ++ " failed on " ++ Text.quoted event ++ " event"⟩

/-- Does things one after the other until one fails. -/
def runAll {α σ : Type} (act : α → σ → Option Failure × σ) : List α → σ → Option Failure × σ
  | [], s => (none, s)
  | a :: as, s =>
    match act a s with
    | (none, s) => runAll act as s
    | (some f, s) => (some f, s)

/-- The failure of emissions that nest too deep. -/
def tooDeep : Failure := .raise "RecursionError" "maximum recursion depth exceeded"

/-- Emits an event. The first argument is the number of emissions that may nest. A failure is
    given only if it interrupts the program. -/
def emit [BEq ℓ] (b : Behaviour ℓ τ) :
    Nat → String → List Value → State ℓ τ → Option Failure × State ℓ τ
  | 0, _, _, s => (some tooDeep, s)
  | depth + 1, event, args, s =>
    let perform := fun (d : Deed ℓ) (s : State ℓ τ) =>
      match d with
      | .subscribe event l => (none, { s with emitter := s.emitter.subscribe event l })
      | .unsubscribe event l => (none, { s with emitter := s.emitter.unsubscribe event l })
      | .emit event args => emit b depth event args s
    let deliver := fun (l : ℓ) (s : State ℓ τ) =>
      let s := s.add (.call l args)
      let (reaction, memory) := b.react l args s.memory
      let (interrupted, s) := runAll perform reaction.deeds { s with memory := memory }
      match interrupted.or reaction.failure with
      | none => (none, s)
      | some f =>
        if f.isInterruption then (some f, s)
        else (none, s.add (.log (failureEntry b l event)))
    runAll deliver (s.emitter.listeners event) s

end Emitter

end SessionScript
